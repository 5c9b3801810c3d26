import Paros.Registry.Model

/-! What a tenant's birth asks of its cell: the machines that a cell offers, the slots that a
footprint books on them, and the grant that records them.
-/

namespace Paros

/-- Whether a booking counts for a machine's load: a journal's proxy leader or batcher does not. -/
def Booking.weighs (booking : Booking) : Bool :=
  match booking.target, booking.role with
  | .journal _, .proxyLeader | .journal _, .batcher => false
  | _, _ => true

/-- The failures a control plane is to take, from the storage machines there are. -/
def ControlPlaneMode.desired (mode : ControlPlaneMode) (storage : Nat) : Nat :=
  match mode with
  | .auto target => min target ((storage - 1) / 2)
  | .manual failures => failures

/-- The mode of a cell that was given none. -/
def ControlPlaneMode.default : ControlPlaneMode := .auto 1

namespace Registry

/-- The machines that are not retired. -/
def pool (registry : Registry) : List NodeId :=
  (registry.nodes.toList.filter fun (_, node) => node.standing ≠ .retired).map Prod.fst

def weight (registry : Registry) (id : NodeId) : Nat :=
  (registry.bookings.values.filter fun booking => booking.node = id && booking.weighs).length

end Registry

namespace Footprint

/-- A machine that may be booked, as far as a footprint tells machines apart. -/
structure Machine where
  node : NodeId
  nodeClass : Class
  booked : Nat
  up : Bool
  deriving DecidableEq, Repr

/-- Why a footprint does not fit: machines of a class are missing. -/
structure Shortfall where
  missing : Class
  short : Nat
  deriving DecidableEq, Repr

/-- The storage machines that a tenant's birth needs. -/
def birth : Nat := 1

variable (registry : Registry)

/-- The machines that a registry can book: registered, not draining, and serving the cell. -/
def machines (nodes : List NodeId) : List Machine :=
  nodes.eraseDups.filterMap fun id =>
    (registry.nodes[id]?).bind fun held =>
      if held.standing = .registered ∧ 0 < held.registrations ∧ registry.serves id then
        let liveness := registry.livenessOf id
        some ⟨id, held.nodeClass, registry.weight id, liveness.up && !liveness.slow⟩
      else none

def offered : List Machine := machines registry registry.pool

/-- Whether a footprint may be refused: a storage machine registered, or every machine of the pool
registered or was marked down.
-/
def ready : Bool :=
  (registry.nodes.values.any fun node =>
      node.standing = .registered && node.nodeClass.stores && 0 < node.registrations)
    || registry.pool.all fun id =>
      registry.nodes[id]?.any (0 < ·.registrations) || !(registry.livenessOf id).up

/-- Whether a machine is taken before another: up first, then with less booked, then of a lower
id.
-/
def Machine.precedes (machine other : Machine) : Bool :=
  (machine.up && !other.up)
    || (machine.up == other.up
      && (machine.booked < other.booked
        || (machine.booked == other.booked && machine.node ≤ other.node)))

/-- The machine of a class that takes the coordinator. -/
def pick (machines : List Machine) (asked : Class) (skip : Option NodeId) : Option NodeId :=
  let candidates := machines.filter fun machine =>
    machine.nodeClass.takes asked && some machine.node ≠ skip
  (candidates.insertionSort (·.precedes ·)).head?.map Machine.node

/-- A number out of a tenant, a position and a count, as 64 bits. -/
def mixed (tenant salt count : UInt64) : UInt64 :=
  let x := tenant ^^^ (salt <<< 23 ||| salt >>> 41) ^^^ (count * 0x9E3779B97F4A7C15)
  let x := (x ^^^ (x >>> 30)) * 0xBF58476D1CE4E5B9
  let x := (x ^^^ (x >>> 27)) * 0x94D049BB133111EB
  x ^^^ (x >>> 31)

/-- A booking id that is not zero, booked, spent or held. Different counts give different numbers,
so one of the first few is free.
-/
def bookingId (tenant : TenantId) (salt : Nat) (held : List Slot) : Nat :=
  let counts := List.range (registry.bookings.size + registry.spent.card + held.length + 2)
  let ids := counts.map fun count => (mixed tenant.toUInt64 salt.toUInt64 count.toUInt64).toNat
  (ids.find? fun id =>
    id ≠ 0 ∧ registry.bookings[id]? = none ∧ id ∉ registry.spent
      ∧ held.all (·.booking ≠ id)).getD 0

/-- The slots that a footprint books: a coordinator's, when a stateless machine serves the cell. -/
def plan (tenant : TenantId) (storageMachines : Nat)
    : Except Shortfall (List Slot) :=
  let machines := offered registry
  let storage := (machines.filter (·.nodeClass.stores)).length
  if storage < storageMachines then .error ⟨.storage, storageMachines - storage⟩
  else
    match pick machines .stateless none with
    | none => .ok []
    | some node =>
      .ok [⟨bookingId registry tenant registry.nextSeq [], node, .coordinator, .tenant tenant⟩]

/-- The machines that a hosted tenant is born on: an odd number of those offered, as many as the
control plane wants.
-/
def birthMembers : List NodeId :=
  let machines := ((offered registry).filter (·.nodeClass.stores)).insertionSort (·.precedes ·)
  let failures := (registry.controlPlane.getD .default).desired registry.storageMachines
  let wanted := min (ControlPlaneMode.acceptors failures) machines.length
  let count := if wanted % 2 = 0 then wanted - 1 else wanted
  ((machines.take count).map Machine.node).insertionSort (· ≤ ·)

/-- The id of a tenant's one matchmaker set. -/
def matchmakerSet : Nat := 1

/-- The slots that a birth books: on each machine an acceptor's of the control journal and a
matchmaker's of the tenant's set, under ids that no slot holds.
-/
def birthSlots (tenant : TenantId) (control : JournalId) (members : List NodeId) (held : List Slot)
    : List Slot :=
  let wanted := members.flatMap fun node =>
    [(node, Role.acceptor, BookingTarget.journal ⟨tenant, control⟩),
      (node, Role.matchmaker, BookingTarget.set tenant matchmakerSet)]
  let slots := wanted.foldl
    (fun slots (node, role, target) =>
      slots ++ [⟨bookingId registry tenant registry.nextSeq slots, node, role, target⟩])
    held
  slots.drop held.length

end Footprint

/-- The grant that records a tenant's footprint, or its refusal; nothing while an initial member
may still register. A tenant that is born in this cell books its first machines too.
-/
def footprintGrant (registry : Registry) (tenant : TenantId) (control : Option JournalId)
    : Option SystemCommand :=
  match Footprint.plan registry tenant Footprint.birth with
  | .ok slots =>
    let born := match control with
      | none => []
      | some control =>
        Footprint.birthSlots registry tenant control (Footprint.birthMembers registry) slots
    some (.grantCapacity (.footprint tenant) tenant (some (slots ++ born)))
  | .error _ =>
    if Footprint.ready registry then some (.grantCapacity (.footprint tenant) tenant none) else none

end Paros
