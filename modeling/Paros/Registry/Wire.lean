import Paros.Registry.Records

/-! The messages of the cell control journal: its entries and its checkpoint, and the forms their
values take there.
-/

namespace Paros

-- Messages

namespace Wire

structure BookCapacity where
  booking : Nat
  node : Nat
  tenant : Nat
  journal : Nat
  role : Text
  set : Nat
  tenantLevel : Bool
  deriving Countable

structure UniverseHost where
  nodeId : Nat
  addr : Text
  deriving Countable

structure MovePeer where
  id : Nat
  addr : Text
  machineInterface : Bytes
  deriving Countable

/-- What an entry holds, one form for each kind of command. -/
inductive Kind where
  | registerNode (id : Nat) (addr name : Text) (tags : List WireTag)
    (incarnationHigh incarnationLow : Nat) (machineInterface : Bytes)
  | drainNode (id : Nat)
  | retireNode (id : Nat)
  | bookCapacity (book : BookCapacity)
  | machineDown (id incarnationHigh incarnationLow : Nat)
  | machineUp (id incarnationHigh incarnationLow : Nat)
  | machineSlow (id incarnationHigh incarnationLow : Nat) (slow : Bool)
    (rttUs diskBusyPermille cpuBusyPermille : Nat)
  | machineSpace (id incarnationHigh incarnationLow : Nat) (low : Bool) (freeBytes : Nat)
  | machineAdmitted (id : Nat)
  | maintenance (node : Nat) (zone : Text) (forMs : Nat)
  | setMachineTags (request id : Nat) (tags : List WireTag)
  | releaseCapacity (booking : Nat)
  | setControlPlane (request : Nat) (auto : Bool) (failures : Nat)
  | setBalance (request : Nat) (paused : Bool)
  | balanceStarted (booking tenant journal source destination : Nat) (reason : Text)
  | balanceAbandoned (booking : Nat)
  | joinFleet (fleetId cellId version directoryTenant directoryJournal : Nat)
    (hosts : List UniverseHost)
  | hostTenant (fleetId tenant controlJournal : Nat) (name : Bytes) (survives : Nat)
    (members : List Nat)
  | dropTenant (fleetId tenant : Nat)
  | releaseTenant (fleetId tenant destination : Nat) (born : List Nat)
  | adoptTenant (fleetId tenant controlJournal : Nat) (name : Bytes) (survives source : Nat)
    (born : List Nat)
  | settleTenant (fleetId tenant : Nat)
  | movePeers (tenant cellId : Nat) (peers : List MovePeer)
  | movedTenant (fleetId tenant destination : Nat)
  | grantCapacity (request tenant : Nat) (footprint refused : Bool) (bookings : List BookCapacity)
  deriving Countable

structure RegisteredNodeState where
  id : Nat
  addr : Text
  tags : List WireTag
  name : Text
  standing : Nat
  registrations : Nat
  incarnationHigh : Nat
  incarnationLow : Nat
  machineInterface : Bytes
  admitted : Bool
  deriving Countable

structure LivenessState where
  id : Nat
  incarnationHigh : Nat
  incarnationLow : Nat
  up : Bool
  slow : Bool
  lowSpace : Bool
  deriving Countable

structure HostedTenantState where
  tenant : Nat
  controlJournal : Nat
  name : Bytes
  survives : Nat
  members : List Nat
  deriving Countable

structure TenantMoveState where
  tenant : Nat
  leaving : Nat
  arriving : Nat
  born : List Nat
  peersCell : Nat
  peers : List MovePeer
  deriving Countable

structure MovedTenant where
  fleetId : Nat
  tenant : Nat
  destination : Nat
  deriving Countable

structure MaintenanceState where
  node : Nat
  zone : Text
  forMs : Nat
  seq : Nat
  deriving Countable

structure GrantState where
  request : Nat
  tenant : Nat
  footprint : Bool
  refused : Bool
  bookings : List Nat
  deriving Countable

structure ControlPlaneState where
  auto : Bool
  failures : Nat
  deriving Countable

structure BalanceMoveState where
  booking : Nat
  tenant : Nat
  journal : Nat
  source : Nat
  destination : Nat
  reason : Text
  started : Nat
  ended : Nat
  abandoned : Bool
  deriving Countable

structure BalanceState where
  paused : Bool
  requests : List Nat
  moving : Option BalanceMoveState
  ended : List BalanceMoveState
  deriving Countable

/-- A registry's checkpoint. A live booking has the form of the command that booked it. -/
structure RegistryState where
  nodes : List RegisteredNodeState
  bookings : List BookCapacity
  spent : List Nat
  liveness : List LivenessState
  fleetId : Nat
  cellId : Nat
  version : Nat
  directoryTenant : Nat
  directoryJournal : Nat
  hosts : List UniverseHost
  hosted : List HostedTenantState
  dropped : List Nat
  moves : List TenantMoveState
  moved : List MovedTenant
  maintenance : List MaintenanceState
  grants : List GrantState
  tagged : List Nat
  controlPlane : Option ControlPlaneState
  controlPlaneRequests : List Nat
  balance : Option BalanceState
  deriving Countable

end Wire

/-- The message library's codecs and the parser of addresses. An entry may not decode, and a
decoded one may name no kind; a parsed address is in its canonical form, which parses to itself.
-/
structure SystemCodec where
  encodeEntry : Wire.Kind → Bytes
  decodeEntry : Bytes → Option (Option Wire.Kind)
  encodeState : Wire.RegistryState → Bytes
  decodeState : Bytes → Option Wire.RegistryState
  parseAddress : Text → Option Text
  decodeEntry_encodeEntry : ∀ kind, decodeEntry (encodeEntry kind) = some (some kind)
  decodeState_encodeState : ∀ state, decodeState (encodeState state) = some state
  parseAddress_canonical : ∀ text address,
    parseAddress text = some address → parseAddress address = some address

/-- A codec that writes a message's number in unary, with addresses as they are. -/
noncomputable def SystemCodec.counted : SystemCodec where
  encodeEntry := unary
  decodeEntry bytes := (ofUnary bytes).map some
  encodeState := unary
  decodeState := ofUnary
  parseAddress := some
  decodeEntry_encodeEntry kind := by rw [ofUnary_unary, Option.map_some]
  decodeState_encodeState := ofUnary_unary
  parseAddress_canonical _ _ same := by simp

-- Values

/-- A 128-bit incarnation's two wire halves, high then low. -/
def incarnationHalves (incarnation : Nat) : Nat × Nat :=
  (incarnation / 2 ^ 64, incarnation % 2 ^ 64)

def incarnationFromHalves (high low : Nat) : Nat := high * 2 ^ 64 + low

namespace BookingTarget

/-- The tenant, the journal, the set, and whether the tenant itself is meant. -/
def toWire : BookingTarget → Nat × Nat × Nat × Bool
  | journal identifier => (identifier.tenant, identifier.journal, 0, false)
  | set owner number => (owner, 0, number, false)
  | tenant owner => (owner, 0, 0, true)

def fromWire (owner journalId number : Nat) (tenantLevel : Bool) : Except String BookingTarget :=
  if tenantLevel then
    if journalId ≠ 0 ∨ number ≠ 0 then .error "a tenant's booking names no journal and no set"
    else .ok (tenant owner)
  else
    match journalId, number with
    | _, 0 => .ok (journal ⟨owner, journalId⟩)
    | 0, number => .ok (set owner number)
    | _, _ => .error "a booking names a journal or a matchmaker set, not both"

end BookingTarget

namespace Slot

def toWire (slot : Slot) : Wire.BookCapacity :=
  let (tenant, journal, set, tenantLevel) := slot.target.toWire
  ⟨slot.booking, slot.node, tenant, journal, slot.role.text, set, tenantLevel⟩

def fromWire (book : Wire.BookCapacity) : Except String Slot := do
  let role ← Role.parse book.role
  let target ← BookingTarget.fromWire book.tenant book.journal book.set book.tenantLevel
  return ⟨book.booking, book.node, role, target⟩

end Slot

namespace NodeStanding

def toWire : NodeStanding → Nat
  | registered => 0
  | draining => 1
  | retired => 2

def fromWire : Nat → Except String NodeStanding
  | 0 => .ok registered
  | 1 => .ok draining
  | 2 => .ok retired
  | _ => .error "a node standing is registered, draining or retired"

end NodeStanding

namespace MaintenanceScope

def toWire : MaintenanceScope → Nat × Text
  | machine id => (id, [])
  | zone name => (0, name)

def fromWire : Nat → Text → Except String MaintenanceScope
  | 0, char :: name => .ok (zone (char :: name))
  | id + 1, [] => .ok (machine (id + 1))
  | _, _ => .error "a maintenance window covers one machine or one zone"

end MaintenanceScope

namespace Survives

def toWire : Survives → Nat
  | az => 1
  | region => 2

def fromWire : Nat → Except String Survives
  | 1 => .ok az
  | 2 => .ok region
  | _ => .error "survives is az or region"

end Survives

namespace BalanceReason

def text : BalanceReason → Text
  | roles => "roles".toList
  | busy => "busy".toList

def parse (text : Text) : Except String BalanceReason :=
  if text = "roles".toList then .ok roles
  else if text = "busy".toList then .ok busy
  else .error "a balance move names an unknown reason"

end BalanceReason

/-- A control plane's mode, unless it survives too much. -/
def controlPlaneFromWire (auto : Bool) (failures : Nat) : Except String ControlPlaneMode :=
  if ControlPlaneMode.maxFailures < failures then
    .error "a control plane survives at most machines=3"
  else .ok (if auto then .auto failures else .manual failures)

namespace UniversePointer

/-- The directory's tenant and journal and the hosts: unset, unset and none without a pointer. -/
def toWire : Option UniversePointer → Nat × Nat × List Wire.UniverseHost
  | none => (0, 0, [])
  | some pointer =>
    (pointer.directory.tenant, pointer.directory.journal,
      pointer.hosts.map fun (nodeId, addr) => ⟨nodeId, addr⟩)

def hostFromWire (codec : SystemCodec) (host : Wire.UniverseHost) : Except String (Nat × Text) :=
  match codec.parseAddress host.addr with
  | none => .error "a universe host's address does not parse"
  | some addr =>
    if host.nodeId = 0 then .error "a universe host names no node" else .ok (host.nodeId, addr)

def fromWire (codec : SystemCodec) (tenant journal : Nat) (hosts : List Wire.UniverseHost)
    : Except String (Option UniversePointer) :=
  if tenant = 0 ∧ journal = 0 ∧ hosts.isEmpty then .ok none
  else
    let directory : JournalIdentifier := ⟨tenant, journal⟩
    if !directory.isSet ∨ hosts.isEmpty then
      .error "a universe pointer names no directory or no host"
    else
      (hosts.mapM (hostFromWire codec)).map fun hosts => some ⟨directory, hosts⟩

end UniversePointer

namespace MovePeer

def toWire (peer : MovePeer) : Wire.MovePeer := ⟨peer.id, peer.addr, peer.machineInterface⟩

def fromWire (peer : Wire.MovePeer) : Except String MovePeer :=
  if peer.id = 0 ∨ peer.addr = [] then .error "a move peer names no machine or no address"
  else .ok ⟨peer.id, peer.addr, peer.machineInterface⟩

/-- Drop every peer with the id of the one kept before it. -/
def dedupAfter (last : MovePeer) : List MovePeer → List MovePeer
  | [] => []
  | peer :: rest =>
    if peer.id = last.id then dedupAfter last rest else peer :: dedupAfter peer rest

def dedupById : List MovePeer → List MovePeer
  | [] => []
  | peer :: rest => peer :: dedupAfter peer rest

/-- The peers in order, each machine once. -/
def peersFromWire (peers : List Wire.MovePeer) : Except String (List MovePeer) := do
  let read ← peers.mapM fromWire
  let sorted := read.mergeSort
  if (dedupById sorted).length ≠ sorted.length then throw "a move names one peer twice"
  return dedupById sorted

end MovePeer

end Paros
