import Paros.Registry.Command

/-! The cell registry: the machines of a cell, their bookings, its tenants and their moves, folded
from the cell control journal. Every command answers with the registry it leaves and an event.
-/

namespace Paros

structure Registry where
  nodes : OrderedMap NodeId RegisteredNode
  bookings : OrderedMap Nat Booking
  fleet : Option FleetRegistration
  pointer : Option UniversePointer
  hosted : OrderedMap TenantId HostedTenant
  dropped : Finset TenantId
  spent : Finset Nat
  liveness : OrderedMap NodeId Liveness
  maintenance : OrderedMap MaintenanceScope MaintenanceWindow
  grants : OrderedMap GrantKey Grant
  tagged : Finset Nat
  controlPlane : Option ControlPlaneMode
  controlPlaneRequests : Finset Nat
  balance : BalanceState
  moves : OrderedMap TenantId TenantMove
  moved : OrderedMap TenantId Nat
  nextSeq : Nat

namespace Registry

def new (initial : List NodeId) : Registry where
  nodes := initial.foldl (fun nodes id => nodes.insert id .initial) ∅
  bookings := ∅
  fleet := none
  pointer := none
  hosted := ∅
  dropped := ∅
  spent := ∅
  liveness := ∅
  maintenance := ∅
  grants := ∅
  tagged := ∅
  controlPlane := none
  controlPlaneRequests := ∅
  balance := .default
  moves := ∅
  moved := ∅
  nextSeq := 0

-- Reads

variable (registry : Registry)

/-- Whether a machine is in the pool: known and not retired. -/
def contains (id : NodeId) : Bool :=
  registry.nodes[id]?.any (·.standing ≠ .retired)

def serves (id : NodeId) : Bool :=
  registry.nodes[id]?.any fun node => node.admitted ∧ node.standing ≠ .retired

/-- A machine's liveness: up, under the incarnation it registered, until a judgement is held. -/
def livenessOf (id : NodeId) : Liveness :=
  registry.liveness[id]?.getD
    ⟨(registry.nodes[id]?.map RegisteredNode.incarnation).getD 0, true, false, false⟩

def storageMachines : Nat :=
  (registry.nodes.values.filter fun node =>
    node.nodeClass.stores ∧ node.standing = .registered).length

/-- Whether some live booking is as asked. -/
def anyBooking (asked : Booking → Bool) : Bool :=
  registry.bookings.toList.any fun (_, booking) => asked booking

def footprint (registry : Registry) (tenant : TenantId) : Option Grant :=
  registry.grants[GrantKey.footprint tenant]?

-- Machines

def register (id : NodeId) (addr : Text) (nodeClass : Class)
    (incarnation : Nat) (machineInterface : Bytes) (locality : Locality) (name : Text)
    : Registry × RegistryEvent :=
  let live : Liveness := ⟨incarnation, true, false, false⟩
  match registry.nodes[id]? with
  | some node =>
    if node.standing = .retired then (registry, .refused (.alreadyKnown id))
    else if node.nodeClass ≠ nodeClass ∧ nodeClass ≠ .all then
      (registry, .refused (.classChanged id))
    else
      ({ registry with
          nodes := registry.nodes.insert id
            { node with
              nodeClass, addr, locality, name
              registrations := node.registrations + 1
              incarnation, machineInterface }
          liveness := registry.liveness.insert id live },
        if node.registrations = 0 then .registered id addr nodeClass else .reregistered id addr)
  | none =>
    ({ registry with
        nodes := registry.nodes.insert id
          ⟨addr, locality, name, nodeClass, .registered, 1, incarnation, machineInterface, false,
            .none⟩
        liveness := registry.liveness.insert id live },
      .registered id addr nodeClass)

def setTags (request : Nat) (id : NodeId) (tags : UserTags)
    : Registry × RegistryEvent :=
  if request = 0 then (registry, .refused .malformed)
  else if request ∈ registry.tagged then (registry, .tagRepeated request)
  else
    match registry.nodes[id]?.filter (·.standing ≠ .retired) with
    | some node =>
      ({ registry with
          nodes := registry.nodes.insert id { node with tags := tags }
          tagged := insert request registry.tagged },
        .tagged id)
    | none => (registry, .refused (.notRegistered id))

def drain (id : NodeId) : Registry × RegistryEvent :=
  match registry.nodes[id]?.filter
      fun node => node.standing = .registered ∧ 0 < node.registrations with
  | some node =>
    ({ registry with nodes := registry.nodes.insert id { node with standing := .draining } },
      .draining id)
  | none => (registry, .refused (.notRegistered id))

def retire (id : NodeId) : Registry × RegistryEvent :=
  match registry.nodes[id]?.filter (·.standing = .draining) with
  | some node =>
    ({ registry with
        nodes := registry.nodes.insert id { node with standing := .retired }
        bookings := registry.bookings.filter fun _ booking => booking.node ≠ id
        liveness := registry.liveness.erase id
        maintenance := registry.maintenance.erase (.machine id) },
      .retired id)
  | none => (registry, .refused (.notDraining id))

def admitted (registry : Registry) (id : NodeId) : Registry × RegistryEvent :=
  match registry.nodes[id]?.filter (·.standing ≠ .retired) with
  | none => (registry, .refused (.notRegistered id))
  | some node =>
    if node.admitted then (registry, .unchanged)
    else
      ({ registry with nodes := registry.nodes.insert id { node with admitted := true } },
        .machineAdmitted id)

-- Liveness and maintenance

def down (id : NodeId) (incarnation : Nat) : Registry × RegistryEvent :=
  let held := registry.livenessOf id
  if !registry.contains id then (registry, .refused (.notInPool id))
  else if !held.up then (registry, .refused (.livenessUnchanged id))
  else if held.incarnation ≠ incarnation then (registry, .refused (.staleIncarnation id))
  else
    ({ registry with
        liveness := registry.liveness.insert id ⟨incarnation, false, held.slow, held.lowSpace⟩ },
      .machineDown id)

def up (registry : Registry) (id : NodeId) (incarnation : Nat) : Registry × RegistryEvent :=
  let held := registry.livenessOf id
  let same := held.incarnation = incarnation
  if !registry.contains id then (registry, .refused (.notInPool id))
  else if held.up ∧ same then (registry, .refused (.livenessUnchanged id))
  else
    ({ registry with
        nodes := registry.nodes.modify id fun node => { node with incarnation := incarnation }
        liveness := registry.liveness.insert id
          ⟨incarnation, true, held.slow ∧ same, held.lowSpace ∧ same⟩ },
      .machineUp id incarnation !held.up)

/-- A judgement of one incarnation: refused for another one, and when it says nothing new. -/
def judge (id : NodeId) (incarnation : Nat) (holds : Liveness → Bool)
    (judged : Liveness) (event : RegistryEvent)
    : Registry × RegistryEvent :=
  let held := registry.livenessOf id
  if !registry.contains id then (registry, .refused (.notInPool id))
  else if held.incarnation ≠ incarnation then (registry, .refused (.staleIncarnation id))
  else if holds held then (registry, .refused (.livenessUnchanged id))
  else ({ registry with liveness := registry.liveness.insert id judged }, event)

def space (id : NodeId) (incarnation : Nat) (low : Bool)
    : Registry × RegistryEvent :=
  registry.judge id incarnation (·.lowSpace == low)
    { registry.livenessOf id with lowSpace := low } (.machineSpace id low)

def slow (registry : Registry) (id : NodeId) (incarnation : Nat) (judgement : Bool)
    : Registry × RegistryEvent :=
  registry.judge id incarnation (·.slow == judgement)
    { registry.livenessOf id with slow := judgement } (.machineSlow id judgement)

/-- The machine a window covers alone, when it is not in the pool. -/
def strangeMachine : MaintenanceScope → Option NodeId
  | .machine id => if registry.contains id then none else some id
  | .zone _ => none

def openMaintenance (seq : Nat) (scope : MaintenanceScope) (forMs : Nat)
    : Registry × RegistryEvent :=
  match registry.strangeMachine scope with
  | some id => (registry, .refused (.notInPool id))
  | none =>
    if forMs = 0 then
      match registry.maintenance[scope]? with
      | some _ =>
        ({ registry with maintenance := registry.maintenance.erase scope },
          .maintenance scope forMs)
      | none => (registry, .unchanged)
    else
      ({ registry with maintenance := registry.maintenance.insert scope ⟨forMs, seq⟩ },
        .maintenance scope forMs)

-- The control plane and the balancer

/-- The failures a manual mode asks for, when the storage machines cannot place them. -/
def tooWide : ControlPlaneMode → Option Nat
  | .auto _ => none
  | .manual failures =>
    if registry.storageMachines < ControlPlaneMode.acceptors failures then some failures else none

def setControlPlane (request : Nat) (mode : ControlPlaneMode)
    : Registry × RegistryEvent :=
  if request = 0 then (registry, .refused .malformed)
  else if request ∈ registry.controlPlaneRequests then (registry, .controlPlaneRepeated request)
  else
    match registry.tooWide mode with
    | some failures =>
      (registry, .refused (.controlPlaneTooWide failures registry.storageMachines))
    | none =>
      ({ registry with
          controlPlane := some mode
          controlPlaneRequests := insert request registry.controlPlaneRequests },
        .controlPlaneSet mode)

def setBalance (request : Nat) (paused : Bool) : Registry × RegistryEvent :=
  if request = 0 then (registry, .refused .malformed)
  else
    match registry.balance.set request paused with
    | some balance => ({ registry with balance := balance }, .balanceSet paused)
    | none => (registry, .balanceRepeated request)

/-- Whether a move may start: its booking is live on the machine it leaves, the machine it goes to
is another one that serves, stays and does not hold the journal.
-/
def movable (moved : BalanceMove) : Bool :=
  let held := registry.bookings[moved.booking]?.any fun booking =>
    booking.node = moved.source ∧ booking.role = .acceptor ∧ booking.target = .journal moved.journal
  let taken := registry.anyBooking fun booking =>
    booking.node = moved.destination ∧ booking.target = .journal moved.journal
  let serving := registry.nodes[moved.destination]?.any (·.standing = .registered)
    && registry.serves moved.destination
  held && !taken && serving && moved.source != moved.destination

def startBalance (moved : BalanceMove) : Registry × RegistryEvent :=
  if registry.balance.paused ∨ registry.balance.moving.isSome ∨ !registry.movable moved then
    (registry, .refused (.noBalanceMove moved.booking))
  else
    ({ registry with balance := registry.balance.start moved }, .balanceStarted moved.booking)

def abandonBalance (seq booking : Nat) : Registry × RegistryEvent :=
  match registry.balance.finish booking .abandoned seq with
  | some balance => ({ registry with balance := balance }, .balanceAbandoned booking)
  | none => (registry, .refused (.noBalanceMove booking))

-- Capacity

def book (slot : Slot) : Registry × RegistryEvent :=
  if slot.booking ∈ registry.spent then (registry, .refused (.bookingTaken slot.booking))
  else
    match registry.nodes[slot.node]?.filter (·.standing = .registered) with
    | none => (registry, .refused (.notRegistered slot.node))
    | some node =>
      if !node.nodeClass.takes slot.role.roleClass then
        (registry, .refused (.wrongClass slot.node))
      else if !slot.target.isTenant ∧ registry.anyBooking fun booking =>
          booking.node = slot.node ∧ booking.role = slot.role ∧ booking.target = slot.target then
        (registry, .refused (.alreadyBooked slot.node))
      else
        ({ registry with
            spent := insert slot.booking registry.spent
            bookings := registry.bookings.insert slot.booking ⟨slot.node, slot.role, slot.target⟩ },
          .booked slot)

def releaseCapacity (seq booking : Nat) : Registry × RegistryEvent :=
  match registry.bookings[booking]? with
  | some held =>
    ({ registry with
        bookings := registry.bookings.erase booking
        balance := (registry.balance.finish booking .done seq).getD registry.balance },
      .released booking held.node)
  | none => (registry, .refused (.unknownBooking booking))

/-- Take back a slot booked by a grant that is then refused. -/
def undo (booking : Nat) : Registry :=
  { registry with
    bookings := registry.bookings.erase booking
    spent := registry.spent.erase booking }

/-- Book every slot, or none of them and the event of the first one refused. -/
def bookSlots (registry : Registry) (booked : List Nat)
    : List Slot → Except (Registry × RegistryEvent) (Registry × List Nat)
  | [] => .ok (registry, booked)
  | slot :: rest =>
    match registry.book slot with
    | (after, .booked _) => bookSlots after (booked ++ [slot.booking]) rest
    | (after, refused) => .error (booked.foldl undo after, refused)

def grantKeyed : GrantKey → TenantId → Bool
  | .footprint owner, tenant => owner = tenant
  | .request request, _ => request ≠ 0

def isFootprint : GrantKey → Bool
  | .footprint _ => true
  | .request _ => false

def grant (key : GrantKey) (tenant : TenantId) (slots : Option (List Slot))
    : Registry × RegistryEvent :=
  if !tenant.isSet ∨ !grantKeyed key tenant then (registry, .refused .malformed)
  else if (registry.grants[key]?).isSome then (registry, .unchanged)
  else
    match slots with
    | none =>
      ({ registry with grants := registry.grants.insert key ⟨tenant, none⟩ }, .grantRefused key)
    | some slots =>
      -- A footprint may book nothing; a request books a slot at least.
      if (slots.isEmpty ∧ !isFootprint key) ∨ slots.any (·.target.tenantOf ≠ tenant) then
        (registry, .refused .malformed)
      else
        match registry.bookSlots [] slots with
        | .error refused => refused
        | .ok (after, booked) =>
          ({ after with grants := after.grants.insert key ⟨tenant, some booked⟩ },
            .granted key slots)

-- The fleet and its tenants

def joinFleet (joined : FleetRegistration) (pointer : Option UniversePointer)
    : Registry × RegistryEvent :=
  if joined.fleetId = 0 ∨ joined.cellId = 0 then (registry, .refused .malformed)
  else if joined.version = 0 ∨ metadataVersion < joined.version then
    (registry, .refused .unsupported)
  else
    match registry.fleet with
    | none =>
      ({ registry with fleet := some joined, pointer := pointer },
        .joinedFleet joined.fleetId joined.cellId)
    | some fleet =>
      if fleet.fleetId = joined.fleetId ∧ fleet.cellId = joined.cellId then
        if pointer.isSome ∧ registry.pointer.isSome ∧ registry.pointer ≠ pointer then
          ({ registry with pointer := pointer }, .repointed joined.fleetId)
        else (registry, .unchanged)
      else (registry, .refused (.otherFleet joined.fleetId))

/-- Why a command of the fleet about a tenant is refused before it is looked at. -/
def moveFleet (fleetId : Nat) (tenant : TenantId)
    : Option RegistryRefusal :=
  if !registry.fleet.any (·.fleetId = fleetId) then some (.otherFleet fleetId)
  else if !tenant.isSet then some .malformed
  else none

/-- The cell's own id, once it joined a fleet. -/
def cellId (registry : Registry) : Option Nat := registry.fleet.map FleetRegistration.cellId

def hostTenant (fleetId : Nat) (tenant : TenantId) (hosted : HostedTenant)
    : Registry × RegistryEvent :=
  match registry.moveFleet fleetId tenant with
  | some refusal => (registry, .refused refusal)
  | none =>
    if !hosted.control.isSet ∨ hosted.members.isEmpty ∨ ¬ hosted.members.IsChain (· < ·) then
      (registry, .refused .malformed)
    else if tenant ∈ registry.dropped then (registry, .refused (.tenantDropped tenant))
    else if (registry.hosted[tenant]?).isSome then (registry, .unchanged)
    else if !(registry.footprint tenant).any Grant.granted then
      (registry, .refused (.noFootprint tenant))
    else if !hosted.members.all fun member => registry.anyBooking fun booking =>
        booking.node = member ∧ booking.role = .acceptor
          ∧ booking.target = .journal ⟨tenant, hosted.control⟩ then
      (registry, .refused (.noFootprint tenant))
    else
      ({ registry with hosted := registry.hosted.insert tenant hosted },
        .tenantHosted tenant hosted.control)

def dropTenant (fleetId : Nat) (tenant : TenantId)
    : Registry × RegistryEvent :=
  match registry.moveFleet fleetId tenant with
  | some refusal => (registry, .refused refusal)
  | none =>
    ({ registry with
        hosted := registry.hosted.erase tenant
        moves := registry.moves.erase tenant
        moved := registry.moved.erase tenant
        dropped := insert tenant registry.dropped },
      if tenant ∈ registry.dropped then .unchanged else .tenantDropped tenant)

-- Tenant moves

/-- A tenant's move record, empty when there is none. -/
def moveOf (tenant : TenantId) : TenantMove :=
  registry.moves[tenant]?.getD .default

/-- Keep a move record unless it is empty. -/
def putMove (tenant : TenantId) (record : TenantMove) : Registry :=
  { registry with
    moves :=
      if record.isEmpty then registry.moves.erase tenant else registry.moves.insert tenant record }

def releaseTenant (fleetId : Nat) (tenant : TenantId) (destination : Nat) (born : List NodeId)
    : Registry × RegistryEvent :=
  match registry.moveFleet fleetId tenant with
  | some refusal => (registry, .refused refusal)
  | none =>
    let record := registry.moveOf tenant
    if destination = 0 ∨ born.isEmpty ∨ registry.cellId = some destination then
      (registry, .refused .malformed)
    else if (registry.hosted[tenant]?).isNone then (registry, .refused (.unknownTenant tenant))
    else if record.leaving = some destination then (registry, .unchanged)
    else if record.leaving.isSome ∨ record.arriving.isSome then
      (registry, .refused (.moveOpen tenant))
    else
      ({ registry with
          moves := registry.moves.insert tenant
            { record with
              leaving := some destination
              born := if record.born.isEmpty then born else record.born } },
        .tenantReleased tenant destination)

def adoptTenant (fleetId : Nat) (tenant : TenantId) (hosted : HostedTenant)
    (source : Nat) (born : List NodeId)
    : Registry × RegistryEvent :=
  match registry.moveFleet fleetId tenant with
  | some refusal => (registry, .refused refusal)
  | none =>
    if !hosted.control.isSet ∨ source = 0 ∨ born.isEmpty ∨ registry.cellId = some source then
      (registry, .refused .malformed)
    else if tenant ∈ registry.dropped then (registry, .refused (.tenantDropped tenant))
    else if (registry.hosted[tenant]?).isSome then (registry, .unchanged)
    else if !(registry.footprint tenant).any Grant.granted then
      (registry, .refused (.noFootprint tenant))
    else
      ({ registry with
          hosted := registry.hosted.insert tenant hosted
          moved := registry.moved.erase tenant
          moves := registry.moves.insert tenant
            { registry.moveOf tenant with leaving := none, arriving := some source, born := born } },
        .tenantAdopted tenant hosted.control source)

def settleTenant (fleetId : Nat) (tenant : TenantId)
    : Registry × RegistryEvent :=
  match registry.moveFleet fleetId tenant with
  | some refusal => (registry, .refused refusal)
  | none =>
    if (registry.hosted[tenant]?).isNone then (registry, .refused (.unknownTenant tenant))
    else
      match registry.moves[tenant]?.filter (·.arriving.isSome) with
      | none => (registry, .unchanged)
      | some record =>
        (registry.putMove tenant { record with arriving := none },
          .tenantSettled tenant ((record.peers.map MovePeers.cellId).getD 0))

def setMovePeers (tenant : TenantId) (cell : Nat) (peers : List MovePeer)
    : Registry × RegistryEvent :=
  if !tenant.isSet ∨ cell = 0 ∨ registry.cellId.all (· = cell) then (registry, .refused .malformed)
  else if (registry.hosted[tenant]?).isNone then (registry, .refused (.unknownTenant tenant))
  else
    let wanted : Option MovePeers := if peers.isEmpty then none else some ⟨cell, peers⟩
    (registry.putMove tenant { registry.moveOf tenant with peers := wanted },
      if (registry.moveOf tenant).peers = wanted then .unchanged else .movePeersSet tenant cell)

def movedTenant (fleetId : Nat) (tenant : TenantId) (destination : Nat)
    : Registry × RegistryEvent :=
  match registry.moveFleet fleetId tenant with
  | some refusal => (registry, .refused refusal)
  | none =>
    if registry.moved[tenant]? = some destination ∧ (registry.hosted[tenant]?).isNone then
      (registry, .unchanged)
    else if (registry.moveOf tenant).leaving ≠ some destination then
      (registry, .refused (.notLeaving tenant))
    else
      ({ registry with
          hosted := registry.hosted.erase tenant
          moves := registry.moves.erase tenant
          moved := registry.moved.insert tenant destination },
        .tenantMovedOut tenant destination)

-- The fold

/-- Apply the command recorded at a position. -/
def act (seq : Nat) : SystemCommand → Registry × RegistryEvent
  | .registerNode id addr nodeClass locality name incarnation machineInterface =>
    registry.register id addr nodeClass incarnation machineInterface locality name
  | .setMachineTags request id tags => registry.setTags request id tags
  | .setControlPlane request mode => registry.setControlPlane request mode
  | .setBalance request paused => registry.setBalance request paused
  | .balanceStarted booking journal source destination reason =>
    registry.startBalance ⟨booking, journal, source, destination, reason, seq⟩
  | .balanceAbandoned booking => registry.abandonBalance seq booking
  | .drainNode id => registry.drain id
  | .retireNode id => registry.retire id
  | .bookCapacity slot => registry.book slot
  | .machineDown id incarnation => registry.down id incarnation
  | .machineUp id incarnation => registry.up id incarnation
  | .machineSlow id incarnation judgement _ => registry.slow id incarnation judgement
  | .machineSpace id incarnation low _ => registry.space id incarnation low
  | .machineAdmitted id => registry.admitted id
  | .maintenance scope forMs => registry.openMaintenance seq scope forMs
  | .releaseCapacity booking => registry.releaseCapacity seq booking
  | .joinFleet joined pointer => registry.joinFleet joined pointer
  | .hostTenant fleetId tenant hosted => registry.hostTenant fleetId tenant hosted
  | .dropTenant fleetId tenant => registry.dropTenant fleetId tenant
  | .grantCapacity key tenant slots => registry.grant key tenant slots
  | .releaseTenant fleetId tenant destination born =>
    registry.releaseTenant fleetId tenant destination born
  | .adoptTenant fleetId tenant hosted source born =>
    registry.adoptTenant fleetId tenant hosted source born
  | .settleTenant fleetId tenant => registry.settleTenant fleetId tenant
  | .movePeers tenant cell peers => registry.setMovePeers tenant cell peers
  | .movedTenant fleetId tenant destination => registry.movedTenant fleetId tenant destination

/-- Fold the record of a position: one that is no command is refused. -/
def fold (codec : SystemCodec) (registry : Registry) (seq : Nat) (record : Bytes)
    : Registry × RegistryEvent :=
  let registry := { registry with nextSeq := seq + 1 }
  match SystemCommand.decode codec record with
  | .ok command => registry.act seq command
  | .error _ => (registry, .refused .malformed)

end Registry

end Paros
