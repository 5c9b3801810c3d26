import Paros.Registry.Model

/-! A registry's checkpoint, and the registry restored from one. A restore checks the rules that
hold between a registry's fields before it takes the state.
-/

namespace Paros

open OrderedMap

-- Written records

def nodeToWire : NodeId × RegisteredNode → Wire.RegisteredNodeState
  | (id, node) =>
    ⟨id, node.addr, node.allTags.toWire, node.name, node.standing.toWire, node.registrations,
      (incarnationHalves node.incarnation).1, (incarnationHalves node.incarnation).2,
      node.machineInterface, node.admitted⟩

def nodeFromWire (state : Wire.RegisteredNodeState) : Except String (NodeId × RegisteredNode) := do
  let (held, locality, tags) ← tagged "a registry state node's tags are malformed or unknown"
    ((Tags.fromWire state.tags).bind parseMachineTags)
  let standing ← NodeStanding.fromWire state.standing
  return (state.id,
    ⟨state.addr, locality, state.name, held, standing, state.registrations,
      incarnationFromHalves state.incarnationHigh state.incarnationLow, state.machineInterface,
      state.admitted, tags⟩)

def bookingToWire : Nat × Booking → Wire.BookCapacity
  | (id, booking) => Slot.toWire ⟨id, booking.node, booking.role, booking.target⟩

def bookingFromWire (spent : Finset Nat) (state : Wire.BookCapacity)
    : Except String (Nat × Booking) := do
  if state.booking ∉ spent then throw "a registry state holds a booking whose id is not spent"
  let slot ← Slot.fromWire state
  return (slot.booking, ⟨slot.node, slot.role, slot.target⟩)

def livenessToWire : NodeId × Liveness → Wire.LivenessState
  | (id, held) =>
    ⟨id, (incarnationHalves held.incarnation).1, (incarnationHalves held.incarnation).2,
      held.up, held.slow, held.lowSpace⟩

def livenessFromWire (state : Wire.LivenessState) : NodeId × Liveness :=
  (state.id, ⟨incarnationFromHalves state.incarnationHigh state.incarnationLow, state.up,
    state.slow, state.lowSpace⟩)

def fleetFromWire (fleetId cellId version : Nat) : Except String (Option FleetRegistration) :=
  match fleetId, cellId with
  | 0, 0 => .ok none
  | 0, _ | _, 0 => .error "a registry state names half a fleet registration"
  | fleetId, cellId => .ok (some ⟨fleetId, cellId, version⟩)

def hostedToWire : TenantId × HostedTenant → Wire.HostedTenantState
  | (tenant, hosted) =>
    ⟨tenant, hosted.control, hosted.name, hosted.survives.toWire, hosted.members⟩

def hostedFromWire (state : Wire.HostedTenantState) : Except String (TenantId × HostedTenant) := do
  if state.controlJournal = 0 then
    throw "a registry state hosts a tenant with no control journal"
  let survives ← Survives.fromWire state.survives
  return (state.tenant, ⟨state.controlJournal, state.name, survives, state.members⟩)

def moveToWire : TenantId × TenantMove → Wire.TenantMoveState
  | (tenant, move) =>
    ⟨tenant, move.leaving.getD 0, move.arriving.getD 0, move.born,
      (move.peers.map MovePeers.cellId).getD 0,
      (move.peers.map fun held => held.peers.map MovePeer.toWire).getD []⟩

/-- A move's peers and their cell: both or neither. -/
def movePeersFromWire (cell : Nat) (peers : List MovePeer) : Except String (Option MovePeers) :=
  match cell, peers with
  | 0, [] => .ok none
  | 0, _ | _, [] => .error "a registry state names half a move's peers"
  | cell, peers => .ok (some ⟨cell, peers⟩)

def setId (id : Nat) : Option Nat := if id ≠ 0 then some id else none

def moveFromWire (state : Wire.TenantMoveState) : Except String (TenantId × TenantMove) := do
  if state.tenant = 0 then throw "a registry state moves an unset tenant"
  let read ← MovePeer.peersFromWire state.peers
  let peers ← movePeersFromWire state.peersCell read
  let record : TenantMove := ⟨setId state.leaving, setId state.arriving, state.born, peers⟩
  if record.isEmpty ∨ (record.leaving.isSome ∧ record.arriving.isSome) then
    throw "a registry state holds a move it cannot"
  return (state.tenant, record)

def movedToWire : TenantId × Nat → Wire.MovedTenant
  | (tenant, destination) => ⟨0, tenant, destination⟩

def movedFromWire (state : Wire.MovedTenant) : Except String (TenantId × Nat) :=
  if state.tenant = 0 ∨ state.destination = 0 then
    .error "a registry state names an unset moved tenant"
  else .ok (state.tenant, state.destination)

def maintenanceToWire : MaintenanceScope × MaintenanceWindow → Wire.MaintenanceState
  | (scope, window) => ⟨scope.toWire.1, scope.toWire.2, window.forMs, window.seq⟩

def maintenanceFromWire (coversUpTo : Nat) (state : Wire.MaintenanceState)
    : Except String (MaintenanceScope × MaintenanceWindow) := do
  if state.forMs = 0 ∨ coversUpTo < state.seq then
    throw "a registry state holds a maintenance window it cannot"
  let scope ← MaintenanceScope.fromWire state.node state.zone
  return (scope, ⟨state.forMs, state.seq⟩)

def grantToWire : GrantKey × Grant → Wire.GrantState
  | (.footprint _, grant) => ⟨0, grant.tenant, true, !grant.granted, grant.bookings.getD []⟩
  | (.request request, grant) =>
    ⟨request, grant.tenant, false, !grant.granted, grant.bookings.getD []⟩

def grantKeyFromWire (state : Wire.GrantState) : Except String GrantKey :=
  match state.footprint, state.request with
  | true, 0 => .ok (.footprint state.tenant)
  | false, request + 1 => .ok (.request (request + 1))
  | _, _ => .error "a registry state names a grant by no key"

def grantFromWire (spent : Finset Nat) (state : Wire.GrantState)
    : Except String (GrantKey × Grant) := do
  let key ← grantKeyFromWire state
  if state.refused ∧ state.bookings ≠ [] then
    throw "a registry state holds a refused grant that booked"
  if state.bookings.any (· ∉ spent) then
    throw "a registry state holds a grant whose booking id is not spent"
  return (key, ⟨state.tenant, if state.refused then none else some state.bookings⟩)

-- The balancer's state

def BalanceMove.toWire (moved : BalanceMove) (finish : Option (BalanceOutcome × Nat))
    : Wire.BalanceMoveState :=
  ⟨moved.booking, moved.journal.tenant, moved.journal.journal, moved.source, moved.destination,
    moved.reason.text, moved.started, (finish.map Prod.snd).getD 0,
    finish.any (·.1 = .abandoned)⟩

/-- A move and how it ended. -/
def BalanceMove.fromWire (state : Wire.BalanceMoveState)
    : Except String (BalanceMove × Option (BalanceOutcome × Nat)) := do
  let reason ← BalanceReason.parse state.reason
  if state.source = state.destination then throw "a balance move changes machines"
  let moved : BalanceMove :=
    ⟨state.booking, ⟨state.tenant, state.journal⟩, state.source, state.destination, reason,
      state.started⟩
  match state.ended, state.abandoned with
  | 0, false => return (moved, none)
  | 0, true => throw "an abandoned balance move names its end"
  | position, true => return (moved, some (.abandoned, position))
  | position, false => return (moved, some (.done, position))

def EndedMove.fromWire (state : Wire.BalanceMoveState) : Except String EndedMove := do
  match ← BalanceMove.fromWire state with
  | (_, none) => throw "an ended balance move names its end"
  | (moved, some (outcome, position)) => return ⟨moved, outcome, position⟩

/-- A move in flight: one that has not ended. -/
def BalanceMove.inFlightFromWire (state : Wire.BalanceMoveState) : Except String BalanceMove := do
  match ← BalanceMove.fromWire state with
  | (_, some _) => throw "a balance move in flight has not ended"
  | (moved, none) => return moved

namespace BalanceState

def toWire (balance : BalanceState) : Option Wire.BalanceState :=
  if balance.isEmpty then none
  else
    some ⟨balance.paused, balance.requests.ascending, balance.moving.map (·.toWire none),
      balance.ended.map fun record => record.moved.toWire (some (record.outcome, record.position))⟩

def fromWire (state : Wire.BalanceState) : Except String BalanceState := do
  let moving ← state.moving.mapM BalanceMove.inFlightFromWire
  let ended ← state.ended.mapM EndedMove.fromWire
  if endedKept < ended.length then throw "a balance state keeps too many ended moves"
  return ⟨state.paused, state.requests.toFinset, moving, ended⟩

end BalanceState

-- Checkpoint and restore

namespace Registry

def stateToWire (registry : Registry) : Wire.RegistryState where
  nodes := registry.nodes.toList.map nodeToWire
  bookings := registry.bookings.toList.map bookingToWire
  spent := registry.spent.ascending
  liveness := registry.liveness.toList.map livenessToWire
  fleetId := (registry.fleet.map FleetRegistration.fleetId).getD 0
  cellId := (registry.fleet.map FleetRegistration.cellId).getD 0
  version := (registry.fleet.map FleetRegistration.version).getD 0
  directoryTenant := (UniversePointer.toWire registry.pointer).1
  directoryJournal := (UniversePointer.toWire registry.pointer).2.1
  hosts := (UniversePointer.toWire registry.pointer).2.2
  hosted := registry.hosted.toList.map hostedToWire
  dropped := registry.dropped.ascending
  moves := registry.moves.toList.map moveToWire
  moved := registry.moved.toList.map movedToWire
  maintenance := registry.maintenance.toList.map maintenanceToWire
  grants := registry.grants.toList.map grantToWire
  tagged := registry.tagged.ascending
  controlPlane := registry.controlPlane.map fun mode => ⟨mode.isAuto, mode.failures⟩
  controlPlaneRequests := registry.controlPlaneRequests.ascending
  balance := registry.balance.toWire

def checkpoint (codec : SystemCodec) (registry : Registry) : Bytes :=
  codec.encodeState registry.stateToWire

/-- The members a registry was created with that a checkpoint does not name: none of them ever
registered.
-/
def seeded (registry : Registry) (nodes : OrderedMap NodeId RegisteredNode)
    : OrderedMap NodeId RegisteredNode :=
  registry.nodes.filter fun id node => node.registrations = 0 ∧ (nodes[id]?).isNone

/-- Whether the hosted and the dropped tenants may stand together: every one is set, none is both,
and a cell of no fleet has none.
-/
def tenantsStand (fleet : Option FleetRegistration) (hosted : OrderedMap TenantId HostedTenant)
    (dropped : Finset TenantId)
    : Bool :=
  hosted.keys.all (fun tenant => tenant.isSet && tenant ∉ dropped)
    && dropped.ascending.all TenantId.isSet
    && (fleet.isSome || (hosted.isEmpty && dropped = ∅))

/-- Whether the open moves are of hosted tenants, and no tenant that moved out is hosted or
dropped.
-/
def movesStand (hosted : OrderedMap TenantId HostedTenant) (dropped : Finset TenantId)
    (moves : OrderedMap TenantId TenantMove) (moved : OrderedMap TenantId Nat)
    : Bool :=
  moves.keys.all (fun tenant => (hosted[tenant]?).isSome)
    && moved.keys.all fun tenant => (hosted[tenant]?).isNone && tenant ∉ dropped

/-- The registry of a decoded checkpoint that covers a journal up to a position. -/
def ofWire (codec : SystemCodec) (registry : Registry) (coversUpTo : Nat)
    (state : Wire.RegistryState)
    : Except String Registry := do
  let named ← readAll nodeFromWire state.nodes
  let spent := state.spent.toFinset
  let bookings ← readAll (bookingFromWire spent) state.bookings
  let fleet ← fleetFromWire state.fleetId state.cellId state.version
  let pointer ←
    UniversePointer.fromWire codec state.directoryTenant state.directoryJournal state.hosts
  if pointer.isSome ∧ fleet.isNone then
    throw "a registry state points at a universe it did not join"
  let hosted ← readAll hostedFromWire state.hosted
  let dropped := state.dropped.toFinset
  if !tenantsStand fleet hosted dropped then throw "a registry state hosts a tenant it cannot"
  let moves ← readAll moveFromWire state.moves
  let moved ← readAll movedFromWire state.moved
  if !movesStand hosted dropped moves moved then
    throw "a registry state moves a tenant it cannot"
  let maintenance ← readAll (maintenanceFromWire coversUpTo) state.maintenance
  let grants ← readAll (grantFromWire spent) state.grants
  let controlPlane ←
    state.controlPlane.mapM fun plane => controlPlaneFromWire plane.auto plane.failures
  let balance ← state.balance.mapM BalanceState.fromWire
  return {
    nodes := named ∪ registry.seeded named
    bookings, fleet, pointer, hosted, dropped, spent
    liveness := Std.ExtTreeMap.ofList (state.liveness.map livenessFromWire)
    maintenance, grants
    tagged := state.tagged.toFinset
    controlPlane
    controlPlaneRequests := state.controlPlaneRequests.toFinset
    balance := balance.getD .default
    moves, moved
    nextSeq := coversUpTo + 1 }

def restore (codec : SystemCodec) (registry : Registry) (coversUpTo : Nat) (bytes : Bytes)
    : Except String Registry :=
  match codec.decodeState bytes with
  | none => .error "a registry state does not decode"
  | some state => registry.ofWire codec coversUpTo state

end Registry

end Paros
