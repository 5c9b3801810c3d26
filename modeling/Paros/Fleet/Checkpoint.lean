import Paros.Fleet.Directory
import Paros.Registry.Checkpoint

/-! A fleet directory's checkpoint, and the directory restored from one. The names and the
endpoints are rebuilt from the tenants and the cells.
-/

namespace Paros

namespace FleetDirectory

-- Written records

def cellToWire (directory : FleetDirectory) : Nat × CellEntry → Wire.CellEntry
  | (id, cell) =>
    ⟨id, cell.state.toWire, cell.version, cell.controlTenant, cell.allTags.toWire,
      membersToWire (directory.endpoint id)⟩

def tenantToWire : TenantId × TenantEntry → Wire.TenantEntry
  | (id, tenant) =>
    ⟨id, tenant.name, tenant.cellId, tenant.state.toWire, tenant.configSeq, tenant.control,
      tenant.survives.toWire, tenant.allTags.toWire, tenant.placement.toWire.1,
      tenant.placement.toWire.2, tenant.movingTo.getD 0⟩

def stateToWire (directory : FleetDirectory) : Wire.FleetDirectoryState where
  rootKeys := directory.keys.toWire.1
  removedKeys := directory.keys.toWire.2
  fleetId := (directory.fleet.map Formed.id).getD 0
  version := (directory.fleet.map Formed.version).getD 0
  fleetTenant := (directory.fleet.map (·.control.tenant)).getD 0
  fleetJournal := (directory.fleet.map (·.control.journal)).getD 0
  cells := directory.cells.toList.map directory.cellToWire
  removedCells := directory.removedCells.ascending
  tenants := directory.tenants.toList.map tenantToWire
  removed := directory.removed.ascending
  tagged := directory.tagged.ascending
  buckets := directory.buckets.toWire

variable (codec : FleetCodec)

def checkpoint (directory : FleetDirectory) : Bytes :=
  codec.encodeState directory.stateToWire

-- Restored records

def formedFromWire (fleetId version tenant journal : Nat) : Except String (Option Formed) :=
  if fleetId = 0 then .ok none
  else
    let control : JournalIdentifier := ⟨tenant, journal⟩
    if !control.isSet then .error "a fleet directory state names no fleet tenant"
    else .ok (some ⟨fleetId, version, control⟩)

def cellFromWire (written : Wire.CellEntry)
    : Except String (CellEntry × Endpoint) := do
  let state ←
    match CellState.fromWire written.state with
    | none => throw "an unknown cell state"
    | some state => pure state
  let (held, tags) ←
    Paros.tagged "a cell entry's tags are malformed" ((Tags.fromWire written.tags).bind Tags.split)
  let endpoint ← membersFromWire codec written.endpoint
  let kind ← Paros.tagged "an unknown cell kind" (CellKind.fromTags held)
  return (⟨state, written.version, written.controlTenant, kind, tags⟩, endpoint)

/-- Take a cell of a checkpoint: its entry, and its endpoint unless that is empty. -/
def readCell (read : OrderedMap Nat CellEntry × OrderedMap Nat Endpoint) (written : Wire.CellEntry)
    : Except String (OrderedMap Nat CellEntry × OrderedMap Nat Endpoint) := do
  let (cell, endpoint) ← cellFromWire codec written
  return (read.1.insert written.cellId cell,
    if endpoint.isEmpty then read.2 else read.2.insert written.cellId endpoint)

/-- The placement of a checkpointed tenant: an internal one's is that of its kind. -/
def placementFromWire (kind : TenantKind) (placement : Nat) (reason : Text)
    : Except String Placement :=
  match kind with
  | .users => Placement.fromWire placement reason
  | internal => .ok (.overrideFor internal.text)

/-- The rest of a checkpointed tenant, whose tags were read before. -/
def tenantFromWire (kind : TenantKind) (mobility : Movable) (tags : UserTags)
    (written : Wire.TenantEntry)
    : Except String TenantEntry := do
  let state ←
    match TenantState.fromWire written.state with
    | none => throw "an unknown tenant state"
    | some state => pure state
  let survives ← Survives.fromWire written.survives
  let placement ← placementFromWire kind written.placement written.reason
  return ⟨written.name, written.cellId, written.controlJournal, state, written.configSeq, kind,
    mobility, survives, tags, placement, setId written.movingTo⟩

/-- Take a tenant of a checkpoint: its entry, and its name if it is a user's. -/
def readTenant (read : OrderedMap TenantId TenantEntry × OrderedMap Bytes TenantId)
    (written : Wire.TenantEntry)
    : Except String (OrderedMap TenantId TenantEntry × OrderedMap Bytes TenantId) := do
  let (kind, mobility, tags) ← Paros.tagged "a tenant entry's tags are malformed or unknown"
    ((Tags.fromWire written.tags).bind TenantEntry.fromTags)
  if !TenantId.isSet written.tenant ∨ written.controlJournal = 0 then
    throw "a fleet directory state names an unset tenant identifier"
  if kind = .users ∧ (read.2[written.name]?).isSome then
    throw "a fleet directory state names one tenant name twice"
  let tenant ← tenantFromWire kind mobility tags written
  return (read.1.insert written.tenant tenant,
    if kind = .users then read.2.insert written.name written.tenant else read.2)

/-- The directory of a decoded checkpoint that covers a journal up to a position. -/
def ofWire (coversUpTo : Nat) (state : Wire.FleetDirectoryState)
    : Except String FleetDirectory := do
  if metadataVersion < state.version then
    throw "a fleet directory state of an unknown metadata version"
  let fleet ← formedFromWire state.fleetId state.version state.fleetTenant state.fleetJournal
  let (cells, endpoints) ← state.cells.foldlM (readCell codec) (∅, ∅)
  let (tenants, names) ← state.tenants.foldlM readTenant (∅, ∅)
  let removed := state.removed.toFinset
  if state.removed.any fun id => (tenants[id]?).isSome then
    throw "a fleet directory state holds a removed tenant"
  let keys ← RootKeys.restore state.rootKeys state.removedKeys
  let removedCells := state.removedCells.toFinset
  if state.removedCells.any fun id => (cells[id]?).isSome then
    throw "a fleet directory state holds a removed cell"
  let universeCell := ((fleet.bind fun held => tenants[held.control.tenant]?).map
    TenantEntry.cellId).getD 0
  let buckets ← BucketTable.restore state.buckets universeCell fun id => (cells[id]?).isSome
  return {
    fleet, cells, endpoints, removedCells, tenants, names, removed, keys
    tagged := state.tagged.toFinset
    buckets
    nextSeq := coversUpTo + 1 }

/-- The directory a checkpoint is restored to: nothing of the one before it stays. -/
def restore (coversUpTo : Nat) (bytes : Bytes)
    : Except String FleetDirectory :=
  match codec.decodeState bytes with
  | none => .error "a fleet directory state does not decode"
  | some state => ofWire codec coversUpTo state

end FleetDirectory

end Paros
