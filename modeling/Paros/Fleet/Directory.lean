import Paros.Fleet.Wire

/-! The fleet directory: a universe's cells, its tenants, their names and the bucket table, folded
from the fleet tenant's journal. A refused entry changes nothing but the position.
-/

namespace Paros

/-- The fleet, as its tenant recorded it. -/
structure Formed where
  id : Nat
  version : Nat
  control : JournalIdentifier
  deriving DecidableEq, Repr

structure FleetDirectory where
  fleet : Option Formed
  cells : OrderedMap Nat CellEntry
  endpoints : OrderedMap Nat Endpoint
  removedCells : Finset Nat
  tenants : OrderedMap TenantId TenantEntry
  names : OrderedMap Bytes TenantId
  removed : Finset TenantId
  keys : RootKeys
  tagged : Finset Nat
  buckets : BucketTable
  nextSeq : Nat

namespace FleetDirectory

def default : FleetDirectory where
  fleet := none
  cells := ∅
  endpoints := ∅
  removedCells := ∅
  tenants := ∅
  names := ∅
  removed := ∅
  keys := .default
  tagged := ∅
  buckets := .empty
  nextSeq := 0

-- Reads

variable (directory : FleetDirectory)

def endpoint (cellId : Nat) : Endpoint :=
  directory.endpoints[cellId]?.getD []

/-- The fleet tenant's entry. -/
def universe? : Option TenantEntry :=
  directory.fleet.bind fun fleet => directory.tenants[fleet.control.tenant]?

/-- The cell that hosts the universe, once one is added. -/
def universeCell : Option Nat :=
  (directory.universe?.map TenantEntry.cellId).filter (· ≠ 0)

def cellName (cellId : Nat) : Bytes :=
  match directory.cells[cellId]?.bind fun cell => directory.tenants[cell.controlTenant]? with
  | some tenant => tenant.name
  | none => []

/-- The first cell of a name: none has an empty one. -/
def cellNamed (name : Bytes) : Option Nat :=
  if name.isEmpty then none
  else directory.cells.keys.find? fun cellId => directory.cellName cellId = name

def bucketCellOf (name : Bytes) : Option Nat :=
  directory.buckets.cell (bucketOf name)

/-- The first tenant placed by a bucket of a range that lives in another cell than one. -/
def bucketBlocker (range : BucketRange) (cellId : Nat)
    : Option (Nat × TenantId) :=
  directory.tenants.toList.findSome? fun (id, tenant) =>
    if tenant.kind = .users ∧ tenant.placement.isBucket ∧ tenant.cellId ≠ cellId
        ∧ range.contains (bucketOf tenant.name) then
      some (bucketOf tenant.name, id)
    else none

/-- A tenant placed by its bucket that lives in another cell than its bucket names. -/
def misplaced : Option TenantId :=
  directory.tenants.toList.findSome? fun (id, tenant) =>
    if tenant.kind = .users ∧ tenant.placement.isBucket
        ∧ directory.bucketCellOf tenant.name ≠ some tenant.cellId then
      some id
    else none

/-- Whether an id is a tenant's, or was one's that was removed. -/
def taken (tenant : TenantId) : Bool :=
  (directory.tenants[tenant]?).isSome || tenant ∈ directory.removed

-- Commands

/-- What an entry comes to: the directory it leaves with its event, or a refusal. -/
abbrev Judged := Except FleetDirectoryRefusal (FleetDirectory × FleetEvent)

/-- What a tag request names. -/
inductive Tagged where
  | tenant (tenant : TenantId)
  | cell (cellId : Nat)

def setTags (request : Nat) (target : Tagged) (tags : UserTags)
    : Judged :=
  if request = 0 then .error .malformed
  else if request ∈ directory.tagged then .ok (directory, .unchanged)
  else
    match target with
    | .tenant tenant =>
      match directory.tenants[tenant]? with
      | none => .error (.unknownTenant tenant)
      | some entry =>
        .ok ({ directory with
            tenants := directory.tenants.insert tenant { entry with tags := tags }
            tagged := insert request directory.tagged },
          .tenantTagged tenant)
    | .cell cellId =>
      match directory.cells[cellId]? with
      | none => .error (.unknownCell cellId)
      | some entry =>
        .ok ({ directory with
            cells := directory.cells.insert cellId { entry with tags := tags }
            tagged := insert request directory.tagged },
          .cellTagged cellId)

/-- The entry that a tenant of an internal kind is registered with. -/
def internalEntry (kind : TenantKind) (mobility : Movable) (name : Bytes) (cellId : Nat)
    (control : JournalId)
    : TenantEntry where
  name
  cellId
  control
  state := .ready
  configSeq := 0
  kind
  movable := mobility
  survives := .az
  tags := .none
  placement := .overrideFor kind.text
  movingTo := none

def formFleet (fleetId version : Nat) (control : JournalIdentifier) (name : Bytes)
    : Judged :=
  if !control.isSet then .error .malformed
  else
    match directory.fleet with
    | none =>
      .ok ({ directory with
          fleet := some ⟨fleetId, version, control⟩
          tenants := directory.tenants.insert control.tenant
            (internalEntry .universe .movable name 0 control.journal) },
        .fleetFormed fleetId)
    | some fleet =>
      if fleet.id = fleetId ∧ fleet.control = control then .ok (directory, .unchanged)
      else .error (.otherFleet fleetId)

/-- The directory with the fleet tenant in a cell, if it lives in none. -/
def hostUniverse (cellId : Nat) : FleetDirectory :=
  match directory.fleet with
  | none => directory
  | some fleet =>
    match directory.tenants[fleet.control.tenant]? with
    | none => directory
    | some entry =>
      if entry.cellId = 0 then
        { directory with
          tenants := directory.tenants.insert fleet.control.tenant { entry with cellId := cellId } }
      else directory

/-- The directory with one more cell and its cell tenant. The first cell takes every bucket and
hosts the fleet tenant.
-/
def withCell (cellId : Nat) (control : JournalIdentifier)
    (name : Bytes) (kind : CellKind) (endpoint : Endpoint) (version : Nat)
    : FleetDirectory :=
  hostUniverse
    { directory with
      cells := directory.cells.insert cellId ⟨.registering, version, control.tenant, kind, .none⟩
      endpoints :=
        if endpoint.isEmpty then directory.endpoints else directory.endpoints.insert cellId endpoint
      tenants := directory.tenants.insert control.tenant
        (internalEntry .cell .pinned name cellId control.journal)
      buckets := if directory.buckets.isEmpty then .fill cellId else directory.buckets }
    cellId

def addCell (cellId : Nat) (control : JournalIdentifier)
    (name : Bytes) (kind : CellKind) (endpoint : Endpoint) (version : Nat)
    : Judged :=
  if cellId = 0 ∨ !control.isSet ∨ endpoint.any (·.1 = 0) then .error .malformed
  else if cellId ∈ directory.removedCells then .error (.cellTombstoned cellId)
  else
    match directory.cells[cellId]? with
    | some cell =>
      if cell.controlTenant = control.tenant ∧ cell.kind = kind
          ∧ directory.tenants[control.tenant]?.any (·.control = control.journal) then
        .ok (directory, .unchanged)
      else .error (.otherCellTenant cellId)
    | none =>
      if directory.taken control.tenant then .error (.tenantIdTaken control.tenant)
      else
        match directory.cellNamed name with
        | some holder => .error (.cellNameTaken holder)
        | none =>
          .ok (directory.withCell cellId control name kind endpoint version, .cellAdded cellId)

/-- The first tenant of a cell other than one. -/
def lodger (cellId : Nat) (controlTenant : TenantId)
    : Option (TenantId × TenantEntry) :=
  directory.tenants.toList.find? fun (id, tenant) => tenant.cellId = cellId ∧ id ≠ controlTenant

def removeCell (cellId : Nat) : Judged :=
  if cellId ∈ directory.removedCells then .ok (directory, .unchanged)
  else
    match directory.cells[cellId]? with
    | none => .error (.unknownCell cellId)
    | some cell =>
      if cell.state ≠ .removing then .error (.cellTransition cell.state .removing)
      else
        match directory.lodger cellId cell.controlTenant with
        | some (tenant, _) => .error (.cellNotEmpty cellId tenant)
        | none =>
          if 0 < directory.buckets.count cellId then
            .error (.cellHoldsBuckets cellId (directory.buckets.count cellId))
          else
            .ok ({ directory with
                cells := directory.cells.erase cellId
                endpoints := directory.endpoints.erase cellId
                tenants := directory.tenants.erase cell.controlTenant
                removed := insert cell.controlTenant directory.removed
                removedCells := insert cellId directory.removedCells },
              .cellRemoved cellId)

def markCell (cellId : Nat) (state : CellState) : Judged :=
  match directory.cells[cellId]? with
  | none => .error (.unknownCell cellId)
  | some cell =>
    if cell.state = state then .ok (directory, .unchanged)
    else if !cell.state.mayBecome state then .error (.cellTransition cell.state state)
    else
      .ok ({ directory with cells := directory.cells.insert cellId { cell with state := state } },
        .cellMarked cellId state)

/-- The bucket a tenant would be placed by, and its cell, when that is another than one asked. -/
def elsewhere (name : Bytes) (cellId : Nat) (placement : Placement)
    : Option FleetDirectoryRefusal :=
  if placement.isBucket ∧ directory.bucketCellOf name ≠ some cellId then
    some (.bucketElsewhere (bucketOf name) ((directory.bucketCellOf name).getD 0))
  else none

def registerTenant (control : JournalIdentifier) (name : Bytes)
    (cellId : Nat) (survives : Survives) (placement : Placement) (tags : UserTags)
    : Judged :=
  if !control.isSet then .error .malformed
  -- A name holds no `:`, which is byte 58.
  else if name.contains 58 then .error .nameRefused
  else
    match directory.tenants[control.tenant]? with
    | some existing =>
      if existing.kind = .users ∧ existing.name = name ∧ existing.cellId = cellId
          ∧ existing.control = control.journal ∧ existing.survives = survives
          ∧ existing.placement = placement then
        .ok (directory, .unchanged)
      else .error (.tenantIdTaken control.tenant)
    | none =>
      if control.tenant ∈ directory.removed then .error (.tenantIdTaken control.tenant)
      else
        match directory.names[name]? with
        | some holder => .error (.nameTaken holder)
        | none =>
          if directory.cells[cellId]?.map CellEntry.state ≠ some .ready then
            .error (.cellNotReady cellId)
          else
            match directory.elsewhere name cellId placement with
            | some refusal => .error refusal
            | none =>
              .ok ({ directory with
                  names := directory.names.insert name control.tenant
                  tenants := directory.tenants.insert control.tenant
                    ⟨name, cellId, control.journal, .registering, 0, .users, .movable,
                      survives, tags, placement, none⟩ },
                .tenantRegistered control.tenant cellId)

def assignBuckets (range : BucketRange) (cellId : Nat) : Judged :=
  match directory.cells[cellId]? with
  | none => .error (.unknownCell cellId)
  | some cell =>
    if directory.buckets.holds range cellId then .ok (directory, .unchanged)
    else if cell.state ≠ .ready then .error (.cellNotReady cellId)
    else
      match directory.bucketBlocker range cellId with
      | some (bucket, tenant) => .error (.bucketNotEmpty bucket tenant)
      | none =>
        .ok ({ directory with buckets := directory.buckets.assign range cellId },
          .bucketsAssigned range cellId)

/-- The directory with another entry for a tenant. -/
def putTenant (tenant : TenantId) (entry : TenantEntry)
    : FleetDirectory :=
  { directory with tenants := directory.tenants.insert tenant entry }

def markTenant (tenant : TenantId) (state : TenantState) : Judged :=
  match directory.tenants[tenant]? with
  | none => .error (.unknownTenant tenant)
  | some entry =>
    if entry.kind.isInternal then .error (.internal tenant)
    else if entry.state = state then .ok (directory, .unchanged)
    else if !entry.state.mayBecome state then .error (.tenantTransition entry.state state)
    -- A mark never ends a move, but a removal overtakes one.
    else if entry.movingTo.isSome ∧ state ≠ .removing then
      .error (.tenantTransition entry.state state)
    else
      .ok (directory.putTenant tenant
          { entry with
            state := state
            configSeq :=
              if state = .updatingConfiguration then entry.configSeq + 1 else entry.configSeq },
        .tenantMarked tenant state)

def moveTenant (tenant : TenantId) (destination : Nat) : Judged :=
  match directory.cells[destination]? with
  | none => .error (.unknownCell destination)
  | some cell =>
    match directory.tenants[tenant]? with
    | none => .error (.unknownTenant tenant)
    | some entry =>
      if entry.kind.isInternal then .error (.internal tenant)
      else if entry.movingTo = some destination then .ok (directory, .unchanged)
      else if !entry.mayMove ∨ entry.cellId = destination then .error (.notMovable tenant)
      else if cell.state ≠ .ready then .error (.cellNotReady destination)
      else if !entry.state.mayBecome .updatingConfiguration then
        .error (.tenantTransition entry.state .updatingConfiguration)
      else
        .ok (directory.putTenant tenant
            { entry with
              configSeq := entry.configSeq + 1
              state := .updatingConfiguration
              movingTo := some destination },
          .tenantMoving tenant destination)

def finishMove (tenant : TenantId) : Judged :=
  match directory.tenants[tenant]? with
  | none => .error (.unknownTenant tenant)
  | some entry =>
    match entry.movingTo with
    | none => .error (.notMoving tenant)
    | some destination =>
      if entry.state ≠ .updatingConfiguration then .error (.tenantTransition entry.state .ready)
      else
        .ok (directory.putTenant tenant
            { entry with
              cellId := destination
              movingTo := none
              state := .ready
              placement := .overrideFor "move".toList },
          .tenantMoved tenant destination)

def removeTenant (tenant : TenantId) : Judged :=
  if tenant ∈ directory.removed then .ok (directory, .unchanged)
  else
    match directory.tenants[tenant]? with
    | none => .error (.unknownTenant tenant)
    | some entry =>
      if entry.kind.isInternal then .error (.internal tenant)
      else if entry.state ≠ .removing then .error (.tenantTransition entry.state .removing)
      else
        .ok ({ directory with
            tenants := directory.tenants.erase tenant
            names := directory.names.erase entry.name
            removed := insert tenant directory.removed },
          .tenantRemoved tenant)

/-- The directory with its keys changed. -/
def withKeys (changed : Except FleetDirectoryRefusal (RootKeys × KeyChange))
    : Judged :=
  changed.map fun (keys, change) => ({ directory with keys := keys }, .ofKeyChange change)

-- The fold

/-- Apply a command of the fleet that the directory holds. -/
def act (fleetId version : Nat) : FleetCommand → Judged
  | .formFleet control name => directory.formFleet fleetId version control name
  | .addCell cellId control name kind endpoint =>
    directory.addCell cellId control name kind endpoint version
  | .removeCell cellId => directory.removeCell cellId
  | .markCell cellId state => directory.markCell cellId state
  | .registerTenant control name cellId survives tags placement =>
    directory.registerTenant control name cellId survives placement tags
  | .assignBuckets range cellId => directory.assignBuckets range cellId
  | .markTenant tenant state => directory.markTenant tenant state
  | .moveTenant tenant destination => directory.moveTenant tenant destination
  | .finishMove tenant => directory.finishMove tenant
  | .removeTenant tenant => directory.removeTenant tenant
  | .addRootKey key => directory.withKeys (directory.keys.add key)
  | .removeRootKey label => directory.withKeys (directory.keys.remove label)
  | .setTenantTags request tenant tags => directory.setTags request (.tenant tenant) tags
  | .setCellTags request cellId tags => directory.setTags request (.cell cellId) tags

/-- Why an entry's command is not looked at: its context names another version or another fleet. -/
def outOfContext (entry : FleetEntry)
    : Option FleetDirectoryRefusal :=
  if entry.fleetId = 0 ∨ entry.version = 0 then some .malformed
  else if metadataVersion < entry.version then some (.unknownVersion entry.version)
  else
    match entry.command, directory.fleet with
    | .formFleet _ _, _ => none
    | _, none => some .noFleet
    | _, some fleet => if fleet.id ≠ entry.fleetId then some (.otherFleet entry.fleetId) else none

def judge (entry : FleetEntry) : Judged :=
  match directory.outOfContext entry with
  | some refusal => .error refusal
  | none => directory.act entry.fleetId entry.version entry.command

/-- The directory that a record is folded on: its position is taken, whatever the record holds. -/
def advance (seq : Nat) : FleetDirectory :=
  { directory with nextSeq := seq + 1 }

/-- Fold the record of a position: one that is no entry, or is refused, changes nothing. -/
def fold (codec : FleetCodec) (directory : FleetDirectory) (seq : Nat) (record : Bytes)
    : FleetDirectory × FleetEvent :=
  let directory := directory.advance seq
  match FleetEntry.decode codec record with
  | .error _ => (directory, .refused .malformed)
  | .ok entry =>
    match directory.judge entry with
    | .ok changed => changed
    | .error refusal => (directory, .refused refusal)

end FleetDirectory

end Paros
