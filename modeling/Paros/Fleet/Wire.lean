import Paros.Fleet.Keys
import Paros.Registry.Command

/-! The messages of the fleet tenant's journal: its entries and its checkpoint. -/

namespace Paros

namespace Wire

structure CellMember where
  nodeId : Nat
  addr : Text
  deriving Countable

/-- What a fleet entry holds, one form for each kind of command. -/
inductive FleetKind where
  | formFleet (fleetTenant fleetJournal : Nat) (name : Bytes)
  | addCell (cellId controlTenant controlJournal : Nat) (name : Bytes) (tags : List WireTag)
    (endpoint : List CellMember)
  | removeCell (cellId : Nat)
  | markCell (cellId state : Nat)
  | registerTenant (tenant : Nat) (name : Bytes) (cellId controlJournal survives : Nat)
    (tags : List WireTag) (placement : Nat) (reason : Text)
  | assignBuckets (first last cellId : Nat)
  | markTenant (tenant state : Nat)
  | moveTenant (tenant destination : Nat)
  | finishMove (tenant : Nat)
  | removeTenant (tenant : Nat)
  | addRootKey (keyId : Nat) (label publicKey : Text)
  | removeRootKey (label : Text)
  | setTenantTags (request tenant : Nat) (tags : List WireTag)
  | setCellTags (request cellId : Nat) (tags : List WireTag)
  deriving Countable

structure FleetEntry where
  fleetId : Nat
  version : Nat
  kind : Option FleetKind
  deriving Countable

structure CellEntry where
  cellId : Nat
  state : Nat
  version : Nat
  controlTenant : Nat
  tags : List WireTag
  endpoint : List CellMember
  deriving Countable

structure TenantEntry where
  tenant : Nat
  name : Bytes
  cellId : Nat
  state : Nat
  configSeq : Nat
  controlJournal : Nat
  survives : Nat
  tags : List WireTag
  placement : Nat
  reason : Text
  movingTo : Nat
  deriving Countable

/-- A fleet directory's checkpoint. -/
structure FleetDirectoryState where
  rootKeys : List RootKey
  removedKeys : List RootKey
  fleetId : Nat
  version : Nat
  fleetTenant : Nat
  fleetJournal : Nat
  cells : List CellEntry
  removedCells : List Nat
  tenants : List TenantEntry
  removed : List Nat
  tagged : List Nat
  buckets : List BucketRun
  deriving Countable

end Wire

/-- The message library's codecs and the parser of addresses. A parsed address is in its canonical
form, which parses to itself.
-/
structure FleetCodec where
  encodeEntry : Wire.FleetEntry → Bytes
  decodeEntry : Bytes → Option Wire.FleetEntry
  encodeState : Wire.FleetDirectoryState → Bytes
  decodeState : Bytes → Option Wire.FleetDirectoryState
  parseAddress : Text → Option Text
  decodeEntry_encodeEntry : ∀ entry, decodeEntry (encodeEntry entry) = some entry
  decodeState_encodeState : ∀ state, decodeState (encodeState state) = some state
  parseAddress_canonical : ∀ text address,
    parseAddress text = some address → parseAddress address = some address

/-- A codec that writes a message's number in unary, with addresses as they are. -/
noncomputable def FleetCodec.counted : FleetCodec where
  encodeEntry := unary
  decodeEntry := ofUnary
  encodeState := unary
  decodeState := ofUnary
  parseAddress := some
  decodeEntry_encodeEntry := ofUnary_unary
  decodeState_encodeState := ofUnary_unary
  parseAddress_canonical := SystemCodec.counted.parseAddress_canonical

-- Members

/-- A cell's entry endpoint: nodes and their addresses, in canonical form. -/
abbrev Endpoint := List (Nat × Text)

def membersToWire (members : Endpoint) : List Wire.CellMember :=
  members.map fun (nodeId, addr) => ⟨nodeId, addr⟩

def memberFromWire (codec : FleetCodec) (member : Wire.CellMember) : Except String (Nat × Text) :=
  match codec.parseAddress member.addr with
  | none => .error "a cell member's address does not parse"
  | some addr => .ok (member.nodeId, addr)

def membersFromWire (codec : FleetCodec) (members : List Wire.CellMember)
    : Except String Endpoint :=
  members.mapM (memberFromWire codec)

-- Commands

inductive FleetCommand where
  | formFleet (control : JournalIdentifier) (name : Bytes)
  | addCell (cellId : Nat) (control : JournalIdentifier) (name : Bytes) (kind : CellKind)
    (endpoint : Endpoint)
  | removeCell (cellId : Nat)
  | markCell (cellId : Nat) (state : CellState)
  | registerTenant (control : JournalIdentifier) (name : Bytes) (cellId : Nat)
    (survives : Survives) (tags : UserTags) (placement : Placement)
  | assignBuckets (range : BucketRange) (cellId : Nat)
  | markTenant (tenant : TenantId) (state : TenantState)
  | moveTenant (tenant : TenantId) (destination : Nat)
  | finishMove (tenant : TenantId)
  | removeTenant (tenant : TenantId)
  | addRootKey (key : RootKeyEntry)
  | removeRootKey (label : Text)
  | setTenantTags (request : Nat) (tenant : TenantId) (tags : UserTags)
  | setCellTags (request : Nat) (cellId : Nat) (tags : UserTags)

/-- A command, with the fleet and the metadata version that its writer named. -/
structure FleetEntry where
  fleetId : Nat
  version : Nat
  command : FleetCommand

def userTags (tags : List WireTag) : Except String UserTags :=
  tagged "a user tag set is malformed, reserved or over the cap" (UserTags.fromWire tags)

/-- The command that an entry of a version holds. -/
def FleetCommand.fromWire (codec : FleetCodec) (version : Nat)
    : Wire.FleetKind → Except String FleetCommand
  | .formFleet fleetTenant fleetJournal name => .ok (.formFleet ⟨fleetTenant, fleetJournal⟩ name)
  | .addCell cellId controlTenant controlJournal name tags endpoint => do
    let (held, user) ← tagged "a cell's tags are malformed" ((Tags.fromWire tags).bind Tags.split)
    if !user.isEmpty then throw "a cell is added with its reserved tags only"
    let kind ← tagged "an unknown cell kind" (CellKind.fromTags held)
    let endpoint ← membersFromWire codec endpoint
    return .addCell cellId ⟨controlTenant, controlJournal⟩ name kind endpoint
  | .removeCell cellId => .ok (.removeCell cellId)
  | .markCell cellId state =>
    match CellState.fromWire state with
    | none => .error "an unknown cell state"
    | some state => .ok (.markCell cellId state)
  | .registerTenant tenant name cellId controlJournal survives tags placement reason => do
    let survives ← Survives.fromWire survives
    let tags ← userTags tags
    if placement = 0 ∧ 6 ≤ version then throw "a tenant names no placement"
    let placement ← Placement.fromWire placement reason
    return .registerTenant ⟨tenant, controlJournal⟩ name cellId survives tags placement
  | .assignBuckets first last cellId =>
    match BucketRange.new first last with
    | none => .error "a bucket range is out of order or out of range"
    | some range => .ok (.assignBuckets range cellId)
  | .markTenant tenant state =>
    match TenantState.fromWire state with
    | none => .error "an unknown tenant state"
    | some state => .ok (.markTenant tenant state)
  | .moveTenant tenant destination => .ok (.moveTenant tenant destination)
  | .finishMove tenant => .ok (.finishMove tenant)
  | .removeTenant tenant => .ok (.removeTenant tenant)
  | .addRootKey keyId label publicKey => .ok (.addRootKey ⟨keyId, label, publicKey⟩)
  | .removeRootKey label => .ok (.removeRootKey label)
  | .setTenantTags request tenant tags => do return .setTenantTags request tenant (← userTags tags)
  | .setCellTags request cellId tags => do return .setCellTags request cellId (← userTags tags)

def FleetEntry.decode (codec : FleetCodec) (record : Bytes) : Except String FleetEntry :=
  match codec.decodeEntry record with
  | none => .error "not a fleet entry"
  | some entry =>
    match entry.kind with
    | none => .error "a fleet entry names no kind"
    | some kind =>
      (FleetCommand.fromWire codec entry.version kind).map fun command =>
        ⟨entry.fleetId, entry.version, command⟩

/-- What one fleet record folded to. -/
inductive FleetEvent where
  | fleetFormed (fleetId : Nat)
  | cellAdded (cellId : Nat)
  | cellRemoved (cellId : Nat)
  | cellMarked (cellId : Nat) (state : CellState)
  | tenantRegistered (tenant : TenantId) (cellId : Nat)
  | tenantMarked (tenant : TenantId) (state : TenantState)
  | tenantMoving (tenant : TenantId) (destination : Nat)
  | tenantMoved (tenant : TenantId) (cellId : Nat)
  | tenantRemoved (tenant : TenantId)
  | rootKeyAdded (keyId : Nat)
  | rootKeyRemoved (keyId : Nat)
  | tenantTagged (tenant : TenantId)
  | cellTagged (cellId : Nat)
  | bucketsAssigned (range : BucketRange) (cellId : Nat)
  | unchanged
  | refused (refusal : FleetDirectoryRefusal)
  deriving DecidableEq

def FleetEvent.ofKeyChange : KeyChange → FleetEvent
  | .added keyId => .rootKeyAdded keyId
  | .removed keyId => .rootKeyRemoved keyId
  | .unchanged => .unchanged

end Paros
