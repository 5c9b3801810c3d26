import Paros.Tenant.Records

/-! A tenant's control journal: its entries, the fold over them, and the fold's checkpoint. -/

namespace Paros

namespace Wire.Tenant

/-- What a tenant entry holds, one form for each kind of command. -/
inductive Kind where
  | describe (describe : Describe)
  | createJournal (request id : Nat) (name : Bytes) (writer : Int) (desired : Option Desired)
    (config : Option AcceptorConfig) (tags : List WireTag) (storeDurability : Int)
  | deleteJournal (request id : Nat)
  | unplaceable (request : Nat) (name : Bytes)
  | setJournalTags (request id : Nat) (tags : List WireTag)
  | configure (request id : Nat) (tenantDefault : Bool) (desired : Option Desired)
    (roles : Option Nat)
  | placed (id : Nat) (config : Option AcceptorConfig)
  | scrubbed (scrubbed : Scrubbed)
  deriving Countable

structure TenantEntry where
  kind : Option Kind
  deriving Countable

/-- A tenant control journal's checkpoint. -/
structure TenantState where
  describe : Option Describe
  journals : List JournalState
  outcomes : List OutcomeState
  defaultDesired : Option Desired
  scrub : Option Scrubbed
  roles : Option Nat
  deriving Countable

end Wire.Tenant

/-- The message library's codecs. -/
structure TenantCodec where
  encodeEntry : Wire.Tenant.TenantEntry → Bytes
  decodeEntry : Bytes → Option Wire.Tenant.TenantEntry
  encodeState : Wire.Tenant.TenantState → Bytes
  decodeState : Bytes → Option Wire.Tenant.TenantState
  decodeEntry_encodeEntry : ∀ entry, decodeEntry (encodeEntry entry) = some entry
  decodeState_encodeState : ∀ state, decodeState (encodeState state) = some state

/-- A codec that writes a message's number in unary. -/
noncomputable def TenantCodec.counted : TenantCodec :=
  ⟨unary, ofUnary, unary, ofUnary, ofUnary_unary, ofUnary_unary⟩

-- Commands

/-- Whose desired mode a command changes. -/
inductive ConfigureTarget where
  | tenantDefault
  | journal (id : JournalId)
  deriving DecidableEq, Repr

inductive TenantCommand where
  | describe (description : Description)
  | createJournal (request : Nat) (id : JournalId) (name : Bytes) (writer : WriterMode)
    (desired : Desired) (config : JournalConfig) (tags : UserTags) (store : StoreDurability)
  | deleteJournal (request : Nat) (id : JournalId)
  | unplaceable (request : Nat) (name : Bytes)
  | setJournalTags (request : Nat) (id : JournalId) (tags : UserTags)
  | configure (request : Nat) (target : ConfigureTarget) (desired : Desired)
    (roles : Option TenantRoles)
  | placed (id : JournalId) (config : JournalConfig)
  | scrubbed (progress : ScrubProgress)

namespace TenantCommand

/-- The id that a command's answer is recorded under. -/
def request? : TenantCommand → Option Nat
  | describe _ | placed _ _ | scrubbed _ => none
  | createJournal request _ _ _ _ _ _ _ | deleteJournal request _ | unplaceable request _
  | setJournalTags request _ _ | configure request _ _ _ => some request

/-- A configuration that has to be named. -/
def named (missing : String) (written : Option Wire.AcceptorConfig)
    : Except String JournalConfig := do
  match ← configFromProto written with
  | none => throw missing
  | some config => return config

def rolesFromWire (tenantDefault : Bool) : Option Nat → Except String (Option TenantRoles)
  | none => .ok none
  | some frontends =>
    if tenantDefault then (TenantRoles.fromWire frontends).map some
    else .error "role counts are the tenant default's"

def fromWire : Wire.Tenant.Kind → Except String TenantCommand
  | .describe written => (Description.fromWire written).map describe
  | .createJournal request id name writer desired config tags store => do
    let writer ← WriterMode.fromProto writer
    let desired ← Desired.fromWire desired
    let config ← named "a created journal names no configuration" config
    let tags ← userTags tags
    let store ← StoreDurability.fromProto store
    return createJournal request id name writer desired config tags store
  | .deleteJournal request id => .ok (deleteJournal request id)
  | .unplaceable request name => .ok (unplaceable request name)
  | .setJournalTags request id tags => (userTags tags).map (setJournalTags request id)
  | .configure request id tenantDefault desired roles => do
    if tenantDefault ∧ id ≠ 0 then throw "a tenant default names no journal"
    let target := if tenantDefault then .tenantDefault else .journal id
    let desired ← Desired.fromWire desired
    let roles ← rolesFromWire tenantDefault roles
    return configure request target desired roles
  | .placed id config => (named "a placed journal names its configuration" config).map (placed id)
  | .scrubbed written => (ScrubProgress.fromWire written).map scrubbed

def decode (codec : TenantCodec) (record : Bytes) : Except String TenantCommand :=
  match codec.decodeEntry record with
  | none => .error "not a tenant entry"
  | some ⟨none⟩ => .error "a tenant entry names no kind"
  | some ⟨some kind⟩ => fromWire kind

end TenantCommand

-- Events

/-- Why an entry changed nothing and recorded nothing. -/
inductive TenantRefusal where
  | malformed
  | idTaken (id : JournalId)
  | redescribed
  | notPlaceable (id : JournalId)
  | scrubBehind
  deriving DecidableEq, Repr

/-- What one record folded to. -/
inductive TenantEvent where
  | described
  | created (request : Nat) (id : JournalId) (name : Bytes) (config : JournalConfig)
    (writer : WriterMode) (store : StoreDurability) (desired : Desired)
  | deleted (request : Nat) (id : JournalId)
  | tagged (request : Nat) (id : JournalId)
  | configured (request : Nat) (id : Option JournalId) (desired : Desired)
  | placed (id : JournalId) (config : JournalConfig)
  | scrubbed (progress : ScrubProgress)
  | answered (request : Nat) (outcome : RequestOutcome)
  | repeated (request : Nat) (outcome : RequestOutcome)
  | refused (refusal : TenantRefusal)
  deriving DecidableEq

namespace TenantEvent

/-- The request that an event answers for the first time, and its outcome. -/
def answer? : TenantEvent → Option (Nat × RequestOutcome)
  | created request id _ _ _ _ _ => some (request, .created id)
  | deleted request id => some (request, .deleted id)
  | tagged request id => some (request, .tagged id)
  | configured request id _ => some (request, .configured id)
  | answered request outcome => some (request, outcome)
  | described | placed _ _ | scrubbed _ | repeated _ _ | refused _ => none

/-- The journal that an event creates. -/
def created? : TenantEvent → Option JournalId
  | created _ id _ _ _ _ _ => some id
  | _ => none

end TenantEvent

-- The fold

/-- The fold of one tenant's control journal. The live names are kept with their journals. -/
structure TenantControl where
  tenant : TenantId
  control : JournalId
  description : Option Description
  default : Option Desired
  roles : TenantRoles
  journals : OrderedMap JournalId TenantJournal
  names : OrderedMap Bytes JournalId
  outcomes : OrderedMap Nat RequestOutcome
  scrub : Option ScrubProgress
  nextSeq : Nat
  owned : tenant ≠ 0
  numbered : control ≠ 0

namespace TenantControl

def new (tenant : TenantId) (control : JournalId) (owned : tenant ≠ 0) (numbered : control ≠ 0)
    : TenantControl where
  tenant := tenant
  control := control
  description := none
  default := none
  roles := Inhabited.default
  journals := ∅
  names := ∅
  outcomes := ∅
  scrub := none
  nextSeq := 0
  owned := owned
  numbered := numbered

variable (control : TenantControl)

/-- Whether the tenant used the id already, deleted journals included. -/
def isTaken (id : JournalId) : Bool := id = control.control || (control.journals[id]?).isSome

def live? (id : JournalId) : Option TenantJournal :=
  (control.journals[id]?).filter TenantJournal.isLive

def putJournal (id : JournalId) (journal : TenantJournal) : TenantControl :=
  { control with journals := control.journals.insert id journal }

def record (request : Nat) (outcome : RequestOutcome) : TenantControl :=
  { control with outcomes := control.outcomes.insert request outcome }

def answer (request : Nat) (outcome : RequestOutcome) : TenantControl × TenantEvent :=
  (control.record request outcome, .answered request outcome)

/-- Act on a request, unless it has its answer. -/
def once (request : Nat) (act : TenantControl × TenantEvent) : TenantControl × TenantEvent :=
  if request = 0 then (control, .refused .malformed)
  else
    match control.outcomes[request]? with
    | some outcome => (control, .repeated request outcome)
    | none => act

def describe (description : Description) : TenantControl × TenantEvent :=
  if description.tenant ≠ control.tenant then (control, .refused .redescribed)
  else
    match control.description with
    | none => ({ control with description := some description }, .described)
    | some held =>
      if held = description then (control, .described) else (control, .refused .redescribed)

def create (request : Nat) (id : JournalId) (name : Bytes) (writer : WriterMode)
    (desired : Desired) (config : JournalConfig) (tags : UserTags) (store : StoreDurability)
    : TenantControl × TenantEvent :=
  if id = 0 then (control, .refused .malformed)
  else
    control.once request <|
      if control.isTaken id then (control, .refused (.idTaken id))
      else
        match control.names[name]? with
        | some holder => control.answer request (.nameTaken holder)
        | none =>
          let journal : TenantJournal :=
            ⟨name, writer, desired, config, config, none, tags, store⟩
          ({ (control.putJournal id journal).record request (.created id) with
              names := control.names.insert name id },
            .created request id name config writer store desired)

def delete (seq request : Nat) (id : JournalId) : TenantControl × TenantEvent :=
  control.once request <|
    match control.live? id with
    | none => control.answer request .unknownJournal
    | some journal =>
      ({ (control.putJournal id { journal with deletedAt := some seq }).record request
            (.deleted id) with
          names := control.names.erase journal.name },
        .deleted request id)

def setTags (request : Nat) (id : JournalId) (tags : UserTags) : TenantControl × TenantEvent :=
  control.once request <|
    match control.live? id with
    | none => control.answer request .unknownJournal
    | some journal =>
      ((control.putJournal id { journal with tags := tags }).record request (.tagged id),
        .tagged request id)

/-- A create that the cell could not place. -/
def refuse (request : Nat) (name : Bytes) : TenantControl × TenantEvent :=
  control.once request <|
    match control.names[name]? with
    | some holder => control.answer request (.nameTaken holder)
    | none => control.answer request .unplaceable

def configure (request : Nat) (target : ConfigureTarget) (desired : Desired)
    (roles : Option TenantRoles)
    : TenantControl × TenantEvent :=
  control.once request <|
    match target with
    | .tenantDefault =>
      ({ control.record request (.configured none) with
          default := some desired, roles := roles.getD control.roles },
        .configured request none desired)
    | .journal id =>
      if roles.isSome then (control, .refused .malformed)
      else
        match control.live? id with
        | none => control.answer request .unknownJournal
        | some journal =>
          ((control.putJournal id { journal with desired := desired }).record request
              (.configured (some id)),
            .configured request (some id) desired)

def place (id : JournalId) (config : JournalConfig) : TenantControl × TenantEvent :=
  match control.live? id with
  | none => (control, .refused (.notPlaceable id))
  | some journal => (control.putJournal id { journal with placed := config }, .placed id config)

def scrubbed (progress : ScrubProgress) : TenantControl × TenantEvent :=
  if control.scrub.any fun held => progress.cursor < held.cursor then
    (control, .refused .scrubBehind)
  else ({ control with scrub := some progress }, .scrubbed progress)

def act (seq : Nat) : TenantCommand → TenantControl × TenantEvent
  | .describe description => control.describe description
  | .createJournal request id name writer desired config tags store =>
    control.create request id name writer desired config tags store
  | .deleteJournal request id => control.delete seq request id
  | .unplaceable request name => control.refuse request name
  | .setJournalTags request id tags => control.setTags request id tags
  | .configure request target desired roles => control.configure request target desired roles
  | .placed id config => control.place id config
  | .scrubbed progress => control.scrubbed progress

def advance (seq : Nat) : TenantControl := { control with nextSeq := seq + 1 }

/-- Fold the record at a position that was not folded yet. -/
def fold (codec : TenantCodec) (seq : Nat) (record : Bytes) : TenantControl × TenantEvent :=
  match TenantCommand.decode codec record with
  | .ok command => (control.advance seq).act seq command
  | .error _ => (control.advance seq, .refused .malformed)

/-- What the fold asserts after every record and every restore. -/
def assertInvariants : Bool :=
  (control.journals[control.control]?).isNone
    && control.names.toList.all (fun (name, id) =>
      (control.journals[id]?).any fun journal => journal.isLive && journal.name == name)
    && (control.journals.toList.countP fun (_, journal) => journal.isLive) == control.names.size

-- Checkpoints

def stateToWire : Wire.Tenant.TenantState where
  describe := control.description.map Description.toWire
  journals := control.journals.toList.map TenantJournal.toWire
  outcomes := control.outcomes.toList.map RequestOutcome.toWire
  defaultDesired := control.default.map Desired.toWire
  scrub := control.scrub.map ScrubProgress.toWire
  roles := if control.roles ≠ Inhabited.default then some control.roles.frontends else none

def checkpoint (codec : TenantCodec) : Bytes := codec.encodeState control.stateToWire

/-- Read a message's optional part. -/
def readPart {α β : Type} (read : α → Except String β) : Option α → Except String (Option β)
  | none => .ok none
  | some written => (read written).map some

/-- The journals read so far, and the live ones by name. -/
abbrev Shelf := OrderedMap JournalId TenantJournal × OrderedMap Bytes JournalId

def readJournal (shelf : Shelf) (written : Wire.Tenant.JournalState) : Except String Shelf := do
  if written.id = 0 ∨ written.id = control.control then
    throw "a tenant state names an id it cannot hold"
  let lives := (TenantJournal.deletedFromWire written.deletedAt).isNone
  if lives ∧ (shelf.2[written.name]?).isSome then throw "a tenant state holds a live name twice"
  let journal ← TenantJournal.fromWire written
  return (shelf.1.insert written.id journal,
    if lives then shelf.2.insert written.name written.id else shelf.2)

def readOutcome (written : Wire.Tenant.OutcomeState) : Except String (Nat × RequestOutcome) := do
  if written.request = 0 then throw "an outcome names its request"
  return (written.request, ← RequestOutcome.fromWire written)

/-- All of a checkpoint but its scrub record, put into the fold. -/
def readState (state : Wire.Tenant.TenantState) : Except String TenantControl := do
  let description ← readPart Description.fromWire state.describe
  if description.any (·.tenant ≠ control.tenant) then
    throw "a tenant state describes another tenant"
  let (journals, names) ← state.journals.foldlM control.readJournal (∅, ∅)
  let outcomes ← OrderedMap.readAll readOutcome state.outcomes
  let default ← readPart (fun desired => Desired.fromWire (some desired)) state.defaultDesired
  let roles ← readPart TenantRoles.fromWire state.roles
  return { control with
    description := description, default := default, roles := roles.getD Inhabited.default,
    journals := journals, names := names, outcomes := outcomes }

/-- Restore a checkpoint into a fold of the same journal. A scrub record is read last, when the rest
is in place.
-/
def restore (codec : TenantCodec) (coversUpTo : Nat) (state : Bytes)
    : TenantControl × Except String Unit :=
  match codec.decodeState state with
  | none => (control, .error "a tenant state does not decode")
  | some state =>
    match control.readState state with
    | .error refusal => (control, .error refusal)
    | .ok read =>
      match readPart ScrubProgress.fromWire state.scrub with
      | .error refusal => (read, .error refusal)
      | .ok scrub => ({ read with scrub := scrub, nextSeq := coversUpTo + 1 }, .ok ())

end TenantControl

end Paros
