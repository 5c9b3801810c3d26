import Paros.Fleet.Wire
import Paros.Journal.State
import Paros.Registry.Restore
import Paros.Tenant.Config

/-! What a tenant's control journal records: modes, descriptions, journals, the outcomes of
requests and a scrubber's progress. Each is read back from its wire form.
-/

namespace Paros

namespace Wire.Tenant

structure Desired where
  surviveMachines : Nat
  partitions : Nat
  replicas : Nat
  proxies : Nat
  batchers : Nat
  deriving Countable

structure Describe where
  tenant : Nat
  name : Bytes
  survives : Nat
  cellName : Bytes
  desired : Option Desired
  deriving Countable

structure Scrubbed where
  pass : Nat
  done : Bool
  journal : Nat
  nextSlot : Nat
  checked : Nat
  damaged : Nat
  repaired : Nat
  mismatched : Nat
  damagedTotal : Nat
  repairedTotal : Nat
  mismatchedTotal : Nat
  late : Bool
  deriving Countable

structure JournalState where
  id : Nat
  name : Bytes
  writer : Int
  desired : Option Desired
  config : Option AcceptorConfig
  deletedAt : Nat
  tags : List WireTag
  placed : Option AcceptorConfig
  storeDurability : Int
  deriving Countable

structure OutcomeState where
  request : Nat
  kind : Nat
  id : Nat
  deriving Countable

end Wire.Tenant

-- Modes

namespace WriterMode

def toProto : WriterMode → Int
  | single => 0
  | multi => 1

def fromProto (mode : Int) : Except String WriterMode :=
  if mode = 0 then .ok single
  else if mode = 1 then .ok multi
  else .error "an unknown writer mode"

theorem fromProto_toProto (mode : WriterMode) : fromProto mode.toProto = .ok mode := by
  cases mode <;> rfl

end WriterMode

/-- How a journal's stores commit a batch. -/
inductive StoreDurability where
  | ordered
  | batched
  deriving DecidableEq, Repr

namespace StoreDurability

def toProto : StoreDurability → Int
  | ordered => 0
  | batched => 1

def fromProto (value : Int) : Except String StoreDurability :=
  if value = 0 then .ok ordered
  else if value = 1 then .ok batched
  else .error "an unknown store durability"

theorem fromProto_toProto (store : StoreDurability) : fromProto store.toProto = .ok store := by
  cases store <;> rfl

end StoreDurability

def maxSurviveMachines : Nat := 3

/-- The failures each acceptor partition survives, and the partitions. -/
structure Durability where
  surviveMachines : Nat
  partitions : Nat
  survivable : surviveMachines ≤ maxSurviveMachines
  partitioned : partitions ≠ 0
  deriving DecidableEq

def Durability.new (surviveMachines partitions : Nat) : Except String Durability :=
  if survivable : surviveMachines ≤ maxSurviveMachines then
    if partitioned : partitions ≠ 0 then .ok ⟨surviveMachines, partitions, survivable, partitioned⟩
    else .error "partitions is at least 1"
  else .error "machines is at most 3"

theorem Durability.new_self (durability : Durability)
    : new durability.surviveMachines durability.partitions = .ok durability := by
  rw [new, dif_pos durability.survivable, dif_pos durability.partitioned]

/-- A desired mode: a durability and the journal's scale counts. -/
structure Desired where
  durability : Durability
  replicas : Nat
  proxies : Nat
  batchers : Nat
  few : replicas ≤ maxRoleCount ∧ proxies ≤ maxRoleCount ∧ batchers ≤ maxRoleCount
  deriving DecidableEq

namespace Desired

def toWire (desired : Desired) : Wire.Tenant.Desired :=
  ⟨desired.durability.surviveMachines, desired.durability.partitions, desired.replicas,
    desired.proxies, desired.batchers⟩

def fromWire : Option Wire.Tenant.Desired → Except String Desired
  | none => .error "no desired mode"
  | some desired => do
    let durability ← Durability.new desired.surviveMachines desired.partitions
    if few : desired.replicas ≤ maxRoleCount ∧ desired.proxies ≤ maxRoleCount
        ∧ desired.batchers ≤ maxRoleCount then
      return ⟨durability, desired.replicas, desired.proxies, desired.batchers, few⟩
    else throw "a role count is at most 64"

theorem fromWire_toWire (desired : Desired) : fromWire (some desired.toWire) = .ok desired := by
  simp only [fromWire, toWire, Durability.new_self, bind, Except.bind, pure, Except.pure]
  exact dif_pos desired.few

end Desired

/-- How many frontends the tenant asks for. -/
structure TenantRoles where
  frontends : Nat
  few : frontends ≤ maxRoleCount
  deriving DecidableEq

namespace TenantRoles

instance : Inhabited TenantRoles := ⟨0, Nat.zero_le _⟩

def fromWire (frontends : Nat) : Except String TenantRoles :=
  if few : frontends ≤ maxRoleCount then .ok ⟨frontends, few⟩
  else .error "a role count is at most 64"

theorem fromWire_frontends (roles : TenantRoles) : fromWire roles.frontends = .ok roles :=
  dif_pos roles.few

end TenantRoles

structure Description where
  tenant : TenantId
  name : Bytes
  survives : Survives
  cellName : Bytes
  desired : Desired
  deriving DecidableEq

namespace Description

def toWire (description : Description) : Wire.Tenant.Describe :=
  ⟨description.tenant, description.name, description.survives.toWire, description.cellName,
    some description.desired.toWire⟩

def fromWire (describe : Wire.Tenant.Describe) : Except String Description := do
  if describe.tenant = 0 then throw "a description names its tenant"
  let survives ← Survives.fromWire describe.survives
  let desired ← Desired.fromWire describe.desired
  return ⟨describe.tenant, describe.name, survives, describe.cellName, desired⟩

theorem fromWire_toWire (description : Description) (set : description.tenant ≠ 0)
    : fromWire description.toWire = .ok description := by
  simp only [fromWire, toWire, if_neg set, Survives.fromWire_toWire, Desired.fromWire_toWire, bind,
    Except.bind, pure, Except.pure]

end Description

-- Journals

/-- A journal the tenant created. A deleted one keeps the position of its delete. -/
structure TenantJournal where
  name : Bytes
  writer : WriterMode
  desired : Desired
  config : JournalConfig
  placed : JournalConfig
  deletedAt : Option Nat
  tags : UserTags
  store : StoreDurability

namespace TenantJournal

def isLive (journal : TenantJournal) : Bool := journal.deletedAt.isNone

def toWire : JournalId × TenantJournal → Wire.Tenant.JournalState
  | (id, journal) =>
    { id := id
      name := journal.name
      writer := journal.writer.toProto
      desired := some journal.desired.toWire
      config := some (configToProto journal.config)
      deletedAt := (journal.deletedAt.map (· + 1)).getD 0
      tags := journal.tags.tags.toWire
      placed :=
        if journal.placed ≠ journal.config then some (configToProto journal.placed) else none
      storeDurability := journal.store.toProto }

/-- The position that a stored one, plus one, stands for. -/
def deletedFromWire (deletedAt : Nat) : Option Nat :=
  if deletedAt = 0 then none else some (deletedAt - 1)

def fromWire (written : Wire.Tenant.JournalState) : Except String TenantJournal := do
  let config ← configFromProto written.config
  match config with
  | none => throw "a tenant state journal names no configuration"
  | some config =>
    let placed ← configFromProto written.placed
    let writer ← WriterMode.fromProto written.writer
    let desired ← Desired.fromWire written.desired
    let tags ← userTags written.tags
    let store ← StoreDurability.fromProto written.storeDurability
    return ⟨written.name, writer, desired, config, placed.getD config,
      deletedFromWire written.deletedAt, tags, store⟩

theorem deletedFromWire_toWire (deletedAt : Option Nat)
    : deletedFromWire ((deletedAt.map (· + 1)).getD 0) = deletedAt := by
  cases deletedAt <;> rfl

theorem fromWire_toWire (id : JournalId) (journal : TenantJournal)
    : fromWire (toWire (id, journal)) = .ok journal := by
  have tags : userTags journal.tags.tags.toWire = .ok journal.tags := by
    simp only [userTags, UserTags.fromWire, Tags.fromWire_toWire, Except.bind,
      UserTags.ofTags_tags, tagged]
  have placed : ∃ found, configFromProto (toWire (id, journal)).placed = .ok found
      ∧ found.getD journal.config = journal.placed := by
    simp only [toWire]
    split
    · exact ⟨some journal.placed, configFromProto_toProto _, rfl⟩
    · case isFalse same => exact ⟨none, rfl, (not_not.mp same).symm⟩
  obtain ⟨found, read, moved⟩ := placed
  simp only [fromWire, read]
  simp only [toWire, configFromProto_toProto, WriterMode.fromProto_toProto, Desired.fromWire_toWire,
    StoreDurability.fromProto_toProto, deletedFromWire_toWire, tags, moved, bind, Except.bind, pure,
    Except.pure]

end TenantJournal

-- Outcomes

/-- What a request came to. The tenant's default is configured with no journal. -/
inductive RequestOutcome where
  | created (id : JournalId)
  | deleted (id : JournalId)
  | nameTaken (holder : JournalId)
  | unknownJournal
  | unplaceable
  | tagged (id : JournalId)
  | configured (id : Option JournalId)
  deriving DecidableEq, Repr

namespace RequestOutcome

def toWire : Nat × RequestOutcome → Wire.Tenant.OutcomeState
  | (request, .created id) => ⟨request, 1, id⟩
  | (request, .deleted id) => ⟨request, 2, id⟩
  | (request, .nameTaken holder) => ⟨request, 3, holder⟩
  | (request, .unknownJournal) => ⟨request, 4, 0⟩
  | (request, .unplaceable) => ⟨request, 5, 0⟩
  | (request, .configured id) => ⟨request, 6, id.getD 0⟩
  | (request, .tagged id) => ⟨request, 7, id⟩

def fromWire (state : Wire.Tenant.OutcomeState) : Except String RequestOutcome :=
  match state.kind, state.id with
  | 1, id + 1 => .ok (.created (id + 1))
  | 2, id + 1 => .ok (.deleted (id + 1))
  | 3, id + 1 => .ok (.nameTaken (id + 1))
  | 4, 0 => .ok .unknownJournal
  | 5, 0 => .ok .unplaceable
  | 7, id + 1 => .ok (.tagged (id + 1))
  | 6, 0 => .ok (.configured none)
  | 6, id + 1 => .ok (.configured (some (id + 1)))
  | _, _ => .error "an outcome state is out of range"

/-- The journal that an outcome names. -/
def journal? : RequestOutcome → Option JournalId
  | created id | deleted id | nameTaken id | tagged id => some id
  | configured id => id
  | unknownJournal | unplaceable => none

theorem fromWire_toWire (request : Nat) (outcome : RequestOutcome) (set : outcome.journal? ≠ some 0)
    : fromWire (toWire (request, outcome)) = .ok outcome := by
  cases outcome with
  | unknownJournal | unplaceable => rfl
  | created id | deleted id | nameTaken id | tagged id =>
    cases id with
    | zero => exact absurd rfl set
    | succ id => rfl
  | configured id =>
    cases id with
    | none => rfl
    | some id =>
      cases id with
      | zero => exact absurd rfl set
      | succ id => rfl

end RequestOutcome

-- Scrubbing

/-- One pass's counts. -/
structure ScrubCounts where
  checked : Nat
  damaged : Nat
  repaired : Nat
  mismatched : Nat
  deriving DecidableEq, Repr

/-- Where the scrubber stands and what it found, as a record of the journal names it. -/
structure ScrubProgress where
  pass : Nat
  done : Bool
  journal : JournalId
  nextSlot : Nat
  counts : ScrubCounts
  damagedTotal : Nat
  repairedTotal : Nat
  mismatchedTotal : Nat
  late : Bool
  started : pass ≠ 0
  finished : ¬(done ∧ (journal ≠ 0 ∨ nextSlot ≠ 0))
  adding : ¬(counts.damaged < counts.repaired ∨ damagedTotal < counts.damaged
    ∨ repairedTotal < counts.repaired ∨ mismatchedTotal < counts.mismatched)
  deriving DecidableEq

namespace ScrubProgress

def doneKey (done : Bool) : Nat := if done then 1 else 0

/-- The fold's order of records: by pass, then unfinished before finished, then by journal and
slot.
-/
def cursor (progress : ScrubProgress) : ℕ ×ₗ (ℕ ×ₗ (ℕ ×ₗ ℕ)) :=
  toLex (progress.pass,
    toLex (doneKey progress.done, toLex (progress.journal, progress.nextSlot)))

def toWire (progress : ScrubProgress) : Wire.Tenant.Scrubbed :=
  ⟨progress.pass, progress.done, progress.journal, progress.nextSlot, progress.counts.checked,
    progress.counts.damaged, progress.counts.repaired, progress.counts.mismatched,
    progress.damagedTotal, progress.repairedTotal, progress.mismatchedTotal, progress.late⟩

def fromWire (scrubbed : Wire.Tenant.Scrubbed) : Except String ScrubProgress :=
  if started : scrubbed.pass = 0 then .error "a scrub record names its pass"
  else if finished : scrubbed.done ∧ (scrubbed.journal ≠ 0 ∨ scrubbed.nextSlot ≠ 0) then
    .error "a finished pass names no journal"
  else if adding : scrubbed.damaged < scrubbed.repaired ∨ scrubbed.damagedTotal < scrubbed.damaged
      ∨ scrubbed.repairedTotal < scrubbed.repaired
      ∨ scrubbed.mismatchedTotal < scrubbed.mismatched then
    .error "a scrub record's counts do not add up"
  else
    .ok ⟨scrubbed.pass, scrubbed.done, scrubbed.journal, scrubbed.nextSlot,
      ⟨scrubbed.checked, scrubbed.damaged, scrubbed.repaired, scrubbed.mismatched⟩,
      scrubbed.damagedTotal, scrubbed.repairedTotal, scrubbed.mismatchedTotal, scrubbed.late,
      started, finished, adding⟩

theorem fromWire_toWire (progress : ScrubProgress) : fromWire progress.toWire = .ok progress :=
  (dif_neg progress.started).trans ((dif_neg progress.finished).trans (dif_neg progress.adding))

end ScrubProgress

end Paros
