import Paros.Tenant.Control

/-! What one record can do to a tenant's control fold, and what the fold's maps hold together. -/

namespace Paros

open OrderedMap

/-- What a journal keeps for life: its name, its writer mode, its first configuration and its store.
A deleted journal stays as it is.
-/
structure TenantJournal.Continues (before after : TenantJournal) : Prop where
  name : after.name = before.name
  writer : after.writer = before.writer
  config : after.config = before.config
  store : after.store = before.store
  buried : before.isLive = false → after = before

namespace TenantJournal.Continues

theorem refl (journal : TenantJournal) : Continues journal journal :=
  ⟨rfl, rfl, rfl, rfl, fun _ => rfl⟩

theorem trans {before middle after : TenantJournal} (first : Continues before middle)
    (second : Continues middle after)
    : Continues before after where
  name := second.name.trans first.name
  writer := second.writer.trans first.writer
  config := second.config.trans first.config
  store := second.store.trans first.store
  buried dead := by
    have same := first.buried dead
    subst same
    exact second.buried dead

end TenantJournal.Continues

namespace TenantControl

variable {codec : TenantCodec} {control : TenantControl} {result : TenantControl × TenantEvent}

-- Changes

/-- The effects of one record. Every answer is a request's first. -/
inductive Change (control : TenantControl) : TenantControl × TenantEvent → Prop where
  | kept (event : TenantEvent) (quiet : event.answer? = none) : Change control (control, event)
  | described (description : Description) (own : description.tenant = control.tenant)
    : Change control ({ control with description := some description }, .described)
  | answered {request : Nat} {outcome : RequestOutcome} (asked : request ≠ 0)
    (first : control.outcomes[request]? = none)
    (known : ∀ id, outcome.journal? = some id → (control.journals[id]?).isSome)
    : Change control (control.answer request outcome)
  | created {request : Nat} {id : JournalId} {name : Bytes} {writer : WriterMode}
    {desired : Desired} {config : JournalConfig} {tags : UserTags} {store : StoreDurability}
    (asked : request ≠ 0) (first : control.outcomes[request]? = none) (set : id ≠ 0)
    (untaken : control.isTaken id = false) (unnamed : control.names[name]? = none)
    : Change control
        ({ (control.putJournal id
              ⟨name, writer, desired, config, config, none, tags, store⟩).record request
              (.created id) with
            names := control.names.insert name id },
          .created request id name config writer store desired)
  | deleted {seq request : Nat} {id : JournalId} {journal : TenantJournal} (asked : request ≠ 0)
    (first : control.outcomes[request]? = none) (held : control.live? id = some journal)
    : Change control
        ({ (control.putJournal id { journal with deletedAt := some seq }).record request
              (.deleted id) with
            names := control.names.erase journal.name },
          .deleted request id)
  | amended {request : Nat} {id : JournalId} {journal after : TenantJournal}
    {outcome : RequestOutcome} {event : TenantEvent} (asked : request ≠ 0)
    (first : control.outcomes[request]? = none) (held : control.live? id = some journal)
    (continued : journal.Continues after) (lives : after.isLive)
    (answers : event.answer? = some (request, outcome)) (uncreated : event.created? = none)
    (names : outcome.journal? = some id)
    : Change control ((control.putJournal id after).record request outcome, event)
  | defaulted {request : Nat} (desired : Desired) (roles : TenantRoles) (asked : request ≠ 0)
    (first : control.outcomes[request]? = none)
    : Change control
        ({ control.record request (.configured none) with default := some desired, roles := roles },
          .configured request none desired)
  | placed {id : JournalId} {journal : TenantJournal} (config : JournalConfig)
    (held : control.live? id = some journal)
    : Change control (control.putJournal id { journal with placed := config }, .placed id config)
  | scrubbed (progress : ScrubProgress)
    : Change control ({ control with scrub := some progress }, .scrubbed progress)

variable {id : JournalId}

theorem live?_eq_some {journal : TenantJournal}
    : control.live? id = some journal ↔ control.journals[id]? = some journal ∧ journal.isLive := by
  rw [live?, Option.filter_eq_some_iff]

variable {journal after : TenantJournal}

/-- A live journal with other tags, another mode or another placement is the same journal. -/
theorem continues_of_live
    (held : control.live? id = some journal) (name : after.name = journal.name)
    (writer : after.writer = journal.writer) (config : after.config = journal.config)
    (store : after.store = journal.store)
    : journal.Continues after := by
  refine ⟨name, writer, config, store, fun dead => ?_⟩
  rw [(live?_eq_some.mp held).2] at dead
  cases dead

variable {request : Nat}

theorem once_change {act : TenantControl × TenantEvent}
    (acts : request ≠ 0 → control.outcomes[request]? = none → Change control act)
    : Change control (control.once request act) := by
  fun_cases once control request act
  case case3 asked first => exact acts asked first
  all_goals exact .kept _ rfl

theorem answer_unknown (asked : request ≠ 0) (first : control.outcomes[request]? = none)
    : Change control (control.answer request .unknownJournal) :=
  .answered asked first fun _ names => by cases names

theorem describe_change (description : Description)
    : Change control (control.describe description) := by
  fun_cases describe control description
  case case2 own _ => exact .described description (not_not.mp own)
  all_goals exact .kept _ rfl

-- What the maps hold together

/-- The names are the live journals' and theirs only; the control journal and the unset id are no
journals of the tenant; an outcome is recorded under a set id and names a journal that was created.
-/
structure Sound (control : TenantControl) : Prop where
  apart : control.journals[control.control]? = none
  set : control.journals[0]? = none
  named : ∀ (name : Bytes) (id : JournalId), control.names[name]? = some id
    ↔ ∃ journal, control.journals[id]? = some journal ∧ journal.isLive ∧ journal.name = name
  asked : control.outcomes[0]? = none
  known : ∀ (request : Nat) (outcome : RequestOutcome), control.outcomes[request]? = some outcome
    → ∀ id, outcome.journal? = some id → (control.journals[id]?).isSome
  described : ∀ description, control.description = some description
    → description.tenant = control.tenant

theorem new_sound (tenant : TenantId) (id : JournalId) (owned : tenant ≠ 0) (numbered : id ≠ 0)
    : Sound (new tenant id owned numbered) := by
  constructor <;> simp [new]

theorem advance_sound (ok : Sound control) (seq : Nat) : Sound (control.advance seq) :=
  { ok with }

theorem Sound.holder_known (ok : Sound control) {name : Bytes} {holder : JournalId}
    (held : control.names[name]? = some holder)
    : (control.journals[holder]?).isSome := by
  obtain ⟨journal, there, _⟩ := (ok.named name holder).mp held
  simp [there]

theorem Sound.answer_taken (ok : Sound control) {name : Bytes} {holder : JournalId}
    (asked : request ≠ 0) (first : control.outcomes[request]? = none)
    (held : control.names[name]? = some holder)
    : Change control (control.answer request (.nameTaken holder)) := by
  refine .answered asked first fun id names => ?_
  cases names
  exact ok.holder_known held

theorem Sound.create_change (ok : Sound control) (request : Nat) (id : JournalId) (name : Bytes)
    (writer : WriterMode) (desired : Desired) (config : JournalConfig) (tags : UserTags)
    (store : StoreDurability)
    : Change control (control.create request id name writer desired config tags store) := by
  rw [create]
  split_ifs with unset taken
  · exact .kept _ rfl
  · exact once_change fun _ _ => .kept _ rfl
  · refine once_change fun asked first => ?_
    cases unnamed : control.names[name]? with
    | some holder => exact ok.answer_taken asked first unnamed
    | none => exact .created asked first unset (by simpa using taken) unnamed

theorem Sound.refuse_change (ok : Sound control) (request : Nat) (name : Bytes)
    : Change control (control.refuse request name) := by
  refine once_change fun asked first => ?_
  cases held : control.names[name]? with
  | some holder => exact ok.answer_taken asked first held
  | none => exact .answered asked first fun _ names => by cases names

theorem delete_change (seq request : Nat) (id : JournalId)
    : Change control (control.delete seq request id) := by
  refine once_change fun asked first => ?_
  cases held : control.live? id with
  | none => exact answer_unknown asked first
  | some journal => exact .deleted asked first held

theorem setTags_change (request : Nat) (id : JournalId) (tags : UserTags)
    : Change control (control.setTags request id tags) := by
  refine once_change fun asked first => ?_
  cases held : control.live? id with
  | none => exact answer_unknown asked first
  | some journal =>
    exact .amended asked first held (continues_of_live held rfl rfl rfl rfl)
      (live?_eq_some.mp held).2 rfl rfl rfl

theorem configure_change (request : Nat) (target : ConfigureTarget) (desired : Desired)
    (roles : Option TenantRoles)
    : Change control (control.configure request target desired roles) := by
  refine once_change fun asked first => ?_
  cases target with
  | tenantDefault => exact .defaulted desired _ asked first
  | journal id =>
    dsimp only
    split_ifs
    · exact .kept _ rfl
    · cases held : control.live? id with
      | none => exact answer_unknown asked first
      | some journal =>
        exact .amended asked first held (continues_of_live held rfl rfl rfl rfl)
          (live?_eq_some.mp held).2 rfl rfl rfl

theorem place_change (id : JournalId) (config : JournalConfig)
    : Change control (control.place id config) := by
  rw [place]
  cases held : control.live? id with
  | none => exact .kept _ rfl
  | some journal => exact .placed config held

theorem scrubbed_change (progress : ScrubProgress)
    : Change control (control.scrubbed progress) := by
  rw [TenantControl.scrubbed]
  split
  · exact .kept _ rfl
  · exact .scrubbed progress

theorem Sound.act_change (ok : Sound control) (seq : Nat) (command : TenantCommand)
    : Change control (control.act seq command) := by
  cases command with
  | describe description => exact describe_change description
  | createJournal => exact ok.create_change ..
  | deleteJournal request id => exact delete_change seq request id
  | unplaceable request name => exact ok.refuse_change request name
  | setJournalTags request id tags => exact setTags_change request id tags
  | configure request target desired roles => exact configure_change request target desired roles
  | placed id config => exact place_change id config
  | scrubbed progress => exact scrubbed_change progress

theorem Sound.fold_change (ok : Sound control) (codec : TenantCodec) (seq : Nat) (record : Bytes)
    : Change (control.advance seq) (control.fold codec seq record) := by
  rw [fold]
  cases TenantCommand.decode codec record with
  | error refusal => exact .kept _ rfl
  | ok command => exact (advance_sound ok seq).act_change seq command

-- What a change keeps

theorem isTaken_eq_false
    : control.isTaken id = false ↔ id ≠ control.control ∧ control.journals[id]? = none := by
  simp only [isTaken, Bool.or_eq_false_iff, decide_eq_false_iff_not, ne_eq,
    Option.isSome_eq_false_iff, Option.isNone_iff_eq_none]

/-- A put of a live journal leaves the names as they are. -/
theorem Sound.named_put (ok : Sound control)
    (held : control.live? id = some journal) (name : after.name = journal.name)
    (lives : after.isLive)
    : ∀ (label : Bytes) (other : JournalId), control.names[label]? = some other
      ↔ ∃ found, (control.journals.insert id after)[other]? = some found ∧ found.isLive
        ∧ found.name = label := by
  intro label other
  obtain ⟨there, live⟩ := live?_eq_some.mp held
  rw [ok.named, getElem?_insert]
  split_ifs with same
  · subst same
    simp [there, live, lives, name]
  · rfl

/-- A put of a held journal holds the journals that were held. -/
theorem isSome_put {id other : JournalId} (held : control.live? id = some journal)
    : ((control.journals.insert id after)[other]?).isSome ↔ (control.journals[other]?).isSome := by
  rw [getElem?_insert]
  split_ifs with same
  · simp [← same, (live?_eq_some.mp held).1]
  · rfl

theorem put_eq_none {id other : JournalId}
    (held : control.live? id = some journal) (missing : control.journals[other]? = none)
    : (control.journals.insert id after)[other]? = none := by
  rw [getElem?_insert, if_neg]
  · exact missing
  · rintro rfl
    rw [(live?_eq_some.mp held).1] at missing
    cases missing

/-- A fresh journal under a free name. -/
theorem Sound.named_fresh (ok : Sound control) (journal : TenantJournal)
    (fresh : control.journals[id]? = none) (unnamed : control.names[journal.name]? = none)
    (lives : journal.isLive)
    : ∀ (label : Bytes) (other : JournalId),
        (control.names.insert journal.name id)[label]? = some other
        ↔ ∃ found, (control.journals.insert id journal)[other]? = some found ∧ found.isLive
          ∧ found.name = label := by
  intro label other
  rw [getElem?_insert, getElem?_insert]
  by_cases same : id = other
  · subst same
    rw [if_pos rfl]
    constructor
    · intro held
      split_ifs at held with this
      · exact ⟨journal, rfl, lives, this⟩
      · obtain ⟨_, there, _⟩ := (ok.named label id).mp held
        rw [fresh] at there
        cases there
    · rintro ⟨_, found, _, named⟩
      cases found
      rw [if_pos named]
  · rw [if_neg same, ← ok.named]
    split_ifs with this
    · subst this
      rw [unnamed]
      simp [same]
    · rfl

/-- A live journal that dies gives its name up. -/
theorem Sound.named_buried (ok : Sound control)
    (held : control.live? id = some journal) (dead : after.isLive = false)
    : ∀ (label : Bytes) (other : JournalId),
        (control.names.erase journal.name)[label]? = some other
        ↔ ∃ found, (control.journals.insert id after)[other]? = some found ∧ found.isLive
          ∧ found.name = label := by
  intro label other
  obtain ⟨there, lives⟩ := live?_eq_some.mp held
  have owned := (ok.named journal.name id).mpr ⟨journal, there, lives, rfl⟩
  rw [getElem?_insert, getElem?_erase]
  by_cases same : id = other
  · subst same
    rw [if_pos rfl]
    constructor
    · intro found
      split_ifs at found with this
      obtain ⟨again, held', _, named⟩ := (ok.named label id).mp found
      cases there.symm.trans held'
      exact absurd named this
    · rintro ⟨_, found, alive, _⟩
      cases found
      rw [dead] at alive
      cases alive
  · rw [if_neg same, ← ok.named]
    split_ifs with this
    · rw [← this, owned]
      simp [same]
    · rfl

theorem Sound.asked_record (ok : Sound control) (asked : request ≠ 0) (outcome : RequestOutcome)
    : (control.outcomes.insert request outcome)[0]? = none := by
  rw [getElem?_insert, if_neg asked]
  exact ok.asked

variable {outcome : RequestOutcome}

/-- A recorded outcome names a journal that was created, where the journals only grow. -/
theorem Sound.known_record (ok : Sound control) {journals : OrderedMap JournalId TenantJournal}
    (grows : ∀ id : JournalId, (control.journals[id]?).isSome → (journals[id]?).isSome)
    (known : ∀ id, outcome.journal? = some id → (journals[id]?).isSome)
    : ∀ (asked : Nat) (found : RequestOutcome),
        (control.outcomes.insert request outcome)[asked]? = some found
        → ∀ id, found.journal? = some id → (journals[id]?).isSome := by
  intro asked found there id names
  rw [getElem?_insert] at there
  split_ifs at there
  · cases there
    exact known id names
  · exact grows id (ok.known asked found there id names)

/-- An outcome that names the journal put. -/
theorem Sound.known_put (ok : Sound control) (names : outcome.journal? = some id)
    : ∀ (asked : Nat) (found : RequestOutcome),
        (control.outcomes.insert request outcome)[asked]? = some found
        → ∀ other, found.journal? = some other → ((control.journals.insert id after)[other]?).isSome :=
  ok.known_record (fun _ => isSome_insert) fun other named => by
    cases names.symm.trans named
    simp

theorem Change.sound (change : Change control result) (ok : Sound control) : Sound result.1 := by
  cases change with
  | kept => exact ok
  | described description own =>
    exact { ok with described := fun found there => by cases there; exact own }
  | answered asked first known =>
    exact { ok with
      asked := ok.asked_record asked _
      known := ok.known_record (fun _ => id) known }
  | @created request id name writer desired config tags store asked first set untaken unnamed =>
    obtain ⟨other, fresh⟩ := isTaken_eq_false.mp untaken
    refine ⟨?_, ?_, ok.named_fresh ⟨name, writer, desired, config, config, none, tags, store⟩ fresh
        unnamed rfl, ok.asked_record asked _, ok.known_put rfl, ok.described⟩
    · exact (getElem?_insert ..).trans ((if_neg other).trans ok.apart)
    · exact (getElem?_insert ..).trans ((if_neg set).trans ok.set)
  | @deleted seq request id journal asked first held =>
    exact ⟨put_eq_none held ok.apart, put_eq_none held ok.set, ok.named_buried held rfl,
      ok.asked_record asked _, ok.known_put rfl, ok.described⟩
  | @amended request id journal after outcome event asked first held continued lives answers
      uncreated names =>
    exact ⟨put_eq_none held ok.apart, put_eq_none held ok.set,
      ok.named_put held continued.name lives, ok.asked_record asked _, ok.known_put names, ok.described⟩
  | defaulted desired roles asked first =>
    exact { ok with
      asked := ok.asked_record asked _
      known := ok.known_record (fun _ => id) fun _ names => by cases names }
  | placed config held =>
    exact { ok with
      apart := put_eq_none held ok.apart
      set := put_eq_none held ok.set
      named := ok.named_put held rfl (live?_eq_some.mp held).2
      known := fun asked found there late named =>
        isSome_insert (ok.known asked found there late named) }
  | scrubbed => exact { ok with }

/-- The outcomes after a record: those from before, and the event's answer, which is a first one. -/
structure Recorded (before after : OrderedMap Nat RequestOutcome) (event : TenantEvent) : Prop where
  grown : ∀ (request : Nat) (outcome : RequestOutcome), after[request]? = some outcome
    ↔ before[request]? = some outcome ∨ event.answer? = some (request, outcome)
  first : ∀ (request : Nat) (outcome : RequestOutcome), event.answer? = some (request, outcome)
    → before[request]? = none

theorem Change.recorded (change : Change control result)
    : Recorded control.outcomes result.1.outcomes result.2 := by
  have silent : ∀ {event : TenantEvent}, event.answer? = none
      → Recorded control.outcomes control.outcomes event :=
    fun quiet => ⟨by simp [quiet], by simp [quiet]⟩
  have spoken : ∀ {event : TenantEvent} {asked : Nat} {given : RequestOutcome},
      event.answer? = some (asked, given) → control.outcomes[asked]? = none
      → Recorded control.outcomes (control.outcomes.insert asked given) event := by
    intro event asked given answers first
    refine ⟨fun request outcome => ?_, fun request outcome again => ?_⟩
    · rw [getElem?_insert_fresh first, answers, Option.some.injEq, Prod.mk.injEq,
        @eq_comm _ asked, @eq_comm _ given]
    · cases answers.symm.trans again
      exact first
  cases change with
  | kept event quiet => exact silent quiet
  | described | placed | scrubbed => exact silent rfl
  | answered asked first known => exact spoken rfl first
  | created asked first set untaken unnamed => exact spoken rfl first
  | deleted asked first held => exact spoken rfl first
  | amended asked first held continued lives answers => exact spoken answers first
  | defaulted desired roles asked first => exact spoken rfl first

/-- The journals after a record: those from before, and the one it created, if any, under an id
that no journal had.
-/
structure Created (before after : OrderedMap JournalId TenantJournal) (event : TenantEvent)
    : Prop where
  grown : ∀ id : JournalId, (after[id]?).isSome ↔ (before[id]?).isSome ∨ event.created? = some id
  fresh : ∀ id : JournalId, event.created? = some id → before[id]? = none

theorem Change.held (change : Change control result)
    : Created control.journals result.1.journals result.2 := by
  have none : ∀ {event : TenantEvent}, event.created? = none
      → ∀ {journals : OrderedMap JournalId TenantJournal},
        (∀ id : JournalId, (journals[id]?).isSome ↔ (control.journals[id]?).isSome)
      → Created control.journals journals event := by
    intro event uncreated journals same
    exact ⟨fun id => (same id).trans (by simp [uncreated]), by simp [uncreated]⟩
  cases change with
  | kept event quiet =>
    refine none ?_ fun _ => Iff.rfl
    cases event <;> first | rfl | cases quiet
  | described | answered | defaulted | scrubbed => exact none rfl fun _ => Iff.rfl
  | deleted asked first held => exact none rfl fun _ => isSome_put held
  | amended asked first held continued lives answers uncreated =>
    exact none uncreated fun _ => isSome_put held
  | placed config held => exact none rfl fun _ => isSome_put held
  | @created request id name writer desired config tags store asked first set untaken unnamed =>
    have fresh := (isTaken_eq_false.mp untaken).2
    refine ⟨fun late => ?_, fun late made => ?_⟩
    · simp only [putJournal, record, getElem?_insert, TenantEvent.created?,
        Option.some.injEq]
      split_ifs with same <;> simp [same]
    · cases made
      exact fresh

-- What stays

/-- What a later fold keeps of an earlier one: every outcome, and every journal as itself. -/
structure Later (before after : TenantControl) : Prop where
  tenant : after.tenant = before.tenant
  control : after.control = before.control
  outcomes : ∀ (request : Nat) (outcome : RequestOutcome),
    before.outcomes[request]? = some outcome → after.outcomes[request]? = some outcome
  journals : ∀ (id : JournalId) (journal : TenantJournal), before.journals[id]? = some journal
    → ∃ kept, after.journals[id]? = some kept ∧ journal.Continues kept

theorem Later.refl (control : TenantControl) : Later control control :=
  ⟨rfl, rfl, fun _ _ => id, fun _ journal held => ⟨journal, held, .refl journal⟩⟩

theorem Later.trans {before middle after : TenantControl} (first : Later before middle)
    (second : Later middle after)
    : Later before after where
  tenant := second.tenant.trans first.tenant
  control := second.control.trans first.control
  outcomes request outcome held :=
    second.outcomes request outcome (first.outcomes request outcome held)
  journals id journal held := by
    obtain ⟨kept, there, same⟩ := first.journals id journal held
    obtain ⟨last, found, again⟩ := second.journals id kept there
    exact ⟨last, found, same.trans again⟩

/-- A put of a journal that continues the held one. -/
theorem continues_put (held : control.live? id = some journal) (continued : journal.Continues after)
    : ∀ (other : JournalId) (before : TenantJournal), control.journals[other]? = some before
      → ∃ kept, (control.journals.insert id after)[other]? = some kept
        ∧ before.Continues kept := by
  intro other before there
  rw [getElem?_insert]
  split_ifs with same
  · subst same
    cases (live?_eq_some.mp held).1.symm.trans there
    exact ⟨after, rfl, continued⟩
  · exact ⟨before, there, .refl before⟩

theorem Change.later (change : Change control result) : Later control result.1 := by
  have outcomes := fun request outcome held => (change.recorded.1 request outcome).mpr (.inl held)
  cases change with
  | kept => exact .refl control
  | described | answered | defaulted | scrubbed =>
    exact ⟨rfl, rfl, outcomes, fun _ journal held => ⟨journal, held, .refl journal⟩⟩
  | @created request id name writer desired config tags store asked first set untaken unnamed =>
    refine ⟨rfl, rfl, outcomes, fun other journal held => ⟨journal, ?_, .refl journal⟩⟩
    exact (getElem?_insert_fresh (isTaken_eq_false.mp untaken).2).mpr (.inl held)
  | deleted asked first held =>
    exact ⟨rfl, rfl, outcomes, continues_put held (continues_of_live held rfl rfl rfl rfl)⟩
  | amended asked first held continued =>
    exact ⟨rfl, rfl, outcomes, continues_put held continued⟩
  | placed config held =>
    exact ⟨rfl, rfl, outcomes, continues_put held (continues_of_live held rfl rfl rfl rfl)⟩

-- Repeats

theorem once_repeated
    (answered : control.outcomes[request]? = some outcome) (act : TenantControl × TenantEvent)
    : (control.once request act).1 = control := by
  rw [once, answered]
  split <;> rfl

/-- A command under an id that has its answer changes nothing. -/
theorem act_repeated {command : TenantCommand} (asks : command.request? = some request)
    (answered : control.outcomes[request]? = some outcome) (seq : Nat)
    : (control.act seq command).1 = control := by
  cases command with
  | describe | placed | scrubbed => cases asks
  | createJournal =>
    cases asks
    rw [act, create]
    split
    · rfl
    · exact once_repeated answered _
  | deleteJournal | unplaceable | setJournalTags | configure =>
    cases asks
    exact once_repeated answered _

theorem fold_repeated {seq request : Nat} {record : Bytes} {command : TenantCommand}
    (read : TenantCommand.decode codec record = .ok command)
    (asks : command.request? = some request)
    (answered : control.outcomes[request]? = some outcome)
    : (control.fold codec seq record).1 = control.advance seq := by
  have answered' : (control.advance seq).outcomes[request]? = some outcome := answered
  rw [fold, read]
  exact act_repeated asks answered' seq

end TenantControl

end Paros
