import Paros.Tenant.Change

/-! Tenant control folds over whole histories of records, checkpoints and restores: a request acts
once, and a journal's id and name are its own.
-/

namespace Paros

open OrderedMap

section Firsts

variable {α β γ : Type*} {pick : α → Option β} {items : List α} {last : α}

theorem List.mem_filterMap_concat {picked : β}
    : picked ∈ (items ++ [last]).filterMap pick
      ↔ picked ∈ items.filterMap pick ∨ pick last = some picked := by
  simp only [List.filterMap_append, List.mem_append, List.mem_filterMap, List.mem_singleton,
    exists_eq_left]

/-- What is picked is picked once, when the last item picks nothing of an earlier key. -/
theorem List.nodup_filterMap_concat (key : β → γ) (once : ((items.filterMap pick).map key).Nodup)
    (fresh : ∀ picked, pick last = some picked → ∀ earlier ∈ items.filterMap pick,
      key earlier ≠ key picked)
    : (((items ++ [last]).filterMap pick).map key).Nodup := by
  rw [List.filterMap_append, List.map_append]
  cases found : pick last with
  | none => simpa [List.filterMap_cons, found] using once
  | some picked =>
    simp only [List.filterMap_cons, found, List.filterMap_nil, List.map_cons, List.map_nil]
    refine List.nodup_append.mpr ⟨once, List.nodup_singleton _, fun _ there _ last => ?_⟩
    obtain ⟨earlier, member, rfl⟩ := List.mem_map.mp there
    rw [List.mem_singleton.mp last]
    exact fresh picked found earlier member

end Firsts

namespace TenantControl

variable {codec : TenantCodec} {control : TenantControl}

-- The asserted invariants

/-- There are as many names as live journals: both list the live ids, each once. -/
theorem Sound.countP_isLive (ok : Sound control)
    : (control.journals.toList.countP fun (_, journal) => journal.isLive) = control.names.size := by
  have distinct : ((control.journals.toList.filter fun (_, journal) => journal.isLive).map
      Prod.fst).Nodup := by
    refine List.Nodup.sublist (List.filter_sublist.map _) ?_
    exact Std.ExtTreeMap.map_fst_toList_eq_keys (t := control.journals) ▸ Std.ExtTreeMap.nodup_keys
  have once : (control.names.toList.map Prod.snd).Nodup := by
    refine List.Nodup.map_on ?_ ((Std.ExtTreeMap.map_fst_toList_eq_keys (t := control.names) ▸
      Std.ExtTreeMap.nodup_keys : (control.names.toList.map Prod.fst).Nodup).of_map _)
    rintro ⟨name, id⟩ first ⟨other, _⟩ second rfl
    obtain ⟨journal, held, _, called⟩ := (ok.named name id).mp (mem_toList.mp first)
    obtain ⟨again, there, _, named⟩ := (ok.named other id).mp (mem_toList.mp second)
    cases held.symm.trans there
    rw [← called, ← named]
  have same : ((control.journals.toList.filter fun (_, journal) => journal.isLive).map
      Prod.fst).Perm (control.names.toList.map Prod.snd) := by
    refine (List.perm_ext_iff_of_nodup distinct once).mpr fun id => ?_
    simp only [List.mem_map, List.mem_filter, Prod.exists, exists_and_right, exists_eq_right]
    constructor
    · rintro ⟨journal, held, lives⟩
      exact ⟨journal.name, mem_toList.mpr
        ((ok.named _ id).mpr ⟨journal, mem_toList.mp held, lives, rfl⟩)⟩
    · rintro ⟨name, named⟩
      obtain ⟨journal, held, lives, _⟩ := (ok.named name id).mp (mem_toList.mp named)
      exact ⟨journal, mem_toList.mpr held, lives⟩
  have length := same.length_eq
  rwa [List.length_map, List.length_map, Std.ExtTreeMap.length_toList, ← List.countP_eq_length_filter]
    at length

theorem Sound.assertInvariants (ok : Sound control) : control.assertInvariants = true := by
  simp only [TenantControl.assertInvariants, Bool.and_eq_true, List.all_eq_true, beq_iff_eq]
  refine ⟨⟨by rw [ok.apart]; rfl, ?_⟩, ok.countP_isLive⟩
  rintro ⟨name, id⟩ member
  obtain ⟨journal, held, lives, named⟩ := (ok.named name id).mp (mem_toList.mp member)
  simp only [held, Option.any_some, Bool.and_eq_true, beq_iff_eq]
  exact ⟨lives, named⟩

-- Restores

theorem readPart_map {α β : Type} {read : α → Except String β} {write : β → α} {part : Option β}
    (each : ∀ value, part = some value → read (write value) = .ok value)
    : readPart read (part.map write) = .ok part := by
  cases part with
  | none => rfl
  | some value =>
    rw [Option.map_some, readPart, each value rfl]
    rfl

theorem Sound.journals_read_back (ok : Sound control) {receiver : TenantControl}
    (same : receiver.control = control.control)
    : (control.journals.toList.map TenantJournal.toWire).foldlM receiver.readJournal (∅, ∅)
      = .ok (control.journals, control.names) := by
  refine OrderedMap.foldlM_indexed TenantJournal.name (·.isLive) receiver.readJournal
    TenantJournal.toWire ok.named fun id journal journals names held free => ?_
  have set : ¬(id = 0 ∨ id = receiver.control) := by
    rintro (rfl | rfl)
    · rw [ok.set] at held
      cases held
    · rw [same, ok.apart] at held
      cases held
  have lives : (TenantJournal.deletedFromWire (TenantJournal.toWire (id, journal)).deletedAt).isNone
      = journal.isLive :=
    congrArg Option.isNone (TenantJournal.deletedFromWire_toWire journal.deletedAt)
  have unnamed : ¬(journal.isLive ∧ (names[journal.name]?).isSome) := by
    rintro ⟨alive, taken⟩
    rw [free alive] at taken
    cases taken
  rw [readJournal, lives, TenantJournal.fromWire_toWire]
  simp only [TenantJournal.toWire, bind, Except.bind, pure, Except.pure]
  exact (if_neg set).trans (if_neg unnamed)

theorem Sound.outcomes_read_back (ok : Sound control)
    : readAll readOutcome (control.outcomes.toList.map RequestOutcome.toWire)
      = .ok control.outcomes := by
  refine readAll_toList fun request outcome held => ?_
  have asked : request ≠ 0 := by
    rintro rfl
    rw [ok.asked] at held
    cases held
  have named : outcome.journal? ≠ some 0 := by
    intro unset
    have known := ok.known request outcome held 0 unset
    rw [ok.set] at known
    cases known
  have written : (RequestOutcome.toWire (request, outcome)).request = request := by
    cases outcome <;> rfl
  rw [readOutcome, RequestOutcome.fromWire_toWire request outcome named, written]
  simp only [if_neg asked, bind, Except.bind, pure, Except.pure]

theorem roles_read_back (roles : TenantRoles)
    : ∃ found, readPart TenantRoles.fromWire
          (if roles ≠ Inhabited.default then some roles.frontends else none) = .ok found
        ∧ found.getD Inhabited.default = roles := by
  split
  case isTrue =>
    exact ⟨some roles, congrArg (Except.map some) roles.fromWire_frontends, rfl⟩
  case isFalse same => exact ⟨none, rfl, (not_not.mp same).symm⟩

/-- A sound fold's checkpoint is restored, at any position and into any fold of the same journal,
to the fold itself.
-/
theorem Sound.restore_checkpoint (ok : Sound control) {receiver : TenantControl}
    (tenant : receiver.tenant = control.tenant) (journal : receiver.control = control.control)
    (coversUpTo : Nat)
    : receiver.restore codec coversUpTo (control.checkpoint codec)
      = ({ control with nextSeq := coversUpTo + 1 }, .ok ()) := by
  have description : readPart Description.fromWire (control.description.map Description.toWire)
      = .ok control.description :=
    readPart_map fun held there =>
      held.fromWire_toWire (ok.described held there ▸ control.owned)
  have own : ¬(control.description.any (·.tenant ≠ receiver.tenant)) = true := by
    cases there : control.description with
    | none => simp
    | some held => simp [ok.described held there, tenant]
  have default : readPart (fun desired => Desired.fromWire (some desired))
      (control.default.map Desired.toWire) = .ok control.default :=
    readPart_map fun desired _ => desired.fromWire_toWire
  have scrub : readPart ScrubProgress.fromWire (control.scrub.map ScrubProgress.toWire)
      = .ok control.scrub :=
    readPart_map fun progress _ => progress.fromWire_toWire
  obtain ⟨roles, read, counts⟩ := roles_read_back control.roles
  rw [restore, checkpoint, codec.decodeState_encodeState]
  simp only [readState, stateToWire, description, ok.journals_read_back journal,
    ok.outcomes_read_back, default, read, counts, scrub, bind, Except.bind, if_neg own, pure,
    Except.pure]
  obtain ⟨⟩ := receiver
  cases tenant
  cases journal
  rfl

-- Histories

/-- The folds that a fold comes to, with the events on the way: records are folded in position
order, and at any point the fold's checkpoint may be restored, at any position and into any fold of
the same journal.
-/
inductive Run (codec : TenantCodec) (first : TenantControl)
    : List TenantEvent → TenantControl → Prop where
  | stay : Run codec first [] first
  | fold {events : List TenantEvent} {control : TenantControl} (run : Run codec first events control)
    (seq : Nat) (record : Bytes) (order : control.nextSeq ≤ seq)
    : Run codec first (events ++ [(control.fold codec seq record).2])
        (control.fold codec seq record).1
  | restore {events : List TenantEvent} {control : TenantControl}
    (run : Run codec first events control) (receiver : TenantControl) (coversUpTo : Nat)
    (tenant : receiver.tenant = control.tenant) (journal : receiver.control = control.control)
    : Run codec first events (receiver.restore codec coversUpTo (control.checkpoint codec)).1

namespace Run

variable {first : TenantControl} {events : List TenantEvent}

variable (run : Run codec first events control) (ok : Sound first)
include run ok

theorem sound : Sound control := by
  induction run with
  | stay => exact ok
  | fold run seq record order ih =>
    exact (ih.fold_change codec seq record).sound (advance_sound ih seq)
  | restore run receiver coversUpTo tenant journal ih =>
    rw [ih.restore_checkpoint tenant journal]
    exact { ih with }

theorem later : Later first control := by
  induction run with
  | stay => exact .refl first
  | fold run seq record order ih =>
    have change := ((run.sound ok).fold_change codec seq record).later
    exact ih.trans { change with }
  | restore run receiver coversUpTo tenant journal ih =>
    rw [(run.sound ok).restore_checkpoint tenant journal]
    exact ih.trans ⟨rfl, rfl, fun _ _ => id, fun _ held there => ⟨held, there, .refl held⟩⟩

/-- The outcomes of a history are the answers among its events, one for each request. -/
theorem answers (empty : first.outcomes = ∅)
    : (∀ (request : Nat) (outcome : RequestOutcome), control.outcomes[request]? = some outcome
        ↔ (request, outcome) ∈ events.filterMap TenantEvent.answer?)
      ∧ ((events.filterMap TenantEvent.answer?).map Prod.fst).Nodup := by
  induction run with
  | stay => simp [empty]
  | @fold events control run seq record order ih =>
    obtain ⟨recorded, once⟩ := ih
    obtain ⟨grown, fresh⟩ := ((run.sound ok).fold_change codec seq record).recorded
    refine ⟨fun request outcome => ?_, List.nodup_filterMap_concat _ once ?_⟩
    · rw [grown, List.mem_filterMap_concat]
      exact or_congr (recorded request outcome) Iff.rfl
    · rintro ⟨request, outcome⟩ answers ⟨_, earlier⟩ member rfl
      have held : control.outcomes[_]? = some earlier := (recorded _ _).mpr member
      cases held.symm.trans (fresh _ outcome answers)
  | restore run receiver coversUpTo tenant journal ih =>
    rw [(run.sound ok).restore_checkpoint tenant journal]
    exact ih

/-- The journals of a history are those that its events created, each once. -/
theorem creations (empty : first.journals = ∅)
    : (∀ id : JournalId, (control.journals[id]?).isSome
        ↔ id ∈ events.filterMap TenantEvent.created?)
      ∧ (events.filterMap TenantEvent.created?).Nodup := by
  induction run with
  | stay => simp [empty]
  | @fold events control run seq record order ih =>
    obtain ⟨held, once⟩ := ih
    obtain ⟨grown, fresh⟩ := ((run.sound ok).fold_change codec seq record).held
    have distinct := List.nodup_filterMap_concat id (by rwa [List.map_id])
      fun made creates (earlier : JournalId) member same => by
        obtain rfl : earlier = made := same
        have taken := (held earlier).mpr member
        have free : control.journals[earlier]? = none := fresh earlier creates
        rw [free] at taken
        cases taken
    refine ⟨fun id => ?_, by rwa [List.map_id] at distinct⟩
    rw [grown, List.mem_filterMap_concat]
    exact or_congr (held id) Iff.rfl
  | restore run receiver coversUpTo tenant journal ih =>
    rw [(run.sound ok).restore_checkpoint tenant journal]
    exact ih

end Run

-- Requests and journals

/-- Over every history of a tenant's control journal, a request is answered once and a record under
an answered id changes nothing; a journal is created once under its id and stays that journal; the
names are the live journals'; what the fold asserts holds; and the fold's checkpoint is restored, at
any position and into any fold of the journal, to the fold itself.
-/
theorem requests_act_once {tenant : TenantId} {id : JournalId} {owned : tenant ≠ 0}
    {numbered : id ≠ 0} {events : List TenantEvent}
    (run : Run codec (new tenant id owned numbered) events control)
    : (∀ (request : Nat) (outcome : RequestOutcome), control.outcomes[request]? = some outcome
        ↔ (request, outcome) ∈ events.filterMap TenantEvent.answer?)
      ∧ ((events.filterMap TenantEvent.answer?).map Prod.fst).Nodup
      ∧ (∀ (seq request : Nat) (record : Bytes) (command : TenantCommand)
          (outcome : RequestOutcome), TenantCommand.decode codec record = .ok command
        → command.request? = some request → control.outcomes[request]? = some outcome
        → (control.fold codec seq record).1 = control.advance seq)
      ∧ (∀ journal : JournalId, (control.journals[journal]?).isSome
        ↔ journal ∈ events.filterMap TenantEvent.created?)
      ∧ (events.filterMap TenantEvent.created?).Nodup
      ∧ id ∉ events.filterMap TenantEvent.created?
      ∧ (∀ (name : Bytes) (holder : JournalId), control.names[name]? = some holder
        ↔ ∃ journal, control.journals[holder]? = some journal ∧ journal.deletedAt = none
          ∧ journal.name = name)
      ∧ control.assertInvariants = true
      ∧ (∀ (receiver : TenantControl) (coversUpTo : Nat), receiver.tenant = control.tenant
        → receiver.control = control.control
        → receiver.restore codec coversUpTo (control.checkpoint codec)
          = ({ control with nextSeq := coversUpTo + 1 }, .ok ()))
      ∧ ∀ (more : List TenantEvent) (after : TenantControl), Run codec control more after
        → (∀ (request : Nat) (outcome : RequestOutcome), control.outcomes[request]? = some outcome
            → after.outcomes[request]? = some outcome)
          ∧ ∀ (journal : JournalId) (held : TenantJournal), control.journals[journal]? = some held
            → ∃ kept, after.journals[journal]? = some kept ∧ held.Continues kept := by
  have born := new_sound tenant id owned numbered
  have ok := run.sound born
  obtain ⟨recorded, once⟩ := run.answers born rfl
  obtain ⟨created, distinct⟩ := run.creations born rfl
  refine ⟨recorded, once, fun _ _ _ _ _ read asks answered => fold_repeated read asks answered,
    created, distinct, fun made => ?_, fun name holder => ?_, ok.assertInvariants,
    fun receiver coversUpTo tenant journal => ok.restore_checkpoint tenant journal coversUpTo,
    fun more after next => ⟨(next.later ok).outcomes, (next.later ok).journals⟩⟩
  · have taken := (created id).mpr made
    rw [← show control.control = id from (run.later born).control, ok.apart] at taken
    cases taken
  · simp only [ok.named name holder, TenantJournal.isLive, Option.isNone_iff_eq_none]

/-- Fold an entry written at the next position. -/
def foldKind (control : TenantControl) (kind : Wire.Tenant.Kind) : TenantControl × TenantEvent :=
  let control := control.advance control.nextSeq
  match TenantCommand.fromWire kind with
  | .ok command => control.act (control.nextSeq - 1) command
  | .error _ => (control, .refused .malformed)

theorem fold_encodeEntry (kind : Wire.Tenant.Kind)
    : control.fold codec control.nextSeq (codec.encodeEntry ⟨some kind⟩) = foldKind control kind := by
  simp only [fold, TenantCommand.decode, codec.decodeEntry_encodeEntry, foldKind]
  rfl

def foldKinds (control : TenantControl) : List Wire.Tenant.Kind → List TenantEvent × TenantControl
  | [] => ([], control)
  | kind :: rest =>
    let (after, event) := foldKind control kind
    let (events, final) := foldKinds after rest
    (event :: events, final)

theorem Run.foldKinds {first : TenantControl} {events : List TenantEvent}
    (run : Run codec first events control) (kinds : List Wire.Tenant.Kind)
    : Run codec first (events ++ (foldKinds control kinds).1)
        (TenantControl.foldKinds control kinds).2 := by
  induction kinds generalizing control events with
  | nil => simpa [TenantControl.foldKinds] using run
  | cons kind rest ih =>
    have next := run.fold control.nextSeq (codec.encodeEntry ⟨some kind⟩) le_rfl
    rw [fold_encodeEntry] at next
    have later := ih next
    rwa [List.append_assoc] at later

/-- A journal created, deleted and created again under its name, each request sent twice. -/
def recreatedKinds : List Wire.Tenant.Kind :=
  let create (request id : Nat) : Wire.Tenant.Kind :=
    .createJournal request id [65] 0 (some ⟨0, 1, 0, 0, 0⟩)
      (some ⟨[3], 0, 0, 0, 0, 0, [], 0, 0, 0⟩) [] 0
  [create 1 7, create 1 9, .deleteJournal 2 7, .deleteJournal 2 8, create 3 7, create 3 8]

/-- The name is the second journal's, and the first keeps its id. -/
theorem requests_act_once_recreated
    : ∃ events control, Run TenantCodec.counted (new 5 1 (by decide) (by decide)) events control
        ∧ events.filterMap TenantEvent.answer?
          = [(1, .created 7), (2, .deleted 7), (3, .created 8)]
        ∧ control.outcomes[1]? = some (.created 7)
        ∧ events.filterMap TenantEvent.created? = [7, 8]
        ∧ control.names[([65] : Bytes)]? = some 8
        ∧ (control.restore TenantCodec.counted 9 (control.checkpoint TenantCodec.counted)).2
          = .ok () := by
  have run : Run TenantCodec.counted (new 5 1 (by decide) (by decide)) _ _ :=
    Run.stay.foldKinds recreatedKinds
  obtain ⟨recorded, _, _, _, _, _, _, _, restored, _⟩ := requests_act_once run
  have answers : (([] : List TenantEvent) ++ (foldKinds (new 5 1 (by decide) (by decide))
      recreatedKinds).1).filterMap TenantEvent.answer?
        = [(1, .created 7), (2, .deleted 7), (3, .created 8)] := by
    decide +kernel
  refine ⟨_, _, run, answers, (recorded 1 (.created 7)).mpr ?_, by decide +kernel,
    by decide +kernel, congrArg Prod.snd (restored _ 9 rfl rfl)⟩
  rw [answers]
  decide

end TenantControl

end Paros
