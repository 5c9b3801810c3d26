import Paros.Matchmaker.Image

/-! What a matchmaker can do to its durable state: every request is a sequence of four kinds of
moves, and each move stages exactly the writes that carry its image over to the next.
-/

namespace Paros

open OrderedMap

namespace Matchmaker

variable {matchmaker next : Matchmaker} {journal : JournalId} {scalars : MatchmakerHardState}
  {set successor : MatchmakerSet} {ballot : Ballot} {registration : Registration} {generation : Nat}

/-- A set is the one its generation and members describe, whatever the bootstrap. -/
theorem resolvedSet_of_members (generation : scalars.generation = set.generation)
    (members : scalars.members = set.members)
    (bootstrap : List MatchmakerId)
    : scalars.resolvedSet bootstrap = some set := by
  rw [MatchmakerHardState.resolvedSet, if_neg fun fresh => set.inhabited (members ▸ fresh.2),
    generation, members, set.new_members]

/-- Write other scalars over the ones held; the journals stay. -/
def rescale (matchmaker : Matchmaker) (scalars : MatchmakerHardState) (set : MatchmakerSet)
    : Matchmaker :=
  { matchmaker with hardState := scalars, set := set }.stageScalars

/-- One durable change. -/
inductive Move (matchmaker : Matchmaker) : Matchmaker → Prop
  | rescale (scalars : MatchmakerHardState) (set : MatchmakerSet)
    (journals : scalars.journals = matchmaker.hardState.journals)
    (described : scalars.resolvedSet matchmaker.config.bootstrap = some set)
    : Move matchmaker (matchmaker.rescale scalars set)
  | enroll (journal : JournalId) (ballot : Ballot) (registration : Registration)
    (above : matchmaker.gcWatermark journal ≤ ballot)
    : Move matchmaker (matchmaker.enroll journal ballot registration)
  | raise (journal : JournalId) (watermark : Ballot)
    (above : matchmaker.gcWatermark journal < watermark)
    : Move matchmaker (matchmaker.raiseWatermark journal watermark)
  | install (successor : MatchmakerSet) (bootstrap : PendingBootstrap)
    : Move matchmaker (matchmaker.install successor bootstrap)

abbrev Moves := Relation.ReflTransGen Move

-- Requests are moves

theorem freeze_eq (matchmaker : Matchmaker)
    : matchmaker.freeze = matchmaker.rescale { matchmaker.hardState with
        generation := matchmaker.set.generation
        members := matchmaker.set.members
        phase := .stopped } matchmaker.set := by
  rw [freeze, refreshSet, resolvedSet_of_members rfl rfl]
  rfl

theorem moves_freeze (matchmaker : Matchmaker) : Moves matchmaker matchmaker.freeze := by
  rw [freeze_eq]
  exact .single (.rescale _ _ rfl (resolvedSet_of_members rfl rfl _))

/-- A registration is refused, was made before, or is the first above every record. -/
theorem register_cases (matchmaker : Matchmaker) (journal : JournalId) (ballot : Ballot)
    (registration : Registration) (generation : Nat) (cursor : Option Ballot)
    : (∃ refusal, matchmaker.register journal ballot registration generation cursor
        = (matchmaker, .refused refusal))
      ∨ matchmaker.judgeGeneration generation = none ∧ matchmaker.gcWatermark journal ≤ ballot
        ∧ ((matchmaker.registry journal)[ballot]? = some registration
            ∧ matchmaker.register journal ballot registration generation cursor
              = (matchmaker, .registered (matchmaker.page journal cursor ballot))
          ∨ (∀ held record, (matchmaker.registry journal)[held]? = some record → held < ballot)
            ∧ matchmaker.register journal ballot registration generation cursor
              = (matchmaker.enroll journal ballot registration,
                .registered (matchmaker.page journal cursor ballot))) := by
  unfold register
  cases judged : matchmaker.judgeGeneration generation with
  | some refusal => exact .inl ⟨refusal, rfl⟩
  | none =>
    by_cases below : ballot < matchmaker.gcWatermark journal
    · exact .inl ⟨_, if_pos below⟩
    · simp only [if_neg below]
      cases covered : (matchmaker.highest journal).filter (ballot ≤ ·) with
      | some highest =>
        by_cases same : (matchmaker.registry journal)[ballot]? = some registration
        · exact .inr ⟨trivial, not_lt.mp below, .inl ⟨same, if_pos same⟩⟩
        · exact .inl ⟨_, if_neg same⟩
      | none =>
        refine .inr ⟨trivial, not_lt.mp below, .inr ⟨fun held record found => ?_, rfl⟩⟩
        cases last : matchmaker.highest journal with
        | none =>
          rw [OrderedMap.lastKey?_eq_none last] at found
          cases found
        | some highest =>
          rw [last, Option.filter_some] at covered
          have under : ¬ ballot ≤ highest := by simpa using covered
          exact (le_of_lastKey? last found).trans_lt (not_le.mp under)

theorem moves_advanceGcWatermark {watermark : Ballot}
    : Moves matchmaker (matchmaker.advanceGcWatermark journal generation watermark).1 := by
  unfold advanceGcWatermark
  split_ifs with _ covered
  · exact .refl
  · exact .refl
  · exact .single (.raise journal watermark (not_le.mp covered))

theorem moves_onStop {after : Option JournalId}
    : Moves matchmaker (matchmaker.onStop generation after).1 := by
  unfold onStop
  split_ifs
  · exact .refl
  · exact moves_freeze matchmaker
  · exact .refl

/-- What was pruned before an activation does not show in it: an activation keeps later
generations only.
-/
theorem install_pruned (matchmaker : Matchmaker) (successor : MatchmakerSet)
    (bootstrap : PendingBootstrap)
    : (matchmaker.pruneSettledPending successor).1.install successor bootstrap
      = matchmaker.install successor bootstrap := by
  have later : ∀ pending : List PendingBootstrap,
      (pending.eraseP fun held => decide (held.set = successor) && held.complete).filter
          (fun held => decide (successor.generation < held.set.generation))
        = pending.filter fun held => decide (successor.generation < held.set.generation) := by
    intro pending
    induction pending with
    | nil => rfl
    | cons held rest ih =>
      by_cases chosen : held.set = successor ∧ held.complete = true
      · rw [List.eraseP_cons_of_pos (by simpa using chosen)]
        exact (List.filter_cons_of_neg (by simp [chosen.1])).symm
      · rw [List.eraseP_cons_of_neg (by simpa using chosen), List.filter_cons, List.filter_cons, ih]
  have same : ∀ pending : List PendingBootstrap,
      (pending.filter fun held => decide (successor.generation < held.set.generation)
          || decide (held.set = successor)).filter
          (fun held => decide (successor.generation < held.set.generation))
        = pending.filter fun held => decide (successor.generation < held.set.generation) := by
    intro pending
    rw [List.filter_filter]
    refine List.filter_congr fun held _ => ?_
    cases decide (successor.generation < held.set.generation) <;> simp
  simp only [install, serve, pruneSettledPending, settledPending, later, same]

/-- Only a whole bootstrap of exactly the successor activates. -/
theorem activate_cases (matchmaker : Matchmaker) (successor : MatchmakerSet)
    : matchmaker.activate successor = (matchmaker, false)
      ∨ ∃ bootstrap, matchmaker.activate successor = (matchmaker.install successor bootstrap, true) := by
  unfold activate
  split_ifs
  · exact .inl rfl
  · split
    · exact .inl rfl
    · exact .inr ⟨_, rfl⟩

/-- A pruning that dropped nothing changed nothing. -/
theorem pruneSettledPending_eq (kept : (matchmaker.pruneSettledPending successor).2 = false)
    : (matchmaker.pruneSettledPending successor).1 = matchmaker := by
  have length : (matchmaker.settledPending successor).length = matchmaker.hardState.pending.length := by
    simpa [pruneSettledPending] using kept
  have same : matchmaker.settledPending successor = matchmaker.hardState.pending :=
    (List.filter_sublist).eq_of_length length
  rw [pruneSettledPending, same]

section

variable (coherent : matchmaker.Coherent)
include coherent

/-- Scalars that keep generation, members and journals are one move. -/
theorem moves_stage (generation : scalars.generation = matchmaker.hardState.generation)
    (members : scalars.members = matchmaker.hardState.members)
    (journals : scalars.journals = matchmaker.hardState.journals)
    : Moves matchmaker { matchmaker with hardState := scalars }.stageScalars := by
  refine .single (.rescale scalars matchmaker.set journals ?_)
  rw [← coherent.described, MatchmakerHardState.resolvedSet, MatchmakerHardState.resolvedSet,
    generation, members]

theorem moves_onBootstrap {page : BootstrapPage}
    : Moves matchmaker (matchmaker.onBootstrap page).1 := by
  unfold onBootstrap takePage
  split_ifs
  · exact .refl
  · exact moves_stage coherent rfl rfl rfl
  · exact .refl

theorem moves_storeDecree {acceptor : Acceptor (List MatchmakerId)}
    {writes : List (AcceptorWrite (List MatchmakerId))}
    : Moves matchmaker (matchmaker.storeDecree acceptor writes) := by
  unfold storeDecree
  split_ifs
  · exact .refl
  · exact moves_stage coherent rfl rfl rfl

theorem moves_onDecreePrepare : Moves matchmaker (matchmaker.onDecreePrepare generation ballot).1 := by
  fun_cases onDecreePrepare matchmaker generation ballot
  case case2 => exact moves_storeDecree coherent
  all_goals exact .refl

theorem moves_onDecreeAccept {members : List MatchmakerId}
    : Moves matchmaker (matchmaker.onDecreeAccept generation ballot members).1 := by
  fun_cases onDecreeAccept matchmaker generation ballot members
  case case2 => exact moves_storeDecree coherent
  all_goals exact .refl

/-- What a decided generation settled is staged if it dropped anything. -/
theorem moves_pruned
    : Moves matchmaker (if (matchmaker.pruneSettledPending successor).2 then
        (matchmaker.pruneSettledPending successor).1.stageScalars
      else (matchmaker.pruneSettledPending successor).1) := by
  split_ifs with dropped
  · exact moves_stage coherent rfl rfl rfl
  · rw [pruneSettledPending_eq (Bool.eq_false_iff.mpr dropped)]

variable (frozen : matchmaker.freeze.Coherent)

theorem moves_learnAsSpare : Moves matchmaker (matchmaker.learnAsSpare generation successor).1 := by
  unfold learnAsSpare
  obtain same | ⟨bootstrap, same⟩ :=
    (matchmaker.pruneSettledPending successor).1.activate_cases successor
  · simp only [same, Bool.false_eq_true, if_false]
    exact moves_pruned coherent
  · simp only [same, if_true, install_pruned]
    exact .single (.install successor bootstrap)

include frozen

theorem moves_recordSuccessor : Moves matchmaker (matchmaker.recordSuccessor successor) := by
  unfold recordSuccessor
  cases unset : matchmaker.hardState.successor.isNone with
  | true =>
    simp only [Bool.true_or, if_true]
    split_ifs
    · exact (moves_freeze matchmaker).trans (moves_stage frozen rfl rfl rfl)
    · exact moves_stage coherent rfl rfl rfl
  | false =>
    simp only [Bool.false_or, Bool.false_eq_true, if_false]
    exact moves_pruned coherent

theorem moves_learnAsMember : Moves matchmaker (matchmaker.learnAsMember generation successor).1 := by
  unfold learnAsMember
  split_ifs
  · exact .refl
  · refine (@moves_recordSuccessor _ successor coherent frozen).trans ?_
    obtain same | ⟨bootstrap, same⟩ :=
      (matchmaker.recordSuccessor successor).activate_cases successor
    · rw [same]
    · rw [same]
      exact .single (.install successor bootstrap)

theorem moves_onChosen : Moves matchmaker (matchmaker.onChosen generation successor).1 := by
  fun_cases onChosen matchmaker generation successor
  case case3 => exact moves_learnAsMember coherent frozen
  case case4 => exact moves_learnAsSpare coherent
  all_goals exact .refl

end

-- Moves are recorded
-- Moves are recorded

/-- The writes staged between two states carry one's image over to the other's. -/
structure Records (earlier later : Matchmaker) : Prop where
  config : later.config = earlier.config
  pageSize : later.pageSize = earlier.pageSize
  writes : ∃ writes, later.pendingWrites = earlier.pendingWrites ++ writes
    ∧ earlier.image.applyAll writes = later.image

theorem Records.refl (matchmaker : Matchmaker) : Records matchmaker matchmaker :=
  ⟨rfl, rfl, [], (List.append_nil _).symm, rfl⟩

theorem Records.trans {first second third : Matchmaker} (left : Records first second)
    (right : Records second third)
    : Records first third := by
  obtain ⟨earlier, staged, applied⟩ := left.writes
  obtain ⟨later, stagedNext, appliedNext⟩ := right.writes
  refine ⟨right.config.trans left.config, right.pageSize.trans left.pageSize, earlier ++ later, ?_, ?_⟩
  · rw [stagedNext, staged, List.append_assoc]
  · rw [MemRegistry.applyAll, List.foldl_append, ← appliedNext, ← applied]
    rfl

/-- Scalars that keep the watermarks. -/
theorem Coherent.stage (coherent : matchmaker.Coherent)
    (known : ∀ journal ∈ matchmaker.hardState.journals, journal ∈ scalars.journals)
    (level : ∀ journal, scalars.gcWatermark journal = matchmaker.gcWatermark journal)
    : Records matchmaker (matchmaker.rescale scalars set) :=
  ⟨rfl, rfl, [.setScalars scalars], rfl, MemRegistry.apply_setScalars coherent.kept known level⟩

theorem Coherent.rescale (coherent : matchmaker.Coherent)
    (journals : scalars.journals = matchmaker.hardState.journals)
    (described : scalars.resolvedSet matchmaker.config.bootstrap = some set)
    : (matchmaker.rescale scalars set).Coherent
      ∧ Records matchmaker (matchmaker.rescale scalars set) := by
  have level : ∀ journal, scalars.gcWatermark journal = matchmaker.gcWatermark journal := by
    intro journal
    rw [gcWatermark, MatchmakerHardState.gcWatermark, MatchmakerHardState.gcWatermark,
      MatchmakerHardState.journal, MatchmakerHardState.journal, journals]
  refine ⟨⟨fun held => ?_, fun held found => ?_, fun member => ?_, fun held empty => ?_, described,
    coherent.deployed⟩, coherent.stage (fun _ member => journals ▸ member) level⟩
  · exact (coherent.floors held).trans (level _).symm
  · exact (level _).le.trans (coherent.retained held found)
  · exact coherent.windowed (journals ▸ member)
  · exact journals ▸ coherent.grounded held empty

/-- A window put in a journal's place is that journal's ledger, or none if it is empty. -/
theorem ledgersOf_insert (registries : OrderedMap JournalId (RetainedWindow Ballot Registration))
    (journal : JournalId) (window : RetainedWindow Ballot Registration)
    : ledgersOf (registries.insert journal window)
      = if window.entries.isEmpty then (ledgersOf registries).erase journal
        else (ledgersOf registries).insert journal window.entries := by
  ext1 other
  rw [ledgersOf, Std.ExtTreeMap.getElem?_filterMap', getElem?_insert]
  split_ifs with same empty empty
  · simpa [same] using Std.ExtTreeMap.isEmpty_iff.mp empty
  · simpa [same] using mt Std.ExtTreeMap.isEmpty_iff.mpr empty
  · simp [same, ledgersOf]
  · simp [same, ledgersOf]

theorem window_entries : (matchmaker.window journal).entries = matchmaker.registry journal := by
  rw [window, registry]
  cases matchmaker.registries[journal]? <;> rfl

theorem Coherent.window_floor (coherent : matchmaker.Coherent)
    : (matchmaker.window journal).floor = matchmaker.gcWatermark journal := by
  rw [window]
  cases held : matchmaker.registries[journal]? with
  | none => rfl
  | some window => exact coherent.floors held

theorem Coherent.registry_above (coherent : matchmaker.Coherent)
    (found : (matchmaker.registry journal)[ballot]? = some registration)
    : matchmaker.gcWatermark journal ≤ ballot := by
  rw [registry] at found
  cases held : matchmaker.registries[journal]? with
  | none => simp [held] at found
  | some window =>
    rw [held, Option.elim_some] at found
    exact coherent.retained held found

/-- Put a window in a journal's place, under scalars that know the journal's watermark. -/
theorem Coherent.replace (coherent : matchmaker.Coherent)
    {window : RetainedWindow Ballot Registration} {writes : List MatchmakerWriteOp}
    (generation : scalars.generation = matchmaker.hardState.generation)
    (members : scalars.members = matchmaker.hardState.members)
    (journals : ∀ other ∈ scalars.journals, other = journal ∨ other ∈ matchmaker.hardState.journals)
    (known : ∀ other ∈ matchmaker.hardState.journals, other ∈ scalars.journals)
    (elsewhere : ∀ other, other ≠ journal → scalars.gcWatermark other = matchmaker.gcWatermark other)
    (floor : window.floor = scalars.gcWatermark journal)
    (retained : ∀ {ballot registration}, window.entries[ballot]? = some registration
      → scalars.gcWatermark journal ≤ ballot)
    (grounded : window.entries = ∅ → journal ∈ scalars.journals)
    : Coherent { matchmaker with
        hardState := scalars
        registries := matchmaker.registries.insert journal window
        pendingWrites := writes } := by
  refine ⟨fun held => ?_, fun held found => ?_, fun member => ?_, fun held empty => ?_, ?_,
    coherent.deployed⟩
  · obtain ⟨rfl, rfl⟩ | ⟨different, held⟩ := of_getElem?_insert held
    · exact floor
    · exact (coherent.floors held).trans (elsewhere _ different.symm).symm
  · obtain ⟨rfl, rfl⟩ | ⟨different, held⟩ := of_getElem?_insert held
    · exact retained found
    · exact (elsewhere _ different.symm).le.trans (coherent.retained held found)
  · exact OrderedMap.mem_insert.mpr ((journals _ member).imp_right coherent.windowed)
  · obtain ⟨rfl, rfl⟩ | ⟨_, held⟩ := of_getElem?_insert held
    · exact grounded empty
    · exact known _ (coherent.grounded held empty)
  · refine Eq.trans ?_ coherent.described
    rw [MatchmakerHardState.resolvedSet, MatchmakerHardState.resolvedSet, generation, members]

theorem insert_ne_empty {ledger : BallotMap Registration}
    : ledger.insert ballot registration ≠ ∅ := by
  intro empty
  have held : (ledger.insert ballot registration)[ballot]? = some registration := by simp
  rw [empty, Std.ExtTreeMap.getElem?_empty] at held
  cases held

/-- The scalars an enrolment ends with. -/
def enrolledScalars (matchmaker : Matchmaker) (journal : JournalId) (ballot : Ballot)
    (registration : Registration)
    : MatchmakerHardState :=
  if matchmaker.raises journal ballot registration then
    matchmaker.hardState.updateJournal journal fun held =>
      { held with effective := some (ballot, registration.config) }
  else matchmaker.hardState

/-- An enrolment stages its scalars, if it raises them, and its record. -/
theorem enroll_eq (matchmaker : Matchmaker) (journal : JournalId) (ballot : Ballot)
    (registration : Registration)
    : matchmaker.enroll journal ballot registration = { matchmaker with
        hardState := matchmaker.enrolledScalars journal ballot registration
        registries := matchmaker.registries.insert journal
          { matchmaker.window journal with
            entries := (matchmaker.registry journal).insert ballot registration }
        pendingWrites := matchmaker.pendingWrites
          ++ (if matchmaker.raises journal ballot registration then
              [.setScalars (matchmaker.enrolledScalars journal ballot registration)] else [])
          ++ [.register journal ballot registration] } := by
  unfold enroll raiseEffective enrolledScalars
  rw [← window_entries]
  have still : raises { matchmaker with
      registries := matchmaker.registries.insert journal
        { matchmaker.window journal with
          entries := (matchmaker.window journal).entries.insert ballot registration } }
      journal ballot registration = matchmaker.raises journal ballot registration := rfl
  simp only [still]
  split_ifs
  · rfl
  · simp only [List.append_nil]

theorem gcWatermark_enrolledScalars {other : JournalId}
    : (matchmaker.enrolledScalars journal ballot registration).gcWatermark other
      = matchmaker.gcWatermark other := by
  rw [gcWatermark, enrolledScalars, MatchmakerHardState.gcWatermark, MatchmakerHardState.gcWatermark]
  split_ifs
  · rw [MatchmakerHardState.journal_updateJournal]
    split_ifs with same
    · rw [same]
    · rfl
  · rfl

theorem journals_enrolledScalars {other : JournalId}
    : (other ∈ (matchmaker.enrolledScalars journal ballot registration).journals
        → other = journal ∨ other ∈ matchmaker.hardState.journals)
      ∧ (other ∈ matchmaker.hardState.journals
        → other ∈ (matchmaker.enrolledScalars journal ballot registration).journals) := by
  unfold enrolledScalars
  split_ifs
  · exact ⟨OrderedMap.mem_insert.mp, fun member => OrderedMap.mem_insert.mpr (.inr member)⟩
  · exact ⟨.inr, fun member => member⟩

theorem Coherent.enroll (coherent : matchmaker.Coherent)
    (above : matchmaker.gcWatermark journal ≤ ballot)
    : (matchmaker.enroll journal ballot registration).Coherent
      ∧ Records matchmaker (matchmaker.enroll journal ballot registration) := by
  rw [enroll_eq]
  refine ⟨coherent.replace ?_ ?_ ?_ ?_ ?_ ?_ ?_ ?_, ?_⟩
  · unfold enrolledScalars
    split_ifs <;> rfl
  · unfold enrolledScalars
    split_ifs <;> rfl
  · exact fun _ => journals_enrolledScalars.1
  · exact fun _ => journals_enrolledScalars.2
  · exact fun _ _ => gcWatermark_enrolledScalars
  · exact coherent.window_floor.trans gcWatermark_enrolledScalars.symm
  · intro held record found
    rw [gcWatermark_enrolledScalars]
    rw [getElem?_insert] at found
    split_ifs at found with same
    · exact same ▸ above
    · exact coherent.registry_above found
  · exact fun empty => absurd empty insert_ne_empty
  · refine ⟨rfl, rfl, _, List.append_assoc .., ?_⟩
    have recorded : ∀ scalars : MatchmakerHardState,
        (MemRegistry.mk scalars matchmaker.ledgers).apply (.register journal ballot registration)
          = ⟨scalars, ledgersOf (matchmaker.registries.insert journal
              { matchmaker.window journal with
                entries := (matchmaker.registry journal).insert ballot registration })⟩ := by
      intro scalars
      rw [ledgersOf_insert, if_neg (mt Std.ExtTreeMap.isEmpty_iff.mp insert_ne_empty),
        ← ledger_image]
      rfl
    by_cases raised : matchmaker.raises journal ballot registration = true
    · rw [if_pos raised]
      refine Eq.trans ?_ (recorded _)
      rw [MemRegistry.applyAll, List.foldl_append]
      refine congrArg (MemRegistry.apply · (.register journal ballot registration)) ?_
      exact MemRegistry.apply_setScalars coherent.kept (fun _ => journals_enrolledScalars.2)
        fun _ => gcWatermark_enrolledScalars
    · rw [if_neg raised]
      have same : matchmaker.enrolledScalars journal ballot registration = matchmaker.hardState :=
        if_neg raised
      rw [same]
      exact recorded _

theorem Coherent.raiseWatermark (coherent : matchmaker.Coherent) {watermark : Ballot}
    (above : matchmaker.gcWatermark journal < watermark)
    : (matchmaker.raiseWatermark journal watermark).Coherent
      ∧ Records matchmaker (matchmaker.raiseWatermark journal watermark) := by
  have level : ∀ other, (matchmaker.hardState.updateJournal journal fun held =>
      { held with gcWatermark := watermark }).gcWatermark other
        = if journal = other then watermark else matchmaker.gcWatermark other := by
    intro other
    rw [MatchmakerHardState.gcWatermark, MatchmakerHardState.journal_updateJournal]
    split_ifs <;> rfl
  refine ⟨coherent.replace rfl rfl ?_ ?_ ?_ ?_ ?_ ?_, rfl, rfl, [_], rfl, ?_⟩
  · exact fun _ => OrderedMap.mem_insert.mp
  · exact fun _ member => OrderedMap.mem_insert.mpr (.inr member)
  · exact fun other different => (level other).trans (if_neg (Ne.symm different))
  · exact ((level journal).trans (if_pos rfl)).symm
  · intro ballot registration found
    rw [level, if_pos rfl]
    rw [RetainedWindow.raiseFloor, getElem?_startingAt] at found
    exact (Option.ite_none_right_eq_some.mp found).1
  · exact fun _ => OrderedMap.mem_insert.mpr (.inl rfl)
  · have raises : matchmaker.image.hardState.gcWatermark journal < watermark := above
    have entries : ((matchmaker.window journal).raiseFloor watermark).entries
        = startingAt watermark (matchmaker.image.ledger journal) := by
      rw [ledger_image, ← window_entries]
      rfl
    rw [MemRegistry.applyAll, List.foldl_cons, List.foldl_nil, MemRegistry.apply, if_pos raises,
      MemRegistry.collect_eq]
    refine congrArg (MemRegistry.mk _) (Eq.symm ?_)
    exact (ledgersOf_insert ..).trans (by rw [entries]; rfl)

-- Installations

/-- What installing a reconstruction leaves for a journal. -/
theorem getElem?_installJournal (registries : OrderedMap JournalId JournalRegistry)
    (held : OrderedMap JournalId JournalScalars) (journal : JournalId)
    : let installed := registries.toList.foldl installJournal (held, ∅)
      (installed.1[journal]?, installed.2[journal]?)
        = (registries[journal]?).elim (held[journal]?, none) fun registry =>
          let scalars := installScalars ((held[journal]?).getD .blank) registry
          let kept := startingAt scalars.gcWatermark registry.history
          (some scalars, if kept.isEmpty then none else some kept) := by
  refine (OrderedMap.foldl_view
    (fun journal (installed : OrderedMap JournalId JournalScalars × Ledgers) =>
      (installed.1[journal]?, installed.2[journal]?))
    (fun _ registry before =>
      let scalars := installScalars (before.1.getD .blank) registry
      let kept := startingAt scalars.gcWatermark registry.history
      (some scalars, if kept.isEmpty then before.2 else some kept)) ?_ ?_ registries _ journal).trans ?_
  · rintro ⟨journals, ledgers⟩ key registry
    simp only [installJournal]
    split_ifs <;> simp
  · rintro ⟨journals, ledgers⟩ key registry other different
    simp only [installJournal]
    split_ifs <;> simp [Ne.symm different]
  · simp

/-- No ledger is installed empty, nor with a record below the watermark installed with it. -/
theorem installJournal_filled {registries : OrderedMap JournalId JournalRegistry}
    {held : OrderedMap JournalId JournalScalars} {ledger : BallotMap Registration}
    (listed : (registries.toList.foldl installJournal (held, ∅)).2[journal]? = some ledger)
    : ledger ≠ ∅ ∧ ∃ scalars,
        (registries.toList.foldl installJournal (held, ∅)).1[journal]? = some scalars
        ∧ ∀ {ballot registration}, ledger[ballot]? = some registration
          → scalars.gcWatermark ≤ ballot := by
  have both := getElem?_installJournal registries held journal
  cases named : registries[journal]? with
  | none => simp [named, listed] at both
  | some registry =>
    simp only [named, listed, Option.elim_some, Prod.mk.injEq] at both
    obtain ⟨isScalars, kept⟩ := both
    obtain ⟨inhabited, same⟩ := Option.ite_none_left_eq_some.mp kept.symm
    rw [Option.some.injEq] at same
    subst same
    refine ⟨mt Std.ExtTreeMap.isEmpty_iff.mpr inhabited, _, isScalars, fun found => ?_⟩
    rw [getElem?_startingAt] at found
    exact (Option.ite_none_right_eq_some.mp found).1

theorem Coherent.serve (coherent : matchmaker.Coherent) (successor : MatchmakerSet)
    {journals : OrderedMap JournalId JournalScalars} {ledgers : Ledgers}
    (filled : ∀ {journal : JournalId} {ledger : BallotMap Registration},
      ledgers[journal]? = some ledger → ledger ≠ ∅ ∧ ∃ scalars, journals[journal]? = some scalars
        ∧ ∀ {ballot registration}, ledger[ballot]? = some registration
          → scalars.gcWatermark ≤ ballot)
    : (matchmaker.serve successor journals ledgers).Coherent
      ∧ Records matchmaker (matchmaker.serve successor journals ledgers)
      ∧ (matchmaker.serve successor journals ledgers).set = successor := by
  have windows : ∀ {journal : JournalId} {window : RetainedWindow Ballot Registration},
      (journals.map fun journal (held : JournalScalars) =>
          (⟨(ledgers[journal]?).getD ∅, held.gcWatermark⟩ : RetainedWindow Ballot Registration))[journal]?
        = some window
      → ∃ scalars, journals[journal]? = some scalars
        ∧ window = ⟨(ledgers[journal]?).getD ∅, scalars.gcWatermark⟩ := by
    intro journal window held
    rw [Std.ExtTreeMap.getElem?_map] at held
    obtain ⟨scalars, isScalars, rfl⟩ := Option.map_eq_some_iff.mp held
    exact ⟨scalars, isScalars, rfl⟩
  unfold Matchmaker.serve refreshSet
  dsimp only
  rw [resolvedSet_of_members rfl rfl]
  refine ⟨⟨fun held => ?_, fun {journal} _ _ _ held found => ?_, fun member => ?_, fun held _ => ?_,
    resolvedSet_of_members rfl rfl _, coherent.deployed⟩, ⟨rfl, rfl, [_], rfl, ?_⟩, rfl⟩
  · obtain ⟨scalars, isScalars, rfl⟩ := windows held
    simp [gcWatermark, MatchmakerHardState.gcWatermark, MatchmakerHardState.journal, isScalars]
  · obtain ⟨scalars, isScalars, rfl⟩ := windows held
    cases listed : ledgers[journal]? with
    | none => simp [listed] at found
    | some ledger =>
      obtain ⟨_, same, isSame, above⟩ := filled listed
      rw [isScalars, Option.some.injEq] at isSame
      subst isSame
      simp only [listed, Option.getD_some] at found
      simp only [gcWatermark, MatchmakerHardState.gcWatermark, MatchmakerHardState.journal,
        isScalars, Option.getD_some]
      exact above found
  · exact Std.ExtTreeMap.mem_map.mpr member
  · obtain ⟨scalars, isScalars, _⟩ := windows held
    exact mem_iff_getElem?.mpr ⟨scalars, isScalars⟩
  · refine congrArg (MemRegistry.mk _) (Std.ExtTreeMap.ext_getElem? fun journal => ?_)
    rw [Matchmaker.ledgers, ledgersOf, Std.ExtTreeMap.getElem?_filterMap',
      Std.ExtTreeMap.getElem?_filterMap', Std.ExtTreeMap.getElem?_map]
    cases listed : ledgers[journal]? with
    | none => cases journals[journal]? <;> simp
    | some ledger =>
      obtain ⟨inhabited, scalars, isScalars, above⟩ := filled listed
      simp only [MatchmakerHardState.gcWatermark, MatchmakerHardState.journal, isScalars,
        Option.bind_some, Option.map_some, Option.getD_some, startingAt_eq_self above]

theorem Coherent.install (coherent : matchmaker.Coherent) (successor : MatchmakerSet)
    (bootstrap : PendingBootstrap)
    : (matchmaker.install successor bootstrap).Coherent
      ∧ Records matchmaker (matchmaker.install successor bootstrap)
      ∧ (matchmaker.install successor bootstrap).set = successor :=
  coherent.serve successor installJournal_filled

/-- Every move keeps a matchmaker coherent and is recorded. -/
theorem Move.records (move : Move matchmaker next) (coherent : matchmaker.Coherent)
    : next.Coherent ∧ Records matchmaker next := by
  cases move with
  | rescale scalars set journals described => exact coherent.rescale journals described
  | enroll journal ballot registration above => exact coherent.enroll above
  | raise journal watermark above => exact coherent.raiseWatermark above
  | install successor bootstrap =>
    obtain ⟨still, recorded, _⟩ := coherent.install successor bootstrap
    exact ⟨still, recorded⟩

theorem Moves.records (moves : Moves matchmaker next) (coherent : matchmaker.Coherent)
    : next.Coherent ∧ Records matchmaker next := by
  induction moves with
  | refl => exact ⟨coherent, .refl matchmaker⟩
  | tail _ move ih =>
    obtain ⟨still, recorded⟩ := move.records ih.1
    exact ⟨still, ih.2.trans recorded⟩

/-- No move answers anything. -/
theorem Moves.replies (moves : Moves matchmaker next)
    : next.pendingReplies = matchmaker.pendingReplies
      ∧ next.pendingReconfigureReplies = matchmaker.pendingReconfigureReplies := by
  induction moves with
  | refl => exact ⟨rfl, rfl⟩
  | tail _ move ih =>
    cases move with
    | rescale => exact ih
    | enroll =>
      rw [enroll_eq]
      exact ih
    | raise => exact ih
    | install =>
      unfold install serve refreshSet
      dsimp only
      rw [resolvedSet_of_members rfl rfl]
      exact ih

end Matchmaker

end Paros
