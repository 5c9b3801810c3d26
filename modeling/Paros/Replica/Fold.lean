import Paros.Journal.Ledger
import Paros.Replica.Model

/-! Every replica folds the ledger of the chosen sequence: its carried base, its state, its
outcomes and its indexes are those of the full fold, restricted to what it still retains.
-/

namespace Paros

open OrderedMap

-- Cuts of the chosen sequence

/-- No verdict at or above `cut` reads a record accepted below it. -/
def SafeCut (mode : WriterMode) (chosen : Nat → Command) (cut : Nat) : Prop :=
  ∀ slot seq, cut ≤ slot → (ledgerAt mode chosen slot).state.Retries mode (chosen slot) seq
    → (ledgerAt mode chosen cut).state.nextSeq ≤ seq

theorem safeCut_zero (mode : WriterMode) (chosen : Nat → Command) : SafeCut mode chosen 0 :=
  fun _ _ _ _ => Nat.zero_le _

-- The invariant

/-- What a replica retains of the chosen sequence's ledger: the slots from its floor on, the
journal at the floor and at the fold, and the writes accepted in between. With only safe cuts
behind it, which `faithful` stands for, it holds every verdict in between as the ledger has it.
-/
structure Retains (faithful : Prop) (mode : WriterMode) (chosen : Nat → Command) (replica : Replica)
    : Prop where
  mode_eq : replica.mode = mode
  floor_le : replica.floor ≤ replica.folded
  folded_le : replica.folded ≤ replica.firstUnchosen
  learned : ∀ slot command, replica.chosen[slot]? = some command
    → command = chosen slot ∧ replica.floor ≤ slot
  held : ∀ slot, replica.floor ≤ slot → slot < replica.folded
    → replica.chosen[slot]? = some (chosen slot)
  base_eq : replica.base = (ledgerAt mode chosen replica.floor).state
  state_eq : replica.state = (ledgerAt mode chosen replica.folded).state
  accepted_iff : ∀ slot seq count, replica.outcomes[slot]? = some (.accepted seq count)
    ↔ (replica.floor ≤ slot ∧ slot < replica.folded)
      ∧ verdictAt mode chosen slot = .accepted seq count
  history_iff : ∀ slot state, replica.history[slot]? = some state
    ↔ (replica.floor ≤ slot ∧ slot < replica.folded)
      ∧ state = (ledgerAt mode chosen (slot + 1)).state
      ∧ state ≠ (ledgerAt mode chosen slot).state
  positions_iff : ∀ seq slot, replica.positions[seq]? = some slot
    ↔ (replica.floor ≤ slot ∧ slot < replica.folded)
      ∧ ∃ count, verdictAt mode chosen slot = .accepted seq count
  verdicts_iff : faithful → ∀ slot outcome, replica.outcomes[slot]? = some outcome
    ↔ (replica.floor ≤ slot ∧ slot < replica.folded)
      ∧ outcome = verdictAt mode chosen slot ∧ outcome ≠ .noop
  cut_safe : faithful → SafeCut mode chosen replica.floor

/-- A replica that folds the ledger from a safe cut on. -/
abbrev Folds (mode : WriterMode) (chosen : Nat → Command) (replica : Replica) : Prop :=
  Retains True mode chosen replica

variable {faithful : Prop} {mode : WriterMode} {chosen : Nat → Command} {replica : Replica}

theorem Folds.outcomes_iff (folds : Folds mode chosen replica) (slot : Nat) (outcome : Outcome)
    : replica.outcomes[slot]? = some outcome
      ↔ (replica.floor ≤ slot ∧ slot < replica.folded)
        ∧ outcome = verdictAt mode chosen slot ∧ outcome ≠ .noop :=
  folds.verdicts_iff trivial slot outcome

/-- Two replicas that fold one sequence to one slot hold one outcome of each slot both retain. -/
theorem Folds.outcomes_eq {left right : Replica}
    (leftFolds : Folds mode chosen left) (rightFolds : Folds mode chosen right)
    (same : left.folded = right.folded) {slot : Nat} (leftHeld : left.floor ≤ slot)
    (rightHeld : right.floor ≤ slot)
    : left.outcomes[slot]? = right.outcomes[slot]? := by
  refine Option.ext fun outcome => ?_
  rw [leftFolds.outcomes_iff, rightFolds.outcomes_iff, same]
  simp only [leftHeld, rightHeld, true_and]

theorem Folds.floor_safe (folds : Folds mode chosen replica)
    : SafeCut mode chosen replica.floor :=
  folds.cut_safe trivial

namespace Retains

section

variable (retains : Retains faithful mode chosen replica)
include retains

theorem folds (kept : faithful)
    : Folds mode chosen replica :=
  { retains with
    verdicts_iff := fun _ => retains.verdicts_iff kept
    cut_safe := fun _ => retains.cut_safe kept }

/-- The bookkeeping fields of a replica play no part in its fold. -/
theorem frame (pending due compaction : Bool)
    (committed : List (Nat × Ballot × Command × Outcome)) (page : Nat)
    : Retains faithful mode chosen { replica with
        advancePending := pending, truncateDue := due, compactionDue := compaction,
        committed := committed, applyPage := page } :=
  { retains with folded_le := retains.folded_le }

/-- Moving the chosen index on keeps the fold behind it. -/
theorem raiseChosenIndex {index : Nat} (past : replica.folded ≤ index + 1)
    : Retains faithful mode chosen { replica with chosenIndex := some index } :=
  { retains with folded_le := past }

/-- The state a replica reads back at a retained slot is the ledger's there.
Witness: the history holds the last slot that changed the state; from it on the ledger's state
is constant.
-/
theorem stateAt_eq {slot : Nat} (above : replica.floor ≤ slot) (below : slot ≤ replica.folded)
    : replica.stateAt slot = (ledgerAt mode chosen slot).state := by
  have unchanged {start : Nat} (least : replica.floor ≤ start) (atMost : start ≤ slot)
      (missing : ∀ other, start ≤ other → other < slot → replica.history[other]? = none)
      : (ledgerAt mode chosen slot).state = (ledgerAt mode chosen start).state := by
    induction slot with
    | zero => rw [Nat.le_zero.mp atMost]
    | succ last ih =>
      rcases Nat.lt_or_eq_of_le atMost with less | rfl
      · have same : (ledgerAt mode chosen (last + 1)).state = (ledgerAt mode chosen last).state := by
          by_contra changed
          have recorded := (retains.history_iff last _).mpr ⟨⟨by omega, by omega⟩, rfl, changed⟩
          rw [missing last (by omega) (by omega)] at recorded
          cases recorded
        rw [same]
        exact ih (by omega) (by omega) (by omega)
          fun other least less => missing other least (by omega)
      · rfl
  unfold Replica.stateAt
  cases found : lastBefore slot replica.history with
  | none =>
    rw [unchanged le_rfl above fun other _ less => lastBefore_eq_none found less]
    exact retains.base_eq
  | some entry =>
    obtain ⟨last, state⟩ := entry
    obtain ⟨less, recorded, gap⟩ := lastBefore_eq_some found
    obtain ⟨⟨least, _⟩, stateEq, _⟩ := (retains.history_iff last state).mp recorded
    have constant : (ledgerAt mode chosen slot).state = (ledgerAt mode chosen (last + 1)).state :=
      unchanged (by omega) less fun other least below => gap other (by omega) below
    rw [constant]
    exact stateEq

/-- A replica compares with the writes accepted from its floor on. Witness: its positions index
holds exactly those.
-/
theorem acceptedAt_since (seq : Nat)
    : replica.acceptedAt seq
      = if (ledgerAt mode chosen replica.floor).state.nextSeq ≤ seq then
          (ledgerAt mode chosen replica.folded).accepted seq
        else none := by
  ext entry
  rw [Option.ite_none_right_eq_some, ledgerAt_accepted_iff]
  simp only [Replica.acceptedAt, Option.bind_eq_some_iff]
  constructor
  · rintro ⟨slot, indexed, command, known, write⟩
    obtain ⟨⟨above, less⟩, count, accepted⟩ := (retains.positions_iff seq slot).mp indexed
    obtain ⟨rfl, _⟩ := retains.learned slot command known
    obtain ⟨atEnd, _, _, written, isWrite⟩ := verdictAt_accepted accepted
    refine ⟨atEnd ▸ ledgerAt_nextSeq_mono above, slot, less, ⟨count, accepted⟩, ?_⟩
    rw [isWrite] at write ⊢
    rw [Option.some.inj write]
  · rintro ⟨kept, slot, less, ⟨count, accepted⟩, write⟩
    have above : replica.floor ≤ slot := by
      by_contra low
      have inside := verdictAt_accepted_lt accepted (not_le.mp low)
      omega
    exact ⟨slot, (retains.positions_iff seq slot).mpr ⟨⟨above, less⟩, count, accepted⟩,
      chosen slot, retains.held slot above less, by rw [write]; rfl⟩

/-- A retry at the fold is compared with the same record as in the full fold.
Witness: the floor is a safe cut, so the record's slot is retained and indexed.
-/
theorem acceptedAt_eq (kept : faithful) {seq : Nat}
    (retried : (ledgerAt mode chosen replica.folded).state.Retries mode
      (chosen replica.folded) seq)
    : replica.acceptedAt seq = (ledgerAt mode chosen replica.folded).accepted seq := by
  rw [retains.acceptedAt_since, if_pos (retains.cut_safe kept _ _ retains.floor_le retried)]

/-- A replica judges the slot at its fold as the full fold does. -/
theorem apply_eq (kept : faithful)
    : replica.state.apply replica.mode (chosen replica.folded) replica.acceptedAt
      = ((ledgerAt mode chosen (replica.folded + 1)).state,
          verdictAt mode chosen replica.folded) := by
  rw [retains.state_eq, retains.mode_eq]
  exact JournalState.apply_congr fun _ retried => retains.acceptedAt_eq kept retried

/-- Whatever it has dropped, a replica moves its journal, and accepts, as the full fold does. -/
theorem apply_moves
    : (replica.state.apply replica.mode (chosen replica.folded) replica.acceptedAt).1
        = (ledgerAt mode chosen (replica.folded + 1)).state
      ∧ ∀ seq count,
        (replica.state.apply replica.mode (chosen replica.folded) replica.acceptedAt).2
            = .accepted seq count
          ↔ verdictAt mode chosen replica.folded = .accepted seq count := by
  rw [retains.state_eq, retains.mode_eq]
  exact JournalState.apply_lookup _

-- Folding on

/-- Folding the chosen command at the fold keeps the invariant, one slot further. -/
theorem foldOne (known : replica.chosen[replica.folded]? = some (chosen replica.folded))
    (below : replica.folded < replica.firstUnchosen)
    : Retains faithful mode chosen (replica.foldOne replica.folded (chosen replica.folded)).1 := by
  obtain ⟨moved, accepts⟩ := retains.apply_moves
  have least := retains.floor_le
  have inside (slot : Nat)
      : (replica.floor ≤ slot ∧ slot < replica.folded + 1)
        ↔ (replica.floor ≤ slot ∧ slot < replica.folded) ∨ slot = replica.folded := by
    omega
  exact { retains with
    floor_le := Nat.le_succ_of_le retains.floor_le
    folded_le := below
    held := by
      intro slot above less
      rcases Nat.lt_succ_iff_lt_or_eq.mp less with earlier | rfl
      · exact retains.held slot above earlier
      · exact known
    state_eq := moved
    accepted_iff := by
      intro slot seq count
      have unfolded (seq count : Nat)
          : replica.outcomes[replica.folded]? ≠ some (.accepted seq count) := fun recorded =>
        absurd ((retains.accepted_iff _ _ _).mp recorded).1.2 (lt_irrefl _)
      simp only [Replica.foldOne, inside, or_and_right, ← retains.accepted_iff]
      by_cases here : slot = replica.folded
      · subst here
        simp only [unfolded, false_or, true_and, ← accepts]
        split_ifs with judged
        · simp
        · simp [unfolded, not_not.mp judged]
      · simp only [here, false_and, or_false]
        split_ifs
        · rw [getElem?_insert, if_neg (Ne.symm here)]
        · rfl
    history_iff := by
      intro slot state
      have fresh : replica.history[replica.folded]? = none := by
        refine Option.eq_none_iff_forall_ne_some.mpr fun stale recorded => ?_
        exact absurd ((retains.history_iff _ _).mp recorded).1.2 (lt_irrefl _)
      simp only [Replica.foldOne, moved, inside, or_and_right, ← retains.history_iff,
        OrderedMap.getElem?_ite_insert fresh]
      rw [retains.state_eq]
      aesop
    positions_iff := by
      intro seq slot
      simp only [Replica.foldOne, inside, or_and_right, ← retains.positions_iff]
      split
      next start count entry accepted write =>
        rw [accepts] at accepted
        have fresh : replica.positions[start]? = none := by
          refine Option.eq_none_iff_forall_ne_some.mpr fun stale recorded => ?_
          obtain ⟨⟨_, less⟩, _, earlier⟩ := (retains.positions_iff _ _).mp recorded
          exact absurd (verdictAt_accepted_lt earlier less) (by
            rw [← (verdictAt_accepted accepted).1]
            exact lt_irrefl _)
        rw [getElem?_insert_fresh fresh]
        aesop
      next other =>
        constructor
        · exact Or.inl
        · rintro (recorded | ⟨rfl, count, accepted⟩)
          · exact recorded
          · obtain ⟨_, _, _, entry, write⟩ := verdictAt_accepted accepted
            exact absurd write (other _ _ _ ((accepts _ _).mpr accepted))
    verdicts_iff := by
      intro kept slot outcome
      have judged := retains.apply_eq kept
      have fresh : replica.outcomes[replica.folded]? = none := by
        refine Option.eq_none_iff_forall_ne_some.mpr fun stale recorded => ?_
        exact absurd ((retains.verdicts_iff kept _ _).mp recorded).1.2 (lt_irrefl _)
      simp only [Replica.foldOne, judged, inside, or_and_right, ← retains.verdicts_iff kept,
        OrderedMap.getElem?_ite_insert fresh]
      aesop }

end

end Retains

/-- What every fold of a held slot preserves, a refold preserves. -/
theorem Replica.refold_induction {P : Replica → Prop}
    (step : ∀ replica command, P replica → replica.folded < replica.firstUnchosen
      → replica.chosen[replica.folded]? = some command
      → P (replica.foldOne replica.folded command).1)
    (start : P replica)
    : P replica.refold := by
  have steps : ∀ count replica, P replica → P (Replica.refoldSteps count replica) := by
    intro count replica start
    fun_induction refoldSteps count replica with
    | case1 | case3 | case4 => exact start
    | case2 _ replica below command known ih => exact ih (step replica command start below known)
  exact steps _ _ start

/-- What every applied slot preserves, a walk preserves. -/
theorem Replica.walk_induction {P : Replica → Prop} {recordBallot : Nat → Command → Option Ballot}
    (step : ∀ replica command committed, P replica
      → replica.chosen[replica.firstUnchosen]? = some command
      → P { ({ replica with chosenIndex := some replica.firstUnchosen }.foldOne
              replica.firstUnchosen command).1 with committed := committed })
    (slots : Nat) {replica : Replica} (start : P replica) (written : List Nat)
    : P (Replica.walk recordBallot slots replica written).1 := by
  induction slots generalizing replica written with
  | zero => exact start
  | succ slots ih =>
    simp only [walk]
    split
    next => exact start
    next command known =>
      split
      next => exact start
      next => exact ih (step replica command _ start known) _

namespace Retains

section

variable (retains : Retains faithful mode chosen replica)
include retains

/-- The next slot below the chosen index, when held, retains. -/
theorem foldHeld {command : Command} (below : replica.folded < replica.firstUnchosen)
    (known : replica.chosen[replica.folded]? = some command)
    : Retains faithful mode chosen (replica.foldOne replica.folded command).1 := by
  obtain ⟨rfl, _⟩ := retains.learned _ _ known
  exact retains.foldOne known below

theorem refold : Retains faithful mode chosen replica.refold :=
  Replica.refold_induction (fun _ _ kept below known => kept.foldHeld below known) retains

theorem learn {slot : Nat} (above : replica.floor ≤ slot)
    : Retains faithful mode chosen (replica.learn slot (chosen slot)) := by
  have known : Retains faithful mode chosen { replica with
      chosen := replica.chosen.insert slot (chosen slot) } :=
    { retains with
      learned := by
        intro other command held
        simp only [getElem?_insert] at held
        split_ifs at held with same
        · subst same
          exact ⟨(Option.some.inj held).symm, above⟩
        · exact retains.learned other command held
      held := by
        intro other least less
        simp only [getElem?_insert]
        split_ifs with same
        · rw [same]
        · exact retains.held other least less }
  unfold Replica.learn
  split_ifs
  · exact known.refold
  · exact known

/-- Applying the slot at a fold level with the chosen index keeps the invariant and the level. -/
theorem applyNext (level : replica.folded = replica.firstUnchosen) {command : Command}
    (known : replica.chosen[replica.firstUnchosen]? = some command)
    (committed : List (Nat × Ballot × Command × Outcome))
    : Retains faithful mode chosen
      { ({ replica with chosenIndex := some replica.firstUnchosen }.foldOne replica.firstUnchosen
          command).1 with committed := committed } := by
  rw [← level] at known ⊢
  have raised := retains.raiseChosenIndex (Nat.le_succ replica.folded)
  exact (raised.foldHeld (Nat.lt_succ_self _) known).frame _ _ _ committed _

end

/-- A walk keeps the fold at the first unchosen slot and the invariant with it. -/
theorem walk {recordBallot : Nat → Command → Option Ballot} (slots : Nat)
    (retains : Retains faithful mode chosen replica) (caughtUp : replica.folded = replica.firstUnchosen)
    (written : List Nat)
    : Retains faithful mode chosen (Replica.walk recordBallot slots replica written).1
      ∧ (Replica.walk recordBallot slots replica written).1.folded
        = (Replica.walk recordBallot slots replica written).1.firstUnchosen := by
  refine Replica.walk_induction ?_ slots (P := fun replica =>
    Retains faithful mode chosen replica ∧ replica.folded = replica.firstUnchosen) ⟨retains, caughtUp⟩ written
  rintro replica command committed ⟨retains, caughtUp⟩ known
  exact ⟨retains.applyNext caughtUp known committed, rfl⟩

theorem advance (retains : Retains faithful mode chosen replica)
    (recordBallot : Nat → Command → Option Ballot)
    : Retains faithful mode chosen (replica.advance recordBallot).1 := by
  by_cases caughtUp : replica.refold.folded = replica.refold.firstUnchosen
  · simp only [Replica.advance, if_pos caughtUp]
    exact (retains.refold.walk _ caughtUp []).1.frame _ _ _ _ _
  · simp only [Replica.advance, if_neg caughtUp]
    exact retains.refold.frame _ _ _ _ _

-- Dropping a prefix

section

variable (retains : Retains faithful mode chosen replica) {first : Nat}
  (above : replica.floor ≤ first) (below : first ≤ replica.folded)
  (safe : faithful → SafeCut mode chosen first)
include retains above below safe

/-- A prefix drop at a safe cut keeps the invariant. -/
theorem dropPrefix
    : Retains faithful mode chosen
        (replica.dropPrefix first (ledgerAt mode chosen first).state) := by
  have later (slot : Nat)
      : first ≤ slot ∧ (replica.floor ≤ slot ∧ slot < replica.folded)
        ↔ first ≤ slot ∧ slot < replica.folded := by
    omega
  refine { retains with
    floor_le := below, base_eq := rfl, cut_safe := safe, learned := ?_, held := ?_
    accepted_iff := ?_, verdicts_iff := ?_, history_iff := ?_, positions_iff := ?_ }
  all_goals simp only [Replica.dropPrefix, getElem?_startingAt, Option.ite_none_right_eq_some]
  · rintro slot command ⟨retained, held⟩
    exact ⟨(retains.learned slot command held).1, retained⟩
  · exact fun slot retained less => ⟨retained, retains.held slot (above.trans retained) less⟩
  · simp only [retains.accepted_iff, ← and_assoc, later, implies_true]
  · simp only [retains.history_iff, ← and_assoc, later, implies_true]
  · intro seq slot
    rw [Std.ExtTreeMap.getElem?_filter', Option.filter_eq_some_iff, decide_eq_true_eq,
      retains.positions_iff, and_comm, ← and_assoc, later]
  · intro kept
    simp only [retains.verdicts_iff kept, ← and_assoc, later, implies_true]

theorem truncate
    : Retains faithful mode chosen (replica.truncate first).1 := by
  unfold Replica.truncate
  rw [retains.stateAt_eq above below]
  exact (retains.dropPrefix above below safe).frame _ _ _ _ _

end

variable {point : Nat}

/-- A replica that holds no verdict yet, at a safe cut with the ledger's state there. -/
theorem fresh (safe : faithful → SafeCut mode chosen point) (modeEq : replica.mode = mode)
    (floorEq : replica.floor = point) (foldedEq : replica.folded = point)
    (past : point ≤ replica.firstUnchosen)
    (learned : ∀ slot command, replica.chosen[slot]? = some command
      → command = chosen slot ∧ replica.floor ≤ slot)
    (baseEq : replica.base = (ledgerAt mode chosen point).state)
    (stateEq : replica.state = (ledgerAt mode chosen point).state)
    (outcomes : replica.outcomes = ∅) (history : replica.history = ∅)
    (positions : replica.positions = ∅)
    : Retains faithful mode chosen replica := by
  have empty (slot : Nat) : ¬ (replica.floor ≤ slot ∧ slot < replica.folded) := by omega
  exact {
    mode_eq := modeEq
    floor_le := by rw [floorEq, foldedEq]
    folded_le := foldedEq ▸ past
    learned := learned
    held := fun slot above less => absurd ⟨above, less⟩ (empty slot)
    base_eq := floorEq ▸ baseEq
    state_eq := foldedEq ▸ stateEq
    accepted_iff := by simp [outcomes, empty]
    verdicts_iff := by simp [outcomes, empty]
    history_iff := by simp [history, empty]
    positions_iff := by simp [positions, empty]
    cut_safe := floorEq ▸ safe }

/-- Covering the slot below a point leaves the fold behind the chosen index. -/
theorem coverBoundary (retains : Retains faithful mode chosen replica) (positive : 0 < point)
    : Retains faithful mode chosen (replica.coverBoundary point)
      ∧ point ≤ (replica.coverBoundary point).firstUnchosen := by
  have behind := retains.folded_le
  unfold Replica.coverBoundary
  split_ifs with low
  · refine ⟨retains.raiseChosenIndex ?_, ?_⟩
    · unfold Replica.firstUnchosen at behind
      cases known : replica.chosenIndex with
      | none => simp only [known, Option.elim_none] at behind; omega
      | some index =>
        simp only [known, Option.elim_some, Option.all_some, decide_eq_true_eq] at behind low
        omega
    · show point ≤ point - 1 + 1
      omega
  · refine ⟨retains, ?_⟩
    unfold Replica.firstUnchosen
    cases known : replica.chosenIndex with
    | none => simp only [known, Option.all_none, not_true] at low
    | some index =>
      simp only [known, Option.elim_some, Option.all_some, decide_eq_true_eq] at low ⊢
      omega

/-- A jump to a safe trim point with the ledger's state there keeps the invariant. -/
theorem trimTo (retains : Retains faithful mode chosen replica) (above : replica.floor ≤ point)
    (positive : 0 < point) (safe : faithful → SafeCut mode chosen point)
    : Retains faithful mode chosen (replica.trimTo point (ledgerAt mode chosen point).state).1 := by
  obtain ⟨raised, covered⟩ := retains.coverBoundary positive
  have floorEq : (replica.coverBoundary point).floor = replica.floor := by
    unfold Replica.coverBoundary
    split_ifs <;> rfl
  have aboveFloor : (replica.coverBoundary point).floor ≤ point := floorEq ▸ above
  by_cases folded : point ≤ (replica.coverBoundary point).folded
  · simp only [Replica.trimTo, if_pos folded, raised.stateAt_eq aboveFloor folded]
    exact (raised.dropPrefix aboveFloor folded safe).refold.frame _ _ _ _ _
  · simp only [Replica.trimTo, if_neg folded]
    have learned : ∀ slot command,
        (startingAt point (replica.coverBoundary point).chosen)[slot]? = some command
        → command = chosen slot ∧ point ≤ slot := by
      intro slot command held
      rw [getElem?_startingAt] at held
      split_ifs at held with retained
      exact ⟨(raised.learned slot command held).1, retained⟩
    have jumped : Retains faithful mode chosen
        ({ replica.coverBoundary point with
            history := ∅, outcomes := ∅, positions := ∅,
            state := (ledgerAt mode chosen point).state, folded := point }.dropPrefix point
          (ledgerAt mode chosen point).state) :=
      fresh safe raised.mode_eq rfl rfl covered learned rfl rfl rfl rfl rfl
    exact jumped.refold.frame _ _ _ _ _

/-- A boot at a safe floor with the ledger's state there retains the readable records. -/
theorem fromBoot {floor : Nat} {chosenIndex : Option Nat} {records : SlotMap (Ballot × Command)}
    (safe : faithful → SafeCut mode chosen floor) (past : floor ≤ chosenIndex.elim 0 (· + 1))
    (recorded : ∀ slot ballot command, records[slot]? = some (ballot, command)
      → floor ≤ slot ∧ (chosenIndex.any (slot ≤ ·) → command = chosen slot))
    : Retains faithful mode chosen
        (.fromBoot mode chosenIndex floor (ledgerAt mode chosen floor).state records) := by
  refine frame (refold (fresh safe rfl rfl rfl ?_ ?_ rfl rfl rfl rfl rfl)) _ _ _ _ _
  · exact past
  · intro slot command held
    simp only [Std.ExtTreeMap.getElem?_map, Std.ExtTreeMap.getElem?_filter', Option.map_eq_some_iff,
      Option.filter_eq_some_iff] at held
    obtain ⟨⟨ballot, _⟩, ⟨stored, low⟩, rfl⟩ := held
    obtain ⟨above, same⟩ := recorded slot ballot _ stored
    exact ⟨same low, above⟩

end Retains

end Paros
