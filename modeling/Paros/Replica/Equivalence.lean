import Paros.Replica.Compaction

/-! Replicas of one chosen sequence agree, whatever their histories of learning, applying,
truncating, jumping to a peer's trim point and rebooting.
-/

namespace Paros

/-- Whether a cut keeps every record that a retained slot's verdict read: the safety half of the
source's `assert_compacted`.
-/
def Replica.keepsVerdicts (replica : Replica) (first : Nat) : Bool :=
  (OrderedMap.before replica.folded (OrderedMap.startingAt first replica.chosen)).toList.all
    fun (slot, command) =>
      replica.mode == .multi || command.asEntry.all fun entry =>
        let judged := replica.stateAt slot
        !(judged.firstSeq ≤ entry.seq && entry.seq < judged.nextSeq)
          || (replica.stateAt first).nextSeq ≤ entry.seq

/-- What such a cut keeps: no retry folded above it reads a record below it. -/
theorem Retains.kept_of_keepsVerdicts {faithful : Prop} {mode : WriterMode}
    {chosen : Nat → Command} {replica : Replica} (retains : Retains faithful mode chosen replica)
    {first : Nat} (above : replica.floor ≤ first) (below : first ≤ replica.folded)
    (keeps : replica.keepsVerdicts first)
    : ∀ slot seq, first ≤ slot → slot < replica.folded
      → (ledgerAt mode chosen slot).state.Retries mode (chosen slot) seq
      → (ledgerAt mode chosen first).state.nextSeq ≤ seq := by
  intro slot seq least less retried
  obtain ⟨isSingle, entry, write, rfl, inside⟩ :=
    (retains.retries_iff (above.trans least) less).mp retried
  simp only [Replica.keepsVerdicts, List.all_eq_true, Prod.forall] at keeps
  have kept := keeps slot _ ((retains.mem_retained above).mpr ⟨least, less, rfl⟩)
  simpa [isSingle, write, inside.1, inside.2, retains.stateAt_eq above below] using kept

/-- A truncation that passes its assertions and keeps the retained verdicts' records cuts
safely.
-/
theorem Folds.cut_of_keepsVerdicts {mode : WriterMode} {chosen : Nat → Command} {replica : Replica}
    (folds : Folds mode chosen replica) {first : Nat} (passes : replica.truncatable first)
    (keeps : replica.keepsVerdicts first)
    : Cut mode chosen replica.folded first := by
  simp only [Replica.truncatable, Bool.and_eq_true, decide_eq_true_eq] at passes
  obtain ⟨⟨⟨_, trimmed⟩, above⟩, below⟩ := passes
  rw [folds.stateAt_eq above below] at trimmed
  exact ⟨below, folds.state_eq ▸ trimmed, folds.kept_of_keepsVerdicts above below keeps⟩

-- Histories

/-- A replica with a history over one chosen sequence, whose truncations pass their assertions
and are admitted. A trim jump goes to the floor another replica reached, with the state sealed
there; a reboot reads back the floor, the sealed state and the chosen index, and any of the
accepted records, which at or below the chosen index carry chosen commands.
-/
inductive Replica.Reached (admits : Replica → Nat → Prop) (mode : WriterMode)
    (chosen : Nat → Command)
    : Replica → Prop
  | boot : Reached admits mode chosen (.fromBoot mode none 0 .initial ∅)
  | learn {replica} (history : Reached admits mode chosen replica) {slot : Nat}
    (above : replica.floor ≤ slot)
    : Reached admits mode chosen (replica.learn slot (chosen slot))
  | applyPage {replica} (history : Reached admits mode chosen replica) (page : Nat)
    : Reached admits mode chosen (replica.setApplyPage page)
  | advance {replica} (history : Reached admits mode chosen replica)
    (recordBallot : Nat → Command → Option Ballot)
    : Reached admits mode chosen (replica.advance recordBallot).1
  | drain {replica} (history : Reached admits mode chosen replica)
    : Reached admits mode chosen replica.clearCommitted
  | compacted {replica} (history : Reached admits mode chosen replica)
    : Reached admits mode chosen replica.assertCompacted
  | truncate {replica} (history : Reached admits mode chosen replica) {first : Nat}
    (passes : replica.truncatable first) (admitted : admits replica first)
    : Reached admits mode chosen (replica.truncate first).1
  | trimTo {replica peer} (history : Reached admits mode chosen replica)
    (peerHistory : Reached admits mode chosen peer) (behind : replica.floor < peer.floor)
    : Reached admits mode chosen (replica.trimTo peer.floor peer.base).1
  | reboot {replica} (history : Reached admits mode chosen replica)
    (records : SlotMap (Ballot × Command))
    (recorded : ∀ slot ballot command, records[slot]? = some (ballot, command)
      → replica.floor ≤ slot
        ∧ (replica.chosenIndex.any (slot ≤ ·) → command = chosen slot))
    : Reached admits mode chosen
        (.fromBoot mode replica.chosenIndex replica.floor replica.base records)

variable {mode : WriterMode} {chosen : Nat → Command} {replica : Replica}

/-- Every history retains its part of the ledger, faithfully where the truncations it admits
keep the retained verdicts' records. Witness: induction over the history, one step lemma per
operation.
-/
theorem Replica.Reached.retains {admits : Replica → Nat → Prop} {faithful : Prop}
    (keeps : faithful → ∀ replica first, admits replica first → replica.keepsVerdicts first)
    (history : Reached admits mode chosen replica)
    : Retains faithful mode chosen replica := by
  induction history with
  | boot => exact Retains.fromBoot (fun _ => safeCut_zero mode chosen) le_rfl (by simp)
  | learn _ above retains => exact retains.learn above
  | applyPage _ page retains => exact retains.frame _ _ _ _ page
  | advance _ recordBallot retains => exact retains.advance recordBallot
  | drain _ retains => exact retains.frame _ _ _ _ _
  | compacted _ retains => exact retains.frame _ _ _ _ _
  | truncate _ passes admitted retains =>
    have safe (kept : faithful) :=
      ((retains.folds kept).cut_of_keepsVerdicts passes (keeps kept _ _ admitted)).safe
    simp only [truncatable, Bool.and_eq_true, decide_eq_true_eq] at passes
    exact retains.truncate passes.1.2 passes.2 safe
  | trimTo _ _ behind retains peerRetains =>
    rw [peerRetains.base_eq]
    exact retains.trimTo behind.le (Nat.zero_lt_of_lt behind) peerRetains.cut_safe
  | reboot _ records recorded retains =>
    rw [retains.base_eq]
    exact Retains.fromBoot retains.cut_safe (retains.floor_le.trans retains.folded_le) recorded

/-- Every history whose truncations keep the retained verdicts' records folds the ledger. -/
theorem Replica.Reached.folds
    (history : Reached (fun replica first => replica.keepsVerdicts first) mode chosen replica)
    : Folds mode chosen replica :=
  history.retains fun _ _ _ keeps => keeps

-- Agreement of replicas

/-- Two replicas of one chosen sequence report the same outcome for every slot both hold one
for, and equal journals at equal folds. Witness: both fold the same ledger.
-/
theorem Replica.reached_agree {mode : WriterMode} {chosen : Nat → Command} {left right : Replica}
    (leftHistory : Reached (fun replica first => replica.keepsVerdicts first) mode chosen left)
    (rightHistory : Reached (fun replica first => replica.keepsVerdicts first) mode chosen right)
    : (∀ slot leftOutcome rightOutcome, slot < left.folded → slot < right.folded
        → left.outcomes[slot]? = some leftOutcome → right.outcomes[slot]? = some rightOutcome
        → leftOutcome = rightOutcome)
      ∧ (left.folded = right.folded → left.state = right.state ∧ left.mode = right.mode) := by
  have leftFolds := leftHistory.folds
  have rightFolds := rightHistory.folds
  constructor
  · intro slot leftOutcome rightOutcome _ _ leftHeld rightHeld
    rw [((leftFolds.outcomes_iff _ _).mp leftHeld).2.1,
      ((rightFolds.outcomes_iff _ _).mp rightHeld).2.1]
  · intro same
    rw [leftFolds.state_eq, rightFolds.state_eq, same, leftFolds.mode_eq, rightFolds.mode_eq]
    exact ⟨rfl, rfl⟩

-- A cut that drops the record of a retained retry

/-- A fresh replica that learned the first slots of a sequence. -/
def Replica.learnFirst (mode : WriterMode) (chosen : Nat → Command) : Nat → Replica
  | 0 => .fromBoot mode none 0 .initial ∅
  | slot + 1 => (learnFirst mode chosen slot).learn slot (chosen slot)

theorem Replica.learnFirst_floor (mode : WriterMode) (chosen : Nat → Command) (slots : Nat)
    : (learnFirst mode chosen slots).floor = 0 := by
  induction slots with
  | zero => rfl
  | succ slot ih =>
    simp only [learnFirst, learn]
    split_ifs
    · exact refold_induction (P := fun replica => replica.floor = 0)
        (fun _ _ floor _ _ => floor) ih
    · exact ih

theorem Replica.learnFirst_reached (admits : Replica → Nat → Prop) (mode : WriterMode)
    (chosen : Nat → Command) (slots : Nat)
    : Reached admits mode chosen (learnFirst mode chosen slots) := by
  induction slots with
  | zero => exact .boot
  | succ slot ih => exact .learn ih (learnFirst_floor mode chosen slot ▸ Nat.zero_le slot)

/-- The readable records of a replica's retained slots. -/
def Replica.retainedRecords (replica : Replica) : SlotMap (Ballot × Command) :=
  replica.chosen.map fun _ command => (.zero, command)

/-- A truncation at `first` followed by a reboot from what it left durable. -/
def Replica.truncateAndReboot (replica : Replica) (first : Nat) : Replica :=
  let kept := (replica.truncate first).1
  .fromBoot replica.mode kept.chosenIndex kept.floor kept.base kept.retainedRecords

/-- A writer's three records with a retry of the first one in between, then a truncation of the
first two positions.
-/
def retriedSequence (slot : Nat) : Command :=
  ([.control (.setLeader 7 none), .write ⟨7, 0, [[1]]⟩, .write ⟨7, 1, [[2]]⟩,
    .write ⟨7, 0, [[1]]⟩, .write ⟨7, 2, [[3]]⟩, .control (.truncate 7 2)] : List Command).getD slot
    .noop

/-- A replica that learned and applied the six slots of `retriedSequence`. -/
def retriedReplica : Replica :=
  ((Replica.learnFirst .single retriedSequence 6).advance fun _ _ => some .zero).1

theorem retriedReplica_reached (admits : Replica → Nat → Prop)
    : Replica.Reached admits .single retriedSequence retriedReplica :=
  .advance (Replica.learnFirst_reached admits _ _ 6) _

/-- The reboot of a replica of `retriedSequence` after a truncation, as a history. -/
theorem retriedReplica_truncateAndReboot {admits : Replica → Nat → Prop} {first : Nat}
    (passes : retriedReplica.truncatable first) (admitted : admits retriedReplica first)
    : Replica.Reached admits .single retriedSequence (retriedReplica.truncateAndReboot first) := by
  have folds : Folds .single retriedSequence retriedReplica := (retriedReplica_reached _).folds
  refine .reboot (.truncate (retriedReplica_reached admits) passes admitted) _
    fun slot ballot command held => ?_
  simp only [Replica.retainedRecords, Replica.truncate, Replica.dropPrefix,
    Std.ExtTreeMap.getElem?_map, OrderedMap.getElem?_startingAt, Option.map_eq_some_iff,
    Option.ite_none_right_eq_some, Prod.mk.injEq] at held
  obtain ⟨_, ⟨above, known⟩, _, rfl⟩ := held
  exact ⟨above, fun _ => (folds.learned slot _ known).1⟩

/-- Cut at the compaction target, the rebooted replica agrees with the one that kept it all. -/
theorem Replica.reached_agree_retried
    : (∀ slot leftOutcome rightOutcome, slot < retriedReplica.folded
        → slot < (retriedReplica.truncateAndReboot 4).folded
        → retriedReplica.outcomes[slot]? = some leftOutcome
        → (retriedReplica.truncateAndReboot 4).outcomes[slot]? = some rightOutcome
        → leftOutcome = rightOutcome)
      ∧ (retriedReplica.folded = (retriedReplica.truncateAndReboot 4).folded
        → retriedReplica.state = (retriedReplica.truncateAndReboot 4).state
          ∧ retriedReplica.mode = (retriedReplica.truncateAndReboot 4).mode) :=
  Replica.reached_agree (retriedReplica_reached _)
    (retriedReplica_truncateAndReboot (by decide +kernel) (by decide +kernel))

/-- Cut below the compaction target, at slot 2, the truncation passes every assertion of
`truncate` and drops the write that the retry at slot 3 repeats: rebooted, the replica refuses
the retry that the other judged a duplicate.
-/
theorem Replica.truncate_below_target_disagrees
    : ∃ left right : Replica,
        Reached (fun _ _ => True) .single retriedSequence left
        ∧ Reached (fun _ _ => True) .single retriedSequence right
        ∧ 3 < left.folded ∧ 3 < right.folded
        ∧ left.outcomes[3]? = some (.duplicate 0 1)
        ∧ right.outcomes[3]? = some (.refused ⟨some 7, 2, 0⟩) :=
  ⟨retriedReplica, retriedReplica.truncateAndReboot 2, retriedReplica_reached _,
    retriedReplica_truncateAndReboot (by decide +kernel) trivial,
    by decide +kernel, by decide +kernel, by decide +kernel, by decide +kernel⟩

end Paros
