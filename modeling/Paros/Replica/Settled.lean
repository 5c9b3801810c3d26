import Paros.Replica.Compaction
import Paros.Replica.Ordered

/-! Between calls a replica has made the compactions its fold allows: a cut stays open only over
slots at which the journal is empty, and such a cut drops no record a verdict reads.
-/

namespace Paros

/-- Every cut above the floor that the fold allows passes only slots with an empty journal. -/
def NoCut (mode : WriterMode) (chosen : Nat → Command) (floor folded : Nat) : Prop :=
  ∀ cut, floor < cut → Cut mode chosen folded cut → ∀ slot, floor < slot → slot ≤ cut
    → (ledgerAt mode chosen slot).state.nextSeq ≤ (ledgerAt mode chosen slot).state.firstSeq

namespace NoCut

variable {mode : WriterMode} {chosen : Nat → Command} {floor folded : Nat}

theorem start : NoCut mode chosen floor floor := fun _ above valid =>
  absurd valid.le_folded (not_le.mpr above)

/-- A higher floor leaves fewer cuts. -/
theorem raise (noCut : NoCut mode chosen floor folded) {higher : Nat} (above : floor ≤ higher)
    : NoCut mode chosen higher folded := fun cut higherLess valid slot slotAbove atMost =>
  noCut cut (above.trans_lt higherLess) valid slot (above.trans_lt slotAbove) atMost

/-- A slot that leaves the journal's start opens no cut, unless the journal is empty there. -/
theorem step (noCut : NoCut mode chosen floor folded)
    (same : (ledgerAt mode chosen (folded + 1)).state.firstSeq
      = (ledgerAt mode chosen folded).state.firstSeq)
    : NoCut mode chosen floor (folded + 1) := by
  have earlier {cut : Nat} (within : cut ≤ folded) (valid : Cut mode chosen (folded + 1) cut)
      : Cut mode chosen folded cut :=
    ⟨within, same ▸ valid.trimmed, fun slot seq above below =>
      valid.kept slot seq above (below.trans (Nat.lt_succ_self _))⟩
  intro cut above valid slot slotAbove atMost
  rcases valid.le_folded.lt_or_eq with less | rfl
  · exact noCut cut above (earlier (Nat.le_of_lt_succ less) valid) slot slotAbove atMost
  · have grows : (ledgerAt mode chosen folded).state.nextSeq
        ≤ (ledgerAt mode chosen (folded + 1)).state.nextSeq :=
      ledgerAt_nextSeq_mono (Nat.le_succ _)
    rcases atMost.lt_or_eq with less | rfl
    · -- the journal was empty at the fold already, which was a cut too
      have trimmed : (ledgerAt mode chosen folded).state.nextSeq
          ≤ (ledgerAt mode chosen folded).state.firstSeq :=
        (grows.trans valid.trimmed).trans same.le
      exact noCut folded (slotAbove.trans_le (Nat.le_of_lt_succ less))
        ⟨le_rfl, trimmed, fun _ _ least less => absurd less (not_lt.mpr least)⟩ slot slotAbove
        (Nat.le_of_lt_succ less)
    · exact valid.trimmed

/-- Whatever is dropped up to a cut left open, no verdict reads it. -/
theorem safe (noCut : NoCut mode chosen floor folded) {cut first : Nat}
    (valid : Cut mode chosen folded cut) (above : floor < first) (atMost : first ≤ cut)
    : SafeCut mode chosen first := by
  intro slot seq least retried
  obtain ⟨_, _, inside, _⟩ := retried
  have empty := noCut cut (above.trans_le atMost) valid first above atMost
  exact (empty.trans (ledgerAt_firstSeq_mono least)).trans inside

end NoCut

namespace Retains

variable {faithful : Prop} {mode : WriterMode} {chosen : Nat → Command} {replica : Replica}

/-- Once the floor has reached the compaction floor, no cut is left. -/
theorem noCut_of_compacted (retains : Retains faithful mode chosen replica) {floor : Nat}
    (compacted : replica.compactionFloor ≤ floor)
    : NoCut mode chosen floor replica.folded := fun _ above valid =>
  absurd ((retains.cut_le_compactionFloor valid).trans compacted) (not_le.mpr above)

end Retains

-- Folding and applying

/-- A replica that has folded its whole chosen prefix, with its open cuts accounted for: a
truncation is due, or there are none.
-/
structure CaughtUp (mode : WriterMode) (chosen : Nat → Command) (replica : Replica) : Prop where
  folds : Folds mode chosen replica
  folded : replica.folded = replica.firstUnchosen
  noCut : replica.truncateDue = false → NoCut mode chosen replica.floor replica.folded

namespace CaughtUp

variable {mode : WriterMode} {chosen : Nat → Command} {replica : Replica}

variable (caughtUp : CaughtUp mode chosen replica)
include caughtUp

/-- Applying the next chosen slot: a trim makes a truncation due, anything else opens no cut. -/
theorem apply {command : Command} {committed : List (Nat × Ballot × Command × Outcome)}
    (known : replica.chosen[replica.firstUnchosen]? = some command)
    : CaughtUp mode chosen
      { ({ replica with chosenIndex := some replica.firstUnchosen }.foldOne replica.firstUnchosen
          command).1 with committed := committed } := by
  obtain ⟨folds, folded, noCut⟩ := caughtUp
  rw [← folded] at known ⊢
  obtain ⟨rfl, _⟩ := folds.learned _ _ known
  have raised := folds.raiseChosenIndex (Nat.le_succ replica.folded)
  have judged := folds.apply_eq trivial
  refine ⟨(raised.foldOne known (Nat.lt_succ_self _)).frame _ _ _ committed _, rfl, fun idle => ?_⟩
  have outcome : (replica.state.apply replica.mode (chosen replica.folded) replica.acceptedAt).2
      = verdictAt mode chosen replica.folded := congrArg Prod.snd judged
  unfold Replica.foldOne at idle
  dsimp only at idle
  split at idle
  case h_1 => cases idle
  case h_2 untrimmed =>
    refine (noCut idle).step ((JournalState.apply_effect ..).firstSeq_eq fun view trims => ?_)
    exact untrimmed view (outcome.trans trims)

theorem walk (recordBallot : Nat → Command → Option Ballot) (slots : Nat) (written : List Nat)
    : CaughtUp mode chosen (Replica.walk recordBallot slots replica written).1 :=
  Replica.walk_induction (fun _ _ _ caughtUp known => caughtUp.apply known) slots caughtUp written

/-- An advance passes what is due on to the compaction that follows it. -/
theorem advance (recordBallot : Nat → Command → Option Ballot)
    : Folds mode chosen (replica.advance recordBallot).1
      ∧ (replica.advance recordBallot).1.folded = (replica.advance recordBallot).1.firstUnchosen
      ∧ ((replica.advance recordBallot).1.compactionDue = false
        → NoCut mode chosen (replica.advance recordBallot).1.floor
          (replica.advance recordBallot).1.folded) := by
  simp only [Replica.advance, Replica.refold_of_folded caughtUp.folded, if_pos caughtUp.folded]
  have walked := caughtUp.walk recordBallot replica.applyPage []
  exact ⟨walked.folds.frame _ _ _ _ _, walked.folded, walked.noCut⟩

/-- A jump to a safe trim point leaves nothing to fold and no cut open. -/
theorem trimTo (idle : replica.truncateDue = false)
    {point : Nat} (above : replica.floor < point) (safe : SafeCut mode chosen point)
    : CaughtUp mode chosen (replica.trimTo point (ledgerAt mode chosen point).state).1
      ∧ (replica.trimTo point (ledgerAt mode chosen point).state).1.truncateDue = false := by
  have positive : 0 < point := Nat.zero_lt_of_lt above
  have folds := caughtUp.folds.trimTo above.le positive fun _ => safe
  have reaches := replica.firstUnchosen_coverBoundary positive
  have folded := caughtUp.folded
  have kept : (replica.coverBoundary point).folded = replica.folded
      ∧ (replica.coverBoundary point).truncateDue = false := by
    unfold Replica.coverBoundary
    split <;> exact ⟨rfl, idle⟩
  by_cases within : point ≤ (replica.coverBoundary point).folded
  · let dropped := (replica.coverBoundary point).dropPrefix point
      ((replica.coverBoundary point).stateAt point)
    have whole : dropped.folded = dropped.firstUnchosen := by
      show (replica.coverBoundary point).folded = (replica.coverBoundary point).firstUnchosen
      rw [kept.1] at within ⊢
      omega
    simp only [Replica.trimTo, if_pos within] at folds ⊢
    rw [show ((replica.coverBoundary point).dropPrefix point
      ((replica.coverBoundary point).stateAt point)).refold = dropped from
        Replica.refold_of_folded whole] at folds ⊢
    refine ⟨⟨folds, whole, fun _ => ?_⟩, kept.2⟩
    show NoCut mode chosen point (replica.coverBoundary point).folded
    rw [kept.1]
    exact (caughtUp.noCut idle).raise above.le
  · let jumped := ({ replica.coverBoundary point with
        history := ∅, outcomes := ∅, positions := ∅
        state := (ledgerAt mode chosen point).state, folded := point } : Replica).dropPrefix point
      (ledgerAt mode chosen point).state
    have whole : jumped.folded = jumped.firstUnchosen := by
      show point = (replica.coverBoundary point).firstUnchosen
      rw [kept.1] at within
      omega
    simp only [Replica.trimTo, if_neg within] at folds ⊢
    rw [show (({ replica.coverBoundary point with
        history := ∅, outcomes := ∅, positions := ∅
        state := (ledgerAt mode chosen point).state, folded := point } : Replica).dropPrefix point
      (ledgerAt mode chosen point).state).refold = jumped from
        Replica.refold_of_folded whole] at folds ⊢
    exact ⟨⟨folds, whole, fun _ => NoCut.start⟩, kept.2⟩

end CaughtUp

end Paros
