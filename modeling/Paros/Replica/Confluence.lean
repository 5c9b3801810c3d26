import Paros.Replica.Target

/-! The apply walk is confluent: whatever the order of learning, the apply pages and the calls of
`advance`, a replica that has learned a set of chosen slots ends with the contiguous part of it
applied, once each and in slot order.
-/

namespace Paros

open OrderedMap

-- One advance

/-- What a replica surfaced, without the ballots of its records. -/
def surfaced (batches : List (Nat × Ballot × Command × Outcome))
    : List (Nat × Command × Outcome) :=
  batches.map fun (slot, _, command, outcome) => (slot, command, outcome)

theorem surfaced_append (left right : List (Nat × Ballot × Command × Outcome))
    : surfaced (left ++ right) = surfaced left ++ surfaced right :=
  List.map_append

/-- The slots of `[first, next)` in order, with their commands and verdicts. -/
def appliedBetween (mode : WriterMode) (chosen : Nat → Command) (first next : Nat)
    : List (Nat × Command × Outcome) :=
  (List.range' first (next - first)).map fun slot =>
    (slot, chosen slot, verdictAt mode chosen slot)

theorem appliedBetween_self (mode : WriterMode) (chosen : Nat → Command) (slot : Nat)
    : appliedBetween mode chosen slot slot = [] := by
  simp [appliedBetween]

theorem appliedBetween_succ {mode : WriterMode} {chosen : Nat → Command} {first next : Nat}
    (atMost : first ≤ next)
    : appliedBetween mode chosen first (next + 1)
      = appliedBetween mode chosen first next ++ [(next, chosen next, verdictAt mode chosen next)]
    := by
  rw [appliedBetween, ← List.Ico, List.Ico.succ_top atMost, List.map_append]
  rfl

theorem appliedBetween_append {mode : WriterMode} {chosen : Nat → Command} {first middle next : Nat}
    (low : first ≤ middle) (high : middle ≤ next)
    : appliedBetween mode chosen first middle ++ appliedBetween mode chosen middle next
      = appliedBetween mode chosen first next := by
  rw [appliedBetween, appliedBetween, ← List.map_append]
  exact congrArg _ (List.Ico.append_consecutive low high)

namespace Replica

/-- What applying slots did to a replica whose fold is level with its chosen index: it surfaced
the slots it passed, each of them held, and wrote a chosen index for each.
-/
structure Walked (mode : WriterMode) (chosen : Nat → Command) (earlier later : Replica)
    (written : List Nat)
    : Prop where
  grows : earlier.firstUnchosen ≤ later.firstUnchosen
  written : written
    = List.range' earlier.firstUnchosen (later.firstUnchosen - earlier.firstUnchosen)
  committed : surfaced later.committed = surfaced earlier.committed
    ++ appliedBetween mode chosen earlier.firstUnchosen later.firstUnchosen
  chosen_eq : later.chosen = earlier.chosen
  page : later.applyPage = earlier.applyPage
  passed : ∀ slot, earlier.firstUnchosen ≤ slot → slot < later.firstUnchosen
    → earlier.chosen[slot]? = some (chosen slot)

variable {mode : WriterMode} {chosen : Nat → Command}

theorem Walked.refl (replica : Replica) : Walked mode chosen replica replica [] where
  grows := le_rfl
  written := by simp
  committed := by rw [appliedBetween_self, List.append_nil]
  chosen_eq := rfl
  page := rfl
  passed := by omega

/-- One slot more. -/
theorem Walked.apply {earlier later : Replica} {written : List Nat}
    (walked : Walked mode chosen earlier later written)
    (known : later.chosen[later.firstUnchosen]? = some (chosen later.firstUnchosen))
    (ballot : Ballot)
    : Walked mode chosen earlier
      { ({ later with chosenIndex := some later.firstUnchosen }.foldOne later.firstUnchosen
          (chosen later.firstUnchosen)).1 with
        committed := later.committed ++ [(later.firstUnchosen, ballot, chosen later.firstUnchosen,
          verdictAt mode chosen later.firstUnchosen)] }
      (written ++ [later.firstUnchosen]) where
  grows := walked.grows.trans (Nat.le_succ _)
  written := by
    rw [walked.written]
    exact (List.Ico.succ_top walked.grows).symm
  committed := by
    show surfaced (later.committed ++ _) = surfaced earlier.committed
      ++ appliedBetween mode chosen earlier.firstUnchosen (later.firstUnchosen + 1)
    rw [surfaced_append, walked.committed, appliedBetween_succ walked.grows, List.append_assoc]
    rfl
  chosen_eq := walked.chosen_eq
  page := walked.page
  passed := by
    intro slot least less
    rcases (Nat.le_of_lt_succ less).eq_or_lt with rfl | below
    · exact walked.chosen_eq ▸ known
    · exact walked.passed slot least below

/-- A walk over records that carry their commands passes held slots only. Witness: induction on
the room left, applying the slot at the fold.
-/
theorem walk_walked (ballotOf : Nat → Command → Ballot) (slots : Nat) {earlier later : Replica}
    {written : List Nat} (walked : Walked mode chosen earlier later written)
    (folds : Folds mode chosen later) (level : later.folded = later.firstUnchosen)
    : Walked mode chosen earlier
        (walk (fun slot command => some (ballotOf slot command)) slots later written).1
        (walk (fun slot command => some (ballotOf slot command)) slots later written).2 := by
  induction slots generalizing later written with
  | zero => exact walked
  | succ slots ih =>
    simp only [walk]
    split
    next => exact walked
    next command known =>
      obtain ⟨rfl, _⟩ := folds.learned _ _ known
      have judged : (later.state.apply later.mode (chosen later.firstUnchosen)
          later.acceptedAt).2 = verdictAt mode chosen later.firstUnchosen := by
        rw [← level]
        exact congrArg Prod.snd (folds.apply_eq trivial)
      have applied := walked.apply known
        (ballotOf later.firstUnchosen (chosen later.firstUnchosen))
      rw [← judged] at applied
      exact ih applied (folds.applyNext level known _) rfl

variable {replica : Replica}

/-- With room for a slot, a walk passes the first unchosen one when it is held. -/
theorem walk_moves {recordBallot : Nat → Command → Option Ballot} {slots : Nat}
    {command : Command} (room : 0 < slots)
    (known : replica.chosen[replica.firstUnchosen]? = some command)
    (recorded : (recordBallot replica.firstUnchosen command).isSome) (written : List Nat)
    : replica.firstUnchosen < (walk recordBallot slots replica written).1.firstUnchosen := by
  obtain ⟨ballot, recorded⟩ := Option.isSome_iff_exists.mp recorded
  obtain ⟨slots, rfl⟩ := Nat.exists_eq_succ_of_ne_zero room.ne'
  simp only [walk, known, recorded]
  exact walk_induction (P := fun later => replica.firstUnchosen < later.firstUnchosen)
    (fun _ _ _ passed _ => passed.trans (Nat.lt_succ_self _)) slots (Nat.lt_succ_self _) _

theorem refold_book (replica : Replica)
    : replica.refold.committed = replica.committed
      ∧ replica.refold.applyPage = replica.applyPage ∧ replica.folded ≤ replica.refold.folded :=
  refold_induction (P := fun later => later.committed = replica.committed
    ∧ later.applyPage = replica.applyPage ∧ replica.folded ≤ later.folded)
    (fun _ _ kept _ _ => ⟨kept.1, kept.2.1, kept.2.2.trans (Nat.le_succ _)⟩) ⟨rfl, rfl, le_rfl⟩

/-- Learning a slot surfaces nothing, and the fold does not fall back. -/
theorem learn_book (replica : Replica) (slot : Nat) (command : Command)
    : (replica.learn slot command).committed = replica.committed
      ∧ (replica.learn slot command).applyPage = replica.applyPage
      ∧ replica.folded ≤ (replica.learn slot command).folded := by
  unfold learn
  dsimp only
  split
  · exact refold_book { replica with chosen := replica.chosen.insert slot command }
  · exact ⟨rfl, rfl, le_rfl⟩

/-- An advance from a fold level with the chosen index walks on from there. -/
theorem advance_walked (ballotOf : Nat → Command → Ballot)
    (folds : Folds mode chosen replica) (level : replica.folded = replica.firstUnchosen)
    : Walked mode chosen replica
        (replica.advance fun slot command => some (ballotOf slot command)).1
        (replica.advance fun slot command => some (ballotOf slot command)).2.1 := by
  have walked := walk_walked ballotOf replica.applyPage (.refl replica) folds level
  simp only [advance, refold_of_folded level, if_pos level]
  exact { walked with }

/-- A fold behind the chosen index waits at a slot it does not hold. -/
def Waits (replica : Replica) : Prop :=
  replica.folded < replica.firstUnchosen ∧ replica.chosen[replica.folded]? = none

/-- An advance changes nothing of a waiting fold. -/
theorem advance_waits {recordBallot : Nat → Command → Option Ballot} (waits : replica.Waits)
    : (replica.advance recordBallot).1 = { replica with
          advancePending := replica.isChosen replica.firstUnchosen
          compactionDue := replica.truncateDue
          truncateDue := false }
      ∧ (replica.advance recordBallot).2.1 = [] := by
  have still : replica.refold = replica := by
    obtain ⟨steps, enough⟩ : ∃ steps, replica.firstUnchosen - replica.folded = steps + 1 :=
      ⟨replica.firstUnchosen - replica.folded - 1, by have := waits.1; omega⟩
    simp only [refold, enough, refoldSteps, if_pos waits.1, waits.2]
  simp only [advance, still, if_neg waits.1.ne, and_self]

/-- A fold that nothing held lets go on: it is level with the chosen index, or it waits. -/
def Rests (replica : Replica) : Prop :=
  replica.folded = replica.firstUnchosen ∨ replica.Waits

theorem refold_rests (within : replica.refold.folded ≤ replica.refold.firstUnchosen)
    : replica.refold.Rests := by
  rcases within.eq_or_lt with level | behind
  · exact .inl level
  · exact .inr ⟨behind, refold_stops behind⟩

/-- Learning a slot resumes a fold that waits at it, and moves no other. -/
theorem Rests.learn (rests : replica.Rests) {slot : Nat} {command : Command}
    (within : (replica.learn slot command).folded ≤ (replica.learn slot command).firstUnchosen)
    : (replica.learn slot command).Rests := by
  unfold Replica.learn at within ⊢
  dsimp only at within ⊢
  split_ifs at within ⊢ with fills
  · exact refold_rests within
  · rcases rests with level | ⟨behind, missing⟩
    · exact .inl level
    · refine .inr ⟨behind, ?_⟩
      have other : slot ≠ replica.folded := fun same => fills ⟨same, same ▸ behind⟩
      show (replica.chosen.insert slot command)[replica.folded]? = none
      rw [getElem?_insert, if_neg other, missing]

theorem Rests.advance (rests : replica.Rests) (recordBallot : Nat → Command → Option Ballot)
    : (replica.advance recordBallot).1.Rests := by
  rcases rests with level | waits
  · exact .inl (advance_whole level)
  · rw [(advance_waits waits).1]
    exact .inr waits

theorem Rests.truncate (rests : replica.Rests) {first : Nat} (atMost : first ≤ replica.folded)
    : (replica.truncate first).1.Rests := by
  rcases rests with level | ⟨behind, missing⟩
  · exact .inl level
  · refine .inr ⟨behind, ?_⟩
    show (startingAt first replica.chosen)[replica.folded]? = none
    rw [getElem?_startingAt, if_pos atMost, missing]

/-- In every history the fold rests: whatever moves the fold or the index refolds. -/
theorem Reached.rests {admits : Replica → Nat → Prop} (history : Reached admits mode chosen replica)
    : replica.Rests := by
  have within {later : Replica} (history : Reached admits mode chosen later)
      : later.folded ≤ later.firstUnchosen := by
    have retains : Retains False mode chosen later :=
      history.retains fun impossible => impossible.elim
    exact retains.folded_le
  induction history with
  | boot => exact .inl rfl
  | learn history above kept => exact kept.learn (within (.learn history above))
  | advance _ recordBallot kept => exact kept.advance recordBallot
  | applyPage _ _ kept | drain _ kept | compacted _ kept => exact kept
  | truncate _ passes _ kept =>
    simp only [truncatable, Bool.and_eq_true, decide_eq_true_eq] at passes
    exact kept.truncate passes.2
  | trimTo history peerHistory behind _ _ =>
    have jumped := within (.trimTo history peerHistory behind)
    revert jumped
    unfold Replica.trimTo
    dsimp only
    split <;> exact fun jumped => refold_rests jumped
  | reboot history records recorded _ =>
    have booted := within (.reboot history records recorded)
    exact refold_rests booted

-- Schedules

/-- Learn a chosen slot as a node does: one that is dropped or known is skipped. -/
def learnOnce (replica : Replica) (slot : Nat) (command : Command) : Replica :=
  if slot < replica.floor ∨ replica.isChosen slot then replica else replica.learn slot command

/-- A schedule over a set of chosen slots: from a history whose batches are drained, the slots
are learned in any order and any number of times, the apply page moves within its range, batches
are surfaced by advances, collected, and, where `compacts` allows it, the prefix is dropped up to
the compaction target. The last argument holds the collected batches.
-/
inductive Schedule (compacts : Prop) (mode : WriterMode) (chosen : Nat → Command)
    (slots : Finset Nat) (start : Replica)
    : Replica → List (Nat × Ballot × Command × Outcome) → Prop
  | start (history : Compacted mode chosen start) (drained : start.committed = [])
    (page : 0 < start.applyPage ∧ start.applyPage ≤ applyBatch)
    (within : ∀ slot, slot < start.firstUnchosen ∨ start.isChosen slot → slot ∈ slots)
    : Schedule compacts mode chosen slots start start []
  | learn {replica collected} (run : Schedule compacts mode chosen slots start replica collected)
    {slot : Nat} (member : slot ∈ slots)
    : Schedule compacts mode chosen slots start (replica.learnOnce slot (chosen slot)) collected
  | applyPage {replica collected}
    (run : Schedule compacts mode chosen slots start replica collected) {page : Nat}
    (range : 0 < page ∧ page ≤ applyBatch)
    : Schedule compacts mode chosen slots start (replica.setApplyPage page) collected
  | advance {replica collected} (run : Schedule compacts mode chosen slots start replica collected)
    (ballotOf : Nat → Command → Ballot)
    : Schedule compacts mode chosen slots start
        (replica.advance fun slot command => some (ballotOf slot command)).1 collected
  | collect {replica collected} (run : Schedule compacts mode chosen slots start replica collected)
    : Schedule compacts mode chosen slots start replica.clearCommitted
        (collected ++ replica.committed)
  | compact {replica collected} (run : Schedule compacts mode chosen slots start replica collected)
    (allowed : compacts)
    : Schedule compacts mode chosen slots start replica.compactToTarget collected

/-- What a schedule keeps: the fold rests on the ledger, only slots of the set are known or
passed, and the batches hold exactly the slots passed since the start. A fold that waits has
passed none.
-/
structure Scheduled (mode : WriterMode) (chosen : Nat → Command) (slots : Finset Nat)
    (start replica : Replica) (collected : List (Nat × Ballot × Command × Outcome))
    : Prop where
  folds : Folds mode chosen replica
  rests : replica.Rests
  page : 0 < replica.applyPage
  known : ∀ slot, replica.isChosen slot → slot ∈ slots
  passed : ∀ slot, slot < replica.firstUnchosen → slot ∈ slots
  grows : start.firstUnchosen ≤ replica.firstUnchosen
  batches : surfaced (collected ++ replica.committed)
    = appliedBetween mode chosen start.firstUnchosen replica.firstUnchosen
  waiting : replica.Waits → replica.chosenIndex = start.chosenIndex

variable {slots : Finset Nat} {start : Replica}
  {collected : List (Nat × Ballot × Command × Outcome)}

namespace Scheduled

variable (kept : Scheduled mode chosen slots start replica collected)
include kept

/-- Steps that move neither the chosen index nor the batches keep the rest of the invariant. -/
theorem still {later : Replica} (folds : Folds mode chosen later) (rests : later.Rests)
    (page : later.applyPage = replica.applyPage)
    (known : ∀ slot, later.isChosen slot → slot ∈ slots)
    (index : later.chosenIndex = replica.chosenIndex)
    (committed : later.committed = replica.committed) (waits : later.Waits → replica.Waits)
    : Scheduled mode chosen slots start later collected := by
  have same : later.firstUnchosen = replica.firstUnchosen := by
    rw [firstUnchosen, index, firstUnchosen]
  exact {
    folds := folds
    rests := rests
    page := page ▸ kept.page
    known := known
    passed := same ▸ kept.passed
    grows := same ▸ kept.grows
    batches := by rw [committed, same, kept.batches]
    waiting := fun waiting => index.trans (kept.waiting (waits waiting)) }

/-- A fold level with the chosen index stays so when the index stays and the fold does not fall
back.
-/
theorem waits_of_waits {later : Replica} (index : later.chosenIndex = replica.chosenIndex)
    (further : replica.folded ≤ later.folded) (waits : later.Waits)
    : replica.Waits := by
  have same : later.firstUnchosen = replica.firstUnchosen := by
    rw [firstUnchosen, index, firstUnchosen]
  rcases kept.rests with level | waiting
  · have behind := waits.1
    omega
  · exact waiting

theorem learnOnce {slot : Nat} (member : slot ∈ slots)
    : Scheduled mode chosen slots start (replica.learnOnce slot (chosen slot)) collected := by
  unfold Replica.learnOnce
  split_ifs with skipped
  · exact kept
  · have above : replica.floor ≤ slot := not_lt.mp fun low => skipped (.inl low)
    obtain ⟨committed, page, further⟩ := replica.learn_book slot (chosen slot)
    have learned := kept.folds.learn above
    refine kept.still learned (kept.rests.learn learned.folded_le) page ?_ learn_frame.2.1
      committed (kept.waits_of_waits learn_frame.2.1 further)
    intro other found
    simp only [isChosen, learn_frame.1, getElem?_insert] at found
    split_ifs at found with same
    · exact same ▸ member
    · exact kept.known other found

/-- An advance passes held slots, each surfaced once; a waiting fold passes none. -/
theorem advance (ballotOf : Nat → Command → Ballot)
    : Scheduled mode chosen slots start
        (replica.advance fun slot command => some (ballotOf slot command)).1 collected := by
  rcases kept.rests with level | waits
  · have walked := advance_walked ballotOf kept.folds level
    have levelled := @advance_whole replica (fun slot command => some (ballotOf slot command)) level
    exact {
      folds := kept.folds.advance _
      rests := .inl levelled
      page := walked.page ▸ kept.page
      known := by
        intro slot found
        rw [isChosen, walked.chosen_eq] at found
        exact kept.known slot found
      passed := by
        intro slot less
        rcases Nat.lt_or_ge slot replica.firstUnchosen with earlier | new
        · exact kept.passed slot earlier
        · exact kept.known slot (by simp [isChosen, walked.passed slot new less])
      grows := kept.grows.trans walked.grows
      batches := by
        rw [surfaced_append, walked.committed, ← List.append_assoc, ← surfaced_append,
          kept.batches, appliedBetween_append kept.grows walked.grows]
      waiting := fun waits => absurd levelled waits.1.ne }
  · have folds := kept.folds.advance fun slot command => some (ballotOf slot command)
    rw [(advance_waits waits).1] at folds ⊢
    exact kept.still folds (.inr waits) rfl kept.known rfl rfl fun _ => waits

theorem compactToTarget
    : Scheduled mode chosen slots start replica.compactToTarget collected := by
  obtain ⟨folds, _, _, _⟩ := kept.folds.compactToTarget
  rcases kept.folds.compactToTarget_eq with same | ⟨first, atMost, dropped⟩
  · rw [same]
    exact kept
  · rw [dropped] at folds ⊢
    refine kept.still folds (kept.rests.truncate atMost) rfl ?_ rfl rfl
      (kept.waits_of_waits rfl le_rfl)
    intro slot found
    refine kept.known slot ?_
    have found : ((startingAt first replica.chosen)[slot]?).isSome := found
    rw [getElem?_startingAt] at found
    split_ifs at found with above
    · exact found
    · cases found

end Scheduled

/-- Witness: induction over the schedule, one step lemma per event. -/
theorem Schedule.scheduled {compacts : Prop}
    (run : Schedule compacts mode chosen slots start replica collected)
    : Scheduled mode chosen slots start replica collected := by
  induction run with
  | start history drained page within =>
    exact {
      folds := history.folds_pinned.1
      rests := history.rests
      page := page.1
      known := fun slot found => within slot (.inr found)
      passed := fun slot less => within slot (.inl less)
      grows := le_rfl
      batches := by rw [drained, appliedBetween_self]; rfl
      waiting := fun _ => rfl }
  | learn _ member kept => exact kept.learnOnce member
  | applyPage _ range kept =>
    exact { kept with folds := kept.folds.frame _ _ _ _ _, page := range.1 }
  | advance _ ballotOf kept => exact kept.advance ballotOf
  | collect _ kept =>
    refine { kept with folds := kept.folds.frame _ _ _ _ _, batches := kept.batches ▸ ?_ }
    simp only [clearCommitted, List.append_nil]
  | compact _ _ kept => exact kept.compactToTarget

/-- A schedule that never compacts keeps the floor. -/
theorem Schedule.floor_eq {compacts : Prop}
    (run : Schedule compacts mode chosen slots start replica collected) (never : ¬ compacts)
    : replica.floor = start.floor := by
  induction run with
  | start => rfl
  | @learn replica _ _ slot _ kept =>
    unfold Replica.learnOnce
    split_ifs
    · exact kept
    · exact learn_frame.2.2.trans kept
  | applyPage _ _ kept | collect _ kept => exact kept
  | advance _ _ kept => exact advance_advanced.floor.trans kept
  | compact _ allowed _ => exact absurd allowed never

-- Where a schedule ends

/-- The end of the contiguous slots of a finite set. -/
def firstMissing (slots : Finset Nat) : Nat := Nat.find (Infinite.exists_notMem_finset slots)

/-- No advance makes progress. -/
def Quiet (replica : Replica) : Prop :=
  ∀ ballotOf : Nat → Command → Ballot,
    (replica.advance fun slot command => some (ballotOf slot command)).2.1 = []

/-- Every slot of the set has been learned, and no advance makes progress. -/
def Finished (slots : Finset Nat) (replica : Replica) : Prop :=
  (∀ slot ∈ slots, replica.floor ≤ slot → replica.isChosen slot) ∧ replica.Quiet

theorem walk_missing (missing : replica.chosen[replica.firstUnchosen]? = none)
    (recordBallot : Nat → Command → Option Ballot) (slots : Nat) (written : List Nat)
    : walk recordBallot slots replica written = (replica, written) := by
  cases slots with
  | zero => rfl
  | succ slots => simp only [walk, missing]

theorem quiet_of_missing (level : replica.folded = replica.firstUnchosen)
    (missing : replica.chosen[replica.firstUnchosen]? = none)
    : replica.Quiet := by
  intro ballotOf
  simp only [advance, refold_of_folded level, if_pos level, walk_missing missing]

/-- The first unchosen slot tells the chosen index. -/
theorem chosenIndex_eq {left right : Replica} (same : left.firstUnchosen = right.firstUnchosen)
    : left.chosenIndex = right.chosenIndex := by
  unfold firstUnchosen at same
  cases leftIndex : left.chosenIndex <;> cases rightIndex : right.chosenIndex
    <;> simp_all

namespace Scheduled

section

variable (kept : Scheduled mode chosen slots start replica collected)
include kept

/-- Unless nothing is left to do, an advance moves the chosen index. -/
theorem quiet_or_moves
    : (replica.Quiet ∧ (replica.Waits ∨ replica.chosen[replica.firstUnchosen]? = none))
      ∨ ∀ ballotOf : Nat → Command → Ballot, replica.firstUnchosen
        < (replica.advance fun slot command => some (ballotOf slot command)).1.firstUnchosen := by
  rcases kept.rests with level | waits
  · cases known : replica.chosen[replica.firstUnchosen]? with
    | none => exact .inl ⟨quiet_of_missing level known, .inr rfl⟩
    | some command =>
      refine .inr fun ballotOf => ?_
      simp only [Replica.advance, refold_of_folded level, if_pos level]
      exact walk_moves kept.page known rfl []
  · exact .inl ⟨fun ballotOf => (advance_waits waits).2, .inl waits⟩

/-- A finished schedule has applied the contiguous slots of the set, and folded all of them. -/
theorem finished (done : replica.Finished slots)
    : replica.folded = firstMissing slots ∧ replica.firstUnchosen = firstMissing slots := by
  obtain ⟨held, quiet⟩ := done
  have level : replica.folded = replica.firstUnchosen := by
    rcases kept.rests with level | ⟨behind, missing⟩
    · exact level
    · have known := held replica.folded (kept.passed _ behind) kept.folds.floor_le
      rw [isChosen, missing] at known
      cases known
  have outside : replica.firstUnchosen ∉ slots := by
    intro member
    have known := held _ member (level ▸ kept.folds.floor_le)
    rcases kept.quiet_or_moves with ⟨_, waits | missing⟩ | moves
    · exact absurd level waits.1.ne
    · rw [isChosen, missing] at known
      cases known
    · have walked := advance_walked (fun _ _ => .zero) kept.folds level
      have passed := moves fun _ _ => .zero
      have none := walked.written.symm.trans (quiet fun _ _ => .zero)
      rw [List.range'_eq_nil_iff] at none
      omega
  have least : firstMissing slots = replica.firstUnchosen :=
    (Nat.find_eq_iff _).mpr ⟨outside, fun slot less => not_not.mpr (kept.passed slot less)⟩
  exact ⟨level.trans least.symm, least.symm⟩

theorem firstUnchosen_le
    : replica.firstUnchosen ≤ firstMissing slots := by
  by_contra beyond
  exact Nat.find_spec (Infinite.exists_notMem_finset slots) (kept.passed _ (not_le.mp beyond))

end

/-- Enough advances make a schedule quiet. Witness: induction on the slots of the set still to
pass.
-/
theorem reaches_quiet (ballotOf : Nat → Command → Ballot)
    (kept : Scheduled mode chosen slots start replica collected)
    : ∃ count, ((fun later : Replica => (later.advance fun slot command =>
        some (ballotOf slot command)).1)^[count] replica).Quiet := by
  induction left : firstMissing slots - replica.firstUnchosen using Nat.strong_induction_on
    generalizing replica with
  | _ remaining ih =>
    rcases kept.quiet_or_moves with ⟨quiet, _⟩ | moves
    · exact ⟨0, quiet⟩
    · have next := kept.advance ballotOf
      have bound := next.firstUnchosen_le
      have moved := moves ballotOf
      obtain ⟨count, quiet⟩ := ih _ (by omega) next rfl
      exact ⟨count + 1, quiet⟩

end Scheduled

/-- The apply walk is confluent. Two finished schedules over one set of chosen slots, from
histories that may have lost different records, hold the same chosen index and journal, and the
same outcomes and positions of every slot both retain: all of them when none compacts. A
finished schedule has surfaced the contiguous slots above its start, in order and once each. A
hole below the chosen index holds the walk, and enough advances always end in a quiet one.
-/
theorem apply_confluent {compacts : Prop} {slots : Finset Nat}
    {leftStart rightStart left right : Replica}
    {leftCollected rightCollected : List (Nat × Ballot × Command × Outcome)}
    (leftRun : Schedule compacts mode chosen slots leftStart left leftCollected)
    (rightRun : Schedule compacts mode chosen slots rightStart right rightCollected)
    : (left.Finished slots → right.Finished slots
        → left.chosenIndex = right.chosenIndex ∧ left.state = right.state
          ∧ (∀ slot, left.floor ≤ slot → right.floor ≤ slot
            → left.outcomes[slot]? = right.outcomes[slot]?)
          ∧ (∀ seq slot : Nat, left.floor ≤ slot → right.floor ≤ slot
            → (left.positions[seq]? = some slot ↔ right.positions[seq]? = some slot))
          ∧ (¬ compacts → leftStart.floor = rightStart.floor
            → left.outcomes = right.outcomes ∧ left.positions = right.positions))
      ∧ (left.Finished slots
        → left.state = (ledgerAt mode chosen (firstMissing slots)).state
          ∧ surfaced (leftCollected ++ left.committed)
            = appliedBetween mode chosen leftStart.firstUnchosen (firstMissing slots))
      ∧ (left.folded < left.firstUnchosen
        → left.Quiet ∧ left.chosenIndex = leftStart.chosenIndex
          ∧ surfaced (leftCollected ++ left.committed) = [])
      ∧ ∀ ballotOf : Nat → Command → Ballot,
          ∃ count, ((fun later : Replica => (later.advance fun slot command =>
            some (ballotOf slot command)).1)^[count] left).Quiet := by
  have leftKept := leftRun.scheduled
  have rightKept := rightRun.scheduled
  refine ⟨fun leftDone rightDone => ?_, fun done => ?_, fun behind => ?_,
    fun ballotOf => leftKept.reaches_quiet ballotOf⟩
  · obtain ⟨leftFolded, leftNext⟩ := leftKept.finished leftDone
    obtain ⟨rightFolded, rightNext⟩ := rightKept.finished rightDone
    have folded : left.folded = right.folded := leftFolded.trans rightFolded.symm
    have outcomes (slot : Nat) (leftHeld : left.floor ≤ slot) (rightHeld : right.floor ≤ slot) :=
      leftKept.folds.outcomes_eq rightKept.folds folded leftHeld rightHeld
    refine ⟨chosenIndex_eq (leftNext.trans rightNext.symm), ?_, outcomes, ?_, fun never floors => ?_⟩
    · rw [leftKept.folds.state_eq, rightKept.folds.state_eq, folded]
    · intro seq slot leftHeld rightHeld
      rw [leftKept.folds.positions_iff, rightKept.folds.positions_iff, folded]
      simp only [leftHeld, rightHeld, true_and]
    · have floor : left.floor = right.floor := by
        rw [leftRun.floor_eq never, rightRun.floor_eq never, floors]
      constructor
      · ext slot outcome
        rw [leftKept.folds.outcomes_iff, rightKept.folds.outcomes_iff, folded, floor]
      · ext seq slot
        rw [leftKept.folds.positions_iff, rightKept.folds.positions_iff, folded, floor]
  · obtain ⟨folded, next⟩ := leftKept.finished done
    rw [leftKept.batches, leftKept.folds.state_eq, folded, next]
    exact ⟨rfl, rfl⟩
  · rcases leftKept.rests with level | waits
    · exact absurd level behind.ne
    · have index := leftKept.waiting waits
      have same : left.firstUnchosen = leftStart.firstUnchosen := by
        rw [firstUnchosen, index, firstUnchosen]
      rw [leftKept.batches, same, appliedBetween_self]
      exact ⟨fun _ => (advance_waits waits).2, index, rfl⟩

/-- A reboot of a replica of `retriedSequence` that lost the record of slot 1. -/
def lostRecord : Replica :=
  .fromBoot .single retriedReplica.chosenIndex retriedReplica.floor retriedReplica.base
    (retriedReplica.retainedRecords.erase 1)

theorem lostRecord_reached : Compacted .single retriedSequence lostRecord := by
  have folds : Folds .single retriedSequence retriedReplica := (retriedReplica_reached _).folds
  refine .reboot (retriedReplica_reached _) _ fun slot ballot command held => ?_
  simp only [retainedRecords, Std.ExtTreeMap.getElem?_erase, Std.ExtTreeMap.getElem?_map,
    Option.ite_none_left_eq_some, Option.map_eq_some_iff, Prod.mk.injEq] at held
  obtain ⟨_, _, known, _, rfl⟩ := held
  exact ⟨(folds.learned slot _ known).2, fun _ => (folds.learned slot _ known).1⟩

/-- The lost record's slot learned again. -/
def healedReplica : Replica := lostRecord.learnOnce 1 (retriedSequence 1)

theorem healedReplica_schedule
    : Schedule False .single retriedSequence (Finset.range 6) lostRecord healedReplica [] := by
  refine .learn (.start lostRecord_reached (by decide +kernel) (by decide +kernel) ?_)
    (by decide)
  rintro slot (below | known)
  · have index : lostRecord.firstUnchosen = 6 := by decide +kernel
    exact Finset.mem_range.mpr (index ▸ below)
  · have index : retriedReplica.chosenIndex = some 5 := by decide +kernel
    simp only [isChosen, lostRecord, fromBoot_frame.1, index, Option.any_some] at known
    split_ifs at known with low
    · exact Finset.mem_range.mpr (Nat.lt_succ_of_le (of_decide_eq_true low))
    · cases known

/-- A fresh replica that learned the slots of `retriedSequence` backwards and applied them two at
a time.
-/
def pagedReplica : Replica :=
  let fresh : Replica := .fromBoot .single none 0 .initial ∅
  let learned := [5, 4, 3, 2, 1, 0].foldl
    (fun replica slot => replica.learnOnce slot (retriedSequence slot)) fresh
  (fun later : Replica => (later.advance fun _ _ => some .zero).1)^[3] (learned.setApplyPage 2)

theorem pagedReplica_schedule
    : Schedule False .single retriedSequence (Finset.range 6) (.fromBoot .single none 0 .initial ∅)
        pagedReplica [] := by
  have learned := List.foldlRecOn
    (motive := (Schedule False .single retriedSequence (Finset.range 6)
      (.fromBoot .single none 0 .initial ∅) · [])) [5, 4, 3, 2, 1, 0] _
    (.start .boot rfl (by decide +kernel) ?_) fun _ run slot listed =>
      run.learn (show slot ∈ Finset.range 6 by revert slot; decide)
  · have range : 0 < 2 ∧ 2 ≤ applyBatch := by decide
    have paged := learned.applyPage range
    exact ((paged.advance fun _ _ => .zero).advance fun _ _ => .zero).advance fun _ _ => .zero
  · rintro slot (below | known)
    · exact absurd below (Nat.not_lt_zero slot)
    · simp [isChosen, fromBoot_frame.1] at known

/-- The replica that lost and healed a record ends as the one that applied all slots in pages, and
that one has surfaced all six in order.
-/
theorem apply_confluent_healed
    : lostRecord.folded = 1 ∧ lostRecord.firstUnchosen = 6
      ∧ pagedReplica.chosenIndex = healedReplica.chosenIndex
      ∧ pagedReplica.state = healedReplica.state
      ∧ pagedReplica.outcomes = healedReplica.outcomes
      ∧ pagedReplica.positions = healedReplica.positions
      ∧ surfaced pagedReplica.committed
        = appliedBetween .single retriedSequence 0 (firstMissing (Finset.range 6)) := by
  obtain ⟨agree, surfaces, _⟩ := apply_confluent pagedReplica_schedule healedReplica_schedule
  have paged : pagedReplica.Finished (Finset.range 6) :=
    ⟨by decide +kernel, quiet_of_missing (by decide +kernel) (by decide +kernel)⟩
  have healed : healedReplica.Finished (Finset.range 6) :=
    ⟨by decide +kernel, quiet_of_missing (by decide +kernel) (by decide +kernel)⟩
  obtain ⟨index, state, _, _, whole⟩ := agree paged healed
  obtain ⟨outcomes, positions⟩ := whole id (by decide +kernel)
  exact ⟨by decide +kernel, by decide +kernel, index, state, outcomes, positions,
    (surfaces paged).2⟩

end Replica

end Paros
