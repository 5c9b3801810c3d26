import Paros.Replica.Fold

/-! How a replica's floor, fold and chosen index move, whatever commands it learns: which of its
operations touch which.
-/

namespace Paros

namespace Replica

variable {replica : Replica}

-- Folding

/-- A refold moves neither the log nor the chosen index nor the floor. -/
theorem refold_frame
    : replica.refold.chosen = replica.chosen
      ∧ replica.refold.chosenIndex = replica.chosenIndex
      ∧ replica.refold.floor = replica.floor :=
  refold_induction (P := fun later => later.chosen = replica.chosen
    ∧ later.chosenIndex = replica.chosenIndex ∧ later.floor = replica.floor)
    (fun _ _ kept _ _ => kept) ⟨rfl, rfl, rfl⟩

/-- A refold stops only at the chosen index or at a slot that is not held. -/
theorem refold_stops (below : replica.refold.folded < replica.refold.firstUnchosen)
    : replica.refold.chosen[replica.refold.folded]? = none := by
  have steps : ∀ count (replica : Replica), replica.firstUnchosen - replica.folded ≤ count
      → (refoldSteps count replica).folded < (refoldSteps count replica).firstUnchosen
      → (refoldSteps count replica).chosen[(refoldSteps count replica).folded]? = none := by
    intro count
    induction count with
    | zero =>
      intro replica enough below
      have below : replica.folded < replica.firstUnchosen := below
      omega
    | succ count ih =>
      intro replica enough below
      simp only [refoldSteps] at below ⊢
      by_cases behind : replica.folded < replica.firstUnchosen
      · cases known : replica.chosen[replica.folded]? with
        | none =>
          simp only [if_pos behind, known] at below ⊢
        | some command =>
          simp only [if_pos behind, known] at below ⊢
          have next : (replica.foldOne replica.folded command).1.firstUnchosen
              - (replica.foldOne replica.folded command).1.folded ≤ count := by
            show replica.firstUnchosen - (replica.folded + 1) ≤ count
            omega
          exact ih _ next below
      · simp only [if_neg behind] at below
        exact absurd below behind
  exact steps _ replica le_rfl below

theorem refold_base : replica.refold.base = replica.base :=
  refold_induction (P := fun later => later.base = replica.base) (fun _ _ kept _ _ => kept) rfl

variable {command : Command}

/-- Learning a slot moves neither the chosen index nor the floor. -/
theorem learn_frame {slot : Nat}
    : (replica.learn slot command).chosen = replica.chosen.insert slot command
      ∧ (replica.learn slot command).chosenIndex = replica.chosenIndex
      ∧ (replica.learn slot command).floor = replica.floor := by
  unfold learn
  dsimp only
  split
  · exact refold_frame
  · exact ⟨rfl, rfl, rfl⟩

theorem learn_base {slot : Nat}
    : (replica.learn slot command).base = replica.base := by
  unfold learn
  dsimp only
  split
  · exact refold_base
  · rfl

-- Advancing

/-- What an advance did: it applied the written slots in order, each of them learned and
recorded, and changed no learned command.
-/
structure Advanced (recordBallot : Nat → Command → Option Ballot) (earlier later : Replica)
    (written : List Nat)
    : Prop where
  chosen : later.chosen = earlier.chosen
  floor : later.floor = earlier.floor
  base : later.base = earlier.base
  index : later.chosenIndex = written.getLast?.or earlier.chosenIndex
  grows : earlier.firstUnchosen ≤ later.firstUnchosen
  applied : ∀ {slot}, earlier.firstUnchosen ≤ slot → slot < later.firstUnchosen
    → ∃ command, earlier.chosen[slot]? = some command ∧ (recordBallot slot command).isSome

variable {recordBallot : Nat → Command → Option Ballot}

/-- One applied slot more. -/
theorem Advanced.apply {earlier later : Replica} {written : List Nat}
    {committed : List (Nat × Ballot × Command × Outcome)}
    (advanced : Advanced recordBallot earlier later written)
    (known : later.chosen[later.firstUnchosen]? = some command)
    (recorded : (recordBallot later.firstUnchosen command).isSome)
    : Advanced recordBallot earlier
      { ({ later with chosenIndex := some later.firstUnchosen }.foldOne later.firstUnchosen
          command).1 with committed := committed } (written ++ [later.firstUnchosen]) where
  chosen := advanced.chosen
  floor := advanced.floor
  base := advanced.base
  index := by
    rw [List.getLast?_concat]
    rfl
  grows := advanced.grows.trans (Nat.le_succ _)
  applied := by
    intro slot least less
    have atMost : slot ≤ later.firstUnchosen := Nat.le_of_lt_succ less
    rcases atMost.eq_or_lt with rfl | below
    · exact ⟨command, advanced.chosen ▸ known, recorded⟩
    · exact advanced.applied least below

theorem walk_advanced {earlier : Replica} (slots : Nat) {later : Replica} {written : List Nat}
    (advanced : Advanced recordBallot earlier later written)
    : Advanced recordBallot earlier (walk recordBallot slots later written).1
      (walk recordBallot slots later written).2 := by
  induction slots generalizing later written with
  | zero => exact advanced
  | succ slots ih =>
    simp only [walk]
    split
    · exact advanced
    · split
      · exact advanced
      next known _ ballot recorded => exact ih (advanced.apply known (by rw [recorded]; rfl))

/-- An advance applies the slots it writes. -/
theorem advance_advanced
    : Advanced recordBallot replica (replica.advance recordBallot).1
      (replica.advance recordBallot).2.1 := by
  obtain ⟨chosen, index, floor⟩ := replica.refold_frame
  have same : replica.refold.firstUnchosen = replica.firstUnchosen := by
    rw [firstUnchosen, index, firstUnchosen]
  have start : Advanced recordBallot replica replica.refold [] :=
    ⟨chosen, floor, replica.refold_base, index, same.ge, fun least less =>
      absurd (same ▸ less) (not_lt.mpr least)⟩
  unfold advance
  dsimp only
  split
  · have walked := walk_advanced replica.refold.applyPage start
    exact { walked with }
  · exact { start with }

/-- A replica whose fold has reached the chosen index has nothing to refold. -/
theorem refold_of_folded (folded : replica.folded = replica.firstUnchosen)
    : replica.refold = replica := by
  rw [refold, folded, Nat.sub_self]
  rfl

/-- A fold at the chosen index moves with it. -/
theorem advance_whole (level : replica.folded = replica.firstUnchosen)
    : (replica.advance recordBallot).1.folded = (replica.advance recordBallot).1.firstUnchosen := by
  simp only [advance, refold_of_folded level, if_pos level]
  exact walk_induction (P := fun later => later.folded = later.firstUnchosen)
    (fun _ _ _ _ _ => rfl) replica.applyPage level []

-- Dropping a prefix

variable {point : Nat}

/-- The first unchosen slot after the slots below a trim point are known chosen. -/
theorem firstUnchosen_coverBoundary (positive : 0 < point)
    : (replica.coverBoundary point).firstUnchosen = max replica.firstUnchosen point := by
  cases index : replica.chosenIndex with
  | none =>
    simp only [coverBoundary, index, Option.all_none, if_true, firstUnchosen, Option.elim]
    omega
  | some chosen =>
    simp only [coverBoundary, index, Option.all_some, decide_eq_true_eq]
    split_ifs <;> simp only [firstUnchosen, index, Option.elim] <;> omega

variable {sealedAt : JournalState}

/-- What a jump to a trim point leaves: the log above the point, and a chosen index at least
there.
-/
theorem trimTo_frame
    : (replica.trimTo point sealedAt).1.chosen = OrderedMap.startingAt point replica.chosen
      ∧ (replica.trimTo point sealedAt).1.chosenIndex = (replica.coverBoundary point).chosenIndex
      ∧ (replica.trimTo point sealedAt).1.floor = point := by
  have covered : (replica.coverBoundary point).chosen = replica.chosen := by
    unfold coverBoundary
    split <;> rfl
  unfold trimTo
  dsimp only
  split <;> exact ⟨refold_frame.1.trans (congrArg (OrderedMap.startingAt point) covered),
    refold_frame.2.1, refold_frame.2.2⟩

theorem trimTo_base
    : (replica.trimTo point sealedAt).1.base = (replica.trimTo point sealedAt).2 := by
  unfold trimTo
  dsimp only
  split <;> exact refold_base

-- Booting

/-- A boot keeps the readable records at or below the chosen index. -/
theorem fromBoot_frame {mode : WriterMode} {chosenIndex : Option Nat} {floor : Nat}
    {records : SlotMap (Ballot × Command)}
    : (∀ slot : Nat, (fromBoot mode chosenIndex floor sealedAt records).chosen[slot]?
        = if chosenIndex.any (slot ≤ ·) then (records[slot]?).map Prod.snd else none)
      ∧ (fromBoot mode chosenIndex floor sealedAt records).chosenIndex = chosenIndex
      ∧ (fromBoot mode chosenIndex floor sealedAt records).floor = floor := by
  refine ⟨fun slot => ?_, refold_frame.2.1, refold_frame.2.2⟩
  have kept : (fromBoot mode chosenIndex floor sealedAt records).chosen
      = (records.filter fun slot _ => chosenIndex.any (slot ≤ ·)).map fun _ record => record.2 :=
    refold_frame.1
  rw [kept, Std.ExtTreeMap.getElem?_map,
    OrderedMap.getElem?_filterKeys fun slot => chosenIndex.any (slot ≤ ·)]
  split <;> simp

end Replica

end Paros
