import Paros.Membership.AcceptorConfig

/-! Whom a Phase-1 or Phase-2 message is addressed to. Under a grid these are the members whose
index lies in the named row or column. The addressees together form a quorum wherever the named
row or column can form one at all.
-/

namespace Paros

variable {members : List Nat} {rows cols row column node : Nat}

-- Rows and columns by index

theorem mem_iff_getElem?_idxOf (node : Nat)
    : node ∈ members ↔ members[members.idxOf node]? = some node := by
  constructor
  · intro member
    rw [List.getElem?_eq_getElem (List.idxOf_lt_length_of_mem member), List.getElem_idxOf]
  · exact List.mem_of_getElem?

/-- In a list without duplicates an element stands at its index only. -/
theorem idxOf_of_getElem? (nodup : members.Nodup) {index : Nat}
    (found : members[index]? = some node)
    : members.idxOf node = index := by
  obtain ⟨inside, rfl⟩ := List.getElem?_eq_some_iff.mp found
  exact nodup.idxOf_getElem index inside

/-- A row holds the members whose index it covers. -/
theorem mem_gridRow_iff (nodup : members.Nodup) (wide : 1 ≤ cols)
    : node ∈ gridRow members cols row ↔ node ∈ members ∧ members.idxOf node / cols = row := by
  have covered (index : Nat) : index / cols = row ↔ row * cols ≤ index ∧ index < row * cols + cols := by
    rw [Nat.div_eq_iff (by omega)]
    omega
  constructor
  · intro member
    obtain ⟨offset, found⟩ := List.mem_iff_getElem?.mp member
    have inside : offset < cols := by
      by_contra beyond
      rw [gridRow, List.getElem?_eq_none (by rw [List.length_take]; omega)] at found
      exact Option.some_ne_none _ found.symm
    rw [gridRow, List.getElem?_take_of_lt inside, List.getElem?_drop] at found
    rw [idxOf_of_getElem? nodup found, covered]
    exact ⟨List.mem_of_getElem? found, by omega, by omega⟩
  · rintro ⟨member, inRow⟩
    obtain ⟨lower, upper⟩ := (covered _).mp inRow
    refine List.mem_iff_getElem?.mpr ⟨members.idxOf node - row * cols, ?_⟩
    rw [gridRow, List.getElem?_take_of_lt (by omega), List.getElem?_drop,
      Nat.add_sub_cancel' lower]
    exact (mem_iff_getElem?_idxOf node).mp member

/-- A column below the width holds the members whose index leaves it as remainder. -/
theorem mem_gridColumn_iff (nodup : members.Nodup) (inside : column < cols)
    : node ∈ gridColumn members cols column
      ↔ node ∈ members ∧ members.idxOf node % cols = column := by
  constructor
  · intro member
    obtain ⟨step, _, found⟩ := List.mem_filterMap.mp member
    rw [idxOf_of_getElem? nodup found, Nat.add_mul_mod_self_right, Nat.mod_eq_of_lt inside]
    exact ⟨List.mem_of_getElem? found, rfl⟩
  · rintro ⟨member, remainder⟩
    have index : column + members.idxOf node / cols * cols = members.idxOf node := by
      rw [← remainder, Nat.mul_comm, Nat.mod_add_div]
    have bound : members.idxOf node / cols < members.length :=
      (Nat.div_le_self _ _).trans_lt (List.idxOf_lt_length_of_mem member)
    refine List.mem_filterMap.mpr ⟨_, List.mem_range.mpr bound, ?_⟩
    rw [index]
    exact (mem_iff_getElem?_idxOf node).mp member

namespace QuorumSystem

variable {system : QuorumSystem}

/-- Only a grid names a row for a Phase-1 message. -/
def namesRow (system : QuorumSystem) : Option Nat → Bool
  | none => true
  | some _ => match system with
    | majority | flexible _ _ => false
    | grid _ _ _ => true

/-- Only a grid names a column for a Phase-2 message, and it names one below its width. -/
def namesColumn (system : QuorumSystem) : Option Nat → Bool
  | none => true
  | some column => match system with
    | majority | flexible _ _ => false
    | grid _ cols _ => column < cols

theorem mem_phase1Addressees_iff (nodup : members.Nodup)
    (admitted : system.admits members.length) (row : Option Nat) (node : Nat)
    : node ∈ system.phase1Addressees members row ↔ system.isPhase1Addressee members node row := by
  cases system with
  | majority | flexible q1 q2 => simp [phase1Addressees, isPhase1Addressee]
  | grid rows cols acks =>
    cases row with
    | none => simp [phase1Addressees, isPhase1Addressee]
    | some row =>
      have wide : 1 ≤ cols := (grid_admits admitted).1
      rw [phase1Addressees, mem_gridRow_iff nodup wide]
      simp [isPhase1Addressee, wide]

theorem mem_phase2Addressees_iff (nodup : members.Nodup) {column : Option Nat}
    (named : system.namesColumn column) (node : Nat)
    : node ∈ system.phase2Addressees members column
      ↔ system.isPhase2Addressee members node column := by
  cases system with
  | majority | flexible q1 q2 => simp [phase2Addressees, isPhase2Addressee]
  | grid rows cols acks =>
    cases column with
    | none => simp [phase2Addressees, isPhase2Addressee]
    | some column =>
      have inside : column < cols := by simpa [namesColumn] using named
      have wide : 1 ≤ cols := by omega
      rw [phase2Addressees, mem_gridColumn_iff nodup inside]
      simp [isPhase2Addressee, wide]

/-- Everyone a read of an admitted row asks is a Phase-1 quorum of that row. -/
theorem phase1Addressees_quorum (nodup : members.Nodup)
    (admitted : system.admits members.length) {row : Option Nat}
    (reads : system.admitsReadRow row)
    : system.isPhase1QuorumIn members (system.phase1Addressees members row).toFinset row := by
  cases row with
  | none =>
    have all : system.phase1Addressees members none = members := by cases system <;> rfl
    rw [all]
    exact members_phase1 nodup admitted
  | some row =>
    cases system with
    | majority | flexible q1 q2 => cases reads
    | grid rows cols acks => simpa [phase1Addressees, isPhase1QuorumIn, admitsReadRow] using reads

/-- Everyone a round of a column asks is a Phase-2 quorum of that column. -/
theorem phase2Addressees_quorum (nodup : members.Nodup)
    (admitted : system.admits members.length) {column : Option Nat}
    (named : system.namesColumn column)
    : system.isPhase2QuorumIn members (system.phase2Addressees members column).toFinset column := by
  cases system with
  | majority | flexible q1 q2 =>
    simp only [admits, Bool.and_eq_true, decide_eq_true_eq] at admitted
    simp only [phase1QuorumSize, phase2QuorumSize] at admitted
    simp only [phase2Addressees, isPhase2QuorumIn, isMajority, counted_toFinset nodup,
      decide_eq_true_eq]
    omega
  | grid rows cols acks =>
    obtain ⟨wide, positive, fits, full⟩ := grid_admits admitted
    cases column with
    | none =>
      have votes := columnVotes_toFinset_of_subset full wide fun _ => mem_of_mem_gridColumn
      simp only [phase2Addressees, isPhase2QuorumIn, List.any_eq_true, List.mem_range]
      exact ⟨0, wide, by simpa [votes] using fits⟩
    | some column =>
      have inside : column < cols := by simpa [namesColumn] using named
      have votes := columnVotes_toFinset_of_subset full inside fun _ asked => asked
      simpa [phase2Addressees, isPhase2QuorumIn, inside, votes] using fits

/-- The quorums of an admitted system meet as sets, whatever strangers voted; the addressees of a
message are exactly the nodes the tallies count; and all of them together are a quorum, in every
row a read may name and every column of the grid.
-/
theorem quorums_and_addressees (sorted : members.Pairwise (· < ·))
    (admitted : system.admits members.length)
    : (∀ (first second : Finset Nat) (row column : Option Nat),
        system.isPhase1QuorumIn members first row
        → system.isPhase2QuorumIn members second column
        → ∃ node ∈ members, node ∈ first ∧ node ∈ second)
      ∧ (∀ (row : Option Nat) (node : Nat), system.namesRow row
        → (node ∈ system.phase1Addressees members row
          ↔ system.isPhase1Addressee members node row))
      ∧ (∀ (column : Option Nat) (node : Nat), system.namesColumn column
        → (node ∈ system.phase2Addressees members column
          ↔ system.isPhase2Addressee members node column))
      ∧ (∀ row : Option Nat, system.admitsReadRow row
        → system.isPhase1QuorumIn members (system.phase1Addressees members row).toFinset row)
      ∧ (∀ column : Option Nat, system.namesColumn column
        → system.isPhase2QuorumIn members (system.phase2Addressees members column).toFinset
          column) := by
  have nodup : members.Nodup := sorted.imp fun less => less.ne
  refine ⟨fun _ _ _ _ => quorums_meet nodup admitted, ?_, ?_, ?_, ?_⟩
  · exact fun row node _ => mem_phase1Addressees_iff nodup admitted row node
  · exact fun column node named => mem_phase2Addressees_iff nodup named node
  · exact fun row reads => phase1Addressees_quorum nodup admitted reads
  · exact fun column named => phase2Addressees_quorum nodup admitted named

/-- A grid of two rows and two columns in which both of a column must accept. -/
theorem quorums_and_addressees_square
    : [0, 1, 2, 3].Pairwise (· < ·) ∧ (grid 2 2 2).admits [0, 1, 2, 3].length
      ∧ (grid 2 2 2).isPhase1QuorumIn [0, 1, 2, 3]
          ((grid 2 2 2).phase1Addressees [0, 1, 2, 3] (some 1)).toFinset (some 1) := by
  have sorted : [0, 1, 2, 3].Pairwise (· < ·) := by decide
  have admitted : (grid 2 2 2).admits [0, 1, 2, 3].length := by decide
  obtain ⟨_, _, _, reads, _⟩ := quorums_and_addressees sorted admitted
  exact ⟨sorted, admitted, reads (some 1) (by decide)⟩

/-- Where fewer acceptors than a column has may decide, a whole row is no Phase-1 quorum of
itself; and a column past the width addresses a member that its tally does not count.
-/
theorem whole_row_no_quorum
    : ([0, 1, 2].Pairwise (· < ·) ∧ (grid 3 1 2).admits [0, 1, 2].length
        ∧ (grid 3 1 2).phase1Addressees [0, 1, 2] (some 0) = [0]
        ∧ ¬ (grid 3 1 2).isPhase1QuorumIn [0, 1, 2] {0} (some 0))
      ∧ ([0, 1, 2, 3].Pairwise (· < ·) ∧ (grid 2 2 2).admits [0, 1, 2, 3].length
        ∧ 2 ∈ (grid 2 2 2).phase2Addressees [0, 1, 2, 3] (some 2)
        ∧ ¬ (grid 2 2 2).isPhase2Addressee [0, 1, 2, 3] 2 (some 2)) := by
  decide

end QuorumSystem

end Paros
