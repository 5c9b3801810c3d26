import Paros.Types

/-! Quorum systems passed an ordered member list: majorities, flexible counts, and grids whose
Phase-2 quorums lie in one column. Every Phase-1 quorum of an admitted system meets every
Phase-2 quorum.
-/

namespace Paros

inductive QuorumSystem where
  | majority
  | flexible (q1 q2 : Nat)
  | grid (rows cols acks : Nat)
  deriving DecidableEq, Repr

def majorityOf (members : Nat) : Nat := members / 2 + 1

/-- How many voters are members. -/
def counted (members : List Nat) (voters : Finset Nat) : Nat :=
  (voters.filter (· ∈ members)).card

def gridRow (members : List Nat) (cols row : Nat) : List Nat :=
  (members.drop (row * cols)).take cols

/-- Every `cols`-th member from position `column` on. -/
def gridColumn (members : List Nat) (cols column : Nat) : List Nat :=
  (List.range members.length).filterMap fun step => members[column + step * cols]?

def residue (value modulus : Nat) : Nat := value % max modulus 1

def columnVotes (members : List Nat) (cols column : Nat) (voters : Finset Nat) : Nat :=
  (gridColumn members cols column).countP (· ∈ voters)

def isMajority (members : List Nat) (voters : Finset Nat) : Bool :=
  majorityOf members.length ≤ counted members voters

namespace QuorumSystem

def phase1QuorumSize (members : Nat) : QuorumSystem → Nat
  | majority => majorityOf members
  | flexible q1 _ => q1
  | grid rows cols acks => cols * (rows - acks + 1)

def phase2QuorumSize (members : Nat) : QuorumSystem → Nat
  | majority => majorityOf members
  | flexible _ q2 => q2
  | grid _ _ acks => acks

variable (system : QuorumSystem)

/-- Whether the system fits a member count and its two quorum families intersect. -/
def admits (members : Nat) : Bool :=
  match system with
  | majority | flexible _ _ =>
    let q1 := system.phase1QuorumSize members
    let q2 := system.phase2QuorumSize members
    1 ≤ members && (1 ≤ q1 && q1 ≤ members) && (1 ≤ q2 && q2 ≤ members)
      && members < q1 + q2
  | grid rows cols acks =>
    1 ≤ rows && 1 ≤ cols && (1 ≤ acks && acks ≤ rows) && rows * cols == members

def columnOf (slot : Nat) : QuorumSystem → Option Nat
  | majority | flexible _ _ => none
  | grid _ cols _ => some (residue slot cols)

def rowOf (ctx : Ctx) : QuorumSystem → Option Nat
  | majority | flexible _ _ => none
  | grid rows _ acks => if acks = rows then some (residue ctx rows) else none

def admitsReadRow (row : Option Nat) : Bool :=
  match system, row with
  | _, none => true
  | majority, some _ | flexible _ _, some _ => false
  | grid rows _ acks, some row => acks == rows && row < rows

/-- The row a read asks: the named one where the system admits it, else the token's. -/
def readRow (ctx : Ctx) (chosen : Option Nat) : Option Nat :=
  match chosen with
  | some row => if system.admitsReadRow (some row) then some row else system.rowOf ctx
  | none => system.rowOf ctx

def isPhase1QuorumIn (members : List Nat) (voters : Finset Nat) (row : Option Nat)
    : QuorumSystem → Bool
  | majority => isMajority members voters
  | flexible q1 _ => q1 ≤ counted members voters
  | grid rows cols acks =>
    match row with
    | some row =>
      acks == rows && row < rows && (gridRow members cols row).all (· ∈ voters)
    | none =>
      1 ≤ cols
        && (List.range cols).all
          fun column => rows - acks + 1 ≤ columnVotes members cols column voters

def isPhase2QuorumIn (members : List Nat) (voters : Finset Nat) (column : Option Nat)
    : QuorumSystem → Bool
  | majority => isMajority members voters
  | flexible _ q2 => q2 ≤ counted members voters
  | grid _ cols acks =>
    match column with
    | some column => column < cols && acks ≤ columnVotes members cols column voters
    | none =>
      (List.range cols).any fun column => acks ≤ columnVotes members cols column voters

/-- Whether the node is asked in a Phase 1 of the row (the whole membership without one). -/
def isPhase1Addressee (members : List Nat) (node : Nat) (row : Option Nat)
    : Bool :=
  node ∈ members
  && match system, row with
    | grid _ cols _, some row => 1 ≤ cols && members.idxOf node / cols == row
    | _, _ => true

def phase1Addressees (members : List Nat) (row : Option Nat)
    : List Nat :=
  match system, row with
  | grid _ cols _, some row => gridRow members cols row
  | _, _ => members

/-- Whether the node may vote in a round of the column. -/
def isPhase2Addressee (members : List Nat) (node : Nat) (column : Option Nat)
    : Bool :=
  node ∈ members
  && match system, column with
    | grid _ cols _, some column => 1 ≤ cols && members.idxOf node % cols == column
    | _, _ => true

def phase2Addressees (members : List Nat) (column : Option Nat)
    : List Nat :=
  match system, column with
  | grid _ cols _, some column => gridColumn members cols column
  | _, _ => members

end QuorumSystem

-- Counting voters in a member list

/-- Two predicates that together count past a list's length share an element. -/
theorem exists_of_countP_add {α : Type*} {left right : α → Bool} {items : List α}
    (passed : items.length < items.countP left + items.countP right)
    : ∃ item ∈ items, left item ∧ right item := by
  induction items with
  | nil => simp at passed
  | cons head rest ih =>
    by_cases both : left head ∧ right head
    · exact ⟨head, by simp, both⟩
    · have fewer : rest.length < rest.countP left + rest.countP right := by
        simp only [List.countP_cons, List.length_cons] at passed
        rcases Bool.eq_false_or_eq_true (left head) with l | l <;>
          rcases Bool.eq_false_or_eq_true (right head) with r | r <;>
          simp_all <;> omega
      obtain ⟨item, member, shared⟩ := ih fewer
      exact ⟨item, List.mem_cons_of_mem _ member, shared⟩

variable {members : List Nat}

theorem counted_eq_countP (nodup : members.Nodup) (voters : Finset Nat)
    : counted members voters = members.countP (· ∈ voters) := by
  have same : voters.filter (· ∈ members) = (members.filter (· ∈ voters)).toFinset := by
    ext node
    simp [and_comm]
  rw [counted, same, List.toFinset_card_of_nodup (nodup.filter _), List.countP_eq_length_filter]

-- The shape of a grid

/-- A column of a full grid lists one member of each row. -/
theorem gridColumn_eq {rows cols column : Nat}
    (full : rows * cols = members.length) (inside : column < cols)
    : gridColumn members cols column
      = (List.range rows).filterMap fun step => members[column + step * cols]? := by
  have enough : rows ≤ members.length := by
    rw [← full]
    exact Nat.le_mul_of_pos_right rows (by omega)
  obtain ⟨extra, split⟩ := Nat.exists_eq_add_of_le enough
  have past : ∀ step, rows ≤ step → members[column + step * cols]? = none := by
    intro step beyond
    have : rows * cols ≤ step * cols := Nat.mul_le_mul_right cols beyond
    exact List.getElem?_eq_none (by omega)
  have nothing : ((List.range extra).map (rows + ·)).filterMap
      (fun step => members[column + step * cols]?) = [] := by
    rw [List.filterMap_eq_nil_iff]
    intro step member
    obtain ⟨offset, _, rfl⟩ := List.mem_map.mp member
    exact past _ (by omega)
  rw [gridColumn, split, List.range_add, List.filterMap_append, nothing, List.append_nil]

theorem length_gridColumn {rows cols column : Nat}
    (full : rows * cols = members.length) (inside : column < cols)
    : (gridColumn members cols column).length = rows := by
  have present : ∀ step ∈ List.range rows, (members[column + step * cols]?).isSome := by
    intro step member
    have : (step + 1) * cols ≤ rows * cols := Nat.mul_le_mul_right cols (List.mem_range.mp member)
    rw [Nat.add_mul] at this
    rw [List.getElem?_eq_getElem (by omega), Option.isSome_some]
  rw [gridColumn_eq full inside, List.length_filterMap_eq_countP, List.countP_eq_length.mpr present,
    List.length_range]

/-- The cell of a row and a column lies in both. -/
theorem grid_cell {rows cols row column : Nat}
    (full : rows * cols = members.length) (rowInside : row < rows) (inside : column < cols)
    : ∃ cell, cell ∈ gridRow members cols row ∧ cell ∈ gridColumn members cols column := by
  have bound : row * cols + column < members.length := by
    have : (row + 1) * cols ≤ rows * cols := Nat.mul_le_mul_right cols rowInside
    rw [Nat.add_mul] at this
    omega
  refine ⟨members[row * cols + column], ?_, ?_⟩
  · refine List.mem_iff_getElem?.mpr ⟨column, ?_⟩
    simp [gridRow, inside, bound]
  · rw [gridColumn_eq full inside]
    refine List.mem_filterMap.mpr ⟨row, List.mem_range.mpr rowInside, ?_⟩
    rw [Nat.add_comm, List.getElem?_eq_getElem bound]

theorem mem_of_mem_gridColumn {cols column node : Nat}
    (member : node ∈ gridColumn members cols column)
    : node ∈ members := by
  obtain ⟨_, _, found⟩ := List.mem_filterMap.mp member
  exact List.mem_of_getElem? found

-- Quorums meet

/-- A Phase-2 quorum of a grid fills enough of some column. -/
theorem QuorumSystem.grid_phase2_column {rows cols acks : Nat}
    {voters : Finset Nat} {column : Option Nat}
    (quorum : (grid rows cols acks).isPhase2QuorumIn members voters column)
    : ∃ column < cols, acks ≤ columnVotes members cols column voters := by
  cases column with
  | none => simpa [isPhase2QuorumIn] using quorum
  | some column => exact ⟨column, by simpa [isPhase2QuorumIn] using quorum⟩

/-- Every Phase-1 quorum of an admitted system meets every Phase-2 quorum in a member,
whatever row or column they were counted in. Witness: two counts that pass the member count;
in a grid, a full row crosses the filled column, or the column's two counts pass its height.
-/
theorem QuorumSystem.quorums_meet {system : QuorumSystem}
    (nodup : members.Nodup) (admitted : system.admits members.length)
    {first second : Finset Nat} {row column : Option Nat}
    (phase1 : system.isPhase1QuorumIn members first row)
    (phase2 : system.isPhase2QuorumIn members second column)
    : ∃ node ∈ members, node ∈ first ∧ node ∈ second := by
  have crossing (passed : members.length < counted members first + counted members second)
      : ∃ node ∈ members, node ∈ first ∧ node ∈ second := by
    rw [counted_eq_countP nodup, counted_eq_countP nodup] at passed
    simpa using exists_of_countP_add passed
  cases system with
  | majority | flexible q1 q2 =>
    simp only [isPhase1QuorumIn, isPhase2QuorumIn, isMajority, decide_eq_true_eq] at phase1 phase2
    simp only [admits, Bool.and_eq_true, decide_eq_true_eq] at admitted
    simp only [phase1QuorumSize, phase2QuorumSize] at admitted
    exact crossing (by omega)
  | grid rows cols acks =>
    obtain ⟨column, inside, filled⟩ := grid_phase2_column phase2
    simp only [admits, Bool.and_eq_true, decide_eq_true_eq, beq_iff_eq] at admitted
    have height := length_gridColumn admitted.2 inside
    have shared (passed : rows < columnVotes members cols column first
          + columnVotes members cols column second)
        : ∃ node ∈ members, node ∈ first ∧ node ∈ second := by
      obtain ⟨node, member, both⟩ := exists_of_countP_add (height ▸ passed)
      exact ⟨node, mem_of_mem_gridColumn member, by simpa using both⟩
    cases row with
    | none =>
      simp only [isPhase1QuorumIn, Bool.and_eq_true, decide_eq_true_eq, List.all_eq_true,
        List.mem_range] at phase1
      have votes := phase1.2 column inside
      exact shared (by omega)
    | some row =>
      simp only [isPhase1QuorumIn, Bool.and_eq_true, decide_eq_true_eq, beq_iff_eq,
        List.all_eq_true] at phase1
      obtain ⟨⟨whole, rowInside⟩, voted⟩ := phase1
      obtain ⟨cell, inRow, inColumn⟩ := grid_cell admitted.2 rowInside inside
      have all : (gridColumn members cols column).countP (· ∈ second)
          = (gridColumn members cols column).length :=
        le_antisymm List.countP_le_length (by rw [height, ← whole]; exact filled)
      refine ⟨cell, mem_of_mem_gridColumn inColumn, voted cell inRow, ?_⟩
      simpa using List.countP_eq_length.mp all cell inColumn

theorem columnVotes_toFinset_of_subset {rows cols column : Nat} {voters : List Nat}
    (full : rows * cols = members.length) (inside : column < cols)
    (everyone : ∀ node ∈ gridColumn members cols column, node ∈ voters)
    : columnVotes members cols column voters.toFinset = rows := by
  rw [← length_gridColumn full inside, columnVotes, List.countP_eq_length]
  simpa using everyone

theorem counted_toFinset (nodup : members.Nodup)
    : counted members members.toFinset = members.length := by
  rw [counted_eq_countP nodup, List.countP_eq_length]
  simp

namespace QuorumSystem

variable {system : QuorumSystem}

theorem grid_admits {rows cols acks : Nat} (admitted : (grid rows cols acks).admits members.length)
    : 1 ≤ cols ∧ 1 ≤ acks ∧ acks ≤ rows ∧ rows * cols = members.length := by
  simp only [admits, Bool.and_eq_true, decide_eq_true_eq, beq_iff_eq] at admitted
  obtain ⟨⟨⟨_, wide⟩, positive, fits⟩, full⟩ := admitted
  exact ⟨wide, positive, fits, full⟩

/-- All members of an admitted system are a Phase-1 quorum. -/
theorem members_phase1 (nodup : members.Nodup) (admitted : system.admits members.length)
    : system.isPhase1QuorumIn members members.toFinset none := by
  cases system with
  | majority | flexible q1 q2 =>
    simp only [admits, Bool.and_eq_true, decide_eq_true_eq] at admitted
    simp only [phase1QuorumSize, phase2QuorumSize] at admitted
    simp only [isPhase1QuorumIn, isMajority, counted_toFinset nodup, decide_eq_true_eq]
    omega
  | grid rows cols acks =>
    obtain ⟨wide, positive, fits, full⟩ := grid_admits admitted
    simp only [isPhase1QuorumIn, Bool.and_eq_true, decide_eq_true_eq, List.all_eq_true,
      List.mem_range]
    refine ⟨wide, fun column inside => ?_⟩
    rw [columnVotes_toFinset_of_subset full inside fun _ => mem_of_mem_gridColumn]
    omega

/-- A Phase-2 quorum of an admitted system has a member. -/
theorem phase2_inhabited (nodup : members.Nodup) (admitted : system.admits members.length)
    {voters : Finset Nat} {column : Option Nat}
    (quorum : system.isPhase2QuorumIn members voters column)
    : ∃ node ∈ members, node ∈ voters := by
  obtain ⟨node, member, _, voted⟩ :=
    quorums_meet nodup admitted (members_phase1 nodup admitted) quorum
  exact ⟨node, member, voted⟩

end QuorumSystem

end Paros
