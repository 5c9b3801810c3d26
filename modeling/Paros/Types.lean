import Mathlib

/-! Identifiers and ballots. The source's `u64` newtypes are naturals here: no modelled
function relies on their wrapping, and a campaign's round is bounded where it is chosen.
-/

namespace Paros

abbrev NodeId := Nat

abbrev MatchmakerId := Nat

abbrev JournalId := Nat

/-- A client's correlation token for a read. -/
abbrev Ctx := Nat

/-- A proposal number: the round first, the proposer as the tiebreak. -/
structure Ballot where
  round : Nat
  node : NodeId
  deriving DecidableEq, Repr

namespace Ballot

def zero : Ballot := ⟨0, 0⟩

/-- The lexicographic key of a ballot. -/
def key (ballot : Ballot) : ℕ ×ₗ ℕ := toLex (ballot.round, ballot.node)

theorem key_injective : Function.Injective key := by
  rintro ⟨_, _⟩ ⟨_, _⟩ same
  simpa [key] using same

instance : LinearOrder Ballot := LinearOrder.lift' key key_injective

instance transOrd : Std.TransOrd Ballot := inferInstance

theorem lt_iff {left right : Ballot}
    : left < right
      ↔ left.round < right.round ∨ left.round = right.round ∧ left.node < right.node := by
  change key left < key right ↔ _
  simp [key, Prod.Lex.toLex_lt_toLex]

theorem lt_of_round_lt {left right : Ballot} (less : left.round < right.round)
    : left < right :=
  lt_iff.mpr (Or.inl less)

instance : WellFoundedLT Ballot where
  wf := InvImage.wf key (wellFounded_lt (α := ℕ ×ₗ ℕ))

end Ballot

/-- The largest round a ballot can carry (the source's `u64::MAX`). -/
def maxRound : Nat := 2 ^ 64 - 1

end Paros
