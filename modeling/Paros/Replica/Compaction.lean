import Paros.Replica.Fold

/-! The compaction loop finds the greatest cut that keeps every record a retained verdict reads.
-/

namespace Paros

open OrderedMap

-- Cuts below a fold

/-- A cut a decided truncation allows at a fold: it drops only positions the journal has
trimmed, and no record that a folded slot above it was judged against.
-/
structure Cut (mode : WriterMode) (chosen : Nat → Command) (folded cut : Nat) : Prop where
  le_folded : cut ≤ folded
  trimmed : (ledgerAt mode chosen cut).state.nextSeq ≤ (ledgerAt mode chosen folded).state.firstSeq
  kept : ∀ slot seq, cut ≤ slot → slot < folded
    → (ledgerAt mode chosen slot).state.Retries mode (chosen slot) seq
    → (ledgerAt mode chosen cut).state.nextSeq ≤ seq

namespace Cut

variable {mode : WriterMode} {chosen : Nat → Command} {folded later cut : Nat}

/-- A cut stays one as the fold goes on: a later retry reads at or past the journal's start. -/
theorem extend (valid : Cut mode chosen folded cut) (further : folded ≤ later)
    : Cut mode chosen later cut where
  le_folded := valid.le_folded.trans further
  trimmed := valid.trimmed.trans (ledgerAt_firstSeq_mono further)
  kept := by
    intro slot seq above _ retried
    rcases Nat.lt_or_ge slot folded with below | past
    · exact valid.kept slot seq above below retried
    · obtain ⟨_, _, inside, _⟩ := retried
      exact (valid.trimmed.trans (ledgerAt_firstSeq_mono past)).trans inside

/-- No verdict from a cut on, folded or still to come, reads a record below it. -/
theorem safe (valid : Cut mode chosen folded cut) : SafeCut mode chosen cut := by
  intro slot seq above retried
  exact (valid.extend (Nat.le_max_left folded (slot + 1))).kept slot seq above
    (Nat.lt_of_lt_of_le (Nat.lt_succ_self slot) (Nat.le_max_right _ _)) retried

end Cut

-- What the compaction loop reads

namespace Retains

variable {faithful : Prop} {mode : WriterMode} {chosen : Nat → Command} {replica : Replica}

section

variable (retains : Retains faithful mode chosen replica)
include retains

theorem floor_le_slotHolding (position : Nat)
    : replica.floor ≤ replica.slotHolding position := by
  unfold Replica.slotHolding
  split_ifs
  · exact retains.floor_le
  · split
    · exact Nat.le_max_right _ _
    · exact le_rfl

theorem slotHolding_le_folded (position : Nat)
    : replica.slotHolding position ≤ replica.folded := by
  unfold Replica.slotHolding
  split_ifs
  · exact le_rfl
  · split
    next start slot found =>
      obtain ⟨_, indexed, _⟩ := lastBefore_eq_some found
      have below := ((retains.positions_iff start slot).mp indexed).1.2
      exact Nat.max_le.mpr ⟨below.le, retains.floor_le⟩
    next => exact retains.floor_le

/-- The slot found for a position separates the cuts that keep its record from those that drop
it. Witness: the positions index holds every write accepted from the floor on, in order.
-/
theorem le_slotHolding_iff {cut position : Nat}
    (above : replica.floor < cut) (below : cut ≤ replica.folded)
    : cut ≤ replica.slotHolding position
      ↔ (ledgerAt mode chosen cut).state.nextSeq ≤ position := by
  have indexed (low : (ledgerAt mode chosen cut).state.nextSeq ≤ position)
      (inside : position < replica.state.nextSeq)
      : ∃ start slot, cut ≤ slot ∧ start ≤ position ∧ replica.positions[start]? = some slot := by
    rw [retains.state_eq] at inside
    obtain ⟨slot, least, less, start, count, accepted, startLe, _⟩ :=
      exists_accepted_between below low inside
    exact ⟨start, slot, least, startLe,
      (retains.positions_iff start slot).mpr ⟨⟨by omega, less⟩, count, accepted⟩⟩
  unfold Replica.slotHolding
  split_ifs with past
  · have grown : (ledgerAt mode chosen cut).state.nextSeq ≤ replica.state.nextSeq := by
      rw [retains.state_eq]
      exact ledgerAt_nextSeq_mono below
    exact ⟨fun _ => grown.trans past, fun _ => below⟩
  · split
    next start slot found =>
      obtain ⟨less, present, gap⟩ := lastBefore_eq_some found
      obtain ⟨⟨least, _⟩, count, accepted⟩ := (retains.positions_iff start slot).mp present
      rw [Nat.max_eq_left least]
      constructor
      · intro atMost
        have grown : (ledgerAt mode chosen cut).state.nextSeq
            ≤ (ledgerAt mode chosen slot).state.nextSeq :=
          ledgerAt_nextSeq_mono atMost
        have atEnd := (verdictAt_accepted accepted).1
        omega
      · intro low
        by_contra beyond
        obtain ⟨other, held, leastHeld, otherLe, record⟩ := indexed low (not_le.mp past)
        obtain ⟨_, _, acceptedHeld⟩ := (retains.positions_iff other held).mp record
        have inside := verdictAt_accepted_lt accepted (Nat.lt_of_lt_of_le (not_le.mp beyond) leastHeld)
        have atEnd := (verdictAt_accepted acceptedHeld).1
        rw [gap other (by omega) (by omega)] at record
        cases record
    next found =>
      constructor
      · intro atMost; omega
      · intro low
        obtain ⟨other, held, _, otherLe, record⟩ := indexed low (not_le.mp past)
        rw [lastBefore_eq_none found (Nat.lt_succ_of_le otherLe)] at record
        cases record

/-- A held slot's retry, as the loop tests it: a single-writer write inside the journal. -/
theorem retries_iff {slot seq : Nat} (above : replica.floor ≤ slot) (below : slot < replica.folded)
    : (ledgerAt mode chosen slot).state.Retries mode (chosen slot) seq
      ↔ replica.mode ≠ .multi ∧ ∃ entry, (chosen slot).asEntry = some entry ∧ entry.seq = seq
        ∧ (replica.stateAt slot).firstSeq ≤ seq ∧ seq < (replica.stateAt slot).nextSeq := by
  rw [retains.stateAt_eq above below.le, retains.mode_eq]
  have single : mode = .single ↔ mode ≠ .multi := by cases mode <;> simp
  have write (entry : Entry) : chosen slot = .write entry ↔ (chosen slot).asEntry = some entry := by
    cases chosen slot <;> simp [Command.asEntry]
  simp only [JournalState.Retries, single, write]
  constructor
  · rintro ⟨isSingle, ⟨entry, known, seqEq⟩, inside⟩
    exact ⟨isSingle, entry, known, seqEq, inside⟩
  · rintro ⟨isSingle, entry, known, seqEq, inside⟩
    exact ⟨isSingle, ⟨entry, known, seqEq⟩, inside⟩

/-- The retained slots the loop and the judgement of a compaction run through. -/
theorem mem_retained {first slot : Nat} {command : Command} (above : replica.floor ≤ first)
    : (slot, command) ∈ (OrderedMap.before replica.folded
          (startingAt first replica.chosen)).toList
      ↔ first ≤ slot ∧ slot < replica.folded ∧ command = chosen slot := by
  simp only [mem_toList, getElem?_before, getElem?_startingAt]
  split_ifs with below least
  · rw [retains.held slot (above.trans least) below]
    simp only [least, below, true_and, Option.some.injEq]
    exact eq_comm
  · simp [least]
  · simp [below]

/-- The slots the loop collects: those holding a record that a slot folded from `first` on was
judged against.
-/
theorem mem_neededSlots {first needed : Nat} (above : replica.floor ≤ first)
    : needed ∈ replica.neededSlots first
      ↔ ∃ slot seq, first ≤ slot ∧ slot < replica.folded
        ∧ (ledgerAt mode chosen slot).state.Retries mode (chosen slot) seq
        ∧ needed = replica.slotHolding seq := by
  simp only [Replica.neededSlots, List.mem_filterMap, Prod.exists, retains.mem_retained above]
  constructor
  · rintro ⟨slot, command, ⟨least, less, rfl⟩, found⟩
    split_ifs at found with isMulti
    obtain ⟨entry, write, judged⟩ := Option.bind_eq_some_iff.mp found
    simp only [Option.ite_none_right_eq_some, Option.some.injEq] at judged
    exact ⟨slot, entry.seq, least, less,
      (retains.retries_iff (above.trans least) less).mpr ⟨isMulti, entry, write, rfl, judged.1⟩,
      judged.2.symm⟩
  · rintro ⟨slot, seq, least, less, retried, rfl⟩
    obtain ⟨isSingle, entry, write, rfl, inside⟩ :=
      (retains.retries_iff (above.trans least) less).mp retried
    refine ⟨slot, chosen slot, ⟨least, less, rfl⟩, ?_⟩
    simp only [if_neg isSingle, write, Option.bind_some, if_pos inside]

end

-- The greatest cut

variable (retains : Retains faithful mode chosen replica)
include retains

/-- The loop lowers its slot to the greatest one that nothing above it needs to go below.
Witness: each round lowers it to the least needed slot, which every such slot is at or below.
-/
theorem lowerToNeeded_spec (rounds first : Nat)
    (enough : first ≤ rounds) (above : replica.floor ≤ first)
    : (replica.floor ≤ replica.lowerToNeeded rounds first
        ∧ replica.lowerToNeeded rounds first ≤ first)
      ∧ (∀ needed ∈ replica.neededSlots (replica.lowerToNeeded rounds first),
          replica.lowerToNeeded rounds first ≤ needed)
      ∧ ∀ cut, replica.floor ≤ cut → cut ≤ first
          → (∀ needed ∈ replica.neededSlots cut, cut ≤ needed)
          → cut ≤ replica.lowerToNeeded rounds first := by
  induction rounds generalizing first with
  | zero =>
    obtain rfl := Nat.le_zero.mp enough
    exact ⟨⟨above, le_rfl⟩, fun _ _ => Nat.zero_le _, fun _ _ atMost _ => atMost⟩
  | succ rounds ih =>
    simp only [Replica.lowerToNeeded]
    cases least : (replica.neededSlots first).min? with
    | none =>
      rw [List.min?_eq_none_iff] at least
      simp only [Option.getD_none, if_pos (le_refl first), least]
      exact ⟨⟨above, le_rfl⟩, fun _ needed => (List.not_mem_nil needed).elim,
        fun _ _ atMost _ => atMost⟩
    | some lowest =>
      obtain ⟨isNeeded, bound⟩ := List.min?_eq_some_iff.mp least
      simp only [Option.getD_some]
      split_ifs with done
      · exact ⟨⟨above, le_rfl⟩, fun needed member => done.trans (bound needed member),
          fun _ _ atMost _ => atMost⟩
      · obtain ⟨slot, seq, leastSlot, less, retried, same⟩ :=
          (retains.mem_neededSlots above).mp isNeeded
        have kept : replica.floor ≤ lowest := same ▸ retains.floor_le_slotHolding seq
        obtain ⟨⟨low, high⟩, closed, greatest⟩ := ih lowest (by omega) kept
        refine ⟨⟨low, by omega⟩, closed, fun cut atLeast atMost cutClosed => ?_⟩
        refine greatest cut atLeast (cutClosed lowest ?_) cutClosed
        exact (retains.mem_neededSlots atLeast).mpr
          ⟨slot, seq, atMost.trans leastSlot, less, retried, same⟩

theorem compactionFloor_bounds
    : replica.floor ≤ replica.compactionFloor ∧ replica.compactionFloor ≤ replica.folded := by
  obtain ⟨⟨low, high⟩, _⟩ := retains.lowerToNeeded_spec _ _ le_rfl
    (retains.floor_le_slotHolding replica.state.firstSeq)
  exact ⟨low, high.trans (retains.slotHolding_le_folded _)⟩

/-- Above the floor, the compaction floor is a cut. -/
theorem compactionFloor_cut (moved : replica.floor < replica.compactionFloor)
    : Cut mode chosen replica.folded replica.compactionFloor := by
  obtain ⟨⟨_, high⟩, closed, _⟩ := retains.lowerToNeeded_spec _ _ le_rfl
    (retains.floor_le_slotHolding replica.state.firstSeq)
  have below := retains.compactionFloor_bounds.2
  refine ⟨below, ?_, fun slot seq above less retried => ?_⟩
  · rw [← retains.state_eq]
    exact (retains.le_slotHolding_iff moved below).mp high
  · exact (retains.le_slotHolding_iff moved below).mp (closed _
      ((retains.mem_neededSlots moved.le).mpr ⟨slot, seq, above, less, retried, rfl⟩))

/-- No cut lies above the compaction floor. -/
theorem cut_le_compactionFloor {cut : Nat} (valid : Cut mode chosen replica.folded cut)
    : cut ≤ replica.compactionFloor := by
  rcases Nat.lt_or_ge replica.floor cut with above | low
  · obtain ⟨_, _, greatest⟩ := retains.lowerToNeeded_spec _ _ le_rfl
      (retains.floor_le_slotHolding replica.state.firstSeq)
    refine greatest cut above.le ?_ ?_
    · rw [retains.le_slotHolding_iff above valid.le_folded, retains.state_eq]
      exact valid.trimmed
    · intro needed member
      obtain ⟨slot, seq, least, less, retried, rfl⟩ := (retains.mem_neededSlots above.le).mp member
      exact (retains.le_slotHolding_iff above valid.le_folded).mpr
        (valid.kept slot seq least less retried)
  · exact low.trans retains.compactionFloor_bounds.1

end Retains

end Paros
