import Paros.Replica.Equivalence
import Paros.Replica.Ordered

/-! The compaction target against what a cut has to keep, said of the verdicts alone, and the
judgement the replica makes of the compaction that follows.
-/

namespace Paros

open OrderedMap

-- What the source asserts around a compaction

namespace Replica

variable (replica : Replica)

/-- Whether the assertions of `slot_holding` pass: a position the index lacks lies below the
floor, and an indexed write at or below one is a retained folded write that covers it.
-/
def holdingPasses (position : Nat) : Bool :=
  replica.state.nextSeq ≤ position ||
    match lastBefore (position + 1) replica.positions with
    | none => position < replica.base.nextSeq
    | some (start, slot) =>
      ((replica.chosen[slot]?).bind Command.asEntry).any fun entry =>
        start ≤ position && position < start + entry.count && slot < replica.folded

/-- The positions that the retries folded from the floor on were judged at. -/
def retriedPositions : List Nat :=
  (OrderedMap.before replica.folded
      (startingAt replica.floor replica.chosen)).toList.filterMap
    fun (slot, command) =>
      if replica.mode ≠ .single then none else
        command.asEntry.bind fun entry =>
          let judged := replica.stateAt slot
          if entry.seq < judged.firstSeq ∨ judged.nextSeq ≤ entry.seq then none
          else some entry.seq

/-- Whether the floor slot holds a position, or it was dropped below the floor. -/
def atFloor (position : Nat) : Bool :=
  position < replica.base.nextSeq ||
    match replica.outcomes[replica.floor]? with
    | some (.accepted seq count) => seq ≤ position && position < seq + count
    | _ => false

/-- Whether `assert_compacted` passes: where a compaction was due, every retained retry still
holds the record it was judged against, and something needs the floor slot.
-/
def compactionPasses : Bool :=
  !replica.compactionDue ||
    (replica.floor ≤ replica.folded
      && (replica.retriedPositions.all fun seq => replica.base.nextSeq ≤ seq)
      && (replica.floor == replica.folded
        || (replica.state.firstSeq < replica.state.nextSeq
          && replica.atFloor replica.state.firstSeq)
        || replica.retriedPositions.any replica.atFloor))

/-- Compact to the target, as a node does after an advance: nothing is dropped when the floor
would not rise.
-/
def compactToTarget : Replica :=
  match replica.compactionTarget with
  | none => replica
  | some target =>
    if target + 1 ≤ replica.floor then replica else (replica.truncate (target + 1)).1

/-- A cut that releases nothing still needed: it lies within the fold, every retry folded above
it has the record it was judged against above it too, and no record it drops lies at or past the
journal's start.
-/
structure Releases (mode : WriterMode) (chosen : Nat → Command) (replica : Replica) (cut : Nat)
    : Prop where
  floor_le : replica.floor ≤ cut
  le_folded : cut ≤ replica.folded
  judged : ∀ slot seq, cut ≤ slot → slot < replica.folded
    → (ledgerAt mode chosen slot).state.Retries mode (chosen slot) seq
    → ∃ holder start count, cut ≤ holder ∧ holder < slot
      ∧ verdictAt mode chosen holder = .accepted start count ∧ start ≤ seq ∧ seq < start + count
  dropped : ∀ slot start count, replica.floor ≤ slot → slot < cut
    → verdictAt mode chosen slot = .accepted start count
    → start + count ≤ replica.state.firstSeq

end Replica

/-- A floor some record needs: the sequence's start, a slot at which the journal was empty, or
an accepted write.
-/
def Pinned (mode : WriterMode) (chosen : Nat → Command) (floor : Nat) : Prop :=
  floor = 0
    ∨ (ledgerAt mode chosen floor).state.nextSeq ≤ (ledgerAt mode chosen floor).state.firstSeq
    ∨ ∃ start count, verdictAt mode chosen floor = .accepted start count

-- Where a position is held

namespace Retains

variable {faithful : Prop} {mode : WriterMode} {chosen : Nat → Command} {replica : Replica}

section

variable (retains : Retains faithful mode chosen replica)
include retains

/-- The write indexed last at or below a position of the journal covers it. Witness: the write
that does is indexed, so none starts between the two.
-/
theorem lastBefore_covers {position start slot : Nat} (inside : position < replica.state.nextSeq)
    (found : lastBefore (position + 1) replica.positions = some (start, slot))
    : (replica.floor ≤ slot ∧ slot < replica.folded)
      ∧ ∃ count, verdictAt mode chosen slot = .accepted start count
        ∧ start ≤ position ∧ position < start + count := by
  obtain ⟨less, present, gap⟩ := lastBefore_eq_some found
  obtain ⟨within, count, accepted⟩ := (retains.positions_iff start slot).mp present
  refine ⟨within, count, accepted, by omega, ?_⟩
  by_contra past
  rw [retains.state_eq] at inside
  obtain ⟨_, _, after, _⟩ := verdictAt_accepted accepted
  have following : slot + 1 ≤ replica.folded := within.2
  obtain ⟨later, least, below, other, otherCount, holds, atMost, _⟩ :=
    exists_accepted_between following (after ▸ not_lt.mp past) inside
  have indexed : replica.positions[other]? = some later :=
    (retains.positions_iff other later).mpr ⟨⟨by omega, below⟩, otherCount, holds⟩
  have further := verdictAt_accepted_le least accepted holds
  rw [gap other (by omega) (by omega)] at indexed
  cases indexed

/-- A position of the journal that nothing indexed reaches lies below the floor. -/
theorem lastBefore_missing {position : Nat} (inside : position < replica.state.nextSeq)
    (missing : lastBefore (position + 1) replica.positions = none)
    : position < replica.base.nextSeq := by
  by_contra past
  rw [retains.base_eq] at past
  rw [retains.state_eq] at inside
  obtain ⟨slot, least, below, start, count, accepted, atMost, _⟩ :=
    exists_accepted_between retains.floor_le (not_lt.mp past) inside
  have indexed : replica.positions[start]? = some slot :=
    (retains.positions_iff start slot).mpr ⟨⟨least, below⟩, count, accepted⟩
  rw [lastBefore_eq_none missing (Nat.lt_succ_of_le atMost)] at indexed
  cases indexed

/-- The three answers of the index: the fold's head past the journal, the floor for a dropped
position, and otherwise the accepted write that covers it.
-/
theorem slotHolding_cases (position : Nat)
    : (replica.state.nextSeq ≤ position ∧ replica.slotHolding position = replica.folded)
      ∨ (position < replica.base.nextSeq ∧ replica.slotHolding position = replica.floor)
      ∨ replica.slotHolding position < replica.folded
        ∧ ∃ start count, verdictAt mode chosen (replica.slotHolding position)
            = .accepted start count
          ∧ start ≤ position ∧ position < start + count := by
  unfold Replica.slotHolding
  split_ifs with past
  · exact .inl ⟨past, rfl⟩
  · have inside := not_le.mp past
    split
    next start slot found =>
      obtain ⟨⟨above, below⟩, count, covers⟩ := retains.lastBefore_covers inside found
      rw [Nat.max_eq_left above]
      exact .inr (.inr ⟨below, start, count, covers⟩)
    next missing => exact .inr (.inl ⟨retains.lastBefore_missing inside missing, rfl⟩)

theorem holdingPasses (position : Nat)
    : replica.holdingPasses position := by
  unfold Replica.holdingPasses
  rcases Nat.lt_or_ge position replica.state.nextSeq with inside | past
  · split
    next missing => simp [retains.lastBefore_missing inside missing]
    next start slot found =>
      obtain ⟨⟨above, below⟩, count, accepted, atMost, less⟩ :=
        retains.lastBefore_covers inside found
      obtain ⟨entry, write, length⟩ := verdictAt_accepted_count accepted
      have counted : entry.count = count := length
      simp [retains.held slot above below, write, Command.asEntry, counted, atMost, less, below]
  · simp [past]

end

-- Where the loop stops

/-- The loop stops where it started or at a slot holding a record that a retry above reads. -/
theorem lowerToNeeded_mem (retains : Retains faithful mode chosen replica) (rounds first : Nat)
    (enough : first ≤ rounds) (above : replica.floor ≤ first)
    : replica.lowerToNeeded rounds first = first
      ∨ replica.lowerToNeeded rounds first
        ∈ replica.neededSlots (replica.lowerToNeeded rounds first) := by
  induction rounds generalizing first with
  | zero => exact .inl rfl
  | succ rounds ih =>
    simp only [Replica.lowerToNeeded]
    split_ifs with done
    · exact .inl rfl
    · cases least : (replica.neededSlots first).min? with
      | none => simp [least] at done
      | some lowest =>
        simp only [least, Option.getD_some, not_le] at done ⊢
        obtain ⟨slot, seq, leastSlot, less, retried, same⟩ :=
          (retains.mem_neededSlots above).mp (List.min?_eq_some_iff.mp least).1
        have kept : replica.floor ≤ lowest := same ▸ retains.floor_le_slotHolding seq
        rcases ih lowest (by omega) kept with stopped | needed
        · rw [stopped]
          exact .inr ((retains.mem_neededSlots kept).mpr
            ⟨slot, seq, done.le.trans leastSlot, less, retried, same⟩)
        · exact .inr needed

/-- What keeps the compaction floor from rising: the journal's start, or a retry folded above
it. -/
theorem compactionFloor_holds (retains : Retains faithful mode chosen replica)
    : replica.compactionFloor = replica.slotHolding replica.state.firstSeq
      ∨ ∃ slot seq, replica.compactionFloor ≤ slot ∧ slot < replica.folded
        ∧ (ledgerAt mode chosen slot).state.Retries mode (chosen slot) seq
        ∧ replica.compactionFloor = replica.slotHolding seq := by
  rcases retains.lowerToNeeded_mem _ _ le_rfl
    (retains.floor_le_slotHolding replica.state.firstSeq) with stopped | needed
  · exact .inl stopped
  · exact .inr ((retains.mem_neededSlots retains.compactionFloor_bounds.1).mp needed)

/-- More rounds than the loop's start change nothing: it has stopped by then. -/
theorem lowerToNeeded_stops (retains : Retains faithful mode chosen replica) {rounds : Nat}
    (enough : replica.slotHolding replica.state.firstSeq ≤ rounds)
    : replica.lowerToNeeded rounds (replica.slotHolding replica.state.firstSeq)
      = replica.compactionFloor := by
  have start := retains.floor_le_slotHolding replica.state.firstSeq
  obtain ⟨⟨low, high⟩, closed, greatest⟩ := retains.lowerToNeeded_spec _ _ enough start
  obtain ⟨⟨lowFloor, highFloor⟩, closedFloor, greatestFloor⟩ :=
    retains.lowerToNeeded_spec _ _ le_rfl start
  exact Nat.le_antisymm (greatestFloor _ low high closed)
    (greatest _ lowFloor highFloor closedFloor)

-- Pinned floors

/-- A compaction floor above the floor is pinned. Witness: the slot the loop stopped at is the
fold's head with the journal empty, or holds a record.
-/
theorem compactionFloor_pinned (retains : Retains faithful mode chosen replica)
    (moved : replica.floor < replica.compactionFloor)
    : Pinned mode chosen replica.compactionFloor := by
  rcases retains.compactionFloor_holds with held | ⟨slot, seq, _, less, retried, held⟩
  · rw [held] at moved ⊢
    rcases retains.slotHolding_cases replica.state.firstSeq with
      ⟨empty, same⟩ | ⟨_, same⟩ | ⟨_, start, count, accepted, _⟩
    · rw [same, Pinned, ← retains.state_eq]
      exact .inr (.inl empty)
    · omega
    · exact .inr (.inr ⟨start, count, accepted⟩)
  · rw [held] at moved ⊢
    rcases retains.slotHolding_cases seq with ⟨past, _⟩ | ⟨_, same⟩ | ⟨_, start, count, accepted, _⟩
    · obtain ⟨_, _, _, inside⟩ := retried
      have grown : (ledgerAt mode chosen slot).state.nextSeq
          ≤ (ledgerAt mode chosen replica.folded).state.nextSeq :=
        ledgerAt_nextSeq_mono less.le
      rw [retains.state_eq] at past
      omega
    · omega
    · exact .inr (.inr ⟨start, count, accepted⟩)

/-- At a cut, a retry above has its record above exactly when the cut drops no position at or
past the one it reads.
-/
theorem held_above_iff {cut slot seq : Nat} (above : cut ≤ slot)
    (retried : (ledgerAt mode chosen slot).state.Retries mode (chosen slot) seq)
    : (∃ holder start count, cut ≤ holder ∧ holder < slot
        ∧ verdictAt mode chosen holder = .accepted start count ∧ start ≤ seq ∧ seq < start + count)
      ↔ (ledgerAt mode chosen cut).state.nextSeq ≤ seq := by
  constructor
  · rintro ⟨holder, start, count, least, _, accepted, atMost, _⟩
    have grown : (ledgerAt mode chosen cut).state.nextSeq
        ≤ (ledgerAt mode chosen holder).state.nextSeq :=
      ledgerAt_nextSeq_mono least
    rw [(verdictAt_accepted accepted).1] at atMost
    exact grown.trans atMost
  · intro kept
    obtain ⟨_, _, _, inside⟩ := retried
    obtain ⟨holder, least, below, start, count, covers⟩ :=
      exists_accepted_between above kept inside
    exact ⟨holder, start, count, least, below, covers⟩

/-- A cut above a pinned floor drops no record at or past the journal's start exactly when it
drops no position there. Witness: the record at the start would lie in the dropped slots, or
below the floor, whose own write then lies past it.
-/
theorem dropped_iff (retains : Retains faithful mode chosen replica)
    (pinned : Pinned mode chosen replica.floor) {cut : Nat} (above : replica.floor < cut)
    : (∀ slot start count, replica.floor ≤ slot → slot < cut
        → verdictAt mode chosen slot = .accepted start count
        → start + count ≤ replica.state.firstSeq)
      ↔ (ledgerAt mode chosen cut).state.nextSeq ≤ replica.state.firstSeq := by
  constructor
  · intro released
    by_contra beyond
    obtain ⟨holder, _, below, start, count, accepted, atMost, less⟩ :=
      exists_accepted_between (Nat.zero_le cut) (Nat.zero_le _) (not_le.mp beyond)
    have low : holder < replica.floor := by
      by_contra least
      have ends := released holder start count (not_lt.mp least) below accepted
      omega
    obtain ⟨_, _, after, _⟩ := verdictAt_accepted accepted
    have grown : (ledgerAt mode chosen (holder + 1)).state.nextSeq
        ≤ (ledgerAt mode chosen replica.floor).state.nextSeq :=
      ledgerAt_nextSeq_mono low
    rcases pinned with zero | empty | ⟨first, length, atFloor⟩
    · omega
    · have later : (ledgerAt mode chosen replica.floor).state.firstSeq
          ≤ (ledgerAt mode chosen replica.folded).state.firstSeq :=
        ledgerAt_firstSeq_mono retains.floor_le
      rw [retains.state_eq] at less
      omega
    · have ends := released replica.floor first length le_rfl above atFloor
      have first := (verdictAt_accepted atFloor).1
      omega
  · intro trimmed slot start count _ below accepted
    obtain ⟨_, _, after, _⟩ := verdictAt_accepted accepted
    have grown : (ledgerAt mode chosen (slot + 1)).state.nextSeq
        ≤ (ledgerAt mode chosen cut).state.nextSeq :=
      ledgerAt_nextSeq_mono below
    omega

/-- Above a pinned floor, the cuts that release nothing needed are the fold's cuts. -/
theorem releases_iff (retains : Retains faithful mode chosen replica)
    (pinned : Pinned mode chosen replica.floor) {cut : Nat} (above : replica.floor < cut)
    : replica.Releases mode chosen cut ↔ Cut mode chosen replica.folded cut := by
  constructor
  · rintro ⟨_, below, judged, released⟩
    refine ⟨below, ?_, fun slot seq least less retried => ?_⟩
    · rw [← retains.state_eq]
      exact (retains.dropped_iff pinned above).mp released
    · exact (held_above_iff least retried).mp (judged slot seq least less retried)
  · rintro ⟨below, trimmed, kept⟩
    refine ⟨above.le, below, fun slot seq least less retried => ?_, ?_⟩
    · exact (held_above_iff least retried).mpr (kept slot seq least less retried)
    · rw [← retains.state_eq] at trimmed
      exact (retains.dropped_iff pinned above).mpr trimmed

end Retains

/-- A history whose truncations cut exactly at the compaction target. -/
abbrev Replica.Compacted (mode : WriterMode) (chosen : Nat → Command) : Replica → Prop :=
  Reached (fun replica first => first = replica.compactionFloor) mode chosen

/-- Such a history folds the ledger and leaves a pinned floor. Witness: induction over the
history; only a truncation and a trim jump move the floor, each to a floor the loop stopped at.
-/
theorem Replica.Compacted.folds_pinned {mode : WriterMode} {chosen : Nat → Command}
    {replica : Replica} (history : Compacted mode chosen replica)
    : Folds mode chosen replica ∧ Pinned mode chosen replica.floor := by
  induction history with
  | boot =>
    exact ⟨Retains.fromBoot (fun _ => safeCut_zero mode chosen) le_rfl (by simp),
      .inl fromBoot_frame.2.2⟩
  | learn _ above kept =>
    rw [learn_frame.2.2]
    exact ⟨kept.1.learn above, kept.2⟩
  | applyPage _ page kept => exact ⟨kept.1.frame _ _ _ _ page, kept.2⟩
  | advance _ recordBallot kept =>
    rw [advance_advanced.floor]
    exact ⟨kept.1.advance recordBallot, kept.2⟩
  | drain _ kept => exact ⟨kept.1.frame _ _ _ _ _, kept.2⟩
  | compacted _ kept => exact ⟨kept.1.frame _ _ _ _ _, kept.2⟩
  | @truncate replica _ first passes exactly kept =>
    obtain ⟨folds, pinned⟩ := kept
    obtain rfl : first = replica.compactionFloor := exactly
    have bounds := folds.compactionFloor_bounds
    suffices SafeCut mode chosen replica.compactionFloor
        ∧ Pinned mode chosen replica.compactionFloor from
      ⟨folds.truncate bounds.1 bounds.2 fun _ => this.1, this.2⟩
    rcases bounds.1.eq_or_lt with same | moved
    · rw [← same]
      exact ⟨folds.floor_safe, pinned⟩
    · exact ⟨(folds.compactionFloor_cut moved).safe, folds.compactionFloor_pinned moved⟩
  | trimTo _ _ behind kept peerKept =>
    rw [trimTo_frame.2.2, peerKept.1.base_eq]
    exact ⟨kept.1.trimTo behind.le (Nat.zero_lt_of_lt behind) peerKept.1.cut_safe, peerKept.2⟩
  | reboot _ records recorded kept =>
    rw [fromBoot_frame.2.2, kept.1.base_eq]
    exact ⟨Retains.fromBoot kept.1.cut_safe (kept.1.floor_le.trans kept.1.folded_le) recorded,
      kept.2⟩

-- The judgement of a compaction

namespace Folds

variable {mode : WriterMode} {chosen : Nat → Command} {replica : Replica}

variable (folds : Folds mode chosen replica)
include folds

/-- The retries the judgement runs through are those of the fold. -/
theorem mem_retriedPositions {seq : Nat}
    : seq ∈ replica.retriedPositions
      ↔ ∃ slot, replica.floor ≤ slot ∧ slot < replica.folded
        ∧ (ledgerAt mode chosen slot).state.Retries mode (chosen slot) seq := by
  have single : replica.mode ≠ .single ↔ replica.mode = .multi := by cases replica.mode <;> simp
  simp only [Replica.retriedPositions, List.mem_filterMap, Prod.exists, folds.mem_retained le_rfl]
  constructor
  · rintro ⟨slot, command, ⟨least, less, rfl⟩, found⟩
    split_ifs at found with isMulti
    obtain ⟨entry, write, judged⟩ := Option.bind_eq_some_iff.mp found
    split_ifs at judged with outside
    obtain rfl := Option.some.inj judged
    refine ⟨slot, least, less, (folds.retries_iff least less).mpr
      ⟨fun multi => isMulti (single.mpr multi), entry, write, rfl, ?_⟩⟩
    omega
  · rintro ⟨slot, least, less, retried⟩
    obtain ⟨isSingle, entry, write, rfl, inside⟩ := (folds.retries_iff least less).mp retried
    refine ⟨slot, chosen slot, ⟨least, less, rfl⟩, ?_⟩
    have within : ¬ (entry.seq < (replica.stateAt slot).firstSeq
        ∨ (replica.stateAt slot).nextSeq ≤ entry.seq) := by omega
    simp only [if_neg fun other => isSingle (single.mp other), write, Option.bind_some,
      if_neg within]

/-- A position whose slot is the floor is held there or below. -/
theorem atFloor_of_held {start count position : Nat} (below : replica.floor < replica.folded)
    (accepted : verdictAt mode chosen replica.floor = .accepted start count)
    (atMost : start ≤ position) (less : position < start + count)
    : replica.atFloor position := by
  have recorded := (folds.accepted_iff replica.floor start count).mpr ⟨⟨le_rfl, below⟩, accepted⟩
  simp [Replica.atFloor, recorded, atMost, less]

/-- A compaction passes its judgement when the floor is a safe cut and a slot of the fold: the
head, one that holds the journal's first record, or one that holds what a retained retry reads.
-/
theorem compactionPasses_of (needed : replica.floor = replica.folded
      ∨ (replica.state.firstSeq < replica.state.nextSeq
        ∧ replica.atFloor replica.state.firstSeq)
      ∨ ∃ slot seq, replica.floor ≤ slot ∧ slot < replica.folded
        ∧ (ledgerAt mode chosen slot).state.Retries mode (chosen slot) seq ∧ replica.atFloor seq)
    : replica.compactionPasses := by
  have kept : replica.retriedPositions.all fun seq => replica.base.nextSeq ≤ seq := by
    rw [List.all_eq_true]
    intro seq retried
    obtain ⟨slot, least, _, retries⟩ := folds.mem_retriedPositions.mp retried
    rw [folds.base_eq]
    exact decide_eq_true (folds.floor_safe slot seq least retries)
  simp only [Replica.compactionPasses, kept, folds.floor_le, Bool.or_eq_true, Bool.and_eq_true,
    beq_iff_eq, decide_eq_true_eq, List.any_eq_true, true_and]
  rcases needed with head | first | ⟨slot, seq, least, less, retries, held⟩
  · exact .inr (.inl (.inl head))
  · exact .inr (.inl (.inr first))
  · exact .inr (.inr ⟨seq, folds.mem_retriedPositions.mpr ⟨slot, least, less, retries⟩, held⟩)

/-- Compacting to the target moves the floor to the compaction floor and nothing else of the
fold.
-/
theorem compactToTarget
    : Folds mode chosen replica.compactToTarget
      ∧ replica.compactToTarget.floor = replica.compactionFloor
      ∧ replica.compactToTarget.folded = replica.folded
      ∧ replica.compactToTarget.state = replica.state := by
  have bounds := folds.compactionFloor_bounds
  unfold Replica.compactToTarget Replica.compactionTarget
  cases target : replica.compactionFloor with
  | zero =>
    have bottom : replica.floor = 0 := by omega
    exact ⟨folds, bottom, rfl, rfl⟩
  | succ slot =>
    rw [target] at bounds
    by_cases still : slot + 1 ≤ replica.floor
    · simp only [if_pos still]
      exact ⟨folds, by omega, trivial, trivial⟩
    · have moved : replica.floor < replica.compactionFloor := by omega
      have safe := (folds.compactionFloor_cut moved).safe
      rw [target] at safe
      simp only [if_neg still]
      exact ⟨folds.truncate bounds.1 bounds.2 fun _ => safe, rfl, rfl, rfl⟩

/-- Compacting to the target is a truncation within the fold, or nothing. -/
theorem compactToTarget_eq
    : replica.compactToTarget = replica
      ∨ ∃ first ≤ replica.folded, replica.compactToTarget = (replica.truncate first).1 := by
  have bounds := folds.compactionFloor_bounds
  unfold Replica.compactToTarget Replica.compactionTarget
  cases target : replica.compactionFloor with
  | zero => exact .inl rfl
  | succ slot =>
    rw [target] at bounds
    by_cases still : slot + 1 ≤ replica.floor
    · simp only [if_pos still]
      exact .inl trivial
    · simp only [if_neg still]
      exact .inr ⟨slot + 1, bounds.2, rfl⟩

/-- A position the loop stopped for is held at the floor a compaction leaves, unless that is the
fold's head.
-/
theorem atFloor_compactToTarget {position : Nat}
    (stopped : replica.compactionFloor = replica.slotHolding position)
    : replica.compactToTarget.floor = replica.compactToTarget.folded
      ∨ replica.compactToTarget.atFloor position := by
  obtain ⟨later, floor, folded, _⟩ := folds.compactToTarget
  rw [floor, folded, stopped]
  rcases folds.slotHolding_cases position with
    ⟨_, head⟩ | ⟨dropped, same⟩ | ⟨below, start, count, accepted, atMost, less⟩
  · exact .inl head
  · -- the floor did not move, and the position lies below it
    have base : replica.compactToTarget.base = replica.base := by
      rw [later.base_eq, floor, stopped, same, folds.base_eq]
    exact .inr (by simp [Replica.atFloor, base, dropped])
  · rw [← stopped, ← floor] at below accepted
    exact .inr (later.atFloor_of_held (folded.symm ▸ below) accepted atMost less)

/-- A compaction to the target passes its judgement. -/
theorem compactToTarget_passes
    : replica.compactToTarget.compactionPasses := by
  obtain ⟨later, floor, folded, state⟩ := folds.compactToTarget
  refine later.compactionPasses_of ?_
  rcases folds.compactionFloor_holds with stopped | ⟨slot, seq, least, less, retries, stopped⟩
  · rcases folds.atFloor_compactToTarget stopped with head | held
    · exact .inl head
    · rcases Nat.lt_or_ge replica.state.firstSeq replica.state.nextSeq with first | empty
      · exact .inr (.inl ⟨state ▸ first, state.symm ▸ held⟩)
      · refine .inl (floor.trans (stopped.trans ?_))
        rw [folded, Replica.slotHolding, if_pos empty]
  · rcases folds.atFloor_compactToTarget stopped with head | held
    · exact .inl head
    · exact .inr (.inr ⟨slot, seq, floor ▸ least, folded ▸ less, retries, held⟩)

/-- The cuts that release nothing needed have the compaction floor as their greatest. -/
theorem compactionFloor_greatest (pinned : Pinned mode chosen replica.floor)
    : IsGreatest { cut | replica.Releases mode chosen cut } replica.compactionFloor := by
  constructor
  · rcases folds.compactionFloor_bounds.1.eq_or_lt with same | moved
    · rw [← same]
      refine ⟨le_rfl, folds.floor_le, fun slot seq least less retried => ?_, ?_⟩
      · exact (Retains.held_above_iff least retried).mpr (folds.floor_safe slot seq least retried)
      · intro slot _ _ above below
        omega
    · exact (folds.releases_iff pinned moved).mpr (folds.compactionFloor_cut moved)
  · intro cut releases
    rcases releases.floor_le.eq_or_lt with same | above
    · rw [← same]
      exact folds.compactionFloor_bounds.1
    · exact folds.cut_le_compactionFloor ((folds.releases_iff pinned above).mp releases)

/-- A compaction floor above the floor passes every assertion of `truncate`. -/
theorem truncatable_compactionFloor (moved : replica.floor < replica.compactionFloor)
    : replica.truncatable replica.compactionFloor := by
  have cut := folds.compactionFloor_cut moved
  have bounds := folds.compactionFloor_bounds
  have trimmed : (replica.stateAt replica.compactionFloor).nextSeq ≤ replica.state.firstSeq := by
    rw [folds.stateAt_eq bounds.1 bounds.2, folds.state_eq]
    exact cut.trimmed
  have target : replica.compactionTarget.any (replica.compactionFloor ≤ · + 1) := by
    unfold Replica.compactionTarget
    cases cut : replica.compactionFloor with
    | zero => omega
    | succ slot => simp
  simp only [Replica.truncatable, target, trimmed, bounds, decide_true, Bool.and_self]

end Folds

/-- The compaction target is the greatest safe cut. In every history that cuts at its targets,
no assertion of the index fires, the loop stops within as many rounds as the slot it starts at,
the slot after the target is the greatest cut that releases nothing needed, a truncation there
passes its assertions, and so does the judgement of the compaction.
-/
theorem Replica.compactionTarget_greatest {mode : WriterMode} {chosen : Nat → Command}
    {replica : Replica} (history : Compacted mode chosen replica)
    : (∀ position, replica.holdingPasses position)
      ∧ ∃ cut, replica.compactionTarget = cut.ppred
        ∧ (∀ rounds, replica.slotHolding replica.state.firstSeq ≤ rounds
          → replica.lowerToNeeded rounds (replica.slotHolding replica.state.firstSeq) = cut)
        ∧ IsGreatest { cut | replica.Releases mode chosen cut } cut
        ∧ (replica.floor < cut → replica.truncatable cut)
        ∧ replica.compactToTarget.compactionPasses := by
  obtain ⟨folds, pinned⟩ := history.folds_pinned
  refine ⟨folds.holdingPasses, replica.compactionFloor, ?_, fun _ => folds.lowerToNeeded_stops,
    folds.compactionFloor_greatest pinned, folds.truncatable_compactionFloor,
    folds.compactToTarget_passes⟩
  unfold compactionTarget
  cases replica.compactionFloor <;> rfl

/-- With the first two positions trimmed, the retry below the third write goes with the record it
read.
-/
theorem Replica.compactionTarget_greatest_retried
    : retriedReplica.compactionTarget = some 3
      ∧ (∀ position, retriedReplica.holdingPasses position)
      ∧ ∃ cut, retriedReplica.compactionTarget = cut.ppred
        ∧ (∀ rounds, retriedReplica.slotHolding retriedReplica.state.firstSeq ≤ rounds
          → retriedReplica.lowerToNeeded rounds
              (retriedReplica.slotHolding retriedReplica.state.firstSeq) = cut)
        ∧ IsGreatest { cut | retriedReplica.Releases .single retriedSequence cut } cut
        ∧ (retriedReplica.floor < cut → retriedReplica.truncatable cut)
        ∧ retriedReplica.compactToTarget.compactionPasses :=
  ⟨by decide +kernel, compactionTarget_greatest (retriedReplica_reached _)⟩

end Paros
