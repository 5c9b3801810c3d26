import Paros.Durability.Mirrored

/-! The vote watermark over a node's whole life. Each write keeps what the image vouches for, and
the live acceptor's watermark is what its image vouches for; so no vote is ever above it.
-/

namespace Paros

open OrderedMap

-- What an image vouches for

namespace MemStorage

variable {disk : MemStorage} {slot : Nat}

/-- A slot at or below an accepted record, or below the floor. -/
def Vouches (disk : MemStorage) (slot : Nat) : Prop :=
  slot < disk.firstSlot
  ∨ ∃ (held : Nat) (record : Ballot × Command), disk.accepted[held]? = some record ∧ slot ≤ held

theorem Vouches.raiseFloor (vouches : disk.Vouches slot) (first : Nat)
    : (disk.raiseFloor first).Vouches slot := by
  rcases vouches with below | ⟨held, record, present, covers⟩
  · exact Or.inl (below.trans_le (le_max_left _ _))
  · by_cases dropped : held < max disk.firstSlot first
    · exact Or.inl (covers.trans_lt dropped)
    · refine Or.inr ⟨held, record, ?_, covers⟩
      rw [MemStorage.raiseFloor, getElem?_startingAt, if_pos (not_lt.mp dropped)]
      exact present

/-- Every kind of write keeps what the image vouches for. -/
theorem Vouches.applyOne (vouches : disk.Vouches slot) (op : WriteOp)
    : (disk.applyOne op).Vouches slot := by
  cases op with
  | acceptor write =>
    cases write with
    | setPromise ballot => exact vouches
    | appendAccepted place ballot command =>
      rcases vouches with below | ⟨held, record, present, covers⟩
      · exact Or.inl below
      · -- the record may be the one replaced: its slot still holds one
        obtain ⟨kept, found⟩ := Option.isSome_iff_exists.mp
          (isSome_insert (Option.isSome_iff_exists.mpr ⟨record, present⟩))
        exact Or.inr ⟨held, kept, found, covers⟩
  | setChosenIndex chosen => exact vouches
  | truncate first sealedAt => exact Vouches.raiseFloor vouches first
  | trimmedTo point state => exact Vouches.raiseFloor vouches point

theorem Vouches.append {writes : List WriteOp} (vouches : (replay writes).Vouches slot)
    (more : List WriteOp)
    : (replay (writes ++ more)).Vouches slot := by
  rw [replay_append]
  induction more generalizing writes with
  | nil => exact vouches
  | cons op rest ih =>
    have applied : (replay (writes ++ [op])).Vouches slot := by
      rw [replay_append]
      exact vouches.applyOne op
    have rested := ih applied
    rwa [replay_append] at rested

/-- The image vouches for every slot it was ever told to accept a record at. -/
theorem replay_vouches {writes : List WriteOp} {ballot : Ballot} {command : Command}
    (accepted : .acceptor (.appendAccepted slot ballot command) ∈ writes)
    : (replay writes).Vouches slot := by
  obtain ⟨before, after, rfl⟩ := List.append_of_mem accepted
  have told : (replay (before ++ [.acceptor (.appendAccepted slot ballot command)])).Vouches slot := by
    rw [replay_append]
    exact Or.inr ⟨slot, (ballot, command), Std.ExtTreeMap.getElem?_insert_self, le_rfl⟩
  have kept := told.append after
  rwa [List.append_assoc] at kept

end MemStorage

-- The watermark

namespace Acceptor

variable {V : Type}

theorem some_le_voteWatermark_iff {acceptor : Acceptor V} {slot : Nat}
    : some slot ≤ acceptor.voteWatermark
      ↔ slot < acceptor.firstSlot ∨ some slot ≤ OrderedMap.lastKey? acceptor.records
        ∨ some slot ≤ OrderedMap.lastKey? acceptor.faulty := by
  have truncated : some slot ≤ (if acceptor.firstSlot = 0 then none
      else some (acceptor.firstSlot - 1)) ↔ slot < acceptor.firstSlot := by
    split_ifs with zero
    · simp [zero]
    · rw [Option.some_le_some]
      omega
  rw [← truncated, voteWatermark]
  generalize (if acceptor.firstSlot = 0 then none else some (acceptor.firstSlot - 1)) = floor
  rcases OrderedMap.lastKey? acceptor.records with _ | held <;>
    rcases OrderedMap.lastKey? acceptor.faulty with _ | rotted <;>
    rcases floor with _ | floor <;>
    simp [List.reduceOption, List.max?, or_comm, or_assoc]

end Acceptor

/-- A live acceptor's watermark is what its image vouches for. -/
theorem Mirrors.voteWatermark_iff {disk : MemStorage} {acceptor : Acceptor Command}
    {replica : Replica} (mirrors : Mirrors disk acceptor replica) {slot : Nat}
    : some slot ≤ acceptor.voteWatermark ↔ disk.Vouches slot := by
  rw [Acceptor.some_le_voteWatermark_iff, some_le_lastKey?_iff,
    some_le_lastKey?_iff, MemStorage.Vouches, mirrors.firstSlot]
  constructor
  · rintro (below | ⟨held, record, present, covers⟩ | ⟨held, ballot, rotted, covers⟩)
    · exact Or.inl below
    · exact Or.inr ⟨held, record, mirrors.records present, covers⟩
    · obtain ⟨_, command, present⟩ := mirrors.faulty rotted
      exact Or.inr ⟨held, (ballot, command), present, covers⟩
  · rintro (below | ⟨held, record, present, covers⟩)
    · exact Or.inl below
    · rcases Nat.lt_or_ge held disk.firstSlot with dropped | retained
      · exact Or.inl (covers.trans_lt dropped)
      · rcases mirrors.retained present retained with readable | rotted
        · exact Or.inr (Or.inl ⟨held, record, readable, covers⟩)
        · exact Or.inr (Or.inr ⟨held, record.1, rotted, covers⟩)

-- Over a run

namespace Host

variable {host later : Host}

/-- The node recorded an accepted command at the slot, as each of its votes does, in this
incarnation or an earlier one.
-/
def Voted (host : Host) (slot : Nat) : Prop :=
  ∃ (ballot : Ballot) (command : Command),
    .acceptor (.appendAccepted slot ballot command) ∈ host.written

theorem Sound.voteWatermark_iff (sound : host.Sound) {slot : Nat}
    : some slot ≤ host.node.acceptor.voteWatermark
      ↔ (MemStorage.replay host.written).Vouches slot :=
  Mirrors.voteWatermark_iff sound.mirrored

/-- The flushed batches are only ever added to. -/
theorem Run.log_grows (run : host.Run later) : host.log <+: later.log := by
  induction run with
  | refl => exact List.prefix_rfl
  | tail _ step ih =>
    cases step with
    | call input => exact ih
    | flush => exact ih.trans (List.prefix_append _ _)
    | reboot config limits faulty => exact ih

theorem Run.kept_of_flushed (run : host.Run later) (flushed : host.node.pendingWrites = [])
    : host.written <+: later.written := by
  rw [written, flushed, List.append_nil]
  exact run.log_grows.trans (List.prefix_append _ _)

/-- The vote watermark covers every slot the acceptor ever voted in and never falls: at any moment
of a run it is at least every slot recorded so far, and it is at least what it was at every earlier
moment whose writes no crash lost, as none does once they are flushed.
-/
theorem voteWatermark_covers_votes (config : Config) (limits : Limits)
    (before : (start config limits).Run host) (after : host.Run later)
    : (∀ slot, later.Voted slot → some slot ≤ later.node.acceptor.voteWatermark)
      ∧ (host.written <+: later.written
        → host.node.acceptor.voteWatermark ≤ later.node.acceptor.voteWatermark
          ∧ ∀ slot, host.Voted slot → later.Voted slot)
      ∧ (host.node.pendingWrites = [] → host.written <+: later.written) := by
  have sound : host.Sound := (boot_sound config limits [] ∅).run before
  have soundLater : later.Sound := sound.run after
  refine ⟨?_, ?_, after.kept_of_flushed⟩
  · rintro slot ⟨ballot, command, accepted⟩
    exact soundLater.voteWatermark_iff.mpr (MemStorage.replay_vouches accepted)
  · rintro ⟨more, grown⟩
    constructor
    · cases held : host.node.acceptor.voteWatermark with
      | none => exact Option.none_le
      | some mark =>
        have vouched : (MemStorage.replay host.written).Vouches mark :=
          sound.voteWatermark_iff.mp (by rw [held, Option.some_le_some])
        rw [soundLater.voteWatermark_iff, ← grown]
        exact vouched.append more
    · rintro slot ⟨ballot, command, accepted⟩
      exact ⟨ballot, command, grown ▸ List.mem_append_left more accepted⟩

/-- A single acceptor that voted in slot 2. -/
def voter : Host := ⟨(start .lone .few).node.handle (.deliver (.accept 0 0 ⟨1, 0⟩ 2 .noop none)), []⟩

theorem voter_run : (start .lone .few).Run voter := .single (.call _)

/-- The same acceptor, its vote flushed. -/
def votedOnce : Host := ⟨voter.node.clearPending, voter.node.pendingWrites⟩

theorem votedOnce_run : (start .lone .few).Run votedOnce := voter_run.tail .flush

/-- A vote whose record reads back damaged after a reboot. -/
theorem voteWatermark_covers_votes_damaged
    : let rebooted := Node.boot .lone .few (.replay votedOnce.log) {2}
      votedOnce.node.acceptor.voteWatermark = some 2 ∧ rebooted.acceptor.records.isEmpty
        ∧ some 2 ≤ rebooted.acceptor.voteWatermark := by
  have voted : votedOnce.node.acceptor.voteWatermark = some 2 := by decide +kernel
  have reboots : votedOnce.Run ⟨.boot .lone .few (.replay votedOnce.log) {2}, votedOnce.log⟩ :=
    .single (.reboot .lone .few {2})
  obtain ⟨_, never, kept⟩ := voteWatermark_covers_votes .lone .few votedOnce_run reboots
  exact ⟨voted, by decide +kernel, voted ▸ (never (kept rfl)).1⟩

/-- A crash before the flush takes the vote back, and the watermark with it. -/
theorem lost_vote_lowers_watermark
    : ∃ later : Host, voter.Run later ∧ voter.node.acceptor.voteWatermark = some 2
      ∧ later.node.acceptor.voteWatermark = none :=
  ⟨_, .single (.reboot .lone .few ∅), by decide +kernel, by decide +kernel⟩

end Host

end Paros
