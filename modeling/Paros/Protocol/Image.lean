import Paros.Protocol.Core
import Paros.Replica.Ordered

/-! The durable image of a node's writes, and how the live acceptor and replica mirror it. -/

namespace Paros

open OrderedMap

namespace MemStorage

def firstUnchosen (disk : MemStorage) : Nat := disk.chosenIndex.elim 0 (· + 1)

theorem replay_append (log writes : List WriteOp)
    : replay (log ++ writes) = writes.foldl applyOne (replay log) :=
  List.foldl_append

/-- Writing chosen indexes in turn leaves the last one. -/
theorem foldl_setChosenIndex (disk : MemStorage) (written : List Nat)
    : (written.map WriteOp.setChosenIndex).foldl applyOne disk
      = { disk with chosenIndex := written.getLast?.or disk.chosenIndex } := by
  induction written generalizing disk with
  | nil => rfl
  | cons slot rest ih =>
    rw [List.map_cons, List.foldl_cons, ih]
    cases rest with
    | nil => rfl
    | cons next tail =>
      rw [List.getLast?_cons_cons]
      cases same : (next :: tail).getLast? with
      | none => simp at same
      | some last => rfl

end MemStorage

/-- The image a node's queued writes lead to, after those persisted before. -/
def Core.disk (core : Core) (log : List WriteOp) : MemStorage :=
  MemStorage.replay (log ++ core.writes)

theorem Core.disk_queue {core : Core} {log : List WriteOp} (ops : List WriteOp)
    : (core.queue ops).disk log = ops.foldl MemStorage.applyOne (core.disk log) := by
  rw [disk, queue, ← List.append_assoc, MemStorage.replay_append]
  rfl

theorem Replica.compactionFloor_eq {replica : Replica} {target : Nat}
    (due : replica.compactionTarget = some target)
    : replica.compactionFloor = target + 1 := by
  unfold compactionTarget at due
  split at due
  · cases due
  next found => rw [found, Option.some.inj due]

/-- What a compaction call does: nothing, or a drop between the floor and the target. -/
theorem Core.compact_cases (core : Core) (upTo : Nat)
    : core.compact upTo = core
      ∨ ∃ first, core.compact upTo = core.truncate first ∧ core.acceptor.firstSlot < first
        ∧ first ≤ core.replica.compactionFloor := by
  unfold compact
  split
  · exact Or.inl rfl
  next target due =>
    dsimp only
    split
    · exact Or.inl rfl
    next raises =>
      refine Or.inr ⟨_, rfl, not_le.mp raises, ?_⟩
      rw [Replica.compactionFloor_eq due]
      omega

/-- What a walk does: it applies a page and, when that leaves a compaction due and possible,
makes it as far as it goes.
-/
theorem Core.walk_cases (core : Core)
    : (core.walk = { core.applyPage with replica := core.applyPage.replica.assertCompacted }
        ∧ (core.applyPage.replica.compactionDue = true
          → core.applyPage.replica.compactionFloor ≤ core.applyPage.acceptor.firstSlot))
      ∨ (core.walk = { core.applyPage.truncate core.applyPage.replica.compactionFloor with
          replica := (core.applyPage.truncate
            core.applyPage.replica.compactionFloor).replica.assertCompacted }
        ∧ core.applyPage.acceptor.firstSlot < core.applyPage.replica.compactionFloor) := by
  unfold walk
  split
  next target due =>
    have due : core.applyPage.replica.compactionTarget = some target :=
      (Option.ite_none_right_eq_some.mp due).2
    have reached := Replica.compactionFloor_eq due
    unfold compact
    simp only [due, min_self]
    split
    next low => exact Or.inl ⟨rfl, fun _ => by omega⟩
    next raises =>
      have first : max (target + 1) core.applyPage.acceptor.firstSlot
          = core.applyPage.replica.compactionFloor := by omega
      rw [first] at raises ⊢
      exact Or.inr ⟨rfl, not_le.mp raises⟩
  next due =>
    refine Or.inl ⟨rfl, fun compacts => ?_⟩
    have none : core.applyPage.replica.compactionTarget = none := by
      have due : (if core.applyPage.replica.compactionDue then
        core.applyPage.replica.compactionTarget else none) = none := due
      rwa [if_pos compacts] at due
    unfold Replica.compactionTarget at none
    split at none
    next found => exact found ▸ Nat.zero_le _
    · cases none

/-- The live acceptor and replica agree with the image; a damaged record's ballot is known. -/
structure Mirrors (disk : MemStorage) (acceptor : Acceptor Command) (replica : Replica) : Prop where
  promised : acceptor.promised = disk.promised
  firstSlot : acceptor.firstSlot = disk.firstSlot
  floor : replica.floor = disk.firstSlot
  chosenIndex : replica.chosenIndex = disk.chosenIndex
  base : replica.base = disk.sealedAt
  records : ∀ {slot : Nat} {record}, acceptor.records[slot]? = some record
    → disk.accepted[slot]? = some record
  faulty : ∀ {slot : Nat} {ballot}, acceptor.faulty[slot]? = some ballot
    → acceptor.records[slot]? = none ∧ ∃ command, disk.accepted[slot]? = some (ballot, command)
  retained : ∀ {slot : Nat} {record}, disk.accepted[slot]? = some record → disk.firstSlot ≤ slot
    → acceptor.records[slot]? = some record ∨ acceptor.faulty[slot]? = some record.1

namespace Mirrors

variable {disk : MemStorage} {acceptor : Acceptor Command} {replica : Replica}

section

variable (mirrors : Mirrors disk acceptor replica)
include mirrors

theorem floor_eq : replica.floor = acceptor.firstSlot :=
  mirrors.floor.trans mirrors.firstSlot.symm

theorem firstUnchosen
    : replica.firstUnchosen = disk.firstUnchosen := by
  rw [Replica.firstUnchosen, mirrors.chosenIndex, MemStorage.firstUnchosen]

theorem promise (ballot : Ballot)
    : Mirrors (disk.applyOne (.acceptor (.setPromise ballot)))
      { acceptor with promised := ballot } replica :=
  { mirrors with promised := rfl }

theorem record (slot : Nat) (ballot : Ballot) (command : Command)
    : Mirrors (disk.applyOne (.acceptor (.appendAccepted slot ballot command)))
      { acceptor with
        faulty := acceptor.faulty.erase slot
        records := acceptor.records.insert slot (ballot, command) } replica := by
  have lookup (place : Nat)
      : (disk.applyOne (.acceptor (.appendAccepted slot ballot command))).accepted[place]?
        = if slot = place then some (ballot, command) else disk.accepted[place]? :=
    getElem?_insert
  refine { mirrors with records := ?_, faulty := ?_, retained := ?_ }
  · intro place record held
    rw [lookup]
    rw [getElem?_insert] at held
    split_ifs at held ⊢ with same
    · exact held
    · exact mirrors.records held
  · intro place number damaged
    rw [lookup]
    rw [getElem?_erase] at damaged
    rw [getElem?_insert]
    split_ifs at damaged ⊢ with same
    exact mirrors.faulty damaged
  · intro place record held above
    rw [lookup] at held
    simp only [getElem?_insert, getElem?_erase]
    split_ifs at held ⊢ with same
    · exact Or.inl held
    · exact mirrors.retained held above

/-- Writing a held record again leaves the image as it is. -/
theorem rewrite {slot : Nat} {ballot : Ballot}
    {command : Command} (held : acceptor.records[slot]? = some (ballot, command))
    : disk.applyOne (.acceptor (.appendAccepted slot ballot command)) = disk := by
  have same : disk.accepted.insert slot (ballot, command) = disk.accepted := by
    ext1 place
    rw [getElem?_insert]
    split_ifs with here
    · rw [← here, mirrors.records held]
    · rfl
  simp only [MemStorage.applyOne, same]

/-- A replica with the same floor, base and chosen index mirrors the same image. -/
theorem relearn {next : Replica}
    (index : next.chosenIndex = replica.chosenIndex) (floor : next.floor = replica.floor)
    (base : next.base = replica.base)
    : Mirrors disk acceptor next :=
  { mirrors with
    floor := floor.trans mirrors.floor
    chosenIndex := index.trans mirrors.chosenIndex
    base := base.trans mirrors.base }

/-- A replica that applied slots mirrors the image with their chosen indexes written. -/
theorem advance (recordBallot : Nat → Command → Option Ballot)
    : Mirrors (((replica.advance recordBallot).2.1.map WriteOp.setChosenIndex).foldl
        MemStorage.applyOne disk) acceptor (replica.advance recordBallot).1 := by
  have advanced : Replica.Advanced recordBallot replica (replica.advance recordBallot).1
      (replica.advance recordBallot).2.1 := Replica.advance_advanced
  rw [MemStorage.foldl_setChosenIndex]
  exact { mirrors with
    floor := advanced.floor.trans mirrors.floor
    chosenIndex := by rw [advanced.index, mirrors.chosenIndex]
    base := advanced.base.trans mirrors.base }

/-- The acceptor and the replica both drop what the image drops. -/
theorem raiseFloor {first : Nat} {next : Replica}
    (raises : acceptor.firstSlot < first) (floor : next.floor = first)
    : Mirrors (({ disk with
        chosenIndex := next.chosenIndex, sealedAt := next.base } : MemStorage).raiseFloor first)
      (acceptor.dropPrefix first) next := by
  have highest : max disk.firstSlot first = first :=
    max_eq_right (mirrors.firstSlot ▸ raises.le)
  have lookup (slot : Nat) : (({ disk with
      chosenIndex := next.chosenIndex, sealedAt := next.base } : MemStorage).raiseFloor
        first).accepted[slot]?
      = if first ≤ slot then disk.accepted[slot]? else none := by
    simp only [MemStorage.raiseFloor, getElem?_startingAt, highest]
  refine ⟨mirrors.promised, highest.symm, floor.trans highest.symm, rfl, rfl, ?_, ?_, ?_⟩
  · intro slot record held
    simp only [Acceptor.dropPrefix, getElem?_startingAt,
      Option.ite_none_right_eq_some] at held
    rw [lookup, if_pos held.1]
    exact mirrors.records held.2
  · intro slot ballot damaged
    simp only [Acceptor.dropPrefix, getElem?_startingAt,
      Option.ite_none_right_eq_some] at damaged ⊢
    rw [lookup, if_pos damaged.1, if_pos damaged.1]
    exact mirrors.faulty damaged.2
  · intro slot record held above
    rw [lookup, Option.ite_none_right_eq_some] at held
    simp only [Acceptor.dropPrefix, getElem?_startingAt, if_pos held.1]
    exact mirrors.retained held.2 ((mirrors.firstSlot ▸ raises.le).trans held.1)

theorem truncate {first : Nat} (raises : acceptor.firstSlot < first)
    : Mirrors (disk.applyOne (.truncate first (replica.truncate first).2))
      (acceptor.dropPrefix first) (replica.truncate first).1 := by
  have floor : (replica.truncate first).1.floor = first := rfl
  have dropped := mirrors.raiseFloor raises floor
  rw [show (replica.truncate first).1.chosenIndex = disk.chosenIndex from mirrors.chosenIndex]
    at dropped
  exact dropped

theorem trimTo {point : Nat} {state : JournalState} (raises : acceptor.firstSlot < point)
    : Mirrors (disk.applyOne (.trimmedTo point (replica.trimTo point state).2))
      (acceptor.dropPrefix point) (replica.trimTo point state).1 := by
  have frame : (replica.trimTo point state).1.chosen = startingAt point replica.chosen
      ∧ (replica.trimTo point state).1.chosenIndex = (replica.coverBoundary point).chosenIndex
      ∧ (replica.trimTo point state).1.floor = point := Replica.trimTo_frame
  have dropped := mirrors.raiseFloor raises frame.2.2
  have index : (replica.trimTo point state).1.chosenIndex
      = if disk.chosenIndex.all (· < point - 1) then some (point - 1) else disk.chosenIndex := by
    rw [frame.2.1, Replica.coverBoundary, ← mirrors.chosenIndex]
    split <;> rfl
  rw [index, Replica.trimTo_base] at dropped
  exact dropped

end

/-- A booted node mirrors the image it was booted from, whatever read back damaged. -/
theorem boot (config : Config) (limits : Limits) (disk : MemStorage) (faulty : Finset Nat)
    : Mirrors disk (Node.boot config limits disk faulty).acceptor
      (Node.boot config limits disk faulty).replica := by
  have readable (slot : Nat) : (disk.readable faulty)[slot]?
      = if disk.firstSlot ≤ slot ∧ slot ∉ faulty then disk.accepted[slot]? else none := by
    rw [MemStorage.readable,
      getElem?_filterKeys fun slot => disk.firstSlot ≤ slot && slot ∉ faulty]
    simp only [Bool.and_eq_true, decide_eq_true_eq]
  have damaged (slot : Nat) : (disk.damaged faulty)[slot]?
      = if disk.firstSlot ≤ slot ∧ slot ∈ faulty then (disk.accepted[slot]?).map Prod.fst
        else none := by
    rw [MemStorage.damaged, Std.ExtTreeMap.getElem?_map,
      getElem?_filterKeys fun slot => disk.firstSlot ≤ slot && slot ∈ faulty]
    simp only [Bool.and_eq_true, decide_eq_true_eq]
    split <;> simp
  refine ⟨rfl, rfl, Replica.fromBoot_frame.2.2, Replica.fromBoot_frame.2.1, Replica.refold_base,
    ?_, ?_, ?_⟩
  · intro slot record held
    rw [show (Node.boot config limits disk faulty).acceptor.records[slot]? = _ from readable slot,
      Option.ite_none_right_eq_some] at held
    exact held.2
  · intro slot ballot held
    rw [show (Node.boot config limits disk faulty).acceptor.faulty[slot]? = _ from damaged slot,
      Option.ite_none_right_eq_some, Option.map_eq_some_iff] at held
    obtain ⟨⟨above, rotted⟩, ⟨number, command⟩, present, rfl⟩ := held
    refine ⟨?_, command, present⟩
    rw [show (Node.boot config limits disk faulty).acceptor.records[slot]? = _ from readable slot,
      if_neg fun kept => kept.2 rotted]
  · intro slot record present above
    rw [show (Node.boot config limits disk faulty).acceptor.records[slot]? = _ from readable slot,
      show (Node.boot config limits disk faulty).acceptor.faulty[slot]? = _ from damaged slot]
    by_cases rotted : slot ∈ faulty
    · right
      rw [if_pos ⟨above, rotted⟩, present]
      rfl
    · left
      rw [if_pos ⟨above, rotted⟩, present]

end Mirrors

end Paros
