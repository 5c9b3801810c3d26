import Paros.Protocol.Image
import Paros.Refinement.Phase2
import Paros.Replica.Equivalence
import Paros.Replica.Settled

/-! Compaction never changes a verdict: a node that learned any chosen sequence and dropped any
prefix a compaction lets it drop reboots to the outcomes and the journal it had.
-/

namespace Paros

open OrderedMap

-- A node over one chosen sequence

/-- A node within a call that has learned only the chosen sequence: its image is mirrored, every
learned command is recorded, and every slot below the chosen index is folded.
-/
structure Core.Keeps (mode : WriterMode) (chosen : Nat → Command) (log : List WriteOp)
    (core : Core)
    : Prop where
  mirrors : Mirrors (core.disk log) core.acceptor core.replica
  recorded : ∀ {slot : Nat} {command : Command}, core.replica.chosen[slot]? = some command
    → ∃ ballot, core.acceptor.records[slot]? = some (ballot, command)
  folds : Folds mode chosen core.replica
  folded : core.replica.folded = core.replica.firstUnchosen
  untrimmed : core.replica.truncateDue = false

/-- The same between calls, with no compaction left to make. -/
structure Core.Rests (mode : WriterMode) (chosen : Nat → Command) (log : List WriteOp)
    (core : Core)
    : Prop
    extends core.Keeps mode chosen log where
  noCut : NoCut mode chosen core.replica.floor core.replica.folded

/-- An image whose retained slots below the chosen index hold the chosen sequence, sealed at a
safe floor.
-/
structure MemStorage.Stores (mode : WriterMode) (chosen : Nat → Command) (disk : MemStorage)
    : Prop where
  within : disk.firstSlot ≤ disk.firstUnchosen
  recorded : ∀ {slot}, disk.firstSlot ≤ slot → slot < disk.firstUnchosen
    → ∃ ballot, disk.accepted[slot]? = some (ballot, chosen slot)
  sealedAt : disk.sealedAt = (ledgerAt mode chosen disk.firstSlot).state
  safe : SafeCut mode chosen disk.firstSlot
  noCut : NoCut mode chosen disk.firstSlot disk.firstUnchosen

namespace Core

variable {mode : WriterMode} {chosen : Nat → Command} {log : List WriteOp} {core : Core}

theorem Rests.caughtUp (rests : core.Rests mode chosen log) : CaughtUp mode chosen core.replica :=
  ⟨rests.folds, rests.folded, fun _ => rests.noCut⟩

theorem Rests.stores (rests : core.Rests mode chosen log)
    : (core.disk log).Stores mode chosen := by
  have mirrors := rests.mirrors
  have floor := rests.folds.floor_le
  have noCut := rests.noCut
  rw [rests.folded, mirrors.firstUnchosen, mirrors.floor] at floor noCut
  refine ⟨floor, ?_, ?_, ?_, noCut⟩
  · intro slot above below
    rw [← mirrors.floor] at above
    rw [← mirrors.firstUnchosen, ← rests.folded] at below
    obtain ⟨ballot, held⟩ := rests.recorded (rests.folds.held slot above below)
    exact ⟨ballot, mirrors.records held⟩
  · rw [← mirrors.base, ← mirrors.floor]
    exact rests.folds.base_eq
  · rw [← mirrors.floor]
    exact rests.folds.floor_safe

-- Recording and learning

theorem Rests.promise (rests : core.Rests mode chosen log) (ballot : Ballot)
    : (core.promise ballot).Rests mode chosen log :=
  { rests with
    mirrors := by
      rw [Core.promise, disk_queue]
      exact rests.mirrors.promise ballot }

/-- A record of the chosen command keeps every learned command's record. -/
theorem Rests.record (rests : core.Rests mode chosen log) (slot : Nat) (ballot : Ballot)
    : (core.record slot ballot (chosen slot)).Rests mode chosen log where
  mirrors := by
    rw [Core.record, disk_queue]
    exact rests.mirrors.record slot ballot (chosen slot)
  recorded := by
    intro place command known
    have same := (rests.folds.learned place command known).1
    show ∃ number, (core.acceptor.records.insert slot (ballot, chosen slot))[place]?
      = some (number, command)
    rw [getElem?_insert]
    split_ifs with here
    · exact ⟨ballot, by rw [same, here]⟩
    · exact rests.recorded known
  folds := rests.folds
  folded := rests.folded
  untrimmed := rests.untrimmed
  noCut := rests.noCut

/-- A chosen command learned past the chosen index waits there. -/
theorem Rests.learn (rests : core.Rests mode chosen log) {slot : Nat} {ballot : Ballot}
    (held : core.acceptor.records[slot]? = some (ballot, chosen slot))
    (retained : core.replica.floor ≤ slot)
    : (core.learn slot (chosen slot)).Rests mode chosen log := by
  have waits : core.replica.learn slot (chosen slot)
      = { core.replica with chosen := core.replica.chosen.insert slot (chosen slot) } := by
    refine if_neg fun next => ?_
    rw [← rests.folded] at next
    omega
  have folds : Folds mode chosen (core.replica.learn slot (chosen slot)) :=
    rests.folds.learn retained
  unfold Core.learn
  rw [waits] at folds ⊢
  exact {
    mirrors := rests.mirrors.relearn rfl rfl rfl
    recorded := by
      intro place command known
      simp only [getElem?_insert] at known
      split_ifs at known with same
      · obtain rfl := Option.some.inj known
        exact ⟨ballot, same ▸ held⟩
      · exact rests.recorded known
    folds := folds
    folded := rests.folded
    untrimmed := rests.untrimmed
    noCut := rests.noCut }

-- Compaction

/-- What is dropped of the learned commands is dropped of their records. -/
theorem Keeps.recorded_from (keeps : core.Keeps mode chosen log) {first slot : Nat} {command : Command}
    (known : (startingAt first core.replica.chosen)[slot]? = some command)
    : ∃ ballot, (startingAt first core.acceptor.records)[slot]? = some (ballot, command) := by
  rw [getElem?_startingAt, Option.ite_none_right_eq_some] at known
  obtain ⟨ballot, held⟩ := keeps.recorded known.2
  exact ⟨ballot, by rw [getElem?_startingAt, if_pos known.1, held]⟩

/-- Dropping a prefix at a safe cut. -/
theorem Keeps.truncate (keeps : core.Keeps mode chosen log) {first : Nat}
    (raises : core.acceptor.firstSlot < first) (within : first ≤ core.replica.folded)
    (safe : SafeCut mode chosen first)
    : (core.truncate first).Keeps mode chosen log := by
  have folds : Folds mode chosen (core.replica.truncate first).1 :=
    keeps.folds.truncate (keeps.mirrors.floor_eq ▸ raises.le) within fun _ => safe
  refine ⟨?_, keeps.recorded_from, folds, keeps.folded, keeps.untrimmed⟩
  rw [Core.truncate, disk_queue]
  exact keeps.mirrors.truncate raises

variable (rests : core.Rests mode chosen log)
include rests

/-- Between calls, whatever a compaction drops was empty of records. -/
theorem Rests.compact (upTo : Nat)
    : (core.compact upTo).Rests mode chosen log := by
  rcases core.compact_cases upTo with same | ⟨first, same, raises, atMost⟩
  · rw [same]
    exact rests
  · have above : core.replica.floor < first := rests.mirrors.floor_eq ▸ raises
    have cut := rests.folds.compactionFloor_cut (above.trans_le atMost)
    rw [same]
    exact {
      toKeeps := rests.toKeeps.truncate raises (atMost.trans cut.le_folded)
        (rests.noCut.safe cut above atMost)
      noCut := rests.noCut.raise above.le }

/-- Applying a page and making the compaction it leaves due: nothing is left to cut. -/
theorem Rests.walk : core.walk.Rests mode chosen log := by
  obtain ⟨folds, folded, noCut⟩ := rests.caughtUp.advance core.recordBallot
  have advanced : Replica.Advanced core.recordBallot core.replica
      (core.replica.advance core.recordBallot).1 _ := Replica.advance_advanced
  have applied : core.applyPage.Keeps mode chosen log := {
    mirrors := by
      rw [applyPage, disk_queue]
      exact rests.mirrors.advance core.recordBallot
    recorded := fun known => rests.recorded (advanced.chosen ▸ known)
    folds := folds
    folded := folded
    untrimmed := rfl }
  have settle {next : Core} (keeps : next.Keeps mode chosen log)
      (noCut : NoCut mode chosen next.replica.floor next.replica.folded)
      : ({ next with replica := next.replica.assertCompacted } : Core).Rests mode chosen log := {
    mirrors := keeps.mirrors.relearn rfl rfl rfl
    recorded := keeps.recorded
    folds := keeps.folds.frame _ _ _ _ _
    folded := keeps.folded
    untrimmed := keeps.untrimmed
    noCut := noCut }
  have floor := applied.mirrors.floor_eq
  rcases core.walk_cases with ⟨same, settled⟩ | ⟨same, raises⟩
  · rw [same]
    refine settle applied ?_
    by_cases due : core.applyPage.replica.compactionDue = true
    · exact folds.noCut_of_compacted (floor ▸ settled due)
    · exact noCut (eq_false_of_ne_true due)
  · -- the page folded a truncation: it is compacted to its target at once
    rw [same]
    have cut := folds.compactionFloor_cut (floor ▸ raises)
    exact settle (applied.truncate raises cut.le_folded cut.safe) (folds.noCut_of_compacted le_rfl)

/-- The jump to a peer's trim point, with the journal the chosen sequence has there. -/
theorem Rests.jump {point : Nat}
    (raises : core.acceptor.firstSlot < point) (safe : SafeCut mode chosen point)
    : (core.jump point (ledgerAt mode chosen point).state).Rests mode chosen log := by
  obtain ⟨caughtUp, untrimmed⟩ :=
    rests.caughtUp.trimTo rests.untrimmed (rests.mirrors.floor_eq ▸ raises) safe
  have kept : (core.replica.trimTo point (ledgerAt mode chosen point).state).1.chosen
      = startingAt point core.replica.chosen := Replica.trimTo_frame.1
  refine ⟨⟨?_, fun known => rests.recorded_from (kept ▸ known), caughtUp.folds, caughtUp.folded,
    untrimmed⟩, caughtUp.noCut untrimmed⟩
  rw [Core.jump, disk_queue]
  exact rests.mirrors.trimTo raises

/-- Only the acceptor, the replica and the queued writes matter here. -/
theorem Rests.congr {next : Core}
    (acceptor : next.acceptor = core.acceptor) (replica : next.replica = core.replica)
    (writes : next.writes = core.writes)
    : next.Rests mode chosen log := by
  have disk : next.disk log = core.disk log := by rw [Core.disk, writes, Core.disk]
  refine ⟨⟨?_, ?_, replica ▸ rests.folds, replica ▸ rests.folded, replica ▸ rests.untrimmed⟩,
    replica ▸ rests.noCut⟩
  · rw [disk, acceptor, replica]
    exact rests.mirrors
  · rw [acceptor, replica]
    exact rests.recorded

end Core

-- Booting

section Booting

variable {mode : WriterMode} {chosen : Nat → Command} {log : List WriteOp} {disk : MemStorage}
  {config : Config} {limits : Limits}

theorem MemStorage.new_stores (mode : WriterMode) (chosen : Nat → Command)
    : MemStorage.new.Stores mode chosen where
  within := le_rfl
  recorded _ below := absurd below (Nat.not_lt_zero _)
  sealedAt := rfl
  safe := safeCut_zero mode chosen
  noCut := NoCut.start

/-- A boot from such an image folds everything below the chosen index. -/
theorem MemStorage.Stores.boot (stores : (MemStorage.replay log).Stores mode chosen)
    (sameMode : config.writerMode = mode)
    : ((Node.boot config limits (.replay log) ∅).core .none).Rests mode chosen log := by
  subst sameMode
  let image := MemStorage.replay log
  let node := Node.boot config limits image ∅
  have readable (slot : Nat) : node.acceptor.records[slot]?
      = if image.firstSlot ≤ slot then image.accepted[slot]? else none := by
    show (image.readable ∅)[slot]? = _
    rw [MemStorage.readable,
      getElem?_filterKeys fun slot => image.firstSlot ≤ slot && slot ∉ (∅ : Finset Nat)]
    simp
  have learned (slot : Nat) : node.replica.chosen[slot]?
      = if image.chosenIndex.any (slot ≤ ·) then
          (node.acceptor.records[slot]?).map Prod.snd else none :=
    Replica.fromBoot_frame.1 slot
  have below {slot : Nat} : (image.chosenIndex.any (slot ≤ ·)) = true
      ↔ slot < image.firstUnchosen := by
    unfold MemStorage.firstUnchosen
    cases image.chosenIndex with
    | none => simp
    | some index => simp
  have booted : Folds config.writerMode chosen (.fromBoot config.writerMode image.chosenIndex
      image.firstSlot image.sealedAt (image.readable ∅)) := by
    rw [stores.sealedAt]
    refine Retains.fromBoot (fun _ => stores.safe) stores.within ?_
    intro slot ballot command held
    rw [show (image.readable ∅)[slot]? = _ from readable slot, Option.ite_none_right_eq_some] at held
    refine ⟨held.1, fun chosenBelow => ?_⟩
    obtain ⟨_, recorded⟩ := stores.recorded held.1 (below.mp chosenBelow)
    rw [held.2] at recorded
    cases recorded
    rfl
  have folds : Folds config.writerMode chosen node.replica := booted.frame _ _ _ _ _
  have mirrors : Mirrors image node.acceptor node.replica := Mirrors.boot config limits image ∅
  have folded : node.replica.folded = node.replica.firstUnchosen := by
    refine folds.folded_le.antisymm (not_lt.mp fun short => ?_)
    have missing : node.replica.chosen[node.replica.folded]? = none := Replica.refold_stops short
    have above : image.firstSlot ≤ node.replica.folded := mirrors.floor ▸ folds.floor_le
    have inside : node.replica.folded < image.firstUnchosen := mirrors.firstUnchosen ▸ short
    obtain ⟨ballot, recorded⟩ := stores.recorded above inside
    rw [learned, if_pos (below.mpr inside), readable, if_pos above, recorded] at missing
    cases missing
  refine ⟨⟨?_, ?_, folds, folded, rfl⟩, ?_⟩
  · show Mirrors (MemStorage.replay (log ++ [])) node.acceptor node.replica
    rw [List.append_nil]
    exact mirrors
  · intro slot command known
    have known : node.replica.chosen[slot]? = some command := known
    rw [learned, Option.ite_none_right_eq_some, Option.map_eq_some_iff] at known
    obtain ⟨_, ⟨ballot, _⟩, held, rfl⟩ := known
    exact ⟨ballot, held⟩
  · show NoCut config.writerMode chosen node.replica.floor node.replica.folded
    rw [folded, mirrors.floor, mirrors.firstUnchosen]
    exact stores.noCut

end Booting

-- Histories

/-- A node that learned slots of one chosen sequence, in any order and at any ballots, applied
them, compacted, jumped to trim points of others and rebooted, with the writes persisted so far.
-/
inductive Node.Learns (mode : WriterMode) (chosen : Nat → Command) : List WriteOp → Node → Prop
  | boot {config : Config} (limits : Limits) (same : config.writerMode = mode)
    : Learns mode chosen [] (.boot config limits .new ∅)
  | learn {log node} (history : Learns mode chosen log node) (slot : Nat) (ballot : Ballot)
    : Learns mode chosen log (node.markChosen slot (chosen slot) ballot)
  | advance {log node} (history : Learns mode chosen log node)
    : Learns mode chosen log node.advanceChosenIndex
  | compact {log node} (history : Learns mode chosen log node) (upTo : Nat)
    : Learns mode chosen log (node.compact upTo)
  | trim {log node peerLog peer} (history : Learns mode chosen log node)
    (peerHistory : Learns mode chosen peerLog peer)
    : Learns mode chosen log (node.onTrimmedTo peer.acceptor.firstSlot peer.replica.base)
  | drain {log node} (history : Learns mode chosen log node)
    : Learns mode chosen (log ++ node.pendingWrites) node.clearPending
  | reboot {log node} {config : Config} (history : Learns mode chosen log node) (limits : Limits)
    (same : config.writerMode = mode)
    : Learns mode chosen log (.boot config limits (.replay log) ∅)

namespace Node

variable {mode : WriterMode} {chosen : Nat → Command} {log : List WriteOp} {node : Node}

/-- A node between calls, over one chosen sequence. -/
abbrev Rests (mode : WriterMode) (chosen : Nat → Command) (log : List WriteOp) (node : Node)
    : Prop :=
  (node.core .none).Rests mode chosen log

section

variable (rests : node.Rests mode chosen log)
include rests

theorem Rests.floor_eq
    : node.replica.floor = node.acceptor.firstSlot :=
  rests.mirrors.floor_eq

theorem Rests.firstUnchosen_eq
    : node.replica.firstUnchosen
      = (MemStorage.replay (log ++ node.pendingWrites)).firstUnchosen :=
  rests.mirrors.firstUnchosen

theorem Rests.advance
    : node.advanceChosenIndex.Rests mode chosen log := by
  have walked := Core.Rests.walk rests
  rw [← walk_core] at walked
  exact walked.congr rfl rfl rfl

theorem Rests.raiseTo (ballot : Ballot)
    : (node.raiseTo ballot).Rests mode chosen log := by
  unfold Node.raiseTo
  split
  case isFalse => exact rests
  case isTrue above =>
    have promised : (node.setPromise ballot).Rests mode chosen log := by
      rw [Rests, setPromise_core above.ne]
      exact Core.Rests.promise rests ballot
    dsimp only
    split
    · exact promised.congr rfl rfl rfl
    · exact promised

theorem Rests.recordChosen (slot : Nat) (ballot : Ballot)
    : (node.recordChosen slot (chosen slot) ballot).Rests mode chosen log := by
  unfold Node.recordChosen
  split
  · exact rests
  · exact Core.Rests.record rests slot ballot

theorem Rests.markChosen (slot : Nat) (ballot : Ballot)
    : (node.markChosen slot (chosen slot) ballot).Rests mode chosen log := by
  unfold Node.markChosen
  split
  · exact rests
  case isFalse retained =>
    split
    · exact rests.advance
    · let recorded := (node.raiseTo ballot).recordChosen slot (chosen slot) ballot
      have written : recorded.Rests mode chosen log :=
        (rests.raiseTo ballot).recordChosen slot ballot
      have carried : ∃ held, recorded.acceptor.records[slot]? = some (held, chosen slot)
          ∧ ballot ≤ held := recordChosen_held
      obtain ⟨held, carries, _⟩ := carried
      have least : recorded.replica.floor ≤ slot := by
        rw [written.floor_eq, recordChosen_frame.2, raiseTo_acceptor]
        exact not_lt.mp retained
      have learned : (recorded.learnChosen slot (chosen slot)).Rests mode chosen log :=
        (Core.Rests.learn written carries least).congr rfl rfl rfl
      exact learned.advance

theorem Rests.onTrimmedTo {peerLog : List WriteOp}
    {peer : Node} (peerRests : peer.Rests mode chosen peerLog)
    : (node.onTrimmedTo peer.acceptor.firstSlot peer.replica.base).Rests mode chosen log := by
  have floor : peer.replica.floor = peer.acceptor.firstSlot := peerRests.floor_eq
  have base : peer.replica.base = (ledgerAt mode chosen peer.replica.floor).state :=
    peerRests.folds.base_eq
  have safe : SafeCut mode chosen peer.replica.floor := peerRests.folds.floor_safe
  rw [base, ← floor]
  unfold Node.onTrimmedTo
  split
  · exact rests
  case isFalse raises =>
    have jumped : (node.jumpTo peer.replica.floor
        (ledgerAt mode chosen peer.replica.floor).state).Rests mode chosen log :=
      Core.Rests.jump rests (not_le.mp raises) safe
    exact jumped.advance

theorem Rests.drain
    : node.clearPending.Rests mode chosen (log ++ node.pendingWrites) := by
  have disk : (node.clearPending.core .none).disk (log ++ node.pendingWrites)
      = (node.core .none).disk log := by
    show MemStorage.replay (log ++ node.pendingWrites ++ []) = _
    rw [List.append_nil]
    rfl
  refine ⟨⟨?_, rests.recorded, rests.folds.frame _ _ _ _ _, rests.folded, rests.untrimmed⟩,
    rests.noCut⟩
  rw [disk]
  exact rests.mirrors.relearn rfl rfl rfl

end

/-- Every history leaves a node at rest over an image that stores the chosen sequence.
Witness: induction over the history, one step lemma per operation.
-/
theorem Learns.rests (history : Learns mode chosen log node)
    : (MemStorage.replay log).Stores mode chosen ∧ node.Rests mode chosen log := by
  induction history with
  | boot limits same =>
    have stores : (MemStorage.replay []).Stores mode chosen := MemStorage.new_stores mode chosen
    exact ⟨stores, stores.boot same⟩
  | learn _ slot ballot ih => exact ⟨ih.1, ih.2.markChosen slot ballot⟩
  | advance _ ih => exact ⟨ih.1, ih.2.advance⟩
  | compact _ upTo ih =>
    refine ⟨ih.1, ?_⟩
    rw [Rests, compact_core]
    exact Core.Rests.compact ih.2 upTo
  | trim _ _ ih peerIh => exact ⟨ih.1, ih.2.onTrimmedTo peerIh.2⟩
  | drain _ ih => exact ⟨Core.Rests.stores ih.2, ih.2.drain⟩
  | reboot _ limits same ih => exact ⟨ih.1, ih.1.boot same⟩

/-- A compaction moves the floor up and nothing else that the fold reads. -/
theorem compact_frame (upTo : Nat)
    : (node.compact upTo).replica.chosenIndex = node.replica.chosenIndex
      ∧ node.acceptor.firstSlot ≤ (node.compact upTo).acceptor.firstSlot := by
  unfold Node.compact
  split
  · exact ⟨rfl, le_rfl⟩
  · dsimp only
    split
    · exact ⟨rfl, le_rfl⟩
    case isFalse raises => exact ⟨rfl, (not_le.mp raises).le⟩

/-- Compaction never changes a verdict: rebooted from what a compaction leaves on disk, a node
folds as far as it had, to the journal it had, and gives every slot it retained the outcome that
slot had before the compaction.
-/
theorem compact_reboots_unchanged (history : node.Learns mode chosen log) (upTo : Nat)
    {config : Config} (limits : Limits) (same : config.writerMode = mode)
    : let compacted := node.compact upTo
      let rebooted := Node.boot config limits (.replay (log ++ compacted.pendingWrites)) ∅
      rebooted.acceptor.firstSlot = compacted.acceptor.firstSlot
        ∧ rebooted.replica.folded = node.replica.folded
        ∧ rebooted.replica.state = node.replica.state
        ∧ ∀ slot, compacted.acceptor.firstSlot ≤ slot
          → rebooted.replica.outcomes[slot]? = node.replica.outcomes[slot]? := by
  intro compacted rebooted
  have rests : node.Rests mode chosen log := history.rests.2
  have cut : compacted.Rests mode chosen log := (history.compact upTo).rests.2
  have again : rebooted.Rests mode chosen (log ++ compacted.pendingWrites) :=
    (Core.Rests.stores cut).boot same
  have folds : Folds mode chosen node.replica := rests.folds
  have refolds : Folds mode chosen rebooted.replica := again.folds
  have index : compacted.replica.chosenIndex = node.replica.chosenIndex := (compact_frame upTo).1
  have floor : rebooted.acceptor.firstSlot = compacted.acceptor.firstSlot :=
    cut.mirrors.firstSlot.symm
  have folded : rebooted.replica.folded = node.replica.folded := calc
    rebooted.replica.folded = rebooted.replica.firstUnchosen := again.folded
    _ = compacted.replica.firstUnchosen := by
        rw [again.firstUnchosen_eq, cut.firstUnchosen_eq]
        show (MemStorage.replay (log ++ compacted.pendingWrites ++ [])).firstUnchosen = _
        rw [List.append_nil]
    _ = node.replica.firstUnchosen := by rw [Replica.firstUnchosen, index, Replica.firstUnchosen]
    _ = node.replica.folded := rests.folded.symm
  refine ⟨floor, folded, ?_, fun slot retained => ?_⟩
  · rw [refolds.state_eq, folds.state_eq, folded]
  · have bound : rebooted.replica.floor ≤ slot := by
      rw [again.floor_eq, floor]
      exact retained
    have oldBound : node.replica.floor ≤ slot := by
      rw [rests.floor_eq]
      exact (compact_frame upTo).2.trans retained
    exact refolds.outcomes_eq folds folded bound oldBound

/-- A single node that learned the first slots of `retriedSequence`. -/
def learnFirst : Nat → Node
  | 0 => .boot .lone .few .new ∅
  | slot + 1 => (learnFirst slot).markChosen slot (retriedSequence slot) ⟨1, 0⟩

theorem learnFirst_learns : ∀ count, (learnFirst count).Learns .single retriedSequence []
  | 0 => .boot .few rfl
  | slot + 1 => (learnFirst_learns slot).learn slot ⟨1, 0⟩

/-- A compaction over three writes that keeps the first one, since the retry in slot 3 reads it. -/
theorem compact_reboots_unchanged_retried
    : let compacted := (learnFirst 5).compact 4
      let rebooted := Node.boot .lone .few (.replay ([] ++ compacted.pendingWrites)) ∅
      (learnFirst 5).acceptor.firstSlot = 0 ∧ rebooted.acceptor.firstSlot = 1
        ∧ rebooted.replica.folded = 5 ∧ rebooted.replica.state = (learnFirst 5).replica.state
        ∧ rebooted.replica.outcomes[3]?.isSome := by
  intro compacted rebooted
  obtain ⟨floor, folded, state, outcomes⟩ :=
    compact_reboots_unchanged (learnFirst_learns 5) 4 .few
      (show Config.lone.writerMode = .single from rfl)
  have cut : compacted.acceptor.firstSlot = 1 := by decide +kernel
  refine ⟨by decide +kernel, floor.trans cut, folded.trans (by decide +kernel), state, ?_⟩
  rw [outcomes 3 (cut ▸ by decide)]
  decide +kernel

end Node

end Paros
