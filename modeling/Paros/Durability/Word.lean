import Paros.Durability.Reports
import Paros.Durability.Votes

/-! A node's word over its whole life. No call and no crash takes back what a node has flushed, and
what its messages say of its storage lies between what it had flushed before them and what their
own batch writes.
-/

namespace Paros

open Node (Input)

-- Images that only grow

namespace MemStorage

variable {disk middle later : MemStorage}

/-- Nothing an image stands for is taken back in a later one. -/
structure Extends (disk later : MemStorage) : Prop where
  promised : disk.promised ≤ later.promised
  firstSlot : disk.firstSlot ≤ later.firstSlot
  firstUnchosen : disk.firstUnchosen ≤ later.firstUnchosen
  vouches : ∀ {slot}, disk.Vouches slot → later.Vouches slot

theorem Extends.refl (disk : MemStorage) : disk.Extends disk := ⟨le_rfl, le_rfl, le_rfl, id⟩

theorem Extends.trans (first : disk.Extends middle) (second : middle.Extends later)
    : disk.Extends later where
  promised := first.promised.trans second.promised
  firstSlot := first.firstSlot.trans second.firstSlot
  firstUnchosen := first.firstUnchosen.trans second.firstUnchosen
  vouches held := second.vouches (first.vouches held)

/-- A write can only take back a promise or a chosen index. -/
theorem Extends.applyOne (op : WriteOp) (promised : disk.promised ≤ (disk.applyOne op).promised)
    (unchosen : disk.firstUnchosen ≤ (disk.applyOne op).firstUnchosen)
    : disk.Extends (disk.applyOne op) :=
  ⟨promised, firstSlot_applyOne disk op, unchosen, fun held => held.applyOne op⟩

/-- A jump to a trim point leaves the chosen index where it is, or takes it up to the point. -/
theorem Extends.trimmedTo (disk : MemStorage) (point : Nat) (state : JournalState)
    : disk.Extends (disk.applyOne (.trimmedTo point state)) := by
  refine .applyOne _ le_rfl ?_
  simp only [MemStorage.firstUnchosen, MemStorage.applyOne, raiseFloor]
  cases disk.chosenIndex with
  | none => exact Nat.zero_le _
  | some chosen => grind

/-- What a message says of its sender's storage lies between two images: a Promise or a vote between
their promises, a trim point between their floors, a read watermark between what they vouch for.
-/
def Backs (flushed disk : MemStorage) : Message → Prop
  | .promise _ ballot _ _ _ _ => flushed.promised ≤ ballot ∧ ballot ≤ disk.promised
  | .accepted _ ballot slot =>
    flushed.promised ≤ ballot ∧ ballot ≤ disk.promised ∧ disk.Vouches slot
  | .heartbeatAck _ ballot chosen =>
    flushed.promised ≤ ballot ∧ chosen.elim 0 (· + 1) ≤ disk.firstUnchosen
  | .trimmedTo _ point _ => flushed.firstSlot ≤ point ∧ point ≤ disk.firstSlot
  | .preReadAck _ _ watermark _ =>
    ∀ slot, (flushed.Vouches slot → some slot ≤ watermark)
      ∧ (some slot ≤ watermark → disk.Vouches slot)
  | _ => True

/-- A message stays backed by an earlier image and a later one. -/
theorem Backs.extend {earlier flushed : MemStorage} {message : Message}
    (backs : flushed.Backs disk message) (before : earlier.Extends flushed)
    (after : disk.Extends later)
    : earlier.Backs later message := by
  cases message with
  | promise => exact ⟨before.promised.trans backs.1, backs.2.trans after.promised⟩
  | accepted =>
    exact ⟨before.promised.trans backs.1, backs.2.1.trans after.promised, after.vouches backs.2.2⟩
  | heartbeatAck => exact ⟨before.promised.trans backs.1, backs.2.trans after.firstUnchosen⟩
  | trimmedTo => exact ⟨before.firstSlot.trans backs.1, backs.2.trans after.firstSlot⟩
  | preReadAck =>
    intro slot
    exact ⟨fun held => (backs slot).1 (before.vouches held),
      fun covered => after.vouches ((backs slot).2 covered)⟩
  | _ => trivial

end MemStorage

-- What the acts write and say

namespace Core

variable {input : Input} {core next : Core} {log : List WriteOp}

theorem extends_truncate (first : Nat)
    : (core.disk log).Extends ((core.truncate first).disk log) := by
  rw [truncate, disk_queue]
  exact .applyOne (.truncate first _) le_rfl le_rfl

theorem extends_compact (upTo : Nat)
    : (core.disk log).Extends ((core.compact upTo).disk log) := by
  rcases core.compact_cases upTo with same | ⟨first, same, _⟩ <;> rw [same]
  · exact .refl _
  · exact extends_truncate first

section

variable (mirrored : core.Mirrored log)
include mirrored

theorem Mirrored.extends_walk : (core.disk log).Extends (core.walk.disk log) := by
  have applied : (core.disk log).Extends (core.applyPage.disk log) := by
    have unchosen := mirrored.firstUnchosen
    have advanced := (Mirrors.advance mirrored core.recordBallot).firstUnchosen
    have grows : core.replica.firstUnchosen
        ≤ (core.replica.advance core.recordBallot).1.firstUnchosen :=
      Replica.advance_advanced.grows
    rw [applyPage, disk_queue]
    rw [unchosen, advanced] at grows
    rw [MemStorage.foldl_setChosenIndex] at grows ⊢
    exact ⟨le_rfl, le_rfl, grows, id⟩
  rcases core.walk_cases with ⟨same, _⟩ | ⟨same, _⟩ <;> rw [same]
  · exact applied
  · exact applied.trans (extends_truncate _)

/-- Each way an act may touch storage takes nothing back. -/
theorem Mirrored.extends_write (writes : Writes input core next)
    : (core.disk log).Extends (next.disk log) := by
  cases writes with
  | still => exact .refl _
  | promise raises =>
    rw [Core.promise, disk_queue]
    exact .applyOne (.acceptor (.setPromise _)) (mirrored.promised ▸ raises.le) le_rfl
  | record =>
    rw [Core.record, disk_queue]
    exact .applyOne (.acceptor (.appendAccepted _ _ _)) le_rfl le_rfl
  | rewrite =>
    rw [disk_queue]
    exact .applyOne (.acceptor (.appendAccepted _ _ _)) le_rfl le_rfl
  | @learn slot ballot command held retained unknown =>
    have learned : (core.learn slot command).Mirrored log :=
      Mirrors.relearn mirrored Replica.learn_frame.2.1 Replica.learn_frame.2.2 Replica.learn_base
    exact learned.extends_walk
  | walk => exact mirrored.extends_walk
  | compact asked => exact extends_compact _
  | @trim sender point state told raises =>
    have jumped : (core.jump point state).Mirrored log := by
      rw [Mirrored, Core.jump, disk_queue]
      exact Mirrors.trimTo mirrored raises
    have extended : (core.disk log).Extends ((core.jump point state).disk log) := by
      rw [Core.jump, disk_queue]
      exact .trimmedTo _ _ _
    exact extended.trans jumped.extends_walk

theorem Mirrored.extends_act (act : Act input core next)
    : (core.disk log).Extends (next.disk log) := by
  obtain ⟨stored, writes, same⟩ := act.writes
  have disk : next.disk log = stored.disk log := by rw [Core.disk, same.writes, Core.disk]
  rw [disk]
  exact mirrored.extends_write writes

end

/-- What a node says: the messages it has queued, and the votes it may yet report. -/
def said (core : Core) : Set Message :=
  { message | (∃ audience, (audience, message) ∈ core.messages)
    ∨ ∃ vote ∈ core.notes.votes, message = .accepted core.me vote.2 vote.1 }

theorem said_say {audience : Audience} {message : Message}
    : (core.say audience message).said ⊆ insert message core.said := by
  rintro other (⟨_, queued⟩ | noted)
  · rcases List.mem_append.mp queued with earlier | last
    · exact Or.inr (Or.inl ⟨_, earlier⟩)
    · exact Or.inl (Prod.ext_iff.mp (List.mem_singleton.mp last)).2
  · exact Or.inr (Or.inr noted)

theorem said_walk : core.walk.said = core.said := by
  rcases core.walk_cases with ⟨same, _⟩ | ⟨same, _⟩ <;> (rw [same]; rfl)

theorem said_compact (upTo : Nat) : (core.compact upTo).said = core.said := by
  rcases core.compact_cases upTo with same | ⟨first, same, _⟩
  · rw [same]
  · rw [same]
    rfl

/-- The node keeps its word: its image takes back nothing of what it had flushed, and the two back
all it says.
-/
structure Faithful (log : List WriteOp) (core : Core) : Prop where
  mirrored : core.Mirrored log
  grown : (MemStorage.replay log).Extends (core.disk log)
  backs : ∀ message ∈ core.said, (MemStorage.replay log).Backs (core.disk log) message

namespace Faithful

variable (faithful : core.Faithful log)
include faithful

/-- What a node may say is backed. -/
theorem speaks {audience : Audience} {message : Message}
    (speaks : core.Speaks input audience message)
    : (MemStorage.replay log).Backs (core.disk log) message := by
  have promised := faithful.mirrored.promised
  have grown := faithful.grown
  cases speaks with
  | promise limit asked same heeded retained followed =>
    rw [← same, promised]
    exact ⟨grown.promised, le_rfl⟩
  | accepted voted => exact faithful.backs _ (Or.inr ⟨_, voted, rfl⟩)
  | heartbeatAck above =>
    refine ⟨grown.promised.trans (promised ▸ above), ?_⟩
    split
    · rw [faithful.mirrored.chosenIndex]
      exact le_rfl
    · exact Nat.zero_le _
  | trimmedTo =>
    rw [faithful.mirrored.firstSlot]
    exact ⟨grown.firstSlot, le_rfl⟩
  | preReadAck asked heard =>
    intro slot
    rw [Mirrors.voteWatermark_iff faithful.mirrored]
    exact ⟨grown.vouches, id⟩
  | _ => trivial

/-- An act keeps the word, by what each kind of act says. -/
theorem act (act : Act input core next) : next.Faithful log := by
  have extended := faithful.mirrored.extends_act act
  have adds {message : Message} (within : next.said ⊆ insert message core.said)
      (backs : (MemStorage.replay log).Backs (core.disk log) message) : next.Faithful log := by
    refine ⟨faithful.mirrored.acts (.single act), faithful.grown.trans extended, ?_⟩
    intro other told
    refine MemStorage.Backs.extend ?_ (.refl _) extended
    rcases within told with rfl | earlier
    · exact backs
    · exact faithful.backs other earlier
  have silent (same : next.said ⊆ core.said) : next.Faithful log :=
    adds (same.trans (Set.subset_insert (Message.nack 0 .zero 0) _)) trivial
  cases act with
  | @noteVote slot ballot command held promised =>
    have within : (core.note (core.notes.vote slot core.acceptor.promised)).said
        ⊆ insert (.accepted core.me core.acceptor.promised slot) core.said := by
      rintro message (queued | ⟨vote, rfl | earlier, rfl⟩)
      · exact Or.inr (Or.inl queued)
      · exact Or.inl rfl
      · exact Or.inr (Or.inr ⟨vote, earlier, rfl⟩)
    refine adds within ?_
    rw [faithful.mirrored.promised]
    exact ⟨faithful.grown.promised, le_rfl,
      Or.inr ⟨slot, _, faithful.mirrored.records held, le_rfl⟩⟩
  | learn | walk | trim => exact silent said_walk.le
  | compact asked => exact silent (said_compact _).le
  | win | install =>
    apply silent
    dsimp only
    split <;> exact subset_rfl
  | propose audience voted entitled votes own skips => cases voted <;> exact adds said_say trivial
  | relinquish => exact adds said_say trivial
  | say speaks => exact adds said_say (faithful.speaks speaks)
  | forget => exact silent fun _ told => told.imp_right fun ⟨_, noted, _⟩ => noted.elim
  | _ => exact silent subset_rfl

theorem acts (acts : Acts input core next) : next.Faithful log := by
  induction acts with
  | refl => exact faithful
  | tail _ act ih => exact ih.act act

end Faithful

end Core

-- Over a run

namespace Host

variable {config : Config} {limits : Limits} {host later : Host}

theorem Sound.faithful (sound : host.Sound) (flushed : host.node.pendingWrites = [])
    (silent : host.node.pendingMessages = [])
    : (host.node.core .none).Faithful host.log where
  mirrored := sound.mirrored
  grown := by
    rw [Core.disk, show (host.node.core .none).writes = [] from flushed, List.append_nil]
    exact .refl _
  backs := by
    rintro message (⟨audience, queued⟩ | ⟨vote, noted, _⟩)
    · rw [show (host.node.core .none).messages = [] from silent] at queued
      cases queued
    · exact noted.elim

/-- A node keeps its word at every moment, by induction on the run. -/
theorem Run.faithful (run : (start config limits).Run host)
    : host.Sound ∧ (host.node.core .none).Faithful host.log := by
  have booted : (start config limits).Sound := boot_sound config limits [] ∅
  induction run with
  | refl => exact ⟨booted, booted.faithful rfl rfl⟩
  | tail _ step ih =>
    have sound := ih.1.step step
    refine ⟨sound, ?_⟩
    cases step with
    | call input =>
      obtain ⟨noted, acts⟩ : Node.Plays input _ _ := Node.handle_plays ih.1.deployed
      exact ih.2.acts (acts.tail .forget)
    | flush | reboot => exact sound.faithful rfl rfl

/-- A single acceptor that has flushed a vote, and is then asked for a promise. -/
def asked : Host := ⟨votedOnce.node.handle (.deliver (.prepare 0 ⟨2, 0⟩ 0 none)), votedOnce.log⟩

/-- Every call on a node, at any moment of its life, is a sequence of protocol acts. -/
theorem calls_are_acts (run : (start config limits).Run host) (input : Input)
    : ∃ noted, Core.Acts input (host.node.core .none) ((host.node.handle input).core noted) :=
  Node.handle_plays run.faithful.1.deployed

theorem calls_are_acts_ticked
    : ∃ noted, Core.Acts .tick (votedOnce.node.core .none) (votedOnce.node.tick.core noted) :=
  calls_are_acts votedOnce_run .tick

end Host

end Paros
