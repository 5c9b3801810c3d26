import Paros.Decree.Model
import Paros.Proposer.Facts

/-! Decrees and their acceptors over a network that loses, repeats and reorders: what an acceptor
stands for with its state and with its durable image.
-/

namespace Paros

variable {V : Type}

-- The system

/-- What a decree reported to its caller for a delivered answer. -/
inductive DecreeReport (V : Type) where
  | promise (ballot : Ballot) (node : NodeId) (vote : Option (Ballot × V))
      (outcome : DecreePromise V)
  | accept (ballot : Ballot) (node : NodeId) (outcome : AcceptFold V)
  deriving DecidableEq

/-- The acceptors, the decree of each ballot, every message sent so far, and what the decrees
reported. A sent message may be delivered at any time, any number of times, or never.
-/
structure DecreeWorld (V : Type) where
  voters : NodeId → DecreeVoter V
  decrees : Ballot → Option (Decree V)
  sent : List (DecreeMessage V)
  reports : List (DecreeReport V)

namespace DecreeWorld

def initial : DecreeWorld V := ⟨fun _ => .fresh, fun _ => none, [], []⟩

def setVoter (world : DecreeWorld V) (node : NodeId) (voter : DecreeVoter V) : DecreeWorld V :=
  { world with voters := Function.update world.voters node voter }

def propose (world : DecreeWorld V) (acceptors : AcceptorConfig) (ballot : Ballot) (proposal : V)
    : DecreeWorld V :=
  { world with
    decrees := Function.update world.decrees ballot (some (.new ballot acceptors proposal))
    sent := world.sent ++ [.prepare ballot] }

/-- Release an acceptor's replies once its writes are durable. -/
def persist (world : DecreeWorld V) (node : NodeId) : DecreeWorld V :=
  { world.setVoter node (world.voters node).persist with
    sent := world.sent ++ (world.voters node).replies }

/-- Deliver a promise; a quorum sends the value it selects. -/
def deliverPromise (world : DecreeWorld V) (decree : Decree V) (ballot : Ballot) (node : NodeId)
    (vote : Option (Ballot × V))
    : DecreeWorld V :=
  let (next, outcome) := decree.onPromise node vote
  { world with
    decrees := Function.update world.decrees ballot (some next)
    sent :=
      match outcome with
      | .quorum value => world.sent ++ [.accept ballot value]
      | _ => world.sent
    reports := world.reports ++ [.promise ballot node vote outcome] }

def deliverAccepted (world : DecreeWorld V) (decree : Decree V) (ballot : Ballot) (node : NodeId)
    : DecreeWorld V :=
  let (next, outcome) := decree.onAccepted node
  { world with
    decrees := Function.update world.decrees ballot (some next)
    reports := world.reports ++ [.accept ballot node outcome] }

def deliverNack (world : DecreeWorld V) (decree : Decree V) (ballot promised : Ballot)
    : DecreeWorld V :=
  { world with decrees := Function.update world.decrees ballot (some (decree.onNack promised)) }

/-- The runs of decrees at distinct ballots over one acceptor configuration. -/
inductive Reached (acceptors : AcceptorConfig) : DecreeWorld V → Prop
  | start : Reached acceptors initial
  | propose {world} (run : Reached acceptors world) {ballot : Ballot} (proposal : V)
    (distinct : world.decrees ballot = none)
    : Reached acceptors (world.propose acceptors ballot proposal)
  | prepare {world} (run : Reached acceptors world) (node : NodeId) {ballot : Ballot}
    (delivered : .prepare ballot ∈ world.sent)
    : Reached acceptors (world.setVoter node ((world.voters node).onPrepare node ballot))
  | accept {world} (run : Reached acceptors world) (node : NodeId) {ballot : Ballot} {value : V}
    (delivered : .accept ballot value ∈ world.sent)
    : Reached acceptors (world.setVoter node ((world.voters node).onAccept node ballot value))
  | persist {world} (run : Reached acceptors world) (node : NodeId)
    : Reached acceptors (world.persist node)
  | restart {world} (run : Reached acceptors world) (node : NodeId)
    : Reached acceptors (world.setVoter node (world.voters node).restart)
  | promise {world} (run : Reached acceptors world) {ballot : Ballot} {node : NodeId}
    {vote : Option (Ballot × V)} {decree : Decree V}
    (delivered : .promise node ballot vote ∈ world.sent)
    (held : world.decrees ballot = some decree)
    : Reached acceptors (world.deliverPromise decree ballot node vote)
  | accepted {world} (run : Reached acceptors world) {ballot : Ballot} {node : NodeId}
    {decree : Decree V} (delivered : .accepted node ballot ∈ world.sent)
    (held : world.decrees ballot = some decree)
    : Reached acceptors (world.deliverAccepted decree ballot node)
  | nack {world} (run : Reached acceptors world) {ballot promised : Ballot} {node : NodeId}
    {decree : Decree V} (delivered : .nack node ballot promised ∈ world.sent)
    (held : world.decrees ballot = some decree)
    : Reached acceptors (world.deliverNack decree ballot promised)

end DecreeWorld

-- What an acceptor stands for

/-- An acceptor's state backs the answers given in a node's name: each vote lies at or below the
record held, each promise at or below the promise held, and a promise reports a vote at least as
high as every one given below its ballot. What is recorded or reported was proposed.
-/
structure Backs (proposed : Ballot → V → Prop) (node : NodeId) (acceptor : Acceptor V)
    (answers : List (DecreeMessage V))
    : Prop where
  floor : acceptor.firstSlot = decreeSlot
  record_le : ∀ {ballot value}, acceptor.records[decreeSlot]? = some (ballot, value)
    → ballot ≤ acceptor.promised
  recorded : ∀ {ballot value}, acceptor.records[decreeSlot]? = some (ballot, value)
    → proposed ballot value
  voted : ∀ {ballot}, .accepted node ballot ∈ answers → ∃ value, proposed ballot value
  vote_le : ∀ {ballot}, .accepted node ballot ∈ answers
    → ∃ held value, acceptor.records[decreeSlot]? = some (held, value) ∧ ballot ≤ held
  promise_le : ∀ {ballot vote}, .promise node ballot vote ∈ answers → ballot ≤ acceptor.promised
  reported : ∀ {ballot held value}, .promise node ballot (some (held, value)) ∈ answers
    → proposed held value
  covers : ∀ {ballot vote lower}, .promise node ballot vote ∈ answers
    → .accepted node lower ∈ answers → lower < ballot
    → ∃ held value, vote = some (held, value) ∧ lower ≤ held

namespace Backs

variable {proposed later : Ballot → V → Prop} {node : NodeId} {acceptor : Acceptor V}
  {answers more : List (DecreeMessage V)}

theorem fresh : Backs proposed node (⟨.zero, ∅, ∅, decreeSlot⟩ : Acceptor V) [] := by
  constructor <;> simp

variable (backs : Backs proposed node acceptor answers)
include backs

/-- Fewer of the node's answers, and more proposals, are backed all the same. -/
theorem mono (grows : ∀ {ballot value}, proposed ballot value → later ballot value)
    (votes : ∀ {ballot}, .accepted node ballot ∈ more → .accepted node ballot ∈ answers)
    (promises : ∀ {ballot vote}, .promise node ballot vote ∈ more
      → .promise node ballot vote ∈ answers)
    : Backs later node acceptor more where
  floor := backs.floor
  record_le := backs.record_le
  recorded held := grows (backs.recorded held)
  voted given := (backs.voted (votes given)).imp fun _ => grows
  vote_le given := backs.vote_le (votes given)
  promise_le given := backs.promise_le (promises given)
  reported given := grows (backs.reported (promises given))
  covers promise vote less := backs.covers (promises promise) (votes vote) less

/-- An answer that is neither a promise nor a vote needs no backing. -/
theorem nack (ballot promised : Ballot)
    : Backs proposed node acceptor (answers ++ [.nack node ballot promised]) :=
  backs.mono id (by simp) (by simp)

/-- Raising the promise and giving one that reports the record held. -/
theorem promise {ballot : Ballot} (atLeast : acceptor.promised ≤ ballot)
    : Backs proposed node { acceptor with promised := ballot }
      (answers ++ [.promise node ballot acceptor.records[decreeSlot]?]) where
  floor := backs.floor
  record_le held := (backs.record_le held).trans atLeast
  recorded := backs.recorded
  voted given := backs.voted (by simpa using given)
  vote_le given := backs.vote_le (by simpa using given)
  promise_le given := by
    simp only [List.mem_append, List.mem_singleton, DecreeMessage.promise.injEq] at given
    rcases given with earlier | ⟨_, rfl, _⟩
    · exact (backs.promise_le earlier).trans atLeast
    · exact le_rfl
  reported given := by
    simp only [List.mem_append, List.mem_singleton, DecreeMessage.promise.injEq] at given
    rcases given with earlier | ⟨_, _, held⟩
    · exact backs.reported earlier
    · exact backs.recorded held.symm
  covers given vote less := by
    simp only [List.mem_append, List.mem_singleton, DecreeMessage.promise.injEq, reduceCtorEq,
      or_false] at given vote
    rcases given with earlier | ⟨_, rfl, rfl⟩
    · exact backs.covers earlier vote less
    · exact backs.vote_le vote

/-- Voting at or above the promise for a proposed value. -/
theorem vote {ballot : Ballot} {value : V}
    (atLeast : acceptor.promised ≤ ballot) (isProposed : proposed ballot value)
    : Backs proposed node
      { acceptor with
        promised := ballot
        faulty := acceptor.faulty.erase decreeSlot
        records := acceptor.records.insert decreeSlot (ballot, value) }
      (answers ++ [.accepted node ballot]) where
  floor := backs.floor
  record_le held := by
    simp only [OrderedMap.getElem?_insert, if_pos, Option.some.injEq, Prod.mk.injEq] at held
    exact held.1.ge
  recorded held := by
    simp only [OrderedMap.getElem?_insert, if_pos, Option.some.injEq, Prod.mk.injEq] at held
    obtain ⟨rfl, rfl⟩ := held
    exact isProposed
  voted given := by
    simp only [List.mem_append, List.mem_singleton, DecreeMessage.accepted.injEq] at given
    rcases given with earlier | ⟨_, rfl⟩
    · exact backs.voted earlier
    · exact ⟨value, isProposed⟩
  vote_le given := by
    refine ⟨ballot, value, by simp, ?_⟩
    simp only [List.mem_append, List.mem_singleton, DecreeMessage.accepted.injEq] at given
    rcases given with earlier | ⟨_, rfl⟩
    · obtain ⟨held, _, recorded, atMost⟩ := backs.vote_le earlier
      exact (atMost.trans (backs.record_le recorded)).trans atLeast
    · exact le_rfl
  promise_le given := (backs.promise_le (by simpa using given)).trans atLeast
  reported given := backs.reported (by simpa using given)
  covers given vote less := by
    simp only [List.mem_append, List.mem_singleton, DecreeMessage.accepted.injEq, reduceCtorEq,
      or_false] at given vote
    rcases vote with earlier | ⟨_, rfl⟩
    · exact backs.covers given earlier less
    · exact absurd ((backs.promise_le given).trans atLeast) (not_le.mpr less)

end Backs

-- Persisting before replying

/-- A value is proposed at a ballot once an accept of it was sent. -/
def ProposedBy (sent : List (DecreeMessage V)) (ballot : Ballot) (value : V) : Prop :=
  .accept ballot value ∈ sent

/-- An answer given in a node's name. -/
def DecreeMessage.answers (node : NodeId) : DecreeMessage V → Prop
  | .promise author _ _ => author = node
  | .accepted author _ => author = node
  | .nack author _ _ => author = node
  | _ => False

/-- An acceptor that persists before it replies: its image backs what was sent, its state what
was sent and what waits, and the writes lead from the one to the other.
-/
structure VoterKept (sent : List (DecreeMessage V)) (node : NodeId) (voter : DecreeVoter V) : Prop
    where
  replay : voter.writes.foldl AcceptorWrite.store voter.image = voter.acceptor
  backs : Backs (ProposedBy sent) node voter.acceptor (sent ++ voter.replies)
  image : Backs (ProposedBy sent) node voter.image sent
  promised_le : voter.image.promised ≤ voter.acceptor.promised
  waiting : ∀ {ballot}, .accepted node ballot ∈ voter.replies → voter.image.promised ≤ ballot
  own : ∀ message ∈ voter.replies, message.answers node

namespace VoterKept

variable {sent more : List (DecreeMessage V)} {node : NodeId} {voter : DecreeVoter V}

theorem fresh : VoterKept [] node (.fresh : DecreeVoter V) where
  replay := rfl
  backs := .fresh
  image := .fresh
  promised_le := le_rfl
  waiting := by simp [DecreeVoter.fresh]
  own := by simp [DecreeVoter.fresh]

variable (kept : VoterKept sent node voter)
include kept

/-- Messages that answer nothing in the node's name leave its acceptor as it is. -/
theorem others (grows : ∀ message ∈ sent, message ∈ more)
    (foreign : ∀ message ∈ more, message.answers node → message ∈ sent)
    : VoterKept more node voter := by
  refine { kept with
    backs := kept.backs.mono (grows _) (fun {ballot} given => ?_) fun {ballot vote} given => ?_
    image := kept.image.mono (grows _) (fun {ballot} given => foreign _ given rfl)
      fun {ballot vote} given => foreign _ given rfl }
  all_goals
    rw [List.mem_append] at given ⊢
    exact given.imp_left fun new => foreign _ new rfl

/-- One more reply and the writes it waits for. -/
theorem reply {acceptor : Acceptor V} {writes : List (AcceptorWrite V)} {answer : DecreeMessage V}
    (stored : writes.foldl AcceptorWrite.store voter.acceptor = acceptor)
    (backs : Backs (ProposedBy sent) node acceptor (sent ++ voter.replies ++ [answer]))
    (raises : voter.acceptor.promised ≤ acceptor.promised)
    (above : ∀ {ballot}, answer = .accepted node ballot → voter.image.promised ≤ ballot)
    (own : answer.answers node)
    : VoterKept sent node { voter with
        acceptor := acceptor
        writes := voter.writes ++ writes
        replies := voter.replies ++ [answer] } where
  replay := by rw [List.foldl_append, kept.replay, stored]
  backs := by rwa [← List.append_assoc]
  image := kept.image
  promised_le := kept.promised_le.trans raises
  waiting {ballot} given := by
    rw [List.mem_append, List.mem_singleton] at given
    rcases given with earlier | new
    · exact kept.waiting earlier
    · exact above new.symm
  own message given := by
    rw [List.mem_append, List.mem_singleton] at given
    rcases given with earlier | rfl
    · exact kept.own message earlier
    · exact own

theorem prepare (ballot : Ballot)
    : VoterKept sent node (voter.onPrepare node ballot) := by
  have inside : ¬ decreeSlot < voter.acceptor.firstSlot := kept.backs.floor.le.not_gt
  unfold DecreeVoter.onPrepare Acceptor.prepare
  rw [if_neg inside]
  rcases lt_trichotomy ballot voter.acceptor.promised with low | same | high
  · rw [if_pos low]
    exact kept.reply rfl (kept.backs.nack ballot voter.acceptor.promised) le_rfl
      (fun same => by cases same) rfl
  · subst same
    rw [if_neg (lt_irrefl _), if_neg (lt_irrefl _)]
    exact kept.reply rfl (kept.backs.promise le_rfl) le_rfl (fun same => by cases same) rfl
  · rw [if_neg high.not_gt, if_pos high]
    simp only [Acceptor.setPromise, if_neg high.ne]
    exact kept.reply rfl (kept.backs.promise high.le) high.le (fun same => by cases same) rfl

theorem accept {ballot : Ballot} {value : V} (delivered : .accept ballot value ∈ sent)
    : VoterKept sent node (voter.onAccept node ballot value) := by
  have inside : ¬ decreeSlot < voter.acceptor.firstSlot := kept.backs.floor.le.not_gt
  unfold DecreeVoter.onAccept Acceptor.admitAccept
  rw [if_neg inside]
  rcases lt_or_ge ballot voter.acceptor.promised with low | atLeast
  · rw [if_pos low]
    have stored : [].foldl AcceptorWrite.store voter.acceptor = voter.acceptor := rfl
    have refused := kept.reply stored (kept.backs.nack ballot voter.acceptor.promised) le_rfl
      (fun same => by cases same) rfl
    simpa using refused
  · rw [if_neg (not_lt.mpr atLeast)]
    have voted := kept.backs.vote atLeast delivered
    have above {other : Ballot}
        (same : (.accepted node ballot : DecreeMessage V) = .accepted node other)
        : voter.image.promised ≤ other := by
      cases same
      exact kept.promised_le.trans atLeast
    by_cases same : voter.acceptor.promised = ballot
    · subst same
      simp only [Acceptor.setPromise, if_pos]
      exact kept.reply rfl voted atLeast above rfl
    · simp only [Acceptor.setPromise, if_neg same]
      exact kept.reply rfl voted atLeast above rfl

/-- Once the writes are durable the image backs the replies, which may leave. -/
theorem persist
    : VoterKept (sent ++ voter.replies) node voter.persist := by
  have proposals {ballot : Ballot} {value : V} (given : ProposedBy sent ballot value)
      : ProposedBy (sent ++ voter.replies) ballot value :=
    List.mem_append_left _ given
  have backs : Backs (ProposedBy (sent ++ voter.replies)) node voter.acceptor
      (sent ++ voter.replies) :=
    kept.backs.mono proposals id id
  exact {
    replay := kept.replay
    backs := by rwa [DecreeVoter.persist, List.append_nil]
    image := by rwa [DecreeVoter.persist, kept.replay]
    promised_le := by rw [DecreeVoter.persist, kept.replay]
    waiting := by simp [DecreeVoter.persist]
    own := by simp [DecreeVoter.persist] }

/-- A crash falls back on what the image backs. -/
theorem restart : VoterKept sent node voter.restart where
  replay := rfl
  backs := by
    rw [DecreeVoter.restart, List.append_nil]
    exact kept.image
  image := kept.image
  promised_le := le_rfl
  waiting := by simp [DecreeVoter.restart]
  own := by simp [DecreeVoter.restart]

end VoterKept

end Paros
