import Paros.Proposer.Model

/-! A single-decree Paxos out of the shared roles: one proposal at one ballot over one acceptor
configuration, its log a single slot, and the acceptor half that answers it. The source's
fingerprint of the accepted value is left out: a decree takes it from its own round.
-/

namespace Paros

variable {V : Type}

/-- The one slot a decree runs over (the source's `DECREE_SLOT`). -/
def decreeSlot : Nat := 0

/-- Count a vote at the open round's ballot, whoever sent it. -/
def Rounds.foldAccepted (rounds : Rounds V) (node : NodeId) (ballot : Ballot) (slot : Nat)
    : Option (Rounds V) :=
  match rounds.bySlot[slot]? with
  | none => none
  | some round =>
    if round.ballot = ballot then
      some { rounds with
        bySlot := rounds.bySlot.insert slot
          { round with acceptedBy := insert node round.acceptedBy } }
    else none

/-- What a promise did to a decree. -/
inductive DecreePromise (V : Type) where
  | ignored
  | counted (remaining : Nat)
  | quorum (value : V)
  deriving DecidableEq

/-- What an accept did to a decree. -/
inductive AcceptFold (V : Type) where
  | ignored
  | counted (remaining : Nat)
  | chosen (value : V)
  deriving DecidableEq

/-- The one page of a promise: its vote, if any, at the decree's slot. -/
def votePage (vote : Option (Ballot × V)) : SlotMap (Ballot × V) :=
  vote.elim ∅ fun vote => (∅ : SlotMap (Ballot × V)).insert decreeSlot vote

theorem getElem?_votePage (vote : Option (Ballot × V)) : (votePage vote)[decreeSlot]? = vote := by
  cases vote <;> simp [votePage]

/-- One proposal of one value, at one ballot, over one acceptor configuration. -/
structure Decree (V : Type) where
  ballot : Ballot
  acceptors : AcceptorConfig
  proposal : V
  proposer : Proposer V
  preempted : Option Ballot

namespace Decree

/-- Open Phase 1 over the acceptors alone: the proposer casts no vote of its own. -/
def new (ballot : Ballot) (acceptors : AcceptorConfig) (proposal : V) : Decree V where
  ballot := ballot
  acceptors := acceptors
  proposal := proposal
  proposer := { Proposer.new 0 with
    election := some (.openPhase1 none ballot acceptors [acceptors] decreeSlot ∅ ∅) }
  preempted := none

variable (decree : Decree V)

/-- How many acceptors have promised. -/
def promised : Nat :=
  decree.proposer.election.elim 0 fun election => election.promises.answered.card

/-- Close a won Phase 1 and open Phase 2 with the highest-ballot vote, or the own proposal. -/
def openPhase2 (election : Election V) : Decree V × V :=
  let (outcome, probe) := election.closePhase1 fun _ => false
  let value := (outcome.recovered[decreeSlot]?).elim decree.proposal Prod.snd
  ({ decree with
      proposer := { decree.proposer with
        election := none
        probe := probe
        rounds := Rounds.empty.openRound decreeSlot decree.ballot value none none } },
    value)

/-- Fold one promise; its whole log is one slot, so it is never paged. -/
def onPromise (node : NodeId) (vote : Option (Ballot × V))
    : Decree V × DecreePromise V :=
  if !decree.acceptors.contains node || decree.preempted.isSome then (decree, .ignored)
  else
    match decree.proposer.election with
    | none => (decree, .ignored)
    | some election =>
      let (folded, fold) :=
        election.foldPromise node decree.ballot decreeSlot (votePage vote) ∅ none
      let next := { decree with proposer := { decree.proposer with election := some folded } }
      if fold ≠ .answered then (next, .ignored)
      else if !next.proposer.phase1Won decree.ballot then
        (next, .counted (decree.acceptors.quorumSystem.phase1QuorumSize
          decree.acceptors.members.length - next.promised))
      else
        let (opened, value) := next.openPhase2 folded
        (opened, .quorum value)

/-- Fold one accept; a sender already counted is no progress. -/
def onAccepted (node : NodeId) : Decree V × AcceptFold V :=
  if !decree.acceptors.contains node || decree.preempted.isSome then (decree, .ignored)
  else
    match decree.proposer.rounds.bySlot[decreeSlot]? with
    | none => (decree, .ignored)
    | some round =>
      if node ∈ round.acceptedBy then (decree, .ignored)
      else
        match decree.proposer.rounds.foldAccepted node decree.ballot decreeSlot with
        | none => (decree, .ignored)
        | some rounds =>
          let next := { decree with proposer := { decree.proposer with rounds := rounds } }
          match rounds.decided decreeSlot decree.acceptors with
          | some (_, value) => (next, .chosen value)
          | none =>
            let accepted := (rounds.bySlot[decreeSlot]?).elim 0 (·.acceptedBy.card)
            (next, .counted (decree.acceptors.quorumSystem.phase2QuorumSize
              decree.acceptors.members.length - accepted))

/-- A refusal above the ballot preempts the decree; the highest one is kept. -/
def onNack (promised : Ballot) : Decree V :=
  if promised ≤ decree.ballot then decree
  else { decree with preempted := some (decree.preempted.elim promised (max · promised)) }

end Decree

-- The acceptor half

inductive DecreeMessage (V : Type) where
  | prepare (ballot : Ballot)
  | promise (node : NodeId) (ballot : Ballot) (vote : Option (Ballot × V))
  | accept (ballot : Ballot) (value : V)
  | accepted (node : NodeId) (ballot : Ballot)
  | nack (node : NodeId) (ballot promised : Ballot)
  deriving DecidableEq

/-- Make one write durable. -/
def AcceptorWrite.store (image : Acceptor V) : AcceptorWrite V → Acceptor V
  | .setPromise ballot => { image with promised := ballot }
  | .appendAccepted slot ballot value =>
    { image with
      faulty := image.faulty.erase slot
      records := image.records.insert slot (ballot, value) }

/-- An acceptor of a decree: its state, the durable image it boots from, the writes between the
two, and the replies that wait for them.
-/
structure DecreeVoter (V : Type) where
  acceptor : Acceptor V
  image : Acceptor V
  writes : List (AcceptorWrite V)
  replies : List (DecreeMessage V)

namespace DecreeVoter

/-- An acceptor that has seen nothing. -/
def fresh : DecreeVoter V :=
  ⟨⟨.zero, ∅, ∅, decreeSlot⟩, ⟨.zero, ∅, ∅, decreeSlot⟩, [], []⟩

variable (voter : DecreeVoter V)

/-- Phase 1b: promise and report the vote held, or refuse with the promise held. -/
def onPrepare (me : NodeId) (ballot : Ballot) : DecreeVoter V :=
  let (acceptor, writes, outcome) := voter.acceptor.prepare ballot decreeSlot
  let reply : DecreeMessage V :=
    match outcome with
    | .promised _ => .promise me ballot acceptor.records[decreeSlot]?
    | _ => .nack me ballot acceptor.promised
  { voter with
    acceptor := acceptor
    writes := voter.writes ++ writes
    replies := voter.replies ++ [reply] }

/-- Phase 2b: a vote is a promise too, raised before the record. -/
def onAccept (me : NodeId) (ballot : Ballot) (value : V)
    : DecreeVoter V :=
  match voter.acceptor.admitAccept ballot decreeSlot with
  | .admitted =>
    let (raised, promise) := voter.acceptor.setPromise ballot
    let (voted, record) := raised.recordAccepted decreeSlot ballot value
    { voter with
      acceptor := voted
      writes := voter.writes ++ (promise ++ record)
      replies := voter.replies ++ [.accepted me ballot] }
  | _ =>
    { voter with replies := voter.replies ++ [.nack me ballot voter.acceptor.promised] }

/-- Make the writes durable; the replies may leave after that. -/
def persist : DecreeVoter V :=
  { voter with image := voter.writes.foldl AcceptorWrite.store voter.image, writes := [], replies := [] }

/-- Crash, and boot from the image: what waited for the writes is lost. -/
def restart : DecreeVoter V :=
  { voter with acceptor := voter.image, writes := [], replies := [] }

end DecreeVoter

end Paros
