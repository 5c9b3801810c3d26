import Paros.Node.Step
import Paros.Proposer.Facts

/-! The protocol a node runs, below its bookkeeping: the part of its state that carries the
protocol, and the elementary acts that move it. Timers, redirects and counters are not in it.
-/

namespace Paros

open Node (Input)

/-- What a running call has established and not yet used up: commands known chosen, slots a
leader may propose in, votes it may report, and the suffix it is about to recover.
-/
structure Notes where
  known : Set (Nat × Ballot × Command)
  grants : Set (Nat × Command)
  votes : Set (Nat × Ballot)
  plan : Option (Recovery Command)

namespace Notes

/-- A call starts and ends with nothing noted. -/
def none : Notes := ⟨∅, ∅, ∅, Option.none⟩

def know (notes : Notes) (facts : Set (Nat × Ballot × Command)) : Notes :=
  { notes with known := notes.known ∪ facts }

def grant (notes : Notes) (slots : Set (Nat × Command)) : Notes :=
  { notes with grants := notes.grants ∪ slots }

def vote (notes : Notes) (slot : Nat) (ballot : Ballot) : Notes :=
  { notes with votes := insert (slot, ballot) notes.votes }

def planning (notes : Notes) (recovery : Recovery Command) : Notes :=
  { notes with plan := some recovery }

end Notes

/-- The protocol state of a node within a call, with the effects queued so far. -/
structure Core where
  me : NodeId
  journal : JournalId
  matched : Bool
  pool : List NodeId
  acceptors : AcceptorConfig
  since : Ballot
  source : BeliefSource
  fact : Ballot
  readBasis : Option ReadBasis
  acceptor : Acceptor Command
  replica : Replica
  proposer : Proposer Command
  reads : QuorumReads
  served : List ReadState
  role : NodeRole
  ballot : Ballot
  origin : LeadershipOrigin
  matchmaking : Option Matchmaking
  matchmakers : Option MatchmakerSet
  probe : Option MembershipProbe
  gc : Option Collector
  writes : List WriteOp
  messages : List (Audience × Message)
  matchRequests : List (MatchmakerId × MatchRequest)
  gcRequests : List (MatchmakerId × GcRequest)
  notes : Notes

/-- The protocol state of a node. -/
def Node.core (node : Node) (notes : Notes) : Core where
  me := node.me
  journal := node.config.journal
  matched := node.hasMatchmakers
  pool := node.pool
  acceptors := node.acceptors
  since := node.acceptorsSince
  source := node.beliefSource
  fact := node.beliefFact
  readBasis := node.readBasis
  acceptor := node.acceptor
  replica := node.replica
  proposer := node.proposer
  reads := node.quorumReads
  served := node.pendingReadStates
  role := node.role
  ballot := node.ballot
  origin := node.leadershipOrigin
  matchmaking := node.matchmaking
  matchmakers := node.matchmakers
  probe := node.probe
  gc := node.gc
  writes := node.pendingWrites
  messages := node.pendingMessages
  matchRequests := node.pendingMatchRequests
  gcRequests := node.pendingGcRequests
  notes := notes

namespace Core

variable (core : Core)

def note (notes : Notes) : Core := { core with notes := notes }

def queue (ops : List WriteOp) : Core := { core with writes := core.writes ++ ops }

def say (audience : Audience) (message : Message) : Core :=
  { core with messages := core.messages ++ [(audience, message)] }

def wireConfigOf (config : AcceptorConfig) : Option AcceptorConfig :=
  if core.matched then some config else none

/-- The configuration a Prepare of this node names. -/
def phase1Config : AcceptorConfig :=
  (core.proposer.election.map Election.config).getD core.acceptors

def promise (ballot : Ballot) : Core :=
  { core with acceptor := { core.acceptor with promised := ballot } }.queue
    [.acceptor (.setPromise ballot)]

def record (slot : Nat) (ballot : Ballot) (command : Command) : Core :=
  { core with
    acceptor := { core.acceptor with
      faulty := core.acceptor.faulty.erase slot
      records := core.acceptor.records.insert slot (ballot, command) } }.queue
    [.acceptor (.appendAccepted slot ballot command)]

/-- Give up a candidacy or leadership. -/
def retire : Core :=
  { core with
    role := .follower
    origin := .elected
    proposer := core.proposer.abandon
    matchmaking := none
    gc := none }

def setElection (election : Election Command) : Core :=
  { core with proposer := { core.proposer with election := some election } }

def setProbe (probe : Option (RepairProbe Command)) : Core :=
  { core with proposer := { core.proposer with probe := probe } }

def setRecovery (recovery : Recovery Command) : Core :=
  { core with proposer := { core.proposer with recovery := some recovery } }

def openRound (slot : Nat) (round : Round Command) : Core :=
  { core with proposer := { core.proposer with
    rounds := { core.proposer.rounds with
      bySlot := core.proposer.rounds.bySlot.insert slot round } } }

/-- The ballot of a slot's record, where it carries the command. -/
def recordBallot (slot : Nat) (command : Command) : Option Ballot :=
  (core.acceptor.records[slot]?).bind fun (ballot, recorded) =>
    if recorded = command then some ballot else none

/-- Apply the next page of chosen slots. -/
def applyPage : Core :=
  { core with replica := (core.replica.advance core.recordBallot).1 }.queue
    ((core.replica.advance core.recordBallot).2.1.map .setChosenIndex)

/-- Drop everything below `first`. -/
def truncate (first : Nat) : Core :=
  { core with
    replica := (core.replica.truncate first).1
    acceptor := core.acceptor.dropPrefix first
    proposer := core.proposer.retainRoundsFrom first }.queue
    [.truncate first (core.replica.truncate first).2]

/-- Drop the chosen prefix up to a slot, as far as the journal fold allows. -/
def compact (upTo : Nat) : Core :=
  match core.replica.compactionTarget with
  | none => core
  | some target =>
    let first := max (min upTo target + 1) core.acceptor.firstSlot
    if first ≤ core.acceptor.firstSlot then core else core.truncate first

/-- Apply the next page of chosen slots and make the compaction it leaves due. -/
def walk : Core :=
  let compacted :=
    match (core.replica.advance core.recordBallot).2.2 with
    | some upTo => core.applyPage.compact upTo
    | none => core.applyPage
  { compacted with replica := compacted.replica.assertCompacted }

def learn (slot : Nat) (command : Command) : Core :=
  { core with replica := core.replica.learn slot command }

/-- Jump to a peer's trim point. -/
def jump (point : Nat) (state : JournalState) : Core :=
  { core with
    replica := (core.replica.trimTo point state).1
    acceptor := core.acceptor.dropPrefix point
    proposer := { (core.proposer.probeRetainFrom point).retainRoundsFrom point with
      nextSlot := max core.proposer.nextSlot point } }.queue
    [.trimmedTo point (core.replica.trimTo point state).2]

def adopt (config : AcceptorConfig) (since : Ballot) : Core :=
  { core with
    fact := if config ≠ core.acceptors ∨ since < core.fact then .zero else core.fact
    acceptors := config
    since := since
    source := .heard
    probe := none
    reads := core.reads.abandonSuperseded since }

end Core

end Paros
