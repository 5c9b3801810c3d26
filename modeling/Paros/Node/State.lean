import Paros.Message
import Paros.Proposer.Model
import Paros.QuorumRead
import Paros.Storage

/-! The colocated node: acceptor, replica and proposer in one state machine without I/O. A call
queues writes and messages; the driver persists the writes before the messages leave. Counters,
the driver's hints and the source's assertions are left out.
-/

namespace Paros

inductive NodeRole where
  | follower
  | candidate
  | leader
  deriving DecidableEq

inductive BeliefSource where
  | bootstrap
  | heard
  deriving DecidableEq

inductive LeadershipOrigin where
  | elected
  | handoff (sender : NodeId)
  deriving DecidableEq

inductive ProposeResult where
  | notLeader (leader : Option NodeId)
  | accepted (slot : Nat)
  deriving DecidableEq

/-- The page sizes of one node. -/
structure Limits where
  recoveryPage : Nat
  promisePage : Nat
  resendPage : Nat
  applyPage : Nat
  readWindow : Nat
  deriving DecidableEq

def Limits.few : Limits := ⟨4, 4, 4, 4, 4⟩

/-- What a node is deployed with. A plain deployment has no matchmakers; its pool is its
membership.
-/
structure Config where
  id : NodeId
  bootstrap : AcceptorConfig
  nodes : List NodeId
  matchmakers : Option MatchmakerSet
  matchmakerPool : List MatchmakerId
  journal : JournalId
  writerMode : WriterMode

namespace Config

/-- A journal of one node. -/
def lone : Config := ⟨0, .sole 0, [], none, [], 0, .single⟩

def pool (config : Config) : List NodeId :=
  if config.nodes.isEmpty then config.bootstrap.members else config.nodes

def hasMatchmakers (config : Config) : Bool := config.matchmakers.isSome

end Config

structure Node where
  config : Config
  limits : Limits
  acceptors : AcceptorConfig
  acceptorsSince : Ballot
  readBasis : Option ReadBasis
  beliefSource : BeliefSource
  beliefFact : Ballot
  closedProbe : Option Ballot
  pool : List NodeId
  acceptor : Acceptor Command
  replica : Replica
  proposer : Proposer Command
  quorumReads : QuorumReads
  pendingWrites : List WriteOp
  pendingMessages : List (Audience × Message)
  pendingReadStates : List ReadState
  pendingMatchRequests : List (MatchmakerId × MatchRequest)
  pendingGcRequests : List (MatchmakerId × GcRequest)
  pendingRecoveryBatch : Option (Nat × Nat × Nat)
  tickCount : Nat
  role : NodeRole
  leader : Option NodeId
  ballot : Ballot
  electionElapsed : Nat
  electionTimeout : Nat
  pullIndex : Option Nat
  pullBeats : Nat
  matchmaking : Option Matchmaking
  probe : Option MembershipProbe
  matchmakers : Option MatchmakerSet
  matchmakerPool : List MatchmakerId
  gc : Option Collector
  roundFloor : Nat
  leadershipOrigin : LeadershipOrigin
  handoffFenceElapsed : Nat

namespace Node

variable (node : Node)

abbrev me : NodeId := node.config.id

def inPool (other : NodeId) : Bool := other ∈ node.pool

def isAcceptor : Bool := node.acceptors.contains node.me

def firstUnchosen : Nat := node.replica.firstUnchosen

def hasMatchmakers : Bool := node.config.hasMatchmakers

def phase1WorkOpen : Bool := node.proposer.recovery.isSome || node.proposer.probe.isSome

def leadershipSettled : Bool := !node.phase1WorkOpen

/-- The configuration a message carries: only a matchmaker deployment names it. -/
def wireConfigOf (config : AcceptorConfig) : Option AcceptorConfig :=
  if node.hasMatchmakers then some config else none

def wireConfig : Option AcceptorConfig := node.wireConfigOf node.acceptors

def wireConfigSince : Option Ballot :=
  if node.hasMatchmakers then some node.acceptorsSince else none

def phase1WireConfig : Option AcceptorConfig :=
  node.wireConfigOf ((node.proposer.election.map Election.config).getD node.acceptors)

-- Queued effects

def queueWrites (writes : List WriteOp) : Node :=
  { node with pendingWrites := node.pendingWrites ++ writes }

def push (audience : Audience) (message : Message) : Node :=
  { node with pendingMessages := node.pendingMessages ++ [(audience, message)] }

def send (recipient : NodeId) (message : Message) : Node := node.push (.node recipient) message

def broadcast (message : Message) : Node := node.push .learners message

def sendPrepare (targets : List NodeId) (ballot : Ballot) (fromSlot : Nat)
    (config : Option AcceptorConfig)
    : Node :=
  targets.foldl (fun node target => node.send target (.prepare node.me ballot fromSlot config)) node

def catchUpRequest (fromSlot : Nat) : Message := .catchUpRequest node.me fromSlot

def setPromise (ballot : Ballot) : Node :=
  let promised := node.acceptor.setPromise ballot
  { node with acceptor := promised.1 }.queueWrites (promised.2.map .acceptor)

def recordAccepted (slot : Nat) (ballot : Ballot) (command : Command) : Node :=
  let recorded := node.acceptor.recordAccepted slot ballot command
  { node with acceptor := recorded.1 }.queueWrites (recorded.2.map .acceptor)

-- Leadership and beliefs

def clearLeadershipState : Node :=
  { node with
    leadershipOrigin := .elected
    handoffFenceElapsed := 0
    proposer := node.proposer.abandon
    matchmaking := none
    gc := none }

def becomeFollower (leader : Option NodeId) : Node :=
  { { node with role := .follower, leader := leader }.clearLeadershipState with
    electionElapsed := 0 }

def adoptConfiguration (config : AcceptorConfig) (since : Ballot) : Node :=
  { node with
    beliefFact := if config ≠ node.acceptors ∨ since < node.beliefFact then .zero else node.beliefFact
    acceptors := config
    acceptorsSince := since
    beliefSource := .heard
    probe := none
    closedProbe := none
    quorumReads := node.quorumReads.abandonSuperseded since }

def bindFact (fact : Ballot) : Node := { node with beliefFact := fact }

/-- Adopt the configuration a newer ballot carries, where the pool knows its members. -/
def learnConfig (ballot : Ballot) (config : Option AcceptorConfig) : Node :=
  match config with
  | none => node
  | some config =>
    if !node.hasMatchmakers || ballot ≤ node.acceptorsSince then node
    else if !config.isDrawnFrom node.pool then node
    else node.adoptConfiguration config ballot

def learnReadBasis (config : AcceptorConfig) (since : Ballot) (fence : Option Nat) : Node :=
  if !node.hasMatchmakers || node.readBasis.any (since < ·.since)
      || !config.isDrawnFrom node.pool then
    node
  else { node with readBasis := some ⟨config, since, fence⟩ }

def followBallot (ballot : Ballot) (config : Option AcceptorConfig) : Node :=
  { node with ballot := max node.ballot ballot }.learnConfig ballot config

/-- The basis a new read asks. -/
def currentReadBasis : Option ReadBasis :=
  if !node.hasMatchmakers then some ⟨node.acceptors, node.acceptorsSince, none⟩
  else node.readBasis.filter fun basis => node.acceptorsSince ≤ basis.since

end Node

end Paros
