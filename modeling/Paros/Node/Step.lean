import Paros.Node.Matchmaking

/-! The node's calls: one message, one tick, the driver's policy calls, and the boot from a
durable image.
-/

namespace Paros

/-- How many election timeouts a repair probe may stay open (`REPAIR_TIMEOUT_ELECTIONS`). -/
def repairTimeoutElections : Nat := 3

namespace Node

variable (node : Node)

def step : Message → Node
  | .prepare replyTo ballot fromSlot config => node.onPrepare replyTo ballot fromSlot config
  | .promise sender ballot fromSlot accepted faulty nextFromSlot =>
    node.onPromise sender ballot fromSlot accepted faulty nextFromSlot
  | .accept replyTo leader ballot slot command config =>
    node.onAccept replyTo leader ballot slot command config
  | .accepted sender ballot slot => node.onAccepted sender ballot slot
  | .nack sender ballot slot => node.onNack sender ballot slot
  | .commit _ ballot slot command => node.onCommit ballot slot command
  | .catchUpRequest sender fromSlot => node.serveCatchup sender fromSlot
  | .catchUpResponse _ entries => node.onCatchupResponse entries
  | .trimmedTo _ point state => node.onTrimmedTo point state
  | .relinquish sender recipient ballot fromSlot nextSlot decided pending config prior =>
    node.onRelinquish sender recipient ballot fromSlot nextSlot decided pending config prior
  | .heartbeat sender ballot commit config fence =>
    node.onHeartbeat sender ballot commit config fence
  | .heartbeatAck sender ballot chosen => node.onHeartbeatAck sender ballot chosen
  | .preRead replyTo ctx => node.onPreRead replyTo ctx
  | .preReadAck sender ctx watermark configSince =>
    node.onPreReadAck sender ctx watermark configSince

-- Ticks

/-- A leader without a Phase-2 quorum of answers in one election timeout steps down. -/
def tickCheckQuorum : Node :=
  if node.role ≠ .leader || node.electionTimeout = 0 then node
  else
    let authority := node.proposer.authority
    let aged := { authority with quorumElapsed := authority.quorumElapsed + 1 }
    let ticked := { node with proposer := { node.proposer with authority := aged } }
    if aged.quorumElapsed < node.electionTimeout then ticked
    else if aged.holds node.acceptors then
      { ticked with proposer := { ticked.proposer with
        authority := aged.renew (if node.isAcceptor then some node.me else none) } }
    else ticked.becomeFollower none

/-- Ask again about the blocked slots, or give the leadership up. -/
def tickProbe : Node :=
  match node.role, node.proposer.probe with
  | .leader, some probe =>
    let aged := { probe with elapsed := probe.elapsed + 1 }
    let ticked := { node with proposer := { node.proposer with probe := some aged } }
    if node.electionTimeout ≠ 0
        ∧ node.electionTimeout * repairTimeoutElections ≤ aged.elapsed then
      ticked.becomeFollower none
    else
      ticked.sendPrepare (aged.requery node.me) aged.promises.ballot aged.promises.fromSlot
        ticked.phase1WireConfig
  | _, _ => node

/-- Ask everyone for the slot the fold waits for. -/
def askForHole : Node :=
  match node.replica.foldHole with
  | some hole => node.broadcast (node.catchUpRequest hole)
  | none => node

def tickRepair : Node := node.tickProbe.askForHole

def tickLeader : Node :=
  let checked := node.broadcastHeartbeat.tickCheckQuorum
  if checked.role = .leader ∧ !checked.isAcceptor ∧ !checked.phase1WorkOpen
      ∧ checked.proposer.rounds.bySlot.isEmpty then
    checked.becomeFollower none
  else checked

def tickElection : Node :=
  let elapsed := node.electionElapsed + 1
  let timed :=
    if node.electionTimeout ≠ 0 ∧ node.electionTimeout ≤ elapsed then
      let reset := { node with electionElapsed := 0 }
      if reset.matchmaking.isSome then reset.resendMatchmaking else reset.onCheckLeader
    else { node with electionElapsed := elapsed }
  timed.keepPagingPromisers

def tick : Node :=
  let counted := { node with tickCount := node.tickCount + 1 }
  let ticked := if counted.role = .leader then counted.tickLeader else counted.tickElection
  ticked.tickHandoffFence.tickRepair.tickQuorumReads.tryGc

-- The driver's policy

def resendPending : Node :=
  if node.role ≠ .leader then node
  else
    let (rounds, page) := node.proposer.rounds.resendPage node.limits.resendPage
    page.foldl (fun node accept =>
        node.sendAccept accept.slot accept.ballot accept.command accept.column)
      { node with proposer := { node.proposer with rounds := rounds } }

def moveRound (slot column : Nat) : Node × Bool :=
  match node.role, node.acceptors.quorumSystem with
  | .leader, .grid _ _ _ => node.moveRoundTo slot column
  | _, _ => (node, false)

/-- Apply the next chosen page; with nothing to apply, continue a leader's recovery. -/
def advanceRecovery : Node :=
  let advanced := node.advanceChosenIndex
  if advanced.pendingWrites.length ≠ node.pendingWrites.length then advanced
  else advanced.pumpLeaderRecovery

def stepDown : Node := if node.role ≠ .leader then node else node.becomeFollower none

def campaignAbove (seen : Ballot) : Node :=
  if node.role = .leader || node.matchmaking.isSome then node
  else
    { node with
      roundFloor := max node.roundFloor seen.round
      electionElapsed := 0 }.onCheckLeader

def setElectionTimeout (ticks : Nat) : Node := { node with electionTimeout := ticks }

def extendPool (nodes : List NodeId) : Node :=
  if !node.hasMatchmakers then node
  else { node with pool := (node.pool ++ nodes).dedup.insertionSort (· ≤ ·) }

def repairRecord (slot : Nat) : Node :=
  node.queueWrites ((node.acceptor.rewrite slot).map .acceptor)

/-- The driver took the batch. -/
def clearPending : Node :=
  { node with
    pendingWrites := []
    pendingMessages := []
    pendingReadStates := []
    pendingMatchRequests := []
    pendingGcRequests := []
    pendingRecoveryBatch := none
    replica := node.replica.clearCommitted }

-- Boot

/-- Boot from a durable image of which the records of the `faulty` slots read back damaged. -/
def boot (config : Config) (limits : Limits) (storage : MemStorage) (faulty : Finset Nat) : Node :=
  let accepted := storage.readable faulty
  let damaged := storage.damaged faulty
  let firstUnchosen := storage.chosenIndex.elim 0 (· + 1)
  let highest := [OrderedMap.lastKey? accepted, OrderedMap.lastKey? damaged].reduceOption.max?
  {
    config := config
    limits := limits
    acceptors := config.bootstrap
    acceptorsSince := .zero
    readBasis := none
    beliefSource := .bootstrap
    beliefFact := .zero
    closedProbe := none
    pool := config.pool
    acceptor := ⟨storage.promised, accepted, damaged, storage.firstSlot⟩
    replica := (Replica.fromBoot config.writerMode storage.chosenIndex storage.firstSlot
      storage.sealedAt accepted).setApplyPage limits.applyPage
    proposer := .new (max ((highest.map (· + 1)).getD firstUnchosen) firstUnchosen)
    quorumReads := []
    pendingWrites := []
    pendingMessages := []
    pendingReadStates := []
    pendingMatchRequests := []
    pendingGcRequests := []
    pendingRecoveryBatch := none
    tickCount := 0
    role := .follower
    leader := none
    ballot := storage.promised
    electionElapsed := 0
    electionTimeout := 0
    pullIndex := none
    pullBeats := 0
    matchmaking := none
    probe := none
    matchmakers := config.matchmakers
    matchmakerPool := config.matchmakerPool
    gc := none
    roundFloor := 0
    leadershipOrigin := .elected
    handoffFenceElapsed := 0
  }

/-- What a driver asks of a node that runs its rounds itself and knows its pool of matchmakers,
besides `Ready` and a reboot.
-/
inductive Input where
  | deliver (message : Message)
  | tick
  | propose (entry : Entry) (column : Option Nat)
  | proposeControl (control : Control)
  | advanceRecovery
  | campaignAbove (seen : Ballot)
  | resendPending
  | moveRound (slot column : Nat)
  | stepDown
  | relinquishTo (target : NodeId)
  | compact (upTo : Nat)
  | repairRecord (slot : Nat)
  | setElectionTimeout (ticks : Nat)
  | quorumRead (ctx : Ctx) (row : Option Nat)
  | matchReply (reply : MatchReply)
  | gcAck (ack : GcAck)
  | resendMatchmaking
  | resendGc
  | reconfigure (config : AcceptorConfig)
  | extendPool (nodes : List NodeId)

/-- The node after a call. -/
def handle : Input → Node
  | .deliver message => node.step message
  | .tick => node.tick
  | .propose entry column => (node.proposeIn entry column).1
  | .proposeControl control => (node.proposeControl control).1
  | .advanceRecovery => node.advanceRecovery
  | .campaignAbove seen => node.campaignAbove seen
  | .resendPending => node.resendPending
  | .moveRound slot column => (node.moveRound slot column).1
  | .stepDown => node.stepDown
  | .relinquishTo target => (node.relinquishTo target).1
  | .compact upTo => node.compact upTo
  | .repairRecord slot => node.repairRecord slot
  | .setElectionTimeout ticks => node.setElectionTimeout ticks
  | .quorumRead ctx row => node.quorumReadIn ctx row
  | .matchReply reply => (node.onMatchReply reply).1
  | .gcAck ack => (node.onGcAck ack).1
  | .resendMatchmaking => node.resendMatchmaking
  | .resendGc => node.resendGc
  | .reconfigure config => (node.reconfigure config).1
  | .extendPool nodes => node.extendPool nodes

end Node

end Paros
