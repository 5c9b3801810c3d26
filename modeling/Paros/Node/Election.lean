import Paros.Node.Phase2

/-! Campaigns: matchmaking, Phase 1, taking over the suffix it recovers, and the collection of
the configurations a win supersedes.
-/

namespace Paros

namespace Node

variable (node : Node)

-- Collection of superseded configurations

/-- The matchmaker generation a node addresses; generation zero on a plain deployment, which has
none.
-/
def generation : Nat := (node.matchmakers.map MatchmakerSet.generation).getD 0

def gcCovered : Bool :=
  node.gc.any fun gc => node.leadershipSettled
    && gc.covered node.acceptors
      (if node.isAcceptor then some (node.me, node.replica.chosenIndex) else none)

def queueGcRequests : Node :=
  match node.gc, node.matchmakers with
  | some gc, some matchmakers =>
    let request : GcRequest := ⟨node.me, node.config.journal, matchmakers.generation, node.ballot⟩
    { node with pendingGcRequests := node.pendingGcRequests
        ++ (matchmakers.unanswered gc.ackedBy).map fun matchmaker => (matchmaker, request) }
  | _, _ => node

def tryGc : Node :=
  if node.role ≠ .leader || !node.hasMatchmakers then node
  else if node.gc.all Collector.requested || !node.gcCovered then node
  else
    { node with
      gc := node.gc.map (fun (gc : Collector) => { gc with requested := true }) }.queueGcRequests

def openGc (prior : List AcceptorConfig) : Node :=
  { node with gc := some (.new node.generation node.proposer.authority.fence prior) }.tryGc

def notePeerChosen (sender : NodeId) (chosen : Option Nat) : Node :=
  match node.gc with
  | none => node
  | some gc => { node with gc := some (gc.noteChosen sender chosen) }.tryGc

def gcPending : Bool :=
  node.role = .leader && node.gc.any fun gc => gc.requested && gc.effective.isNone

def resendGc : Node := if node.gcPending then node.queueGcRequests else node

/-- The configurations a leader's ballot still stands against, next to its own. -/
def priorInForce : List AcceptorConfig :=
  match node.gc with
  | some gc => if gc.effective.isNone then gc.prior.filter (· ≠ node.acceptors) else []
  | none => []

-- Recovery of the suffix

/-- The source's recovery loop: take the recovery's next slot and open a round for it, unless it
is chosen, dropped, blocked or not described. Counts processed slots, rounds and gap fills.
-/
def pumpSteps : Nat → Node → Nat × Nat × Nat → Node × (Nat × Nat × Nat)
  | 0, node, counts => (node, counts)
  | steps + 1, node, (processed, started, gapFills) =>
    match node.proposer.recovery.bind Recovery.next with
    | none => (node, processed, started, gapFills)
    | some (recovery, slot, step) =>
      let taken := { node with
        proposer := { node.proposer with recovery := some recovery } }
      let skip := slot < taken.acceptor.firstSlot || taken.replica.isChosen slot
        || taken.proposer.recoveryBlocked slot
      match step with
      | .undescribed => pumpSteps steps taken (processed + 1, started, gapFills)
      | .recovered command =>
        if skip then pumpSteps steps taken (processed + 1, started, gapFills)
        else
          pumpSteps steps (taken.startAcceptRound slot command)
            (processed + 1, started + 1, gapFills)
      | .fill =>
        if skip then pumpSteps steps taken (processed + 1, started, gapFills)
        else
          pumpSteps steps (taken.startAcceptRound slot .noop)
            (processed + 1, started + 1, gapFills + 1)

def pumpLeaderRecovery : Node :=
  if node.role ≠ .leader || node.pendingRecoveryBatch.isSome then node
  else
    let (pumped, processed, started, gapFills) :=
      pumpSteps node.limits.recoveryPage node (0, 0, 0)
    let remaining := pumped.proposer.recoveryRemaining
    let closed := { pumped with proposer := pumped.proposer.closeDrainedRecovery }
    if processed = 0 then closed
    else { closed with pendingRecoveryBatch := some (started, gapFills, remaining) }

/-- Open a round for every blocked slot that the repair probe now decides. -/
def resolveBlockedRepairs : Node :=
  match node.proposer.probe with
  | none => node
  | some probe =>
    let (probe, decisions) := probe.resolve
    decisions.foldl
      (fun node decision =>
        if node.replica.isChosen decision.slot || decision.slot < node.acceptor.firstSlot then
          node
        else node.startAcceptRound decision.slot (decision.command.getD .noop))
      { node with proposer := { node.proposer with probe := probe } }

-- Winning

variable (outcome : Phase1Outcome Command)

/-- The slot past everything a winner knows of. -/
def nextSlotAfter : Nat :=
  let highest := [OrderedMap.lastKey? node.acceptor.records,
    outcome.highestReported].reduceOption.max?
  max ((highest.map (· + 1)).getD node.firstUnchosen) node.firstUnchosen

/-- The fence of a leadership: the last slot below its first own one. -/
def fenceBelow (nextSlot : Nat) : Option Nat := if nextSlot = 0 then none else some (nextSlot - 1)

/-- Take the office that a closed Phase 1 won: the slot past the recovered suffix becomes the
next one.
-/
def takeOffice (probe : Option (RepairProbe Command)) : Node :=
  let won := { node with
    role := .leader
    leader := some node.me
    ballot := outcome.ballot
    -- a candidate has no repair probe of its own: its campaign dropped any
    proposer := { node.proposer with election := none, probe := probe, rounds := .empty } }
  let adopted :=
    if won.hasMatchmakers then won.adoptConfiguration outcome.config outcome.ballot else won
  let nextSlot := adopted.nextSlotAfter outcome
  { adopted with
    electionElapsed := 0
    proposer := { adopted.proposer with nextSlot := nextSlot }.openAuthority (fenceBelow nextSlot)
      (if adopted.isAcceptor then some adopted.me else none) }

/-- A leader asks reads of its own configuration from now on. -/
def baseReads : Node :=
  node.learnReadBasis node.acceptors node.ballot node.proposer.authority.fence

/-- Learn the recovered commands of the chosen prefix's damaged slots. -/
def healPrefix : Node :=
  let heals := (OrderedMap.before node.firstUnchosen outcome.recovered).toList.filter
    fun (slot, _) => slot ∉ outcome.blocked && !node.replica.isChosen slot
  heals.foldl (fun node (slot, ballot, command) => node.markChosen slot command ballot) node

/-- Start to recover the suffix that Phase 1 reported. -/
def startRecovery : Node :=
  { node with
    leadershipOrigin := .elected
    proposer := { node.proposer with
      recovery := some {
        recovered := outcome.recovered.map fun _ (record : Ballot × Command) => record.2
        blocked := outcome.blocked
        cursor := node.firstUnchosen
        stop := node.proposer.nextSlot
        policy := .phase1Backed } } }

/-- Take the leadership that a closed Phase 1 won: heal the chosen prefix's damaged slots, then
recover the suffix.
-/
def becomeLeader (probe : Option (RepairProbe Command))
    : Node :=
  let pumped :=
    (((node.takeOffice outcome probe).baseReads.healPrefix outcome).startRecovery
      outcome).pumpLeaderRecovery
  if pumped.hasMatchmakers then pumped.openGc outcome.prior else pumped

def tryBecomeLeader : Node :=
  match node.proposer.election with
  | none => node
  | some election =>
    if node.role ≠ .candidate || !node.proposer.phase1Won node.acceptor.promised then node
    else
      let (outcome, probe) := election.closePhase1 node.replica.isChosen
      node.becomeLeader outcome probe

-- Campaigning

/-- Open Phase 1 at the node's ballot against the prior configurations. -/
def startPhase1 (config : AcceptorConfig) (prior : List AcceptorConfig) : Node :=
  let fromSlot := (node.replica.foldHole.map (min · node.firstUnchosen)).getD node.firstUnchosen
  let election := Election.openPhase1 (some node.me) node.ballot config prior fromSlot
    node.acceptor.records node.acceptor.faulty
  let opened := { node with proposer := { node.proposer with election := some election } }
  let prepared := opened.sendPrepare (election.targets node.me) node.ballot fromSlot
    (node.wireConfigOf config)
  (prepared.broadcast (prepared.catchUpRequest fromSlot)).tryBecomeLeader

/-- The request of a matchmaking phase. -/
def phaseRequest (tally : Matchmaking) (generation : Nat) (fromBallot : Option Ballot)
    : MatchRequest where
  sender := node.me
  journal := node.config.journal
  ballot := tally.ballot
  config := tally.config
  purpose := .register tally.kind
  generation := generation
  fromBallot := fromBallot

def queueMatchRequests : Node :=
  match node.matchmaking, node.matchmakers with
  | some tally, some matchmakers =>
    { node with pendingMatchRequests := node.pendingMatchRequests
        ++ (tally.unanswered matchmakers).map fun (matchmaker, cursor) =>
          (matchmaker, node.phaseRequest tally matchmakers.generation cursor) }
  | _, _ => node

/-- The round a campaign would take, past every round the node knows of. -/
def nextCampaignRound : Option Nat :=
  let round := max (max node.acceptor.promised.round node.ballot.round) node.roundFloor
  if round < maxRound then some (round + 1) else none

def campaign (kind : RegistrationKind) (config : AcceptorConfig) : Node :=
  match node.nextCampaignRound with
  | none => node.becomeFollower none
  | some round =>
    let candidate := { node.clearLeadershipState with
      probe := none
      closedProbe := none
      role := .candidate
      leader := none
      ballot := ⟨round, node.me⟩ }
    let promised := candidate.setPromise candidate.ballot
    if promised.matchmakers.isSome then
      { promised with matchmaking := some (.new promised.ballot config kind) }.queueMatchRequests
    else promised.startPhase1 config [config]

def queueProbeRequests (discover : Bool) : Node :=
  match node.probe, node.matchmakers with
  | some probe, some matchmakers =>
    let request : MatchRequest := {
      sender := node.me
      journal := node.config.journal
      ballot := probe.ballot
      config := probe.believed
      purpose := .probe
      generation := matchmakers.generation
      fromBallot := none
    }
    let outside := if discover then node.matchmakerPool.filter (!matchmakers.contains ·) else []
    { node with pendingMatchRequests := node.pendingMatchRequests
        ++ (matchmakers.unanswered probe.answered ++ outside).map fun matchmaker =>
          (matchmaker, request) }
  | _, _ => node

def probeMembership : Node :=
  if node.probe.isSome then node.queueProbeRequests true
  else
    match node.nextCampaignRound with
    | none => node
    | some round =>
      { node with
        roundFloor := max node.roundFloor round
        closedProbe := none
        probe := some (.new ⟨round, node.me⟩ node.acceptors) }.queueProbeRequests false

def onCheckLeader : Node :=
  if node.role = .leader then node
  else if node.hasMatchmakers && node.beliefSource = .bootstrap then node.probeMembership
  else if node.hasMatchmakers && !node.isAcceptor then
    (if node.role ≠ .follower then node.becomeFollower none else node).probeMembership
  else node.campaign .belief node.acceptors

-- Promises

def requestPromisePage (sender : NodeId) (ballot : Ballot) (next : Nat) : Node :=
  node.sendPrepare [sender] ballot next node.phase1WireConfig

def onProbePromise (sender : NodeId) (ballot : Ballot) (fromSlot : Nat)
    (accepted : SlotMap (Ballot × Command)) (faulty : SlotMap Ballot) (nextFromSlot : Option Nat)
    : Node :=
  match node.proposer.probe with
  | none => node
  | some probe =>
    let (probe, fold) := probe.foldPromise sender ballot fromSlot accepted faulty nextFromSlot
    let folded := { node with proposer := { node.proposer with probe := some probe } }
    match fold with
    | .ignored => node
    | .next next => folded.requestPromisePage sender ballot next
    | .answered => folded.resolveBlockedRepairs

def onPromise (sender : NodeId) (ballot : Ballot) (fromSlot : Nat)
    (accepted : SlotMap (Ballot × Command)) (faulty : SlotMap Ballot) (nextFromSlot : Option Nat)
    : Node :=
  if !node.inPool sender then node
  else if node.role = .leader then
    node.onProbePromise sender ballot fromSlot accepted faulty nextFromSlot
  else
    match node.proposer.election with
    | none => node
    | some election =>
      let (election, fold) :=
        election.foldPromise sender ballot fromSlot accepted faulty nextFromSlot
      let folded := { node with proposer := { node.proposer with election := some election } }
      match fold with
      | .ignored => node
      | .next next =>
        { folded with electionElapsed := 0 }.requestPromisePage sender ballot next
      | .answered => folded.tryBecomeLeader

/-- Keep the promisers that answered from campaigning while others still page. -/
def keepPagingPromisers : Node :=
  match node.proposer.election with
  | none => node
  | some election =>
    if node.role ≠ .candidate || !election.paging
        || election.promises.ballot ≠ node.acceptor.promised then
      node
    else
      let answered := election.promises.answered.ascending.filter fun peer =>
        peer ≠ node.me && election.involves peer
      node.sendPrepare answered election.promises.ballot election.keepAliveFrom
        node.phase1WireConfig

def onNack (sender : NodeId) (ballot : Ballot) (slot : Nat) : Node :=
  if node.inPool sender && node.proposer.supersedes ballot slot then node.becomeFollower none
  else node

end Node

end Paros
