import Paros.Node.Election

/-! Message handlers: the acceptor's answers, replication, catch-up, reads and handoffs. -/

namespace Paros

namespace Node

variable (node : Node)

-- The acceptor's answers

def pushNack (recipient : NodeId) (ballot : Ballot) (slot : Nat) : Node :=
  node.send recipient (.nack node.me ballot slot)

def onPrepare (replyTo : NodeId) (ballot : Ballot) (fromSlot : Nat)
    (config : Option AcceptorConfig)
    : Node :=
  if !node.inPool replyTo || !node.inPool ballot.node then node
  else
    let (acceptor, writes, outcome) := node.acceptor.prepare ballot fromSlot
    let prepared := { node with acceptor := acceptor }.queueWrites (writes.map .acceptor)
    match outcome with
    | .belowFloor => prepared.pushNack replyTo ballot fromSlot
    | .refused => prepared.pushNack replyTo ballot fromSlot
    | .promised _ =>
      let stepped :=
        if ballot.node ≠ prepared.me ∧ prepared.role ≠ .follower then
          prepared.becomeFollower none
        else prepared
      let followed := { stepped with electionElapsed := 0 }.followBallot ballot config
      let page := followed.acceptor.promisePage fromSlot followed.limits.promisePage
      followed.send replyTo
        (.promise followed.me ballot fromSlot page.accepted page.faulty page.nextFromSlot)

def onAccept (replyTo leader : NodeId) (ballot : Ballot) (slot : Nat) (command : Command)
    (config : Option AcceptorConfig)
    : Node :=
  if !node.inPool replyTo || !node.inPool leader || !node.inPool ballot.node then node
  else
    match node.acceptor.admitAccept ballot slot with
    | .belowFloor => node
    | .refused => node.pushNack replyTo ballot slot
    | .admitted =>
      let stepped :=
        if node.role = .leader ∧ ballot = node.ballot then node
        else if leader ≠ node.me ∧ node.role ≠ .follower then node.becomeFollower (some leader)
        else { node with leader := some leader, electionElapsed := 0 }
      let promised := (stepped.followBallot ballot config).setPromise ballot
      let accepted :=
        if slot < promised.firstUnchosen ∧ !promised.replica.isChosen slot then
          promised.markChosen slot command ballot
        else promised.recordAccepted slot ballot command
      accepted.push (.node replyTo) (.accepted accepted.me ballot slot)

-- Catch-up

/-- The most entries one catch-up page carries (the source's `CATCHUP_BATCH`). -/
def catchUpBatch : Nat := 64

/-- The chosen slots from `expected` on, without a hole, up to the chosen index. -/
def catchUpEntries (chosenIndex : Nat)
    : Nat → Nat → SlotMap (Ballot × Command) → SlotMap (Ballot × Command)
  | 0, _, entries => entries
  | room + 1, expected, entries =>
    if chosenIndex < expected then entries
    else
      match node.replica.chosen[expected]? with
      | none => entries
      | some command =>
        let ballot := ((node.acceptor.records[expected]?).map Prod.fst).getD node.ballot
        catchUpEntries chosenIndex room (expected + 1)
          (entries.insert expected (ballot, command))

def serveCatchup (recipient : NodeId) (fromSlot : Nat) : Node :=
  match node.replica.chosenIndex with
  | none => node
  | some chosenIndex =>
    if fromSlot < node.acceptor.firstSlot then
      node.send recipient (.trimmedTo node.me node.acceptor.firstSlot node.replica.base)
    else if chosenIndex < fromSlot then node
    else
      let entries := node.catchUpEntries chosenIndex catchUpBatch fromSlot ∅
      if entries.isEmpty then node
      else node.send recipient (.catchUpResponse node.me entries)

def onCatchupResponse (entries : SlotMap (Ballot × Command)) : Node :=
  entries.toList.foldl (fun node (slot, ballot, command) => node.markChosen slot command ballot)
    node

/-- Jump to a peer's trim point: everything below it is chosen. -/
def jumpTo (point : Nat) (state : JournalState) : Node :=
  let trimmed := node.replica.trimTo point state
  let proposer := (node.proposer.probeRetainFrom point).retainRoundsFrom point
  { node with
    replica := trimmed.1
    acceptor := node.acceptor.dropPrefix point
    proposer := { proposer with nextSlot := max proposer.nextSlot point } }.queueWrites
      [.trimmedTo point trimmed.2]

def onTrimmedTo (point : Nat) (state : JournalState) : Node :=
  if point ≤ node.acceptor.firstSlot then node
  else (node.jumpTo point state).advanceChosenIndex

-- Heartbeats

def broadcastHeartbeat : Node :=
  node.broadcast (.heartbeat node.me node.ballot node.replica.chosenIndex node.wireConfig
    (node.wireConfig.bind fun _ => node.proposer.authority.fence))

/-- The fewest unanswered pulls before a node asks everyone (`PULL_FALLBACK_BEATS`). -/
def pullFallbackBeats : Nat := 3

def pullGap (sender : NodeId) : Node :=
  let index := node.replica.chosenIndex
  let beats := if node.pullBeats = 0 ∨ node.pullIndex ≠ index then 1 else node.pullBeats + 1
  let pulled := { node with pullIndex := index, pullBeats := beats }
  let request := node.catchUpRequest node.firstUnchosen
  if max node.electionTimeout pullFallbackBeats < beats then
    { pulled.broadcast request with pullBeats := 0 }
  else pulled.send sender request

/-- Whether an index lies below another; none lies below every index. -/
def indexBelow : Option Nat → Option Nat → Bool
  | none, some _ => true
  | some left, some right => left < right
  | _, none => false

/-- Take the sender of a beat for the leader. -/
def heedLeader (sender : NodeId) : Node :=
  if node.role = .follower then { node with leader := some sender, electionElapsed := 0 }
  else node.becomeFollower (some sender)

/-- Follow a beat's ballot and acknowledge it. -/
def ackHeartbeat (sender : NodeId) (ballot : Ballot) (config : Option AcceptorConfig)
    (fence : Option Nat)
    : Node :=
  let based :=
    match config with
    | some basis => node.learnReadBasis basis ballot fence
    | none => node
  let followed := based.followBallot ballot config
  followed.send sender (.heartbeatAck followed.me ballot
    (if followed.hasMatchmakers then followed.replica.chosenIndex else none))

/-- Even out the difference to the sender's chosen index. -/
def compareCommit (sender : NodeId) (commit : Option Nat) : Node :=
  let index := node.replica.chosenIndex
  if indexBelow index commit then node.pullGap sender
  else
    let served :=
      if indexBelow commit index then
        node.serveCatchup sender ((commit.map (· + 1)).getD 0)
      else node
    { served with pullBeats := 0 }

def onHeartbeat (sender : NodeId) (ballot : Ballot) (commit : Option Nat)
    (config : Option AcceptorConfig) (fence : Option Nat)
    : Node :=
  if !node.inPool sender then node
  else
    let acked :=
      if node.acceptor.promised ≤ ballot then
        (node.heedLeader sender).ackHeartbeat sender ballot config fence
      else node
    acked.compareCommit sender commit

def onHeartbeatAck (sender : NodeId) (ballot : Ballot) (chosen : Option Nat) : Node :=
  if !node.acceptors.contains sender || node.role ≠ .leader || ballot ≠ node.ballot then node
  else
    { node with proposer := { node.proposer with
        authority := node.proposer.authority.credit sender } }.notePeerChosen sender chosen

-- Quorum reads

def quorumReadIn (ctx : Ctx) (row : Option Nat) : Node :=
  match node.currentReadBasis with
  | none => node
  | some basis =>
    let row := basis.config.readRow ctx row
    let own :=
      if basis.config.isPhase1Addressee node.me row then
        some (node.me, node.acceptor.voteWatermark)
      else none
    let (reads, addressees) := node.quorumReads.openRead ctx row basis node.tickCount own
    let asked := addressees.foldl
      (fun node addressee => node.send addressee (.preRead node.me ctx))
      { node with quorumReads := reads }
    asked.serveQuorumReads

def onPreRead (replyTo : NodeId) (ctx : Ctx) : Node :=
  if !node.inPool replyTo then node
  else if node.hasMatchmakers && node.beliefSource = .bootstrap then node
  else
    node.send replyTo
      (.preReadAck node.me ctx node.acceptor.voteWatermark node.wireConfigSince)

def onPreReadAck (sender : NodeId) (ctx : Ctx) (watermark : Option Nat)
    (configSince : Option Ballot)
    : Node :=
  if !node.inPool sender then node
  else
    let filled := node.fillToWatermark watermark
    let (reads, fold) := filled.quorumReads.fold ctx sender watermark configSince
    let folded := { filled with quorumReads := reads }
    match fold with
    | .counted => folded.serveQuorumReads
    | _ => folded

def tickQuorumReads : Node :=
  { node with
    quorumReads := node.quorumReads.expire node.tickCount node.limits.readWindow }.serveQuorumReads

-- Handoffs

/-- The longest tail a handoff carries (the source's `HANDOFF_BATCH`). -/
def handoffBatch : Nat := 64

/-- How many election timeouts an inherited tail may stay open (`HANDOFF_FENCE_ELECTIONS`). -/
def handoffFenceElections : Nat := 3

structure Handoff where
  recipient : NodeId
  ballot : Ballot
  fromSlot : Nat
  nextSlot : Nat
  decided : Nat
  pending : Nat

/-- Whether the decided and pending slots tile the tail. -/
def tailShapeValid (ballot : Ballot) (fromSlot nextSlot : Nat)
    (decided : SlotMap (Ballot × Command)) (pending : SlotMap Command)
    : Bool :=
  fromSlot ≤ nextSlot
    && decided.size + pending.size == nextSlot - fromSlot
    && decided.size + pending.size ≤ handoffBatch
    && decided.keys.all (fun slot => (pending[slot]?).isNone)
    && decided.toList.all (fun (_, record) => record.1 ≤ ballot)
    && (decided.keys ++ pending.keys).all (fun slot => fromSlot ≤ slot && slot < nextSlot)

def canRelinquish : Bool :=
  node.role = .leader
    && node.leadershipOrigin = .elected
    && 1 < node.acceptors.members.length
    && node.proposer.election.isNone
    && node.matchmaking.isNone
    && node.leadershipSettled
    && node.acceptor.faulty.isEmpty
    && node.acceptor.promised ≤ node.ballot
    && node.proposer.nextSlot - node.firstUnchosen ≤ handoffBatch

/-- The tail a handoff describes: each slot decided, with its record, or pending, with its round.
A slot that is neither aborts it.
-/
def handoffTail
    : Nat → Nat → SlotMap (Ballot × Command) × SlotMap Command
      → Option (SlotMap (Ballot × Command) × SlotMap Command)
  | 0, _, tail => some tail
  | slots + 1, slot, (decided, pending) =>
    if node.replica.isChosen slot then
      (node.acceptor.records[slot]?).bind fun record =>
        handoffTail slots (slot + 1) (decided.insert slot record, pending)
    else
      (node.proposer.rounds.bySlot[slot]?).bind fun round =>
        handoffTail slots (slot + 1) (decided, pending.insert slot round.command)

def relinquishTo (target : NodeId) : Node × Option Handoff :=
  if !node.canRelinquish || target = node.me || !node.acceptors.contains target then (node, none)
  else
    let fromSlot := node.firstUnchosen
    let nextSlot := node.proposer.nextSlot
    match node.handoffTail (nextSlot - fromSlot) fromSlot (∅, ∅) with
    | none => (node, none)
    | some (decided, pending) =>
      ((node.send target (.relinquish node.me target node.ballot fromSlot nextSlot decided pending
        node.wireConfig node.priorInForce)).becomeFollower (some target),
        some ⟨target, node.ballot, fromSlot, nextSlot, decided.size, pending.size⟩)

/-- Whether a handoff names a configuration exactly where this deployment needs one. -/
def handoffConfigValid (config : Option AcceptorConfig) (prior : List AcceptorConfig) : Bool :=
  match node.hasMatchmakers, config with
  | false, none => prior.isEmpty
  | true, some config =>
    config.isDrawnFrom node.pool
      && prior.all fun other => other ≠ config && other.isDrawnFrom node.pool
  | _, _ => false

/-- Take the office of a ballot that its minter handed off. -/
def inheritOffice (sender : NodeId) (ballot : Ballot) (nextSlot : Nat)
    (config : Option AcceptorConfig)
    : Node :=
  let leading := { node with role := .leader, leader := some node.me, ballot := ballot }
  let adopted :=
    match config with
    | some config => leading.adoptConfiguration config ballot
    | none => leading
  { adopted with
    leadershipOrigin := .handoff sender
    electionElapsed := 0
    handoffFenceElapsed := 0
    proposer := { adopted.proposer.abandon with nextSlot := nextSlot }.openAuthority
      (fenceBelow nextSlot) (if adopted.isAcceptor then some adopted.me else none) }

/-- Learn the decided part of a handed-off tail. -/
def learnTail (decided : SlotMap (Ballot × Command)) : Node :=
  decided.toList.foldl (fun node (slot, ballot, command) => node.markChosen slot command ballot)
    node

/-- Start to close the pending part of a handed-off tail. -/
def inheritTail (fromSlot nextSlot : Nat) (pending : SlotMap Command) : Node :=
  { node with proposer := { node.proposer with
      recovery := some {
        recovered := pending
        blocked := ∅
        cursor := max fromSlot node.firstUnchosen
        stop := nextSlot
        policy := .inherited } } }

/-- Take over a ballot that its minter handed off, with the tail it described. -/
def installHandoff (sender : NodeId) (ballot : Ballot) (fromSlot nextSlot : Nat)
    (decided : SlotMap (Ballot × Command)) (pending : SlotMap Command)
    (config : Option AcceptorConfig) (prior : List AcceptorConfig)
    : Node :=
  let stepped := if node.role ≠ .follower then node.becomeFollower none else node
  let seated := ((stepped.setPromise ballot).inheritOffice sender ballot nextSlot config).baseReads
  let pumped :=
    ((seated.learnTail decided).inheritTail fromSlot nextSlot pending).pumpLeaderRecovery
  if pumped.hasMatchmakers then pumped.openGc prior else pumped

def onRelinquish (sender recipient : NodeId) (ballot : Ballot) (fromSlot nextSlot : Nat)
    (decided : SlotMap (Ballot × Command)) (pending : SlotMap Command)
    (config : Option AcceptorConfig) (prior : List AcceptorConfig)
    : Node :=
  if recipient ≠ node.me || sender = node.me || !node.inPool sender
      || !node.inPool ballot.node then
    node
  else if ballot < node.acceptor.promised
      || (node.role = .leader && node.ballot = ballot)
      || nextSlot < node.proposer.nextSlot || nextSlot < node.firstUnchosen then
    node
  else if !tailShapeValid ballot fromSlot nextSlot decided pending
      || !node.handoffConfigValid config prior then
    node
  else if !node.acceptor.faulty.isEmpty then node
  else node.installHandoff sender ballot fromSlot nextSlot decided pending config prior

/-- A leader by handoff that cannot close its tail steps down. -/
def tickHandoffFence : Node :=
  match node.role, node.leadershipOrigin with
  | .leader, .handoff _ =>
    if node.proposer.authority.fence.all fun fence => node.replica.chosenIndex.any (fence ≤ ·) then
      { node with handoffFenceElapsed := 0 }
    else if node.electionTimeout = 0 then node
    else
      let waited := { node with handoffFenceElapsed := node.handoffFenceElapsed + 1 }
      if node.electionTimeout * handoffFenceElections ≤ waited.handoffFenceElapsed then
        waited.becomeFollower none
      else waited
  | _, _ => node

end Node

end Paros
