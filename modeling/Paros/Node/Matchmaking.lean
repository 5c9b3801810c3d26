import Paros.Node.Handlers

/-! The matchmaker plane on a node: replies to registrations and probes, acknowledged
collections, reconfiguration and the learning of matchmaker generations.
-/

namespace Paros

inductive MatchStep where
  | ignored
  | registered (remaining : Nat)
  | paged (next : Ballot)
  | completed (prior : List AcceptorConfig) (watermark : Ballot) (registeredBy : Nat)
  | refused (refusal : MatchRefusal)
  | superseded (set : MatchmakerSet)
  | staleConfiguration (newest : Ballot)
  | probeAnswered
  | unknownMember
  | probeClosed (effective : Option Ballot) (member : Bool) (answeredBy : Nat)
  | probeLate (effective : Option Ballot) (member : Bool)

inductive ReconfigureRefusal where
  | noMatchmakers
  | unchanged
  | unknownMember
  | unsettled
  | roundExhausted
  deriving DecidableEq

inductive ReconfigureResult where
  | notLeader (leader : Option NodeId)
  | refused (refusal : ReconfigureRefusal)
  | started (ballot : Ballot)
  deriving DecidableEq

namespace Node

variable (node : Node)

-- Generations of matchmakers

def resetGcForGeneration : Node :=
  { node with
    gc := node.gc.map (Collector.resetForGeneration · node.generation) }.tryGc

/-- Adopt a later generation of matchmakers, where the pool knows its members. -/
def learnMatchmakers (set : MatchmakerSet) : Node × Bool :=
  match node.matchmakers with
  | none => (node, false)
  | some believed =>
    if set.generation ≤ believed.generation || !set.members.all (· ∈ node.matchmakerPool) then
      (node, false)
    else
      let learned := { node with matchmakers := some set, probe := none }
      let stepped := if learned.matchmaking.isSome then learned.becomeFollower none else learned
      (stepped.resetGcForGeneration, true)

def foldRefusal (refusal : MatchRefusal) : Node × MatchStep :=
  let floor :=
    match refusal with
    | .stale highest => max node.roundFloor highest.round
    | .belowWatermark watermark => max node.roundFloor watermark.round
    | _ => node.roundFloor
  let successor :=
    match refusal with
    | .stopped successor => successor
    | .generation current =>
      if node.matchmakers.any (·.generation < current.generation) then some current else none
    | _ => none
  let stepped := { node with roundFloor := floor }.becomeFollower none
  match successor with
  | none => (stepped, .refused refusal)
  | some set =>
    let (learned, adopted) := stepped.learnMatchmakers set
    (learned, if adopted then .superseded set else .refused refusal)

-- Registrations

/-- Registrations at or below this ballot are older than what the node already acts on. -/
def probeFloor : Ballot := max node.beliefFact ((node.readBasis.map ReadBasis.since).getD .zero)

/-- Act on a tally that a matchmaker quorum has answered in full. -/
def closeMatchmaking (tally : Matchmaking) : Node × MatchStep :=
  if tally.staleBelief.any (fun (_, config) => !config.isDrawnFrom node.pool)
      || tally.prior.any (!·.isDrawnFrom node.pool) then
    ({ node with matchmaking := none }.becomeFollower none, .unknownMember)
  else
    let stale := tally.staleBelief.filter fun (newest, config) =>
      node.probeFloor < newest || node.readBasis.map ReadBasis.config = some config
    match stale with
    | some (newest, config) =>
      (((node.adoptConfiguration config newest).bindFact newest).becomeFollower none,
        .staleConfiguration newest)
    | none =>
      ({ node with matchmaking := none }.startPhase1 tally.config tally.prior,
        .completed tally.prior tally.watermark tally.registeredBy.card)

def foldRegistration (matchmaker : MatchmakerId) (page : RegisteredPage) : Node × MatchStep :=
  match node.matchmakers, node.matchmaking with
  | some matchmakers, some tally =>
    let (tally, fold) := tally.fold matchmaker page
    let folded := { node with matchmaking := some tally }
    match fold with
    | .ignored => (node, .ignored)
    | .paged next =>
      ({ folded with pendingMatchRequests := folded.pendingMatchRequests
          ++ [(matchmaker, node.phaseRequest tally matchmakers.generation (some next))] },
        .paged next)
    | .registered =>
      if tally.quorumHeld matchmakers then folded.closeMatchmaking tally
      else (folded, .registered (matchmakers.remaining tally.registeredBy))
  | _, _ => (node, .ignored)

-- Membership probes

/-- Take over a probed membership that is newer than what the node acts on. -/
def hearProbed (effective : Option (Ballot × AcceptorConfig)) : Node :=
  let adopted :=
    match effective.filter fun (ballot, _) => node.probeFloor < ballot with
    | some (ballot, config) =>
      (node.adoptConfiguration config (max ballot node.acceptorsSince)).bindFact ballot
    | none => node
  { adopted with beliefSource := .heard }

/-- Take over a probed membership and campaign if it includes this node. -/
def adoptProbed (effective : Option (Ballot × AcceptorConfig)) : Node × Option Ballot × Bool :=
  let heard := node.hearProbed effective
  let since := if heard.acceptorsSince = .zero then none else some heard.acceptorsSince
  if heard.isAcceptor then (heard.campaign .belief heard.acceptors, since, true)
  else (heard, since, false)

def foldProbeAnswer (matchmaker : MatchmakerId) (effective : Option (Ballot × AcceptorConfig))
    : Node × MatchStep :=
  match node.probe, node.matchmakers with
  | some probe, some matchmakers =>
    match probe.fold matchmaker effective with
    | none => (node, .ignored)
    | some folded =>
      if !folded.quorumHeld matchmakers then
        ({ node with probe := some folded }, .probeAnswered)
      else
        let closed := { node with probe := none }
        if folded.effective.any fun (_, config) => !config.isDrawnFrom node.pool then
          (closed, .unknownMember)
        else
          let (adopted, since, member) := closed.adoptProbed folded.effective
          (if member then adopted else { adopted with closedProbe := some folded.ballot },
            .probeClosed since member folded.answered.card)
  | _, _ => (node, .ignored)

/-- A late answer can still tell an idle outsider of a newer membership. -/
def foldLateProbeAnswer (effective : Option (Ballot × AcceptorConfig)) : Node × MatchStep :=
  let outside := node.beliefSource = .heard && !node.isAcceptor
  let idle := node.role = .follower && node.matchmaking.isNone && node.probe.isNone
  let newer := effective.any fun (ballot, _) => node.probeFloor < ballot
  let drawn := effective.any fun (_, config) => config.isDrawnFrom node.pool
  if !outside || !idle || !newer || !drawn then (node, .ignored)
  else
    let (adopted, since, member) := node.adoptProbed effective
    (adopted, .probeLate since member)

def foldOutsideAnswer (matchmaker : MatchmakerId) (ballot : Ballot) (outcome : MatchOutcome)
    : Node × MatchStep :=
  match outcome with
  | .refused (.generation current) =>
    let later := node.generation < current.generation
      && current.members.all (· ∈ node.matchmakerPool)
    let probing := node.probe.any (·.ballot == ballot)
    if later && probing && matchmaker ∈ node.matchmakerPool then
      { node with probe := none }.foldRefusal (.generation current)
    else (node, .ignored)
  | _ => (node, .ignored)

def onMatchReply (reply : MatchReply) : Node × MatchStep :=
  match node.matchmakers with
  | none => (node, .ignored)
  | some matchmakers =>
    if reply.journal ≠ node.config.journal || reply.recipient ≠ node.me then (node, .ignored)
    else if !matchmakers.contains reply.matchmaker then
      node.foldOutsideAnswer reply.matchmaker reply.ballot reply.outcome
    else if reply.generation ≠ matchmakers.generation then (node, .ignored)
    else if node.probe.isNone && node.closedProbe = some reply.ballot then
      match reply.outcome with
      | .probed effective => node.foldLateProbeAnswer effective
      | _ => (node, .ignored)
    else if node.probe.any (·.ballot == reply.ballot) then
      match reply.outcome with
      | .probed effective => node.foldProbeAnswer reply.matchmaker effective
      | .refused refusal => { node with probe := none }.foldRefusal refusal
      | .registered _ => (node, .ignored)
    else if node.matchmaking.all (·.ballot != reply.ballot) then (node, .ignored)
    else
      match reply.outcome with
      | .registered page => node.foldRegistration reply.matchmaker page
      | .refused refusal => node.foldRefusal refusal
      | .probed _ => (node, .ignored)

def resendMatchmaking : Node := node.queueMatchRequests.queueProbeRequests false

-- Collection and reconfiguration

def onGcAck (ack : GcAck) : Node × GcStep :=
  match node.matchmakers with
  | none => (node, .ignored)
  | some believed =>
    if node.role ≠ .leader || !believed.contains ack.matchmaker
        || ack.journal ≠ node.config.journal then
      (node, .ignored)
    else
      let newer := ack.newer.filter fun set => !ack.applied && ack.generation < set.generation
      let (learned, adopted) :=
        match newer with
        | some set => node.learnMatchmakers set
        | none => (node, false)
      if adopted then (learned, .ignored)
      else if !ack.applied && ack.stopped then
        (node, if believed.generation = ack.generation then .frozen ack.generation else .ignored)
      else
        match node.gc with
        | none => (node, .ignored)
        | some gc =>
          let (gc, step) := gc.foldAck ack believed node.ballot node.acceptors
          ({ node with gc := some gc }, step)

def reconfigure (config : AcceptorConfig) : Node × ReconfigureResult :=
  if node.role ≠ .leader then (node, .notLeader node.leader)
  else if !node.hasMatchmakers then (node, .refused .noMatchmakers)
  else if !config.isDrawnFrom node.pool then (node, .refused .unknownMember)
  else if config = node.acceptors then (node, .refused .unchanged)
  else if !node.leadershipSettled || node.ballot < node.acceptor.promised then
    (node, .refused .unsettled)
  else if node.nextCampaignRound.isNone then (node, .refused .roundExhausted)
  else
    let started := node.campaign .reconfiguration config
    (started, .started started.ballot)

end Node

end Paros
