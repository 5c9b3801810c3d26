import Paros.Library.OrderedMap
import Paros.Membership.AcceptorConfig

/-! The matchmaker plane as a node sees it: registration requests and replies, the tally of one
matchmaking phase, the membership probe and the collector of retired configurations.
-/

namespace Paros

/-- The most registrations one page may carry (the source's `REGISTRY_PAGE`). -/
def registryPage : Nat := 64

inductive RegistrationKind where
  | belief
  | reconfiguration
  deriving DecidableEq

/-- A configuration registered at a ballot, and whether it changes the membership. -/
structure Registration where
  config : AcceptorConfig
  kind : RegistrationKind
  deriving DecidableEq

abbrev BallotMap (α : Type) := OrderedMap Ballot α

inductive MatchPurpose where
  | register (kind : RegistrationKind)
  | probe
  deriving DecidableEq

structure MatchRequest where
  sender : NodeId
  journal : JournalId
  ballot : Ballot
  config : AcceptorConfig
  purpose : MatchPurpose
  generation : Nat
  fromBallot : Option Ballot
  deriving DecidableEq

inductive MatchRefusal where
  | stale (highest : Ballot)
  | belowWatermark (watermark : Ballot)
  | stopped (successor : Option MatchmakerSet)
  | generation (current : MatchmakerSet)
  | inactive
  deriving DecidableEq

/-- One page of a matchmaker's registrations below the ballot it registered. -/
structure RegisteredPage where
  fromBallot : Ballot
  history : BallotMap Registration
  nextFromBallot : Option Ballot
  gcWatermark : Ballot
  effective : Option (Ballot × AcceptorConfig)

inductive MatchOutcome where
  | registered (page : RegisteredPage)
  | probed (effective : Option (Ballot × AcceptorConfig))
  | refused (refusal : MatchRefusal)

structure MatchReply where
  matchmaker : MatchmakerId
  journal : JournalId
  recipient : NodeId
  ballot : Ballot
  generation : Nat
  outcome : MatchOutcome

structure GcRequest where
  sender : NodeId
  journal : JournalId
  generation : Nat
  watermark : Ballot
  deriving DecidableEq

structure GcAck where
  matchmaker : MatchmakerId
  journal : JournalId
  generation : Nat
  applied : Bool
  watermark : Ballot
  newer : Option MatchmakerSet
  stopped : Bool
  deriving DecidableEq

/-- Keep the registration of the highest ballot. -/
def raiseEffective (held : Option (Ballot × AcceptorConfig)) (ballot : Ballot)
    (config : AcceptorConfig)
    : Option (Ballot × AcceptorConfig) :=
  if held.all fun (known, _) => known < ballot then some (ballot, config) else held

/-- Add a configuration to a list of distinct ones. -/
def appendNew (kept : List AcceptorConfig) (config : AcceptorConfig) : List AcceptorConfig :=
  if config ∈ kept then kept else kept ++ [config]

-- The tally of one matchmaking phase

inductive MatchFold where
  | ignored
  | paged (next : Ballot)
  | registered
  deriving DecidableEq

/-- A candidate's registration in progress. The source's count of disagreeing registrations
only feeds a report and is left out.
-/
structure Matchmaking where
  ballot : Ballot
  config : AcceptorConfig
  kind : RegistrationKind
  registeredBy : Finset MatchmakerId
  pageNext : OrderedMap MatchmakerId Ballot
  history : BallotMap (List AcceptorConfig)
  effective : Option (Ballot × AcceptorConfig)
  watermark : Ballot

namespace Matchmaking

def new (ballot : Ballot) (config : AcceptorConfig) (kind : RegistrationKind) : Matchmaking where
  ballot := ballot
  config := config
  kind := kind
  registeredBy := ∅
  pageNext := ∅
  history := ∅
  effective := none
  watermark := .zero

def accepts (tally : Matchmaking) (matchmaker : MatchmakerId) (page : RegisteredPage) : Bool :=
  matchmaker ∉ tally.registeredBy
    && (tally.pageNext[matchmaker]?).all (fun expected =>
      page.fromBallot == expected
        || (expected < page.fromBallot && page.fromBallot == page.gcWatermark))
    && page.history.size ≤ registryPage
    && page.history.keys.all (page.fromBallot ≤ ·)
    && page.nextFromBallot.all fun next =>
      !page.history.isEmpty && page.fromBallot < next
        && (OrderedMap.lastKey? page.history).all (· < next)

/-- Add one registration to the union of the matchmakers' histories. -/
def addRegistration (history : BallotMap (List AcceptorConfig)) (ballot : Ballot)
    (config : AcceptorConfig)
    : BallotMap (List AcceptorConfig) :=
  let known := (history[ballot]?).getD []
  if config ∈ known then history else history.insert ballot (known ++ [config])

def fold (tally : Matchmaking) (matchmaker : MatchmakerId) (page : RegisteredPage)
    : Matchmaking × MatchFold :=
  if !tally.accepts matchmaker page then (tally, .ignored)
  else
    let registrations := page.history.toList
    let history := registrations.foldl
      (fun history (ballot, registration) => addRegistration history ballot registration.config)
      tally.history
    let raised := registrations.foldl
      (fun effective (ballot, registration) =>
        if registration.kind = .reconfiguration then
          raiseEffective effective ballot registration.config
        else effective)
      tally.effective
    let effective :=
      match page.effective with
      | some (ballot, config) => raiseEffective raised ballot config
      | none => raised
    let folded := { tally with
      history := history
      effective := effective
      watermark := max tally.watermark page.gcWatermark }
    match page.nextFromBallot with
    | some next =>
      ({ folded with pageNext := folded.pageNext.insert matchmaker next }, .paged next)
    | none =>
      ({ folded with
          pageNext := folded.pageNext.erase matchmaker
          registeredBy := insert matchmaker folded.registeredBy },
        .registered)

def quorumHeld (tally : Matchmaking) (matchmakers : MatchmakerSet) : Bool :=
  matchmakers.hasQuorum tally.registeredBy

def unanswered (tally : Matchmaking) (matchmakers : MatchmakerSet)
    : List (MatchmakerId × Option Ballot) :=
  (matchmakers.unanswered tally.registeredBy).map fun matchmaker =>
    (matchmaker, tally.pageNext[matchmaker]?)

/-- The distinct configurations at or above the watermark, in ballot order. -/
def prior (tally : Matchmaking) : List AcceptorConfig :=
  (OrderedMap.startingAt tally.watermark tally.history).toList.foldl
    (fun prior (_, configs) => configs.foldl appendNew prior) []

/-- The newest reconfiguration, where the campaign registered another configuration only because
it believed it was current.
-/
def staleBelief (tally : Matchmaking) : Option (Ballot × AcceptorConfig) :=
  if tally.kind = .reconfiguration then none
  else tally.effective.filter fun (_, config) => config ≠ tally.config

end Matchmaking

-- The membership probe

/-- A node's question to the matchmakers about the current membership. -/
structure MembershipProbe where
  ballot : Ballot
  believed : AcceptorConfig
  answered : Finset MatchmakerId
  effective : Option (Ballot × AcceptorConfig)

namespace MembershipProbe

def new (ballot : Ballot) (believed : AcceptorConfig) : MembershipProbe :=
  ⟨ballot, believed, ∅, none⟩

def fold (probe : MembershipProbe) (matchmaker : MatchmakerId)
    (effective : Option (Ballot × AcceptorConfig))
    : Option MembershipProbe :=
  if matchmaker ∈ probe.answered then none
  else some { probe with
    answered := insert matchmaker probe.answered
    effective :=
      match effective with
      | some (ballot, config) => raiseEffective probe.effective ballot config
      | none => probe.effective }

def quorumHeld (probe : MembershipProbe) (matchmakers : MatchmakerSet) : Bool :=
  matchmakers.hasQuorum probe.answered

end MembershipProbe

-- The collector

inductive GcStep where
  | ignored
  | acked (remaining : Nat)
  | frozen (generation : Nat)
  | effective (watermark : Ballot) (retired : List NodeId)
  deriving DecidableEq

/-- A leader's collection of the configurations its win superseded. -/
structure Collector where
  generation : Nat
  fence : Option Nat
  priorMembers : List NodeId
  prior : List AcceptorConfig
  peerChosen : OrderedMap NodeId Nat
  requested : Bool
  ackedBy : Finset MatchmakerId
  effective : Option (Ballot × List NodeId)

namespace Collector

def new (generation : Nat) (fence : Option Nat) (prior : List AcceptorConfig) : Collector where
  generation := generation
  fence := fence
  priorMembers := (prior.flatMap AcceptorConfig.members).dedup.insertionSort (· ≤ ·)
  prior := prior.foldl appendNew []
  peerChosen := ∅
  requested := false
  ackedBy := ∅
  effective := none

variable (collector : Collector)

def noteChosen (node : NodeId) : Option Nat → Collector
  | some chosen =>
    let known := ((collector.peerChosen[node]?).getD chosen)
    { collector with peerChosen := collector.peerChosen.insert node (max known chosen) }
  | none => collector

def reached (chosen : Option Nat) : Bool :=
  collector.fence.all fun fence => chosen.any (fence ≤ ·)

/-- Whether a Phase-2 quorum is known to hold everything up to the fence. -/
def covered (config : AcceptorConfig) (own : Option (NodeId × Option Nat))
    : Bool :=
  let me := own.map Prod.fst
  let holders := config.members.filter fun member =>
    me ≠ some member && collector.reached collector.peerChosen[member]?
  let self := (own.filter fun (_, chosen) => collector.reached chosen).map Prod.fst
  config.hasPhase2Quorum (self.toFinset ∪ holders.toFinset)

def resetForGeneration (generation : Nat) : Collector :=
  if collector.effective.isNone && collector.generation != generation then
    { collector with requested := false, ackedBy := ∅, generation := generation }
  else collector

def foldAck (ack : GcAck) (matchmakers : MatchmakerSet) (ballot : Ballot) (config : AcceptorConfig)
    : Collector × GcStep :=
  if !collector.requested || collector.effective.isSome
      || ack.generation != matchmakers.generation
      || collector.generation != matchmakers.generation then
    (collector, .ignored)
  else if ack.watermark < ballot then (collector, .ignored)
  else if ack.matchmaker ∈ collector.ackedBy then (collector, .ignored)
  else
    let acked := { collector with ackedBy := insert ack.matchmaker collector.ackedBy }
    if !matchmakers.hasQuorum acked.ackedBy then
      (acked, .acked (matchmakers.remaining acked.ackedBy))
    else
      let retired := acked.priorMembers.filter fun node => !config.contains node
      ({ acked with effective := some (ballot, retired) }, .effective ballot retired)

end Collector

end Paros
