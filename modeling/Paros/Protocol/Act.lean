import Paros.Protocol.Core

/-! The elementary acts of a node: what each may change, and what entitles the node to it. Every
call of the code is a sequence of them.
-/

namespace Paros

open Node (Input)

/-- A proposer that holds no more than another: rounds, a probe's slots, a recovery or an
election may have been dropped, and counters may have moved.
-/
structure Proposer.Lessens (later earlier : Proposer Command) : Prop where
  election : later.election = earlier.election ∨ later.election = none
  recovery : later.recovery = earlier.recovery ∨ later.recovery = none
  probe : ∀ {kept}, later.probe = some kept → ∃ held, earlier.probe = some held
    ∧ kept.promises = held.promises ∧ kept.prior = held.prior ∧ kept.blocked ⊆ held.blocked
    ∧ ∀ slot ∈ kept.blocked, kept.bestHave[slot]? = held.bestHave[slot]?
      ∧ kept.faultyReports[slot]? = held.faultyReports[slot]?
  rounds : ∀ {slot : Nat} {kept : Round Command}, later.rounds.bySlot[slot]? = some kept
    → ∃ held : Round Command, earlier.rounds.bySlot[slot]? = some held ∧ kept.ballot = held.ballot
      ∧ kept.command = held.command ∧ kept.acceptedBy ⊆ held.acceptedBy
  nextSlot : later.nextSlot = earlier.nextSlot
  fence : later.authority.fence = earlier.authority.fence

namespace Proposer

theorem Lessens.refl (proposer : Proposer Command) : proposer.Lessens proposer where
  election := Or.inl rfl
  recovery := Or.inl rfl
  probe same := ⟨_, same, rfl, rfl, subset_rfl, fun _ _ => ⟨rfl, rfl⟩⟩
  rounds same := ⟨_, same, rfl, rfl, subset_rfl⟩
  nextSlot := rfl
  fence := rfl

/-- Rounds that were only dropped hold no more than before. -/
theorem Lessens.ofRounds {proposer : Proposer Command} {rounds : Rounds Command}
    (dropped : ∀ {slot : Nat} {kept : Round Command}, rounds.bySlot[slot]? = some kept
      → proposer.rounds.bySlot[slot]? = some kept)
    : ({ proposer with rounds := rounds } : Proposer Command).Lessens proposer :=
  { Lessens.refl proposer with
    rounds := fun same => ⟨_, dropped same, rfl, rfl, subset_rfl⟩ }

/-- A probe that forgot slots holds no more than before. -/
theorem Lessens.ofKeepSlots {proposer : Proposer Command} {probe : RepairProbe Command}
    (held : proposer.probe = some probe) (keep : Nat → Bool)
    : ({ proposer with probe := probe.keepSlots keep } : Proposer Command).Lessens proposer :=
  { Lessens.refl proposer with
    probe := by
      intro kept filtered
      obtain ⟨promises, prior, blocked, same⟩ := RepairProbe.of_keepSlots filtered
      exact ⟨probe, held, promises, prior, fun slot member => ((blocked slot).mp member).1,
        fun slot member => same slot ((blocked slot).mp member).2⟩ }

theorem probeResolvedElsewhere_lessens (proposer : Proposer Command) (slot : Nat)
    : (proposer.probeResolvedElsewhere slot).Lessens proposer := by
  unfold probeResolvedElsewhere RepairProbe.resolvedElsewhere
  cases held : proposer.probe with
  | none => exact { Lessens.refl proposer with probe := by simp }
  | some probe =>
    simp only [Option.bind_some]
    split
    · exact .ofKeepSlots held _
    · have same : ({ proposer with probe := some probe } : Proposer Command) = proposer := by
        rw [← held]
      rw [same]
      exact .refl proposer

end Proposer

namespace Core

/-- The messages a node may send, and to whom. -/
inductive Speaks (input : Input) (core : Core) : Audience → Message → Prop
  | prepare {audience ballot fromSlot}
      (asks : (∃ election, core.proposer.election = some election
          ∧ election.promises.ballot = ballot)
        ∨ ∃ probe, core.proposer.probe = some probe ∧ probe.promises.ballot = ballot)
      : Speaks input core audience
        (.prepare core.me ballot fromSlot (core.wireConfigOf core.phase1Config))
  | promise {replyTo ballot fromSlot config} (limit : Nat)
      (asked : input = .deliver (.prepare replyTo ballot fromSlot config))
      (promised : core.acceptor.promised = ballot) (heeded : ballot ≤ core.ballot)
      (retained : core.acceptor.firstSlot ≤ fromSlot)
      (followed : core.matched → ∀ carried, config = some carried
        → carried.isDrawnFrom core.pool → ballot ≤ core.since)
      : Speaks input core (.node replyTo) (.promise core.me ballot fromSlot
        (core.acceptor.promisePage fromSlot limit).accepted
        (core.acceptor.promisePage fromSlot limit).faulty
        (core.acceptor.promisePage fromSlot limit).nextFromSlot)
  | accept {audience slot round} (isOpen : core.proposer.rounds.bySlot[slot]? = some round)
      : Speaks input core audience
        (.accept core.me core.me round.ballot slot round.command none)
  | accepted {audience ballot slot} (voted : (slot, ballot) ∈ core.notes.votes)
      : Speaks input core audience (.accepted core.me ballot slot)
  | nack {audience ballot slot} : Speaks input core audience (.nack core.me ballot slot)
  | commit {audience ballot slot command} (known : (slot, ballot, command) ∈ core.notes.known)
      : Speaks input core audience (.commit core.me ballot slot command)
  | catchUpRequest {audience fromSlot}
      : Speaks input core audience (.catchUpRequest core.me fromSlot)
  | catchUpResponse {audience entries}
      (asked : (∃ sender fromSlot, input = .deliver (.catchUpRequest sender fromSlot))
        ∨ ∃ sender ballot commit config fence,
          input = .deliver (.heartbeat sender ballot commit config fence))
      (chosen : ∀ {slot : Nat} {ballot : Ballot} {command : Command},
        entries[slot]? = some (ballot, command) → core.replica.chosen[slot]? = some command
          ∧ ballot = ((core.acceptor.records[slot]?).map Prod.fst).getD core.ballot)
      : Speaks input core audience (.catchUpResponse core.me entries)
  | trimmedTo {audience}
      : Speaks input core audience
        (.trimmedTo core.me core.acceptor.firstSlot core.replica.base)
  | heartbeat {audience} (leads : core.role = .leader)
      : Speaks input core audience
        (.heartbeat core.me core.ballot core.replica.chosenIndex (core.wireConfigOf core.acceptors)
          ((core.wireConfigOf core.acceptors).bind fun _ => core.proposer.authority.fence))
  | heartbeatAck {audience ballot} (promised : core.acceptor.promised ≤ ballot)
      : Speaks input core audience (.heartbeatAck core.me ballot
        (if core.matched then core.replica.chosenIndex else none))
  | preRead {audience ctx row} (asked : input = .quorumRead ctx row)
      (isOpen : ∃ read ∈ core.reads, read.ctx = ctx)
      : Speaks input core audience (.preRead core.me ctx)
  | preReadAck {replyTo ctx} (asked : input = .deliver (.preRead replyTo ctx))
      (heard : core.matched → core.source = .heard)
      : Speaks input core (.node replyTo) (.preReadAck core.me ctx core.acceptor.voteWatermark
        (if core.matched then some core.since else none))

/-- What entitles a leader to a Phase-2 round: a grant at its ballot, or a round it already has
open with the same proposal.
-/
def Entitled (core : Core) (slot : Nat) (ballot : Ballot) (command : Command) : Prop :=
  (core.role = .leader ∧ core.ballot = ballot ∧ (slot, command) ∈ core.notes.grants)
  ∨ ∃ round, core.proposer.rounds.bySlot[slot]? = some round ∧ round.ballot = ballot
    ∧ round.command = command

/-- A ballot a node in office may follow without leaving it: its own. -/
def Follows (input : Input) (core : Core) (ballot : Ballot) : Prop :=
  core.role = .follower ∨ ballot ≤ core.ballot
  ∨ (∃ replyTo fromSlot config, input = .deliver (.prepare replyTo ballot fromSlot config)
    ∧ ballot.node = core.me)
  ∨ ∃ replyTo slot command config,
    input = .deliver (.accept replyTo core.me ballot slot command config)

/-- What a configuration learned off the wire came with. -/
def Carries (input : Input) (ballot : Ballot) (config : AcceptorConfig) : Prop :=
  (∃ replyTo fromSlot, input = .deliver (.prepare replyTo ballot fromSlot (some config)))
  ∨ (∃ replyTo leader slot command,
    input = .deliver (.accept replyTo leader ballot slot command (some config)))
  ∨ ∃ sender commit fence, input = .deliver (.heartbeat sender ballot commit (some config) fence)

/-- The acceptors and prior configurations a candidate may open Phase 1 with. -/
def Matches (core : Core) (config : AcceptorConfig) (prior : List AcceptorConfig) : Prop :=
  (core.matchmakers = none ∧ core.role = .candidate ∧ config = core.acceptors
    ∧ prior = [config])
  ∨ ∃ tally set, core.matchmaking = some tally ∧ core.matchmakers = some set
    ∧ tally.quorumHeld set ∧ config = tally.config ∧ prior = tally.prior

/-- A basis a read may ask. -/
def Reads (core : Core) (basis : ReadBasis) : Prop :=
  (core.matched = false ∧ basis = ⟨core.acceptors, core.since, none⟩)
  ∨ (core.matched = true ∧ core.readBasis = some basis ∧ core.since ≤ basis.since)

/-- The first slot a candidate asks about: what its fold waits for, or the first unchosen one. -/
def fromSlot (core : Core) : Nat :=
  (core.replica.foldHole.map (min · core.replica.firstUnchosen)).getD core.replica.firstUnchosen

/-- The slot past everything a winner knows of. -/
def nextSlotAfter (core : Core) (outcome : Phase1Outcome Command) : Nat :=
  max ((([OrderedMap.lastKey? core.acceptor.records,
    outcome.highestReported].reduceOption.max?).map (· + 1)).getD core.replica.firstUnchosen)
    core.replica.firstUnchosen

/-- The recovered commands of slots below the chosen index that this node lacks. -/
def heals (core : Core) (outcome : Phase1Outcome Command) : Set (Nat × Ballot × Command) :=
  { fact | outcome.recovered[fact.1]? = some fact.2 ∧ fact.1 < core.replica.firstUnchosen
    ∧ fact.1 ∉ outcome.blocked ∧ core.replica.isChosen fact.1 = false }

/-- How a node comes to know a slot's chosen command: it was told, a round of its own was
accepted by a Phase-2 quorum, or a leader proposes again in the chosen prefix.
-/
inductive Knows (input : Input) (core : Core) : Nat × Ballot × Command → Prop
  | committed {sender ballot slot command}
      (told : input = .deliver (.commit sender ballot slot command))
      : Knows input core (slot, ballot, command)
  | caughtUp {sender : NodeId} {slot : Nat} {ballot : Ballot} {command : Command}
      {entries : SlotMap (Ballot × Command)}
      (told : input = .deliver (.catchUpResponse sender entries))
      (entry : entries[slot]? = some (ballot, command))
      : Knows input core (slot, ballot, command)
  | decided {slot : Nat} {round : Round Command}
      (isOpen : core.proposer.rounds.bySlot[slot]? = some round)
      (quorum : core.acceptors.hasPhase2QuorumIn round.acceptedBy round.column)
      : Knows input core (slot, round.ballot, round.command)
  | proposedBelow {replyTo leader ballot slot command config}
      (asked : input = .deliver (.accept replyTo leader ballot slot command config))
      (promised : core.acceptor.promised ≤ ballot)
      (retained : core.acceptor.firstSlot ≤ slot) (below : slot < core.replica.firstUnchosen)
      : Knows input core (slot, ballot, command)

/-- Where a read basis may come from: the node's own leadership, or the beat of a leader at or
above its promise.
-/
def Bases (input : Input) (core : Core) (basis : ReadBasis) : Prop :=
  (core.role = .leader ∧ basis = ⟨core.acceptors, core.ballot, core.proposer.authority.fence⟩)
  ∨ ∃ sender commit,
    input = .deliver (.heartbeat sender basis.since commit (some basis.config) basis.fence)
    ∧ core.acceptor.promised ≤ basis.since

/-- What a node may ask a matchmaker: about the membership, or to register its campaign. -/
def Requests (core : Core) (request : MatchRequest) : Prop :=
  request.sender = core.me ∧ request.journal = core.journal
  ∧ (request.purpose = .probe
    ∨ ∃ tally set, core.matchmaking = some tally ∧ core.matchmakers = some set
      ∧ request.purpose = .register tally.kind ∧ request.ballot = tally.ballot
      ∧ request.config = tally.config ∧ request.generation = set.generation)

/-- A reply of a matchmaker of the generation a node believes in. -/
def Answers (input : Input) (core : Core) (set : MatchmakerSet) (reply : MatchReply) : Prop :=
  input = .matchReply reply ∧ core.matchmakers = some set ∧ set.contains reply.matchmaker
  ∧ reply.journal = core.journal ∧ reply.recipient = core.me
  ∧ reply.generation = set.generation

/-- A membership probe that the answer just received completes. -/
def Probed (input : Input) (core : Core) (folded : MembershipProbe) : Prop :=
  ∃ set reply probe effective, core.Answers input set reply ∧ core.probe = some probe
    ∧ probe.ballot = reply.ballot ∧ reply.outcome = .probed effective
    ∧ probe.fold reply.matchmaker effective = some folded ∧ folded.quorumHeld set

/-- A Phase-2 quorum is known to hold everything up to the collector's fence. -/
def Collects (core : Core) (gc : Collector) : Prop :=
  core.role = .leader ∧ core.matched = true
  ∧ core.proposer.recovery = none ∧ core.proposer.probe = none
  ∧ gc.covered core.acceptors
    (if core.acceptors.contains core.me then some (core.me, core.replica.chosenIndex) else none)

/-- Where word of another matchmaker generation may come from. -/
def Hands (input : Input) (set : MatchmakerSet) : Prop :=
  (∃ reply, input = .matchReply reply
    ∧ (reply.outcome = .refused (.stopped (some set))
      ∨ reply.outcome = .refused (.generation set)))
  ∨ ∃ ack, input = .gcAck ack ∧ ack.newer = some set

/-- One elementary act of a node that handles `input`. -/
inductive Act (input : Input) : Core → Core → Prop
  -- the acceptor
  | promise {core : Core} {ballot} (raises : core.acceptor.promised < ballot)
      : Act input core (core.promise ballot)
  | accept {core : Core} {replyTo leader ballot slot command config}
      (asked : input = .deliver (.accept replyTo leader ballot slot command config))
      (promised : core.acceptor.promised = ballot) (retained : core.acceptor.firstSlot ≤ slot)
      : Act input core (core.record slot ballot command)
  | recordKnown {core : Core} {slot ballot command}
      (known : (slot, ballot, command) ∈ core.notes.known)
      (retained : core.acceptor.firstSlot ≤ slot) (promised : ballot ≤ core.acceptor.promised)
      : Act input core (core.record slot ballot command)
  | rewrite {core : Core} {slot : Nat} {ballot : Ballot} {command : Command}
      (held : core.acceptor.records[slot]? = some (ballot, command))
      : Act input core (core.queue [.acceptor (.appendAccepted slot ballot command)])
  | noteVote {core : Core} {slot : Nat} {ballot : Ballot} {command : Command}
      (held : core.acceptor.records[slot]? = some (ballot, command))
      (promised : core.acceptor.promised ≤ ballot)
      : Act input core (core.note (core.notes.vote slot core.acceptor.promised))
  -- the replica
  | know {core : Core} {facts} (known : ∀ fact ∈ facts, core.Knows input fact)
      : Act input core (core.note (core.notes.know facts))
  | learn {core : Core} {slot : Nat} {ballot recorded : Ballot} {command : Command}
      (known : (slot, ballot, command) ∈ core.notes.known)
      (held : core.acceptor.records[slot]? = some (recorded, command))
      (covers : ballot ≤ recorded) (retained : core.acceptor.firstSlot ≤ slot)
      (unknown : core.replica.isChosen slot = false)
      : Act input core (core.learn slot command).walk
  | walk {core : Core} : Act input core core.walk
  | compact {core : Core} {upTo : Nat} (asked : input = .compact upTo)
      : Act input core (core.compact upTo)
  | trim {core : Core} {sender point state}
      (told : input = .deliver (.trimmedTo sender point state))
      (raises : core.acceptor.firstSlot < point)
      : Act input core (core.jump point state).walk
  -- the proposer
  | lessen {core : Core} {proposer} (lessens : proposer.Lessens core.proposer)
      : Act input core { core with proposer := proposer }
  | retire {core : Core} : Act input core core.retire
  | follow {core : Core} {ballot} (follows : core.Follows input ballot)
      : Act input core { core with ballot := max core.ballot ballot }
  | campaign {core : Core} {round kind config}
      (abovePromise : core.acceptor.promised.round < round)
      (aboveBallot : core.ballot.round < round)
      (standing : (kind = .belief ∧ config = core.acceptors)
        ∨ (kind = .reconfiguration ∧ core.matchmakers.isSome ∧ core.role = .leader))
      : Act input core { core.retire.promise ⟨round, core.me⟩ with
          probe := none
          role := .candidate
          ballot := ⟨round, core.me⟩
          matchmaking := if core.matchmakers.isSome then some (.new ⟨round, core.me⟩ config kind)
            else none }
  | openElection {core : Core} {config prior} (standing : core.Matches config prior)
      : Act input core ({ core with matchmaking := none }.setElection
          (.openPhase1 (some core.me) core.ballot config prior core.fromSlot
            core.acceptor.records core.acceptor.faulty))
  | foldElection {core : Core} {sender ballot fromSlot accepted faulty nextFromSlot election}
      (told : input = .deliver (.promise sender ballot fromSlot accepted faulty nextFromSlot))
      (isOpen : core.proposer.election = some election)
      : Act input core (core.setElection
          (election.foldPromise sender ballot fromSlot accepted faulty nextFromSlot).1)
  | foldProbe {core : Core} {sender ballot fromSlot accepted faulty nextFromSlot probe}
      (told : input = .deliver (.promise sender ballot fromSlot accepted faulty nextFromSlot))
      (isOpen : core.proposer.probe = some probe)
      : Act input core (core.setProbe
          (some (probe.foldPromise sender ballot fromSlot accepted faulty nextFromSlot).1))
  | win {core : Core} {election outcome probe} (own : Option NodeId)
      (isOpen : core.proposer.election = some election) (stands : core.role = .candidate)
      (covered : election.covered) (promised : core.acceptor.promised ≤ election.promises.ballot)
      (closed : election.closePhase1 core.replica.isChosen = (outcome, probe))
      (idle : core.notes = .none)
      : Act input core
        { (if core.matched then core.adopt outcome.config outcome.ballot else core) with
          role := .leader
          ballot := outcome.ballot
          proposer := { core.proposer with
            election := none
            probe := probe
            rounds := .empty
            nextSlot := core.nextSlotAfter outcome
            authority := (⟨Node.fenceBelow (core.nextSlotAfter outcome), ∅, 0⟩ : Authority).renew own }
          notes := (core.notes.know (core.heals outcome)).planning {
            recovered := outcome.recovered.map fun _ (record : Ballot × Command) => record.2
            blocked := outcome.blocked
            cursor := 0
            stop := core.nextSlotAfter outcome
            policy := .phase1Backed } }
  | openRecovery {core : Core} {plan : Recovery Command} (planned : core.notes.plan = some plan)
      : Act input core ({ core with
          origin := if plan.policy = RecoveryPolicy.phase1Backed then .elected else core.origin }.setRecovery
        { plan with cursor := max plan.cursor core.replica.firstUnchosen })
  | passRecovery {core : Core} {recovery slot step}
      (next : core.proposer.recovery.bind Recovery.next = some (recovery, slot, step))
      : Act input core (core.setRecovery recovery)
  | takeRecovery {core : Core} {recovery slot step command}
      (next : core.proposer.recovery.bind Recovery.next = some (recovery, slot, step))
      (offered : step = .recovered command ∨ step = .fill ∧ command = .noop)
      (retained : core.acceptor.firstSlot ≤ slot) (unknown : core.replica.isChosen slot = false)
      (unblocked : slot ∉ recovery.blocked) (leads : core.role = .leader)
      : Act input core
        ((core.setRecovery recovery).note (core.notes.grant {(slot, command)}))
  | resolve {core : Core} {probe} (isOpen : core.proposer.probe = some probe)
      : Act input core
        ((core.setProbe probe.resolve.1).note
          (core.notes.grant
            { grant | ∃ decision ∈ probe.resolve.2,
              grant = (decision.slot, decision.command.getD .noop) }))
  | allocate {core : Core} (command : Command) (leads : core.role = .leader)
      (unplanned : core.notes.plan = none)
      : Act input core
        ({ core with proposer := { core.proposer with nextSlot := core.proposer.nextSlot + 1 } }.note
          (core.notes.grant {(core.proposer.nextSlot, command)}))
  | propose {core : Core} {slot round} (audience : Audience) (voted : Bool)
      (entitled : core.Entitled slot round.ballot round.command)
      (votes : ∀ node ∈ round.acceptedBy, node = core.me ∧ voted = true)
      (own : voted = true → core.acceptor.promised = round.ballot)
      (skips : voted = false → round.ballot < core.acceptor.promised)
      : Act input core
        (((if voted then core.record slot round.ballot round.command else core).openRound slot
          round).say audience (.accept core.me core.me round.ballot slot round.command none))
  | count {core : Core} {sender ballot slot round}
      (told : input = .deliver (.accepted sender ballot slot))
      (isOpen : core.proposer.rounds.bySlot[slot]? = some round) (same : round.ballot = ballot)
      : Act input core
        (core.openRound slot { round with acceptedBy := insert sender round.acceptedBy })
  | relinquish {core : Core} {target decided pending} (prior : List AcceptorConfig)
      (leads : core.role = .leader) (elected : core.origin = .elected)
      (promised : core.acceptor.promised ≤ core.ballot) (other : target ≠ core.me)
      (chosen : ∀ {slot : Nat} {record : Ballot × Command}, decided[slot]? = some record
        → core.replica.isChosen slot = true ∧ core.acceptor.records[slot]? = some record)
      (isOpen : ∀ {slot : Nat} {command : Command}, pending[slot]? = some command
        → ∃ round, core.proposer.rounds.bySlot[slot]? = some round ∧ round.command = command)
      : Act input core (core.say (.node target)
          (.relinquish core.me target core.ballot core.replica.firstUnchosen
            core.proposer.nextSlot decided pending (core.wireConfigOf core.acceptors) prior)).retire
  | install {core : Core}
      {sender ballot fromSlot nextSlot decided pending config prior} (own : Option NodeId)
      (told : input = .deliver (.relinquish sender core.me ballot fromSlot nextSlot decided pending
        config prior))
      (vacant : core.role = .follower) (promised : core.acceptor.promised = ballot)
      (fresh : core.proposer.nextSlot ≤ nextSlot) (unlearned : core.replica.firstUnchosen ≤ nextSlot)
      (named : config.isSome = core.matched) (idle : core.notes = .none)
      : Act input core
        { (match config with
            | some config => core.adopt config ballot
            | none => core) with
          role := .leader
          ballot := ballot
          origin := .handoff sender
          proposer := { core.proposer.abandon with
            nextSlot := nextSlot
            authority := (⟨Node.fenceBelow nextSlot, ∅, 0⟩ : Authority).renew own }
          notes := (core.notes.know { fact | decided[fact.1]? = some fact.2 }).planning {
            recovered := pending
            blocked := ∅
            cursor := fromSlot
            stop := nextSlot
            policy := .inherited } }
  -- reads
  | serve {core : Core}
      : Act input core { core with
          reads := (core.reads.serve core.replica.covers).1
          served := core.served ++ (core.reads.serve core.replica.covers).2 }
  | openRead {core : Core} {ctx row basis} (createdTick : Nat)
      (asked : input = .quorumRead ctx row) (based : core.Reads basis)
      : Act input core { core with
          reads := (core.reads.openRead ctx (basis.config.readRow ctx row) basis createdTick
            (if basis.config.isPhase1Addressee core.me (basis.config.readRow ctx row) then
              some (core.me, core.acceptor.voteWatermark) else none)).1 }
  | foldRead {core : Core} {sender ctx watermark configSince}
      (told : input = .deliver (.preReadAck sender ctx watermark configSince))
      : Act input core
        { core with reads := (core.reads.fold ctx sender watermark configSince).1 }
  | dropReads {core : Core} {reads} (fewer : ∀ read ∈ reads, read ∈ core.reads)
      : Act input core { core with reads := reads }
  -- the matchmaker plane
  | adoptCarried {core : Core} {ballot config} (carried : Carries input ballot config)
      (matched : core.matched = true) (newer : core.since < ballot)
      (drawn : config.isDrawnFrom core.pool) (promised : core.acceptor.promised ≤ ballot)
      (follows : core.Follows input ballot)
      : Act input core (core.adopt config ballot)
  | rebase {core : Core} {basis} (based : core.Bases input basis)
      (matched : core.matched = true)
      (newer : core.readBasis.all fun held => held.since ≤ basis.since)
      (drawn : basis.config.isDrawnFrom core.pool)
      : Act input core { core with readBasis := some basis }
  | requestMatch {core : Core} (requests : List (MatchmakerId × MatchRequest))
      (asks : ∀ sent ∈ requests, core.Requests sent.2)
      : Act input core { core with matchRequests := core.matchRequests ++ requests }
  | foldMatch {core : Core} {set reply page tally} (answers : core.Answers input set reply)
      (isOpen : core.matchmaking = some tally) (same : tally.ballot = reply.ballot)
      (registered : reply.outcome = .registered page)
      : Act input core { core with matchmaking := some (tally.fold reply.matchmaker page).1 }
  | adoptStale {core : Core} {set tally newest config} (isOpen : core.matchmaking = some tally)
      (asked : core.matchmakers = some set) (quorum : tally.quorumHeld set)
      (stale : tally.staleBelief = some (newest, config)) (drawn : config.isDrawnFrom core.pool)
      : Act input core { core.adopt config newest with fact := newest }
  | startProbe {core : Core} (ballot : Ballot) (idle : core.role = .follower ∨ core.source = .bootstrap)
      (office : core.role ≠ .leader)
      : Act input core { core with probe := some (.new ballot core.acceptors) }
  | foldMember {core : Core} {set reply probe folded effective}
      (answers : core.Answers input set reply) (isOpen : core.probe = some probe)
      (same : probe.ballot = reply.ballot) (probed : reply.outcome = .probed effective)
      (counted : probe.fold reply.matchmaker effective = some folded)
      : Act input core { core with probe := some folded }
  | closeProbe {core : Core} : Act input core { core with probe := none }
  | adoptProbed {core : Core} {folded ballot config} (probed : core.Probed input folded)
      (effective : folded.effective = some (ballot, config))
      (drawn : config.isDrawnFrom core.pool)
      : Act input core { core.adopt config (max ballot core.since) with fact := ballot }
  | hearProbed {core : Core} {folded} (probed : core.Probed input folded)
      (older : ∀ effective, folded.effective = some effective
        → effective.1 ≤ max core.fact ((core.readBasis.map ReadBasis.since).getD .zero))
      : Act input core { core with probe := none, source := .heard }
  | adoptLate {core : Core} {set reply ballot config} (answers : core.Answers input set reply)
      (probed : reply.outcome = .probed (some (ballot, config)))
      (heard : core.source = .heard) (idle : core.role = .follower)
      (drawn : config.isDrawnFrom core.pool)
      : Act input core { core.adopt config (max ballot core.since) with fact := ballot }
  | learnMatchmakers {core : Core} {believed set} (asked : core.matchmakers = some believed)
      (newer : believed.generation < set.generation) (told : Hands input set)
      : Act input core { core with matchmakers := some set, probe := none }
  | openGc {core : Core} (generation : Nat) (prior : List AcceptorConfig)
      : Act input core
        { core with gc := some (.new generation core.proposer.authority.fence prior) }
  | noteChosen {core : Core} {gc sender chosen} (isOpen : core.gc = some gc)
      (told : input = .deliver (.heartbeatAck sender core.ballot chosen))
      (leads : core.role = .leader)
      : Act input core { core with gc := some (gc.noteChosen sender chosen) }
  | moveGc {core : Core} {gc moved : Collector} (isOpen : core.gc = some gc)
      (fence : moved.fence = gc.fence) (peers : moved.peerChosen = gc.peerChosen)
      (requested : moved.requested → gc.requested)
      : Act input core { core with gc := some moved }
  | requestGc {core : Core} {gc : Collector} (isOpen : core.gc = some gc)
      (covered : core.Collects gc)
      : Act input core { core with gc := some { gc with requested := true } }
  | sendGc {core : Core} {gc : Collector} (generation : Nat)
      (requests : List (MatchmakerId × GcRequest)) (isOpen : core.gc = some gc)
      (requested : gc.requested)
      (asks : ∀ sent ∈ requests,
        sent.2 = (⟨core.me, core.journal, generation, core.ballot⟩ : GcRequest))
      : Act input core { core with gcRequests := core.gcRequests ++ requests }
  | extendPool {core : Core} {pool} (grows : ∀ node ∈ core.pool, node ∈ pool)
      : Act input core { core with pool := pool }
  -- the end of a message and of a call
  | say {core : Core} {audience message} (speaks : core.Speaks input audience message)
      : Act input core (core.say audience message)
  | forget {core : Core} : Act input core (core.note .none)

/-- A sequence of acts. -/
def Acts (input : Input) : Core → Core → Prop := Relation.ReflTransGen (Act input)

end Core

end Paros
