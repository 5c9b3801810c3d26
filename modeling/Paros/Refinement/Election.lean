import Paros.Refinement.Phase2

/-! Campaigns, wins and collections of the code are sequences of protocol acts. -/

open Paros.Core (Act Acts)

namespace Paros

open Node (Input)

namespace Node

variable {input : Input} {node : Node} {notes : Notes}

-- Collection

theorem queueGcRequests_acts (requested : node.gc.any Collector.requested)
    : node.Becomes input notes node.queueGcRequests := by
  unfold queueGcRequests
  split
  case h_1 gc matchmakers isOpen _ =>
    have asked : gc.requested = true := by simpa [isOpen] using requested
    refine Act.acts (.sendGc matchmakers.generation ((matchmakers.unanswered gc.ackedBy).map
      fun matchmaker =>
        (matchmaker, ⟨node.me, node.config.journal, matchmakers.generation, node.ballot⟩))
      isOpen asked fun sent member => ?_)
    obtain ⟨matchmaker, _, rfl⟩ := List.mem_map.mp member
    rfl
  · exact .refl _

theorem tryGc_acts : node.Becomes input notes node.tryGc := by
  unfold tryGc
  split
  · exact .refl _
  case isFalse office =>
    split
    · exact .refl _
    case isFalse ready =>
      simp only [Bool.or_eq_true, decide_eq_true_eq, Bool.not_eq_true', not_or, not_not,
        Bool.not_eq_false] at office ready
      cases isOpen : node.gc with
      | none => simp [isOpen] at ready
      | some gc =>
        have both := ready.2
        simp only [gcCovered, leadershipSettled, phase1WorkOpen, isOpen, Option.any_some,
          Bool.and_eq_true, Bool.not_eq_true', Bool.or_eq_false_iff,
          Option.isSome_eq_false_iff, Option.isNone_iff_eq_none] at both
        have requested : node.Becomes input notes
            { node with gc := some { gc with requested := true } } :=
          (Act.requestGc isOpen ⟨office.1, office.2, both.1.1, both.1.2, both.2⟩).acts
        simp only [Option.map_some]
        exact requested.trans (queueGcRequests_acts (by simp))

theorem openGc_acts {prior : List AcceptorConfig}
    : node.Becomes input notes (node.openGc prior) := by
  have opened : node.Becomes input notes
      { node with gc := some (.new node.generation node.proposer.authority.fence prior) } :=
    (Act.openGc node.generation prior).acts
  exact opened.trans tryGc_acts

variable {sender : NodeId}

theorem notePeerChosen_acts {chosen : Option Nat}
    (told : input = .deliver (.heartbeatAck sender node.ballot chosen))
    (leads : node.role = .leader)
    : node.Becomes input notes (node.notePeerChosen sender chosen) := by
  unfold notePeerChosen
  split
  · exact .refl _
  case h_2 gc isOpen =>
    have noted : node.Becomes input notes
        { node with gc := some (gc.noteChosen sender chosen) } :=
      (Act.noteChosen isOpen told leads).acts
    exact noted.trans tryGc_acts

theorem resendGc_acts : node.Becomes input notes node.resendGc := by
  unfold resendGc
  split
  case isTrue pending =>
    refine queueGcRequests_acts ?_
    simp only [gcPending, Bool.and_eq_true, Option.any_eq_true] at pending
    obtain ⟨_, gc, isOpen, requested, _⟩ := pending
    simp [isOpen, requested]
  case isFalse => exact .refl _

-- Recovery

theorem startAcceptRound_inOffice {slot : Nat} {command : Command} (leads : node.role = .leader)
    : (node.startAcceptRound slot command).InOffice node :=
  startAcceptRoundIn_inOffice leads

/-- A slot of the recovery that is not skipped is granted, and its round opened. -/
theorem takeRecovery_acts {taken : Node} {recovery : Recovery Command} {slot : Nat}
    {step : RecoveryStep Command} {command : Command} (leads : node.role = .leader)
    (next : node.proposer.recovery.bind Recovery.next = some (recovery, slot, step))
    (same : taken = { node with proposer := { node.proposer with recovery := some recovery } })
    (offered : step = .recovered command ∨ step = .fill ∧ command = .noop)
    (kept : ¬ (slot < taken.acceptor.firstSlot || taken.replica.isChosen slot
      || taken.proposer.recoveryBlocked slot) = true)
    : (taken.startAcceptRound slot command).role = .leader
      ∧ ∃ noted, Acts input (node.core notes) ((taken.startAcceptRound slot command).core noted) := by
  refine ⟨(startAcceptRound_inOffice (same ▸ leads)).role, ?_⟩
  obtain ⟨facts, opened⟩ := @startAcceptRound_acts input taken (notes.grant {(slot, command)}) _ _
    (same ▸ leads) (Or.inr rfl)
  subst same
  simp only [Bool.or_eq_true, decide_eq_true_eq, not_or, not_lt, Bool.not_eq_true] at kept
  have unblocked : slot ∉ recovery.blocked := by simpa [Proposer.recoveryBlocked] using kept.2
  exact ⟨_, (Act.takeRecovery next offered kept.1.1 kept.1.2 unblocked leads).acts.trans opened⟩

/-- The recovery loop takes or passes one slot after the other, by induction on the page. -/
theorem pumpSteps_reaches (steps : Nat) (counts : Nat × Nat × Nat) (leads : node.role = .leader)
    : node.Reaches input notes (node.pumpSteps steps counts).1 := by
  fun_induction pumpSteps steps node counts generalizing notes
  case case1 | case2 => exact .refl
  case case3 next ih | case4 next ih | case6 next ih =>
    exact (ih leads).after (Act.passRecovery next).acts
  case case5 kept next ih =>
    obtain ⟨leads, noted, opened⟩ := takeRecovery_acts leads next rfl (.inl rfl) kept
    exact (ih leads).after opened
  case case7 kept next ih =>
    obtain ⟨leads, noted, opened⟩ := takeRecovery_acts leads next rfl (.inr ⟨rfl, rfl⟩) kept
    exact (ih leads).after opened

theorem closeDrainedRecovery_acts
    : node.Becomes input notes { node with proposer := node.proposer.closeDrainedRecovery } := by
  refine lessen_acts ?_
  unfold Proposer.closeDrainedRecovery
  split
  · exact { Proposer.Lessens.refl node.proposer with recovery := Or.inr rfl }
  · exact .refl _

theorem pumpLeaderRecovery_reaches : node.Reaches input notes node.pumpLeaderRecovery := by
  unfold pumpLeaderRecovery
  split
  · exact .refl
  case isFalse office =>
    simp only [Bool.or_eq_true, decide_eq_true_eq, not_or, not_not] at office
    have pumped : node.Reaches input notes
        (node.pumpSteps node.limits.recoveryPage (0, 0, 0)).1 :=
      pumpSteps_reaches node.limits.recoveryPage (0, 0, 0) office.1
    have closed (pumped : Node) (noted : Notes)
        : pumped.Reaches input noted
          { pumped with proposer := pumped.proposer.closeDrainedRecovery } :=
      ⟨noted, closeDrainedRecovery_acts⟩
    dsimp only
    split <;> exact pumped.then (closed _)

/-- Every slot the probe decides is granted first, then its round opened if still needed. -/
theorem resolveBlockedRepairs_reaches (leads : node.role = .leader)
    : node.Reaches input notes node.resolveBlockedRepairs := by
  unfold resolveBlockedRepairs
  cases isOpen : node.proposer.probe with
  | none => exact .refl
  | some probe =>
    let grants : Set (Nat × Command) := { grant | ∃ decision ∈ probe.resolve.2,
      grant = (decision.slot, decision.command.getD .noop) }
    have resolved : Acts input (node.core notes)
        (({ node with proposer := { node.proposer with probe := probe.resolve.1 } } :
          Node).core (notes.grant grants)) :=
      (Act.resolve isOpen).acts
    -- by induction on the decisions left, each of them granted
    have folded (decisions : List (ProbeDecision Command))
        : ∀ (node : Node) (notes : Notes), node.role = .leader
          → (∀ decision ∈ decisions,
            (decision.slot, decision.command.getD .noop) ∈ notes.grants)
          → node.Reaches input notes (decisions.foldl
            (fun node decision =>
              if node.replica.isChosen decision.slot
                  || decision.slot < node.acceptor.firstSlot then
                node
              else node.startAcceptRound decision.slot (decision.command.getD .noop)) node) := by
      induction decisions with
      | nil => exact fun _ _ _ _ => .refl
      | cons decision rest ih =>
        intro node notes leads granted
        have others : ∀ decision ∈ rest,
            (decision.slot, decision.command.getD .noop) ∈ notes.grants :=
          fun other member => granted other (List.mem_cons_of_mem _ member)
        rw [List.foldl_cons]
        split
        · exact ih node notes leads others
        · obtain ⟨facts, opened⟩ := startAcceptRound_acts leads (granted decision List.mem_cons_self)
          exact (ih _ (notes.know facts) (startAcceptRound_inOffice leads).role others).after opened
    exact Reaches.after (folded probe.resolve.2 _ (notes.grant grants) leads fun decision member =>
      Or.inr ⟨decision, member, rfl⟩) resolved

-- Winning

/-- What the code plans to recover after a win. -/
def planAfter (node : Node) (outcome : Phase1Outcome Command) : Recovery Command where
  recovered := outcome.recovered.map fun _ (record : Ballot × Command) => record.2
  blocked := outcome.blocked
  cursor := 0
  stop := node.nextSlotAfter outcome
  policy := .phase1Backed

variable {election : Election Command} {outcome : Phase1Outcome Command}
  {probe : Option (RepairProbe Command)}

variable {config : AcceptorConfig}

section Win

variable (isOpen : node.proposer.election = some election) (stands : node.role = .candidate)
  (won : node.proposer.phase1Won node.acceptor.promised)
  (closed : election.closePhase1 node.replica.isChosen = (outcome, probe))

include isOpen stands won closed in
theorem takeOffice_acts
    : Acts input (node.core .none)
      ((node.takeOffice outcome probe).core
        ((Notes.none.know ((node.core .none).heals outcome)).planning
          (node.planAfter outcome))) := by
  simp only [Proposer.phase1Won, isOpen, Option.any_some, Bool.and_eq_true,
    decide_eq_true_eq] at won
  have act (own : Option NodeId) : Act input (node.core .none) _ :=
    .win own isOpen stands won.1 won.2 closed rfl
  unfold takeOffice
  dsimp only
  split
  case isTrue matched =>
    simp only [if_pos (show (node.core .none).matched = true from matched)] at act
    exact (act _).acts
  case isFalse unmatched =>
    simp only [if_neg (show ¬ (node.core .none).matched = true from unmatched)] at act
    exact (act _).acts

/-- Taking office leaves the log as it was; the next slot is the one past the suffix. -/
theorem takeOffice_frame
    : (node.takeOffice outcome probe).replica = node.replica
      ∧ (node.takeOffice outcome probe).role = .leader
      ∧ (node.takeOffice outcome probe).proposer.nextSlot = node.nextSlotAfter outcome := by
  unfold takeOffice
  dsimp only
  split <;> exact ⟨rfl, rfl, rfl⟩

theorem learnReadBasis_acts {since : Ballot} {fence : Option Nat}
    (based : (node.core notes).Bases input ⟨config, since, fence⟩)
    : node.Becomes input notes (node.learnReadBasis config since fence) := by
  unfold learnReadBasis
  split
  · exact .refl _
  case isFalse newer =>
    simp only [Bool.or_eq_true, Bool.not_eq_true', not_or, Bool.not_eq_false,
      Bool.not_eq_true, Option.any_eq_false] at newer
    refine Act.acts (.rebase based newer.1.1 ?_ newer.2)
    cases held : node.readBasis with
    | none => simp [core, held]
    | some basis =>
      have atMost := newer.1.2 basis held
      simpa [core, held] using atMost

theorem learnReadBasis_frame {since : Ballot} {fence : Option Nat}
    : (node.learnReadBasis config since fence).replica = node.replica
      ∧ (node.learnReadBasis config since fence).role = node.role
      ∧ (node.learnReadBasis config since fence).proposer = node.proposer := by
  unfold learnReadBasis
  split <;> exact ⟨rfl, rfl, rfl⟩

theorem baseReads_acts (leads : node.role = .leader)
    : node.Becomes input notes node.baseReads :=
  learnReadBasis_acts (Or.inl ⟨leads, rfl⟩)

/-- The suffix recovery starts as planned, once the prefix was healed. -/
theorem startRecovery_acts {plan : Recovery Command} (planned : notes.plan = some plan)
    (same : plan = { node.planAfter outcome with stop := node.proposer.nextSlot })
    : node.Becomes input notes (node.startRecovery outcome) := by
  subst same
  have act : Act input (node.core notes) _ := .openRecovery planned
  have result := act.acts
  simp only [planAfter, Nat.zero_max, if_true] at result
  exact result

include isOpen stands won closed in
/-- A win of the code: the office, then reads, the healed prefix, and the suffix's recovery. -/
theorem becomeLeader_reaches
    : node.Reaches input notes (node.becomeLeader outcome probe) := by
  let seated := node.takeOffice outcome probe
  let based := seated.baseReads
  let noted := (Notes.none.know ((node.core .none).heals outcome)).planning
    (node.planAfter outcome)
  have seats : seated.replica = node.replica ∧ seated.role = .leader
      ∧ seated.proposer.nextSlot = node.nextSlotAfter outcome := takeOffice_frame
  obtain ⟨sameLog, leads, nextSlot⟩ := seats
  have kept : based.replica = seated.replica ∧ based.role = seated.role
      ∧ based.proposer = seated.proposer := learnReadBasis_frame
  have office : Acts input (node.core notes) (based.core noted) := by
    have forgotten : Act input (node.core notes) (node.core .none) := .forget
    exact forgotten.acts.trans
      ((takeOffice_acts isOpen stands won closed).trans (baseReads_acts leads))
  have basedLeads : based.role = .leader := kept.2.1.trans leads
  have basedLog : based.replica = node.replica := kept.1.trans sameLog
  have healed : based.Becomes input noted (based.healPrefix outcome) := by
    refine foldMarkChosen_acts _ fun entry member => Or.inr ?_
    obtain ⟨inside, unhealed⟩ := List.mem_filter.mp member
    have recovered : (OrderedMap.before based.firstUnchosen outcome.recovered)[entry.1]?
        = some entry.2 := OrderedMap.mem_toList.mp inside
    simp only [OrderedMap.getElem?_before, firstUnchosen, basedLog,
      Option.ite_none_right_eq_some] at recovered
    simp only [Bool.and_eq_true, decide_eq_true_eq, Bool.not_eq_true', basedLog] at unhealed
    exact ⟨recovered.2, recovered.1, unhealed.1, unhealed.2⟩
  have stays : (based.healPrefix outcome).InOffice based := foldMarkChosen_inOffice _ basedLeads
  have recovering : (based.healPrefix outcome).Becomes input noted
      ((based.healPrefix outcome).startRecovery outcome) := by
    have allocated : (based.healPrefix outcome).proposer.nextSlot = node.nextSlotAfter outcome := by
      rw [stays.nextSlot, kept.2.2]
      exact nextSlot
    refine startRecovery_acts rfl ?_
    rw [allocated]
    rfl
  have pumped : ((based.healPrefix outcome).startRecovery outcome).Reaches input noted
      ((based.healPrefix outcome).startRecovery outcome).pumpLeaderRecovery :=
    pumpLeaderRecovery_reaches
  have reached := pumped.after ((office.trans healed).trans recovering)
  unfold becomeLeader
  dsimp only
  split
  · exact reached.then fun final => ⟨final, openGc_acts⟩
  · exact reached

end Win

theorem tryBecomeLeader_reaches : node.Reaches input notes node.tryBecomeLeader := by
  fun_cases tryBecomeLeader node
  case case3 election isOpen wins _ _ closed =>
    simp only [Bool.or_eq_true, decide_eq_true_eq, Bool.not_eq_true', not_or, not_not,
      Bool.not_eq_false] at wins
    exact becomeLeader_reaches isOpen wins.1 wins.2 closed
  all_goals exact .refl

-- Campaigning

variable {ballot : Ballot} {fromSlot : Nat}

/-- Prepares to several nodes are one message each, by induction on the targets. -/
theorem sendPrepare_acts (targets : List NodeId) {config : Option AcceptorConfig}
    (named : config = node.phase1WireConfig)
    (asks : (∃ election, node.proposer.election = some election
        ∧ election.promises.ballot = ballot)
      ∨ ∃ probe, node.proposer.probe = some probe ∧ probe.promises.ballot = ballot)
    : node.Becomes input notes (node.sendPrepare targets ballot fromSlot config) := by
  subst named
  unfold sendPrepare
  have folded : ∀ asking : Node, asking.proposer = node.proposer → asking.config = node.config
      → asking.acceptors = node.acceptors
      → asking.Becomes input notes
        (targets.foldl (fun node' target =>
          node'.send target (.prepare node'.me ballot fromSlot node.phase1WireConfig)) asking) := by
    induction targets with
    | nil => exact fun _ _ _ _ => .refl _
    | cons target rest ih =>
      intro asking proposer config acceptors
      have speaks : (asking.core notes).Speaks input (.node target)
          (.prepare asking.me ballot fromSlot
            ((asking.core notes).wireConfigOf (asking.core notes).phase1Config)) := by
        refine .prepare ?_
        rw [show (asking.core notes).proposer = node.proposer from proposer]
        exact asks
      have same : (asking.core notes).wireConfigOf (asking.core notes).phase1Config
          = node.phase1WireConfig := by
        simp only [Core.wireConfigOf, Core.phase1Config, core, phase1WireConfig, wireConfigOf,
          hasMatchmakers, proposer, config, acceptors]
        rfl
      rw [same] at speaks
      exact (say_acts speaks).trans (ih _ proposer config acceptors)
  exact folded node rfl rfl rfl

theorem startPhase1_reaches {prior : List AcceptorConfig}
    (before : Core) (opened : Act input before ((node.core notes).setElection
      (.openPhase1 (some node.me) node.ballot config prior (node.core notes).fromSlot
        node.acceptor.records node.acceptor.faulty)))
    : ∃ final, Acts input before ((node.startPhase1 config prior).core final) := by
  let election := Election.openPhase1 (some node.me) node.ballot config prior
    (node.core notes).fromSlot node.acceptor.records node.acceptor.faulty
  let elected : Node := { node with proposer := { node.proposer with election := some election } }
  let prepared := elected.sendPrepare (election.targets node.me) node.ballot
    (node.core notes).fromSlot (node.wireConfigOf config)
  have prepares : elected.Becomes input notes prepared :=
    sendPrepare_acts _ rfl (Or.inl ⟨election, rfl, rfl⟩)
  have asks : prepared.Becomes input notes
      (prepared.broadcast (prepared.catchUpRequest (node.core notes).fromSlot)) :=
    say_acts .catchUpRequest
  have wins : (prepared.broadcast (prepared.catchUpRequest (node.core notes).fromSlot)).Reaches
      input notes (node.startPhase1 config prior) := tryBecomeLeader_reaches
  obtain ⟨final, wins⟩ := wins
  exact ⟨final, ((opened.acts.trans prepares).trans asks).trans wins⟩

theorem queueMatchRequests_acts
    : node.Becomes input notes node.queueMatchRequests := by
  unfold queueMatchRequests
  split
  case h_1 tally matchmakers isOpen asked =>
    refine Act.acts (.requestMatch _ fun sent member => ?_)
    obtain ⟨cursor, _, rfl⟩ := List.mem_map.mp member
    exact ⟨rfl, rfl, Or.inr ⟨tally, matchmakers, isOpen, asked, rfl, rfl, rfl, rfl⟩⟩
  · exact .refl _

/-- A campaign's round lies past the promise's and the ballot's. -/
theorem lt_nextCampaignRound {round : Nat} (next : node.nextCampaignRound = some round)
    : node.acceptor.promised.round < round ∧ node.ballot.round < round := by
  simp only [nextCampaignRound, Option.ite_none_right_eq_some, Option.some.injEq] at next
  omega

theorem campaign_reaches {kind : RegistrationKind}
    (standing : (kind = .belief ∧ config = node.acceptors)
      ∨ (kind = .reconfiguration ∧ node.matchmakers.isSome ∧ node.role = .leader))
    : node.Reaches input notes (node.campaign kind config) := by
  unfold campaign
  cases next : node.nextCampaignRound with
  | none => exact ⟨notes, becomeFollower_acts⟩
  | some round =>
    obtain ⟨abovePromise, aboveBallot⟩ := lt_nextCampaignRound next
    let candidate : Node := { node.clearLeadershipState with
      probe := none, closedProbe := none, role := .candidate, leader := none
      ballot := ⟨round, node.me⟩ }
    let promised := candidate.setPromise ⟨round, node.me⟩
    have raises : node.acceptor.promised ≠ ⟨round, node.me⟩ :=
      fun same => absurd abovePromise (by rw [same]; exact lt_irrefl round)
    have written : promised.core notes = (candidate.core notes).promise ⟨round, node.me⟩ :=
      setPromise_core raises
    have act : Act input (node.core notes) _ := .campaign abovePromise aboveBallot standing
    dsimp only
    split
    case isTrue matched =>
      simp only [if_pos (show (node.core notes).matchmakers.isSome = true from matched)] at act
      let matching : Node := { promised with
        matchmaking := some (.new ⟨round, node.me⟩ config kind) }
      have registered : matching.core notes = { promised.core notes with
        matchmaking := some (.new ⟨round, node.me⟩ config kind) } := rfl
      rw [written] at registered
      have campaigned : node.Becomes input notes matching := by
        rw [Becomes, registered]
        exact act.acts
      exact ⟨notes, campaigned.trans queueMatchRequests_acts⟩
    case isFalse unmatched =>
      have bare : ¬ (node.core notes).matchmakers.isSome = true := unmatched
      have plain : node.matchmakers = none := Option.not_isSome_iff_eq_none.mp bare
      simp only [if_neg bare] at act
      have campaigned : node.Becomes input notes promised := by
        rw [Becomes, written]
        exact act.acts
      have belief : config = node.acceptors := by
        rcases standing with held | ⟨_, matched, _⟩
        · exact held.2
        · exact absurd matched bare
      obtain ⟨final, started⟩ := @startPhase1_reaches input promised notes _ _ (promised.core notes)
        (.openElection (Or.inl ⟨plain, rfl, belief, rfl⟩))
      exact ⟨final, campaigned.trans started⟩

theorem queueProbeRequests_acts {discover : Bool}
    : node.Becomes input notes (node.queueProbeRequests discover) := by
  unfold queueProbeRequests
  split
  case h_1 probe matchmakers isOpen asked =>
    let request : MatchRequest := {
      sender := node.me
      journal := node.config.journal
      ballot := probe.ballot
      config := probe.believed
      purpose := .probe
      generation := matchmakers.generation
      fromBallot := none
    }
    let outside := if discover then node.matchmakerPool.filter (!matchmakers.contains ·) else []
    refine Act.acts (.requestMatch ((matchmakers.unanswered probe.answered ++ outside).map
      fun matchmaker => (matchmaker, request)) fun sent member => ?_)
    obtain ⟨matchmaker, _, rfl⟩ := List.mem_map.mp member
    exact ⟨rfl, rfl, Or.inl rfl⟩
  · exact .refl _

theorem probeMembership_acts (office : node.role ≠ .leader)
    (idle : node.role = .follower ∨ node.beliefSource = .bootstrap)
    : node.Becomes input notes node.probeMembership := by
  unfold probeMembership
  split
  · exact queueProbeRequests_acts
  · split
    · exact .refl _
    case h_2 round _ =>
      have started : node.Becomes input notes
          { node with
            roundFloor := max node.roundFloor round
            closedProbe := none
            probe := some (.new ⟨round, node.me⟩ node.acceptors) } :=
        (Act.startProbe ⟨round, node.me⟩ idle office).acts
      exact started.trans queueProbeRequests_acts

theorem onCheckLeader_reaches : node.Reaches input notes node.onCheckLeader := by
  fun_cases onCheckLeader node
  case case1 => exact .refl
  case case2 office fresh =>
    simp only [Bool.and_eq_true, decide_eq_true_eq] at fresh
    exact ⟨notes, probeMembership_acts office (Or.inr fresh.2)⟩
  case case3 office _ _ =>
    split
    · have stepped : node.Becomes input notes (node.becomeFollower none) := becomeFollower_acts
      exact ⟨notes, stepped.trans (probeMembership_acts nofun (Or.inl rfl))⟩
    case isFalse follows =>
      exact ⟨notes, probeMembership_acts office (Or.inl (not_not.mp follows))⟩
  case case4 => exact campaign_reaches (Or.inl ⟨rfl, rfl⟩)

-- Promises

section Promises

variable {sender : NodeId} {ballot : Ballot} {fromSlot : Nat}
  {accepted : SlotMap (Ballot × Command)} {faulty : SlotMap Ballot} {nextFromSlot : Option Nat}
  {fold : PromiseFold}

/-- A promise that an election takes is at the election's ballot. -/
theorem foldElection_ballot {folded : Election Command}
    (same : election.foldPromise sender ballot fromSlot accepted faulty nextFromSlot = (folded, fold))
    (takes : fold ≠ .ignored)
    : folded.promises.ballot = ballot := by
  unfold Election.foldPromise at same
  split_ifs at same with involved accepts
  · exact absurd (congrArg Prod.snd same).symm takes
  · exact absurd (congrArg Prod.snd same).symm takes
  · simp only [PromiseTally.accepts, Bool.not_eq_true', Bool.not_eq_false, Bool.and_eq_true,
      beq_iff_eq] at accepts
    cases nextFromSlot <;> cases same <;> exact accepts.1.1

/-- A promise that a repair probe takes is at the probe's ballot. -/
theorem foldProbe_ballot {probe folded : RepairProbe Command}
    (same : probe.foldPromise sender ballot fromSlot accepted faulty nextFromSlot = (folded, fold))
    (takes : fold ≠ .ignored)
    : folded.promises.ballot = ballot := by
  unfold RepairProbe.foldPromise at same
  split_ifs at same with involved accepts
  · exact absurd (congrArg Prod.snd same).symm takes
  · exact absurd (congrArg Prod.snd same).symm takes
  · simp only [PromiseTally.accepts, Bool.not_eq_true', Bool.not_eq_false, Bool.and_eq_true,
      beq_iff_eq] at accepts
    cases nextFromSlot <;> cases same <;> exact accepts.1.1

variable (told : input = .deliver (.promise sender ballot fromSlot accepted faulty nextFromSlot))

include told

theorem onProbePromise_reaches (leads : node.role = .leader)
    : node.Reaches input notes
      (node.onProbePromise sender ballot fromSlot accepted faulty nextFromSlot) := by
  have counted {probe folding : RepairProbe Command} {fold : PromiseFold}
      (isOpen : node.proposer.probe = some probe)
      (same : probe.foldPromise sender ballot fromSlot accepted faulty nextFromSlot = (folding, fold))
      : node.Becomes input notes
        { node with proposer := { node.proposer with probe := some folding } } := by
    obtain rfl := congrArg Prod.fst same
    exact (Act.foldProbe told isOpen).acts
  fun_cases onProbePromise node sender ballot fromSlot accepted faulty nextFromSlot
  case case1 | case2 => exact .refl
  case case3 isOpen folding folded next same =>
    have paged : folded.Becomes input notes (folded.requestPromisePage sender ballot next) :=
      sendPrepare_acts _ rfl (Or.inr ⟨folding, rfl, foldProbe_ballot same nofun⟩)
    exact ⟨notes, (counted isOpen same).trans paged⟩
  case case4 isOpen _ _ same =>
    exact Reaches.after (resolveBlockedRepairs_reaches leads) (counted isOpen same)

theorem onPromise_plays
    : node.Plays input (node.onPromise sender ballot fromSlot accepted faulty nextFromSlot) := by
  have counted {election folding : Election Command} {fold : PromiseFold}
      (isOpen : node.proposer.election = some election)
      (same : election.foldPromise sender ballot fromSlot accepted faulty nextFromSlot
        = (folding, fold))
      : node.Becomes input .none
        { node with proposer := { node.proposer with election := some folding } } := by
    obtain rfl := congrArg Prod.fst same
    exact (Act.foldElection told isOpen).acts
  fun_cases onPromise node sender ballot fromSlot accepted faulty nextFromSlot
  case case2 leads => exact onProbePromise_reaches told leads
  case case5 isOpen folding folded next same =>
    let heard : Node := { folded with electionElapsed := 0 }
    have paged : heard.Becomes input .none (heard.requestPromisePage sender ballot next) :=
      sendPrepare_acts _ rfl (Or.inl ⟨folding, rfl, foldElection_ballot same nofun⟩)
    exact ⟨.none, (counted isOpen same).trans paged⟩
  case case6 isOpen _ _ same => exact Reaches.after tryBecomeLeader_reaches (counted isOpen same)
  all_goals exact .refl

end Promises

theorem keepPagingPromisers_acts
    : node.Becomes input notes node.keepPagingPromisers := by
  unfold keepPagingPromisers
  cases isOpen : node.proposer.election with
  | none => exact .refl _
  | some election =>
    dsimp only
    split
    · exact .refl _
    · exact sendPrepare_acts _ rfl (Or.inl ⟨election, isOpen, rfl⟩)

theorem onNack_plays {slot : Nat}
    : node.Plays input (node.onNack sender ballot slot) := by
  unfold onNack
  split
  · exact ⟨_, becomeFollower_acts⟩
  · exact .refl

end Node

end Paros
