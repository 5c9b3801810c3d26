import Paros.Refinement.Handlers

/-! The matchmaker plane of the code is sequences of protocol acts. -/

open Paros.Core (Act Acts)

namespace Paros

open Node (Input)

namespace Node

variable {input : Input} {node : Node} {notes : Notes}

-- Generations of matchmakers

/-- A collector that only changed whom it asks is bookkeeping. -/
theorem moveGc_acts {gc moved : Collector} (isOpen : node.gc = some gc)
    (fence : moved.fence = gc.fence) (peers : moved.peerChosen = gc.peerChosen)
    (requested : moved.requested → gc.requested)
    : node.Becomes input notes { node with gc := some moved } :=
  (Act.moveGc isOpen fence peers requested).acts

theorem resetGcForGeneration_acts
    : node.Becomes input notes node.resetGcForGeneration := by
  unfold resetGcForGeneration
  cases isOpen : node.gc with
  | none =>
    have unchanged : ({ node with gc := none } : Node) = node := by rw [← isOpen]
    rw [Option.map_none, unchanged]
    exact tryGc_acts
  | some gc =>
    have moved : node.Becomes input notes
        { node with gc := some (gc.resetForGeneration node.generation) } := by
      refine moveGc_acts isOpen ?_ ?_ ?_ <;> unfold Collector.resetForGeneration <;> split
      all_goals simp
    exact moved.trans tryGc_acts

theorem learnMatchmakers_acts {set : MatchmakerSet} (told : Core.Hands input set)
    : node.Becomes input notes (node.learnMatchmakers set).1 := by
  fun_cases learnMatchmakers node set
  case case3 asked newer learned stepped =>
    simp only [Bool.or_eq_true, decide_eq_true_eq, not_or, not_le] at newer
    have learns : node.Becomes input notes learned :=
      (Act.learnMatchmakers asked newer.1 told).acts
    have steps : learned.Becomes input notes stepped := by
      unfold stepped
      split
      · exact becomeFollower_acts
      · exact .refl _
    exact (learns.trans steps).trans resetGcForGeneration_acts
  all_goals exact .refl _

/-- A refusal ends the campaign, and may name a later generation. -/
theorem foldRefusal_acts {refusal : MatchRefusal} {reply : MatchReply}
    (told : input = .matchReply reply) (refused : reply.outcome = .refused refusal)
    : node.Becomes input notes (node.foldRefusal refusal).1 := by
  have stepped (floor : Nat) : node.Becomes input notes
      (({ node with roundFloor := floor } : Node).becomeFollower none) :=
    Act.retire.acts
  unfold foldRefusal
  dsimp only
  split
  · exact stepped _
  case h_2 set successor =>
    refine (stepped _).trans (learnMatchmakers_acts (Or.inl ⟨reply, told, ?_⟩))
    split at successor
    · exact Or.inl (successor ▸ refused)
    · rw [Option.ite_none_right_eq_some] at successor
      exact Or.inr (Option.some.inj successor.2 ▸ refused)
    · cases successor

-- Registrations

theorem closeMatchmaking_reaches {tally : Matchmaking} {set : MatchmakerSet}
    (isOpen : node.matchmaking = some tally) (asked : node.matchmakers = some set)
    (quorum : tally.quorumHeld set)
    : node.Reaches input notes (node.closeMatchmaking tally).1 := by
  fun_cases closeMatchmaking node tally
  case case1 => exact ⟨notes, Act.retire.acts⟩
  case case2 drawn _ newest config stale =>
    simp only [Bool.or_eq_true, not_or, Bool.not_eq_true, Option.any_eq_false] at drawn
    obtain ⟨held, _⟩ := Option.filter_eq_some_iff.mp stale
    have known : config.isDrawnFrom node.pool = true := by simpa using drawn.1 (newest, config) held
    have adopted : Act input (node.core notes) _ := .adoptStale isOpen asked quorum held known
    exact ⟨notes, adopted.acts.then .retire⟩
  case case3 =>
    exact @startPhase1_reaches input { node with matchmaking := none } notes _ _ (node.core notes)
      (.openElection (Or.inr ⟨tally, set, isOpen, asked, quorum, rfl, rfl⟩))

section Replies

variable {set : MatchmakerSet} {reply : MatchReply}
  (answers : (node.core .none).Answers input set reply)

include answers

theorem foldRegistration_plays {page : RegisteredPage}
    (same : node.matchmaking.all (·.ballot != reply.ballot) = false)
    (registered : reply.outcome = .registered page)
    : node.Plays input (node.foldRegistration reply.matchmaker page).1 := by
  have counted {tally folding : Matchmaking} {fold : MatchFold} (isOpen : node.matchmaking = some tally)
      (folds : tally.fold reply.matchmaker page = (folding, fold))
      : node.Becomes input .none { node with matchmaking := some folding } := by
    obtain rfl := congrArg Prod.fst folds
    exact (Act.foldMatch answers isOpen (by simpa [isOpen] using same) registered).acts
  fun_cases foldRegistration node reply.matchmaker page
  case case2 isOpen asked folding folded next folds =>
    refine ⟨.none, (counted isOpen folds).then (.requestMatch [_] fun sent member => ?_)⟩
    rw [List.mem_singleton.mp member]
    exact ⟨rfl, rfl, Or.inr ⟨folding, _, rfl, asked, rfl, rfl, rfl, rfl⟩⟩
  case case3 isOpen asked folding folded quorum folds =>
    exact Reaches.after (closeMatchmaking_reaches rfl asked quorum) (counted isOpen folds)
  case case4 isOpen asked folding folded quorum folds => exact ⟨.none, counted isOpen folds⟩
  all_goals exact .refl

end Replies

-- Membership probes

/-- A probed membership is adopted or heard, then campaigned for if the node is in it. -/
theorem adoptProbed_reaches {effective : Option (Ballot × AcceptorConfig)} {before : Core}
    (heard : Acts input before ((node.hearProbed effective).core notes))
    : ∃ final, Acts input before ((node.adoptProbed effective).1.core final) := by
  have campaigns : (node.hearProbed effective).Reaches input notes
      ((node.hearProbed effective).campaign .belief (node.hearProbed effective).acceptors) :=
    campaign_reaches (Or.inl ⟨rfl, rfl⟩)
  obtain ⟨final, campaigned⟩ := campaigns
  unfold adoptProbed
  dsimp only
  split
  · exact ⟨final, heard.trans campaigned⟩
  · exact ⟨notes, heard⟩

/-- What a completed probe's answer leaves in force. -/
theorem hearProbed_acts {folded : MembershipProbe} (probed : (node.core notes).Probed input folded)
    (drawn : ∀ effective, folded.effective = some effective
      → effective.2.isDrawnFrom node.pool = true)
    : node.Becomes input notes
      (({ node with probe := none } : Node).hearProbed folded.effective) := by
  unfold hearProbed
  dsimp only
  split
  case h_1 ballot config newer =>
    obtain ⟨effective, _⟩ := Option.filter_eq_some_iff.mp newer
    exact (Act.adoptProbed probed effective (drawn _ effective)).acts
  case h_2 older =>
    refine Act.acts (.hearProbed probed fun effective held => ?_)
    rw [held, Option.filter_eq_none_iff] at older
    exact not_lt.mp (of_decide_eq_false (eq_false_of_ne_true (older effective rfl)))

section Probes

variable {set : MatchmakerSet} {reply : MatchReply}
  (answers : (node.core .none).Answers input set reply)
  {effective : Option (Ballot × AcceptorConfig)} (probed : reply.outcome = .probed effective)

include answers probed

theorem foldProbeAnswer_plays (same : node.probe.any (·.ballot == reply.ballot))
    : node.Plays input (node.foldProbeAnswer reply.matchmaker effective).1 := by
  have begun {probe : MembershipProbe} (isOpen : node.probe = some probe)
      : probe.ballot = reply.ballot := by simpa [isOpen] using same
  fun_cases foldProbeAnswer node reply.matchmaker effective
  case case2 asked isOpen folded counted _ =>
    exact ⟨.none, (Act.foldMember answers isOpen (begun isOpen) probed counted).acts⟩
  case case3 => exact ⟨.none, Act.closeProbe.acts⟩
  case case4 probe matchmakers asked isOpen folded counted quorum closed drawn adopted _ _ adopts =>
    obtain rfl : matchmakers = set := Option.some.inj (asked.symm.trans answers.2.1)
    simp only [Bool.not_eq_true', Bool.not_eq_false, Bool.not_eq_true, Option.any_eq_false]
      at quorum drawn
    have heard : node.Becomes input .none (closed.hearProbed folded.effective) :=
      hearProbed_acts ⟨matchmakers, reply, probe, effective, answers, isOpen, begun isOpen, probed,
        counted, quorum⟩ fun held same => by simpa using drawn held same
    obtain ⟨final, reached⟩ := adoptProbed_reaches heard
    rw [adopts] at reached
    dsimp only
    split <;> exact ⟨final, reached⟩
  all_goals exact .refl

theorem foldLateProbeAnswer_plays : node.Plays input (node.foldLateProbeAnswer effective).1 := by
  unfold foldLateProbeAnswer
  dsimp only
  split
  · exact .refl
  case isFalse late =>
    simp only [Bool.or_eq_true, Bool.not_eq_true', not_or, Bool.not_eq_false, Bool.and_eq_true,
      decide_eq_true_eq, Option.any_eq_true] at late
    obtain ⟨⟨⟨outside, idle⟩, newest, held, newer⟩, drawn⟩ := late
    subst held
    have known : newest.2.isDrawnFrom node.pool = true := by simpa using drawn
    have heard : node.Becomes input .none (node.hearProbed (some newest)) := by
      have act : Act input (node.core .none) _ :=
        .adoptLate answers probed outside.1 idle.1.1 known
      unfold hearProbed
      simp only [Option.filter_some, newer, decide_true, if_true]
      exact act.acts
    exact adoptProbed_reaches heard

end Probes

theorem foldOutsideAnswer_plays {reply : MatchReply} {matchmaker : MatchmakerId}
    {ballot : Ballot} (told : input = .matchReply reply)
    : node.Plays input (node.foldOutsideAnswer matchmaker ballot reply.outcome).1 := by
  unfold foldOutsideAnswer
  split
  case h_1 current outcome =>
    dsimp only
    split
    · have closed : node.Becomes input .none { node with probe := none } :=
        Act.closeProbe.acts
      exact ⟨.none, closed.trans (foldRefusal_acts told outcome)⟩
    · exact .refl
  · exact .refl

theorem onMatchReply_plays {reply : MatchReply} (told : input = .matchReply reply)
    : node.Plays input (node.onMatchReply reply).1 := by
  have answers {set : MatchmakerSet} (asked : node.matchmakers = some set)
      (mine : ¬ (reply.journal ≠ node.config.journal || reply.recipient ≠ node.me))
      (member : ¬ (!set.contains reply.matchmaker)) (generation : ¬ reply.generation ≠ set.generation)
      : (node.core .none).Answers input set reply := by
    simp only [Bool.or_eq_true, decide_eq_true_eq, not_or, not_not, Bool.not_eq_true',
      Bool.not_eq_false] at mine member generation
    exact ⟨told, asked, member, mine.1, mine.2, generation⟩
  fun_cases onMatchReply node reply
  case case3 => exact foldOutsideAnswer_plays told
  case case5 set asked mine member generation _ effective probed =>
    exact foldLateProbeAnswer_plays (answers asked mine member generation) probed
  case case7 set asked mine member generation _ probing effective probed =>
    exact foldProbeAnswer_plays (answers asked mine member generation) probed probing
  case case8 set asked mine member generation _ probing refusal refused =>
    have closed : node.Becomes input .none { node with probe := none } :=
      Act.acts .closeProbe
    exact ⟨.none, closed.trans (foldRefusal_acts told refused)⟩
  case case11 set asked mine member generation _ _ current page registered =>
    exact foldRegistration_plays (answers asked mine member generation) (by simpa using current) registered
  case case12 refusal refused => exact ⟨.none, foldRefusal_acts told refused⟩
  all_goals exact .refl

theorem resendMatchmaking_acts
    : node.Becomes input notes node.resendMatchmaking :=
  queueMatchRequests_acts.trans queueProbeRequests_acts

-- Collection and reconfiguration

/-- An acknowledged collection leaves the fence and the peers' indexes as they were. -/
theorem foldAck_frame (gc : Collector) (ack : GcAck) (set : MatchmakerSet) (ballot : Ballot)
    (config : AcceptorConfig)
    : (gc.foldAck ack set ballot config).1.fence = gc.fence
      ∧ (gc.foldAck ack set ballot config).1.peerChosen = gc.peerChosen
      ∧ (gc.foldAck ack set ballot config).1.requested = gc.requested := by
  simp only [Collector.foldAck]
  split_ifs <;> exact ⟨rfl, rfl, rfl⟩

theorem onGcAck_plays {ack : GcAck} (told : input = .gcAck ack)
    : node.Plays input (node.onGcAck ack).1 := by
  fun_cases onGcAck node ack
  case case3 believed asked _ newer learned learns =>
    cases found : newer with
    | none =>
      rw [found] at learns
      cases learns
    | some set =>
      rw [found] at learns
      obtain ⟨named, _⟩ := Option.filter_eq_some_iff.mp found
      rw [← show (node.learnMatchmakers set).1 = learned from congrArg Prod.fst learns]
      exact ⟨.none, learnMatchmakers_acts (Or.inr ⟨ack, told, named⟩)⟩
  case case6 believed asked _ newer _ _ _ _ _ gc isOpen next step folds =>
    obtain ⟨fence, peers, requested⟩ := foldAck_frame gc ack believed node.ballot node.acceptors
    rw [folds] at fence peers requested
    exact ⟨.none, moveGc_acts isOpen fence peers (by rw [requested]; exact id)⟩
  all_goals exact .refl

/-- A node with matchmakers knows a generation of them. -/
def Deployed (node : Node) : Prop := node.hasMatchmakers = node.matchmakers.isSome

theorem reconfigure_plays {config : AcceptorConfig} (deployed : node.Deployed)
    : node.Plays input (node.reconfigure config).1 := by
  fun_cases reconfigure node config
  case case7 leads matched _ _ _ _ _ =>
    refine campaign_reaches (Or.inr ⟨rfl, ?_, not_not.mp leads⟩)
    rw [← deployed]
    simpa using matched
  all_goals exact .refl

end Node

end Paros
