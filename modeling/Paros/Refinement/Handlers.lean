import Paros.Refinement.Election

/-! Message handlers of the code are sequences of protocol acts. -/

open Paros.Core (Act Acts)

namespace Paros

open OrderedMap

open Node (Input)

namespace Node

variable {input : Input} {node : Node} {notes : Notes}

-- Following a ballot

variable {ballot : Ballot} {config : Option AcceptorConfig}

/-- Following a ballot: adopt the configuration it carries if newer, then move up to it. -/
theorem followBallot_acts (follows : (node.core notes).Follows input ballot)
    (carried : ∀ named, config = some named → Core.Carries input ballot named)
    (promised : node.acceptor.promised ≤ ballot)
    : node.Becomes input notes (node.followBallot ballot config) := by
  have moved : node.Becomes input notes { node with ballot := max node.ballot ballot } :=
    (Act.follow follows).acts
  unfold followBallot
  fun_cases learnConfig
  case case4 named newer drawn =>
    simp only [Bool.or_eq_true, Bool.not_eq_true', decide_eq_true_eq, not_or,
      Bool.not_eq_false, not_le] at newer drawn
    have adopted : Act input (node.core notes) _ :=
      .adoptCarried (carried named rfl) newer.1 newer.2 drawn promised follows
    have followed : Act input ((node.core notes).adopt named ballot) _ := .follow follows
    exact adopted.acts.then followed
  all_goals exact moved

/-- A followed ballot's configuration is in force afterwards, if the pool knows its members. -/
theorem followBallot_since
    (matched : node.hasMatchmakers) {carried : AcceptorConfig} (named : config = some carried)
    (drawn : carried.isDrawnFrom node.pool)
    : ballot ≤ (node.followBallot ballot config).acceptorsSince := by
  unfold followBallot
  fun_cases learnConfig
  case case1 => cases named
  case case2 older =>
    simp only [Bool.or_eq_true, Bool.not_eq_true', decide_eq_true_eq] at older
    rcases older with unmatched | atMost
    · exact absurd (matched.symm.trans unmatched) (by simp)
    · exact atMost
  case case3 undrawn =>
    cases named
    exact absurd drawn (by simpa using undrawn)
  case case4 => exact le_rfl

/-- Following a ballot touches neither the acceptor nor the replica nor the proposer. -/
theorem followBallot_frame (node : Node) (ballot : Ballot) (config : Option AcceptorConfig)
    : (node.followBallot ballot config).acceptor = node.acceptor
      ∧ (node.followBallot ballot config).pool = node.pool
      ∧ (node.followBallot ballot config).config = node.config := by
  unfold followBallot
  fun_cases learnConfig <;> exact ⟨rfl, rfl, rfl⟩

theorem followBallot_heeds
    : ballot ≤ (node.followBallot ballot config).ballot := by
  unfold followBallot
  fun_cases learnConfig <;> exact le_max_right _ _

-- The acceptor's answers

variable {fromSlot : Nat} {replyTo : NodeId}

@[simp]
theorem queueWrites_nil : node.queueWrites [] = node := by
  simp [queueWrites]

theorem prepare_acts {acceptor : Acceptor Command} {writes : List (AcceptorWrite Command)}
    {outcome : PrepareOutcome}
    (same : node.acceptor.prepare ballot fromSlot = (acceptor, writes, outcome))
    : node.Becomes input notes ({ node with acceptor := acceptor }.queueWrites (writes.map .acceptor))
      ∧ ∀ {raised}, outcome = .promised raised
        → acceptor.firstSlot ≤ fromSlot ∧ acceptor.promised = ballot := by
  unfold Acceptor.prepare at same
  split_ifs at same with below passed raises
  case pos | pos => cases same; simpa using Acts.refl _
  case pos =>
    obtain ⟨rfl, rfl, rfl⟩ : _ ∧ _ ∧ _ := by simpa using same
    refine ⟨setPromise_acts raises.le, fun _ => ?_⟩
    rw [Acceptor.setPromise_fst]
    exact ⟨not_lt.mp below, rfl⟩
  case neg =>
    cases same
    rw [List.map_nil, queueWrites_nil]
    exact ⟨.refl _, fun _ => ⟨not_lt.mp below, le_antisymm (not_lt.mp passed) (not_lt.mp raises)⟩⟩

/-- A prepare: promise its ballot, step down, follow, send the page. -/
theorem onPrepare_plays (asked : input = .deliver (.prepare replyTo ballot fromSlot config))
    : node.Plays input (node.onPrepare replyTo ballot fromSlot config) := by
  fun_cases onPrepare node replyTo ballot fromSlot config
  case case1 => exact .refl
  case case2 prepared same | case3 prepared same =>
    exact ⟨_, (prepare_acts same).1.trans (say_acts .nack)⟩
  case case4 prepared _ stepped followed _ same =>
    obtain ⟨prepares, promises⟩ := prepare_acts same
    obtain ⟨retained, promised⟩ := promises rfl
    obtain ⟨steps, follows, kept⟩ : prepared.Becomes input .none stepped
        ∧ (stepped.core .none).Follows input ballot ∧ stepped.acceptor = prepared.acceptor := by
      unfold stepped
      split
      · exact ⟨becomeFollower_acts, Or.inl rfl, rfl⟩
      case isFalse stays =>
        refine ⟨.refl _, ?_, rfl⟩
        by_cases own : ballot.node = prepared.me
        · exact Or.inr (Or.inr (Or.inl ⟨replyTo, fromSlot, config, asked, own⟩))
        · exact Or.inl (show prepared.role = _ by simpa [own] using stays)
    let heard : Node := { stepped with electionElapsed := 0 }
    obtain ⟨frame, pool, deployed⟩ := followBallot_frame heard ballot config
    have moved : heard.Becomes input .none followed :=
      followBallot_acts follows (fun named same => Or.inl ⟨replyTo, fromSlot, same ▸ asked⟩)
        (promised.le.trans' (congrArg Acceptor.promised kept).le)
    have kept : followed.acceptor = prepared.acceptor := frame.trans kept
    refine ⟨.none, ((prepares.trans steps).trans moved).trans (say_acts (.promise
      followed.limits.promisePage asked ((congrArg _ kept).trans promised) followBallot_heeds
      ((congrArg _ kept).trans_le retained) ?_))⟩
    intro matched carried named drawn
    refine followBallot_since ?_ named (pool ▸ drawn)
    rw [hasMatchmakers, ← deployed]
    exact matched

variable {command : Command} {slot : Nat}

/-- A vote just recorded may be reported. -/
theorem noteVote_acts {ballot held : Ballot}
    (recorded : node.acceptor.records[slot]? = some (held, command))
    (promised : node.acceptor.promised = ballot) (covers : ballot ≤ held)
    : Acts input (node.core notes) (node.core (notes.vote slot ballot)) := by
  subst promised
  exact (Act.noteVote recorded covers).acts

/-- A chosen command learned at the promised ballot is also a vote. -/
theorem markChosen_votes (known : (slot, ballot, command) ∈ notes.known)
    (retained : node.acceptor.firstSlot ≤ slot) (unknown : node.replica.isChosen slot = false)
    (promised : node.acceptor.promised = ballot)
    : Acts input (node.core notes)
      ((node.markChosen slot command ballot).core (notes.vote slot ballot)) := by
  let raised := node.raiseTo ballot
  let recorded := raised.recordChosen slot command ballot
  have same : raised.acceptor = node.acceptor := by
    rw [raiseTo_acceptor, promised, max_self, ← promised]
  have carried : ∃ held, recorded.acceptor.records[slot]? = some (held, command)
      ∧ ballot ≤ held := recordChosen_held
  obtain ⟨held, carries, covers⟩ := carried
  have kept : recorded.acceptor.promised = ballot := by
    have keeps : recorded.acceptor.promised = raised.acceptor.promised := by
      unfold recorded recordChosen
      split <;> rfl
    rw [keeps, same, promised]
  have writes : node.Becomes input notes recorded :=
    raiseTo_acts.trans (recordChosen_acts known (by rw [same]; exact retained)
      (by rw [same, promised]))
  have least : recorded.acceptor.firstSlot ≤ slot := by
    rw [recordChosen_frame.2, same]
    exact retained
  have unlearned : recorded.replica.isChosen slot = false := by
    rw [recordChosen_frame.1, raiseTo_replica]
    exact unknown
  have learned : Acts input (recorded.core (notes.vote slot ballot))
      ((recorded.learnChosen slot command).advanceChosenIndex.core (notes.vote slot ballot)) :=
    learnChosen_acts known carries covers least unlearned
  unfold markChosen
  rw [if_neg (not_lt.mpr retained), if_neg (by simp [unknown])]
  exact (writes.trans (noteVote_acts carries kept covers)).trans learned

/-- An admitted Accept: promise its ballot, record it as a vote, report the vote. -/
theorem vote_reaches {replyTo leader : NodeId}
    (asked : input = .deliver (.accept replyTo leader ballot slot command config))
    (retained : node.acceptor.firstSlot ≤ slot) (promised : node.acceptor.promised = ballot)
    : node.Reaches input notes
      (let accepted :=
        if slot < node.firstUnchosen ∧ !node.replica.isChosen slot then
          node.markChosen slot command ballot
        else node.recordAccepted slot ballot command
      accepted.push (.node replyTo) (.accepted accepted.me ballot slot)) := by
  have reports (accepted : Node) (noted : Notes)
      : accepted.Becomes input (noted.vote slot ballot)
        (accepted.push (.node replyTo) (.accepted accepted.me ballot slot)) :=
    say_acts (.accepted (Set.mem_insert _ _))
  dsimp only
  split
  case isTrue heals =>
    let known := notes.know {(slot, ballot, command)}
    have noted : Acts input (node.core notes) (node.core known) :=
      know_acts (by
        rintro fact rfl
        exact .proposedBelow asked promised.le retained heals.1)
    have unknown : node.replica.isChosen slot = false := by simpa using heals.2
    have voted : Acts input (node.core known)
        ((node.markChosen slot command ballot).core (known.vote slot ballot)) :=
      markChosen_votes (Or.inr rfl) retained unknown promised
    exact ⟨_, (noted.trans voted).trans (reports _ known)⟩
  case isFalse =>
    let recorded := node.recordAccepted slot ballot command
    have accepted : node.Becomes input notes recorded :=
      (Act.accept asked promised retained).acts
    have held : recorded.acceptor.records[slot]? = some (ballot, command) := by
      simp [recorded, recordAccepted, Acceptor.recordAccepted, queueWrites]
    have voted : Acts input (recorded.core notes) (recorded.core (notes.vote slot ballot)) :=
      noteVote_acts held promised le_rfl
    exact ⟨_, (accepted.trans voted).trans (reports recorded notes)⟩

theorem onAccept_plays {replyTo leader : NodeId}
    (asked : input = .deliver (.accept replyTo leader ballot slot command config))
    : node.Plays input (node.onAccept replyTo leader ballot slot command config) := by
  fun_cases onAccept node replyTo leader ballot slot command config
  case case1 | case2 => exact .refl
  case case3 => exact ⟨_, say_acts .nack⟩
  case case4 admits stepped promised _ =>
    obtain ⟨retained, atMost⟩ : node.acceptor.firstSlot ≤ slot ∧ node.acceptor.promised ≤ ballot := by
      unfold Acceptor.admitAccept at admits
      split_ifs at admits with below passed
      exact ⟨not_lt.mp below, not_lt.mp passed⟩
    obtain ⟨steps, follows, kept⟩ : node.Becomes input .none stepped
        ∧ (stepped.core .none).Follows input ballot ∧ stepped.acceptor = node.acceptor := by
      unfold stepped
      split_ifs with inherited stays
      · exact ⟨.refl _, Or.inr (Or.inl inherited.2.le), rfl⟩
      · exact ⟨becomeFollower_acts, Or.inl rfl, rfl⟩
      · refine ⟨.refl _, ?_, rfl⟩
        by_cases own : leader = node.me
        · exact Or.inr (Or.inr (Or.inr ⟨replyTo, slot, command, config, own ▸ asked⟩))
        · exact Or.inl (show node.role = _ by simpa [own] using stays)
    rw [← kept] at retained atMost
    have frame := (followBallot_frame stepped ballot config).1
    have moved : stepped.Becomes input .none (stepped.followBallot ballot config) :=
      followBallot_acts follows (fun named carried => Or.inr (Or.inl
        ⟨replyTo, leader, slot, command, carried ▸ asked⟩)) atMost
    have promises : (stepped.followBallot ballot config).Becomes input .none promised :=
      setPromise_acts (by rw [frame]; exact atMost)
    have voter : promised.acceptor = { stepped.acceptor with promised := ballot } := by
      rw [← frame]
      exact setPromise_acceptor
    exact Reaches.after (vote_reaches asked (by rw [voter]; exact retained) (by rw [voter]))
      ((steps.trans moved).trans promises)

-- Catch-up

/-- A catch-up page names chosen commands with their records' ballots, by induction on its room. -/
theorem catchUpEntries_chosen {chosenIndex : Nat} (room expected : Nat)
    (entries : SlotMap (Ballot × Command))
    (chosen : ∀ {slot : Nat} {ballot : Ballot} {command : Command},
      entries[slot]? = some (ballot, command) → node.replica.chosen[slot]? = some command
        ∧ ballot = ((node.acceptor.records[slot]?).map Prod.fst).getD node.ballot)
    : ∀ {slot : Nat} {ballot : Ballot} {command : Command},
      (node.catchUpEntries chosenIndex room expected entries)[slot]? = some (ballot, command)
        → node.replica.chosen[slot]? = some command
          ∧ ballot = ((node.acceptor.records[slot]?).map Prod.fst).getD node.ballot := by
  fun_induction catchUpEntries node chosenIndex room expected entries
  case case4 held _ ih =>
    refine ih fun {slot ballot command} entry => ?_
    rcases of_getElem?_insert entry with ⟨rfl, same⟩ | ⟨_, entry⟩
    · cases same
      exact ⟨held, rfl⟩
    · exact chosen entry
  all_goals exact chosen

theorem serveCatchup_acts {recipient : NodeId}
    (asked : (∃ sender fromSlot, input = .deliver (.catchUpRequest sender fromSlot))
      ∨ ∃ sender ballot commit config fence,
        input = .deliver (.heartbeat sender ballot commit config fence))
    : node.Becomes input notes (node.serveCatchup recipient fromSlot) := by
  fun_cases serveCatchup node recipient fromSlot
  case case2 => exact say_acts .trimmedTo
  case case5 =>
    exact say_acts (.catchUpResponse asked (catchUpEntries_chosen _ _ _ (by simp)))
  all_goals exact .refl _

variable {sender : NodeId}

theorem onCatchupResponse_plays {entries : SlotMap (Ballot × Command)}
    (told : input = .deliver (.catchUpResponse sender entries))
    : node.Plays input (node.onCatchupResponse entries) := by
  let facts : Set (Nat × Ballot × Command) := { fact | entries[fact.1]? = some fact.2 }
  have noted : Acts input (node.core .none) (node.core (Notes.none.know facts)) :=
    know_acts fun _ entry => .caughtUp told entry
  have learned : node.Becomes input (Notes.none.know facts) (node.onCatchupResponse entries) :=
    foldMarkChosen_acts _ fun entry member => Or.inr (mem_toList.mp member)
  exact ⟨_, noted.trans learned⟩

theorem onTrimmedTo_plays {point : Nat} {state : JournalState}
    (told : input = .deliver (.trimmedTo sender point state))
    : node.Plays input (node.onTrimmedTo point state) := by
  unfold onTrimmedTo
  split
  · exact .refl
  case isFalse raises =>
    have act : Act input (node.core .none) ((node.jumpTo point state).core .none).walk :=
      .trim told (not_le.mp raises)
    rw [← walk_core] at act
    exact ⟨.none, act.acts.trans serveQuorumReads_acts⟩

-- Heartbeats

theorem pullGap_acts
    : node.Becomes input notes (node.pullGap sender) := by
  have asks (audience : Audience) : node.Becomes input notes
      (node.push audience (node.catchUpRequest node.firstUnchosen)) :=
    say_acts .catchUpRequest
  unfold pullGap
  dsimp only
  generalize (if node.pullBeats = 0 ∨ node.pullIndex ≠ node.replica.chosenIndex then 1
    else node.pullBeats + 1) = beats
  split
  · exact asks .learners
  · exact asks (.node sender)

theorem heedLeader_acts
    : node.Becomes input notes (node.heedLeader sender) := by
  unfold heedLeader
  split
  · exact .refl _
  · exact becomeFollower_acts

theorem heedLeader_frame
    : (node.heedLeader sender).role = .follower
      ∧ (node.heedLeader sender).acceptor = node.acceptor := by
  unfold heedLeader
  split
  case isTrue vacant => exact ⟨vacant, rfl⟩
  case isFalse => exact ⟨rfl, rfl⟩

variable {commit : Option Nat}

/-- A beat at or above the promise: take its basis, follow its ballot, acknowledge. -/
theorem ackHeartbeat_acts {fence : Option Nat}
    (told : input = .deliver (.heartbeat sender ballot commit config fence))
    (vacant : node.role = .follower) (promised : node.acceptor.promised ≤ ballot)
    : node.Becomes input notes (node.ackHeartbeat sender ballot config fence) := by
  have acks (based : Node) (vacant : based.role = .follower)
      (promised : based.acceptor.promised ≤ ballot)
      : based.Becomes input notes (let followed := based.followBallot ballot config
        followed.send sender (.heartbeatAck followed.me ballot
          (if followed.hasMatchmakers then followed.replica.chosenIndex else none))) := by
    have moved : based.Becomes input notes (based.followBallot ballot config) :=
      followBallot_acts (Or.inl vacant) (fun named carried => Or.inr (Or.inr
        ⟨sender, commit, fence, carried ▸ told⟩)) promised
    rw [← (followBallot_frame based ballot config).1] at promised
    exact moved.trans (say_acts (.heartbeatAck promised))
  cases config with
  | none => exact acks node vacant promised
  | some basis =>
    have kept : (node.learnReadBasis basis ballot fence).role = node.role
        ∧ (node.learnReadBasis basis ballot fence).acceptor = node.acceptor := by
      unfold learnReadBasis
      split <;> exact ⟨rfl, rfl⟩
    have based : node.Becomes input notes (node.learnReadBasis basis ballot fence) :=
      learnReadBasis_acts (Or.inr ⟨sender, commit, told, promised⟩)
    exact based.trans (acks _ (kept.1.trans vacant) (by rw [kept.2]; exact promised))

theorem compareCommit_acts
    (asked : (∃ sender fromSlot, input = .deliver (.catchUpRequest sender fromSlot))
      ∨ ∃ sender ballot commit config fence,
        input = .deliver (.heartbeat sender ballot commit config fence))
    : node.Becomes input notes (node.compareCommit sender commit) := by
  unfold compareCommit
  dsimp only
  split
  · exact pullGap_acts
  · split
    · exact serveCatchup_acts asked
    · exact .refl _

theorem onHeartbeat_plays {fence : Option Nat}
    (told : input = .deliver (.heartbeat sender ballot commit config fence))
    : node.Plays input (node.onHeartbeat sender ballot commit config fence) := by
  fun_cases onHeartbeat node sender ballot commit config fence
  case case1 => exact .refl
  case case2 acked =>
    have acks : node.Becomes input .none acked := by
      unfold acked
      split
      case isTrue promised =>
        obtain ⟨vacant, same⟩ := @heedLeader_frame node sender
        exact heedLeader_acts.trans (ackHeartbeat_acts told vacant (same ▸ promised))
      case isFalse => exact .refl _
    exact ⟨.none, acks.trans (compareCommit_acts (Or.inr ⟨_, _, _, _, _, told⟩))⟩

theorem onHeartbeatAck_plays {chosen : Option Nat}
    (told : input = .deliver (.heartbeatAck sender ballot chosen))
    : node.Plays input (node.onHeartbeatAck sender ballot chosen) := by
  unfold onHeartbeatAck
  split
  · exact .refl
  case isFalse counts =>
    simp only [Bool.or_eq_true, Bool.not_eq_true', decide_eq_true_eq, not_or, not_not,
      Bool.not_eq_false] at counts
    obtain ⟨⟨_, leads⟩, rfl⟩ := counts
    let credited : Node := { node with proposer :=
      { node.proposer with authority := node.proposer.authority.credit sender } }
    have noted : credited.Becomes input .none
        (credited.notePeerChosen sender chosen) := notePeerChosen_acts told leads
    exact ⟨.none, credit_acts.trans noted⟩

-- Quorum reads

theorem currentReadBasis_reads {basis : ReadBasis} (current : node.currentReadBasis = some basis)
    : (node.core notes).Reads basis := by
  unfold currentReadBasis at current
  split at current
  case isTrue plain =>
    rw [Bool.not_eq_true'] at plain
    exact Or.inl ⟨plain, (Option.some.inj current).symm⟩
  case isFalse matched =>
    rw [Bool.not_eq_true', Bool.not_eq_false] at matched
    obtain ⟨held, newer⟩ := Option.filter_eq_some_iff.mp current
    exact Or.inr ⟨matched, held, of_decide_eq_true newer⟩

variable {ctx : Ctx}

/-- Asking the addressees of an open read, by induction on them. -/
theorem askReads_acts {row : Option Nat} (asked : input = .quorumRead ctx row)
    (addressees : List NodeId) (isOpen : ∃ read ∈ node.quorumReads, read.ctx = ctx)
    : node.Becomes input notes
      (addressees.foldl (fun node addressee => node.send addressee (.preRead node.me ctx)) node) := by
  induction addressees generalizing node with
  | nil => exact .refl _
  | cons addressee rest ih =>
    have sent : node.Becomes input notes (node.send addressee (.preRead node.me ctx)) :=
      say_acts (.preRead asked isOpen)
    exact sent.trans (ih isOpen)

theorem quorumReadIn_plays {row : Option Nat} (asked : input = .quorumRead ctx row)
    : node.Plays input (node.quorumReadIn ctx row) := by
  unfold quorumReadIn
  cases current : node.currentReadBasis with
  | none => exact .refl
  | some basis =>
    let chosen := basis.config.readRow ctx row
    let own := if basis.config.isPhase1Addressee node.me chosen then
      some (node.me, node.acceptor.voteWatermark) else none
    let opening := node.quorumReads.openRead ctx chosen basis node.tickCount own
    let opened : Node := { node with quorumReads := opening.1 }
    have opens : node.Becomes input .none opened :=
      (Act.openRead node.tickCount asked (currentReadBasis_reads current)).acts
    have isOpen : ∃ read ∈ opened.quorumReads, read.ctx = ctx :=
      ⟨_, List.mem_append_right _ (List.mem_singleton_self _), rfl⟩
    exact ⟨.none, (opens.trans (askReads_acts asked opening.2 isOpen)).trans
      serveQuorumReads_acts⟩

theorem onPreRead_plays (asked : input = .deliver (.preRead replyTo ctx))
    : node.Plays input (node.onPreRead replyTo ctx) := by
  fun_cases onPreRead node replyTo ctx
  case case3 hears =>
    refine ⟨.none, say_acts (.preReadAck asked fun matched => ?_)⟩
    have heard : ¬ (node.hasMatchmakers = true ∧ node.beliefSource = .bootstrap) := by
      simpa only [Bool.and_eq_true, decide_eq_true_eq] using hears
    cases held : node.beliefSource with
    | bootstrap => exact absurd ⟨matched, held⟩ heard
    | heard => exact held
  all_goals exact .refl

theorem onPreReadAck_plays {watermark : Option Nat} {configSince : Option Ballot}
    (told : input = .deliver (.preReadAck sender ctx watermark configSince))
    : node.Plays input (node.onPreReadAck sender ctx watermark configSince) := by
  unfold onPreReadAck
  split
  · exact .refl
  · have filled : node.Plays input (node.fillToWatermark watermark) :=
      fillToWatermark_reaches rfl
    have folds (filled : Node) (noted : Notes)
        : filled.Becomes input noted
          { filled with quorumReads := (filled.quorumReads.fold ctx sender watermark configSince).1 } :=
      (Act.foldRead told).acts
    dsimp only
    split
    · exact filled.then fun noted => ⟨noted, (folds _ noted).trans serveQuorumReads_acts⟩
    · exact filled.then fun noted => ⟨noted, folds _ noted⟩

theorem dropReads_acts {reads : QuorumReads} (fewer : ∀ read ∈ reads, read ∈ node.quorumReads)
    : node.Becomes input notes { node with quorumReads := reads } :=
  (Act.dropReads fewer).acts

theorem tickQuorumReads_acts : node.Becomes input notes node.tickQuorumReads :=
  (dropReads_acts fun _ member => List.mem_of_mem_filter member).trans serveQuorumReads_acts

-- Handoffs

/-- What a handoff's tail may describe: records of chosen slots, and open rounds. -/
structure Describes (node : Node) (tail : SlotMap (Ballot × Command) × SlotMap Command)
    : Prop where
  decided : ∀ {slot : Nat} {record : Ballot × Command}, tail.1[slot]? = some record
    → node.replica.isChosen slot = true ∧ node.acceptor.records[slot]? = some record
  pending : ∀ {slot : Nat} {command : Command}, tail.2[slot]? = some command
    → ∃ round, node.proposer.rounds.bySlot[slot]? = some round ∧ round.command = command

/-- The tail walk describes only what the node holds, by induction on the slots left. -/
theorem handoffTail_describes (slots slot : Nat)
    {tail result : SlotMap (Ballot × Command) × SlotMap Command}
    (describes : node.Describes tail) (walked : node.handoffTail slots slot tail = some result)
    : node.Describes result := by
  fun_induction handoffTail node slots slot tail
  case case1 => exact Option.some.inj walked ▸ describes
  case case2 chosen ih =>
    obtain ⟨record, held, rest⟩ := Option.bind_eq_some_iff.mp walked
    refine ih record ⟨fun {other entry} found => ?_, describes.pending⟩ rest
    rcases of_getElem?_insert found with ⟨rfl, rfl⟩ | ⟨_, found⟩
    · exact ⟨chosen, held⟩
    · exact describes.decided found
  case case3 ih =>
    obtain ⟨round, isOpen, rest⟩ := Option.bind_eq_some_iff.mp walked
    refine ih round ⟨describes.decided, fun {other command} found => ?_⟩ rest
    rcases of_getElem?_insert found with ⟨rfl, rfl⟩ | ⟨_, found⟩
    · exact ⟨round, isOpen, rfl⟩
    · exact describes.pending found

theorem relinquishTo_plays {target : NodeId}
    : node.Plays input (node.relinquishTo target).1 := by
  fun_cases relinquishTo node target
  case case3 allowed _ _ decided pending walked =>
    simp only [Bool.or_eq_true, Bool.not_eq_true', decide_eq_true_eq, not_or,
      Bool.not_eq_false] at allowed
    obtain ⟨⟨can, other⟩, _⟩ := allowed
    simp only [canRelinquish, Bool.and_eq_true, decide_eq_true_eq] at can
    have describes : node.Describes (decided, pending) :=
      handoffTail_describes _ _ ⟨by simp, by simp⟩ walked
    exact ⟨.none, (Act.relinquish node.priorInForce can.1.1.1.1.1.1.1.1 can.1.1.1.1.1.1.1.2 can.1.2
      other describes.decided describes.pending).acts⟩
  all_goals exact .refl

variable {decided : SlotMap (Ballot × Command)} {fromSlot nextSlot : Nat}
  {pending : SlotMap Command} {prior : List AcceptorConfig}

/-- A handed-off tail is recovered as planned, once its decided part was learned. -/
theorem inheritTail_acts (planned : notes.plan = some ⟨pending, ∅, fromSlot, nextSlot, .inherited⟩)
    : node.Becomes input notes (node.inheritTail fromSlot nextSlot pending) := by
  have act : Act input (node.core notes) _ := .openRecovery planned
  simp only [reduceCtorEq, if_false] at act
  exact act.acts

section Install

variable (told : input = .deliver (.relinquish sender node.me ballot fromSlot nextSlot decided pending
    config prior))
  (fresh : node.proposer.nextSlot ≤ nextSlot) (unlearned : node.firstUnchosen ≤ nextSlot)
  (named : config.isSome = node.hasMatchmakers)

include told fresh unlearned named

/-- What a handoff installs before the tail is learned. -/
theorem inheritOffice_acts (vacant : node.role = .follower) (promised : node.acceptor.promised = ballot)
    : Acts input (node.core .none) ((node.inheritOffice sender ballot nextSlot config).core
      ((Notes.none.know { fact | decided[fact.1]? = some fact.2 }).planning
        ⟨pending, ∅, fromSlot, nextSlot, .inherited⟩)) := by
  have act (own : Option NodeId) : Act input (node.core .none) _ :=
    .install own told vacant promised fresh unlearned named rfl
  cases config <;> exact (act _).acts

/-- A follower promises the ballot, takes the office and learns the tail. -/
theorem takeOver_plays (vacant : node.role = .follower) (promised : node.acceptor.promised ≤ ballot)
    : node.Plays input
      (node.installHandoff sender ballot fromSlot nextSlot decided pending config prior) := by
  let plan : Recovery Command := ⟨pending, ∅, fromSlot, nextSlot, .inherited⟩
  let noted := (Notes.none.know { fact | decided[fact.1]? = some fact.2 }).planning plan
  let seated := (node.setPromise ballot).inheritOffice sender ballot nextSlot config
  have leads : seated.role = .leader := by
    unfold seated inheritOffice
    cases config <;> rfl
  have promises : node.Becomes input .none (node.setPromise ballot) := setPromise_acts promised
  have offices : Acts input ((node.setPromise ballot).core .none) (seated.core noted) :=
    inheritOffice_acts told fresh unlearned named vacant
      (congrArg Acceptor.promised setPromise_acceptor)
  have learned : seated.baseReads.Becomes input noted (seated.baseReads.learnTail decided) :=
    foldMarkChosen_acts _ fun entry member => Or.inr (mem_toList.mp member)
  have inherits : (seated.baseReads.learnTail decided).Becomes input noted
      ((seated.baseReads.learnTail decided).inheritTail fromSlot nextSlot pending) :=
    inheritTail_acts rfl
  have pumped : ((seated.baseReads.learnTail decided).inheritTail fromSlot nextSlot
      pending).Reaches input noted _ := pumpLeaderRecovery_reaches
  have reached := pumped.after ((((promises.trans offices).trans (baseReads_acts leads)).trans
    learned).trans inherits)
  unfold installHandoff
  rw [if_neg (not_not.mpr vacant)]
  dsimp only
  split
  · exact reached.then fun final => ⟨final, openGc_acts⟩
  · exact reached

theorem installHandoff_plays (promised : node.acceptor.promised ≤ ballot)
    : node.Plays input
      (node.installHandoff sender ballot fromSlot nextSlot decided pending config prior) := by
  by_cases vacant : node.role = .follower
  · exact takeOver_plays told fresh unlearned named vacant promised
  · have same : node.installHandoff sender ballot fromSlot nextSlot decided pending config prior
        = (node.becomeFollower none).installHandoff sender ballot fromSlot nextSlot decided pending
          config prior := by
      unfold installHandoff
      rw [if_pos vacant]
      rfl
    rw [same]
    exact Reaches.after (@takeOver_plays input (node.becomeFollower none) _ _ _ _ _ _ _ _ told fresh
      unlearned named rfl promised) becomeFollower_acts

end Install

theorem onRelinquish_plays {sender recipient : NodeId}
    (told : input = .deliver (.relinquish sender recipient ballot fromSlot nextSlot decided pending
      config prior))
    : node.Plays input (node.onRelinquish sender recipient ballot fromSlot nextSlot decided pending
      config prior) := by
  fun_cases onRelinquish node sender recipient ballot fromSlot nextSlot decided pending config prior
  case case5 addressed current valid _ =>
    simp only [Bool.or_eq_true, Bool.not_eq_true', decide_eq_true_eq, not_or, not_not, not_lt,
      Bool.not_eq_false] at addressed current valid
    have named : config.isSome = node.hasMatchmakers := by
      have shaped := valid.2
      unfold handoffConfigValid at shaped
      split at shaped
      case h_1 plain => exact plain.symm
      case h_2 matched => exact matched.symm
      case h_3 => exact absurd shaped (by simp)
    obtain rfl := addressed.1.1.1
    exact installHandoff_plays told current.1.2 current.2 named current.1.1.1
  all_goals exact .refl

theorem tickHandoffFence_acts
    : node.Becomes input notes node.tickHandoffFence := by
  fun_cases tickHandoffFence node
  case case3 => exact becomeFollower_acts
  all_goals exact .refl _

end Node

end Paros
