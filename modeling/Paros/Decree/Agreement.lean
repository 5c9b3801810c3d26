import Paros.Decree.Phases

/-! A single decree chooses one value: every run of decrees and acceptors carries a sound voting
history.
-/

namespace Paros

variable {V : Type} {acceptors : AcceptorConfig} {world : DecreeWorld V}

-- Steps

/-- More messages extend the history, when a new vote lies at or above its acceptor's durable
promise and a ballot voted at gets no new proposal.
-/
theorem decreeHistory_extends {voters later : NodeId → DecreeVoter V}
    {sent more : List (DecreeMessage V)} (grows : ∀ message ∈ sent, message ∈ more)
    (floors : ∀ node, (voters node).image.promised ≤ (later node).image.promised)
    (fresh : ∀ node ballot, .accepted node ballot ∈ more
      → .accepted node ballot ∈ sent ∨ (voters node).image.promised ≤ ballot)
    (settled : ∀ node ballot value, .accepted node ballot ∈ sent → ProposedBy more ballot value
      → ProposedBy sent ballot value)
    : Voting.Extends (decreeHistory acceptors voters sent) (decreeHistory acceptors later more) where
  vote voted := ⟨grows _ voted.1, grows _ voted.2⟩
  floor := floors
  reportedTo := floors
  config := id
  barred := id
  held := id
  fresh {node ballot value} voted := by
    rcases fresh node ballot voted.1 with old | above
    · exact .inl ⟨old, settled node ballot value old voted.2⟩
    · exact .inr above
  freshHeld held := held.elim

namespace DecreeWorld.Kept

variable {node : NodeId} {ballot : Ballot} {decree next : Decree V} (kept : world.Kept acceptors)
include kept

/-- A step that proposes nothing keeps the history sound and what was chosen chosen. -/
theorem unproposed (later : DecreeWorld V)
    (grows : ∀ message ∈ world.sent, message ∈ later.sent)
    (proposals : ∀ ballot value, ProposedBy later.sent ballot value
      → ProposedBy world.sent ballot value)
    (floors : ∀ node, (world.voters node).image.promised ≤ (later.voters node).image.promised)
    (fresh : ∀ node ballot, .accepted node ballot ∈ later.sent
      → .accepted node ballot ∈ world.sent ∨ (world.voters node).image.promised ≤ ballot)
    : Voting.Extends (decreeHistory acceptors world.voters world.sent)
        (decreeHistory acceptors later.voters later.sent)
      ∧ Voting.Sound AcceptorConfig.quorums (decreeHistory acceptors later.voters later.sent)
        (ProposedBy later.sent) := by
  have extends_ : Voting.Extends (decreeHistory acceptors world.voters world.sent)
      (decreeHistory acceptors later.voters later.sent) :=
    decreeHistory_extends grows floors fresh fun _ ballot value _ made => proposals ballot value made
  refine ⟨extends_, kept.sound.extend extends_ ?_ (fun voted => voted.2) ?_ fun _ barred => barred⟩
  · intro ballot value other left right
    exact kept.sound.functional (proposals _ _ left) (proposals _ _ right)
  · intro ballot value made
    exact .inl (proposals _ _ made)

/-- A step of one decree, which says nothing about the others, keeps what is known of all. -/
theorem decreed {sent : List (DecreeMessage V)} {reports : List (DecreeReport V)}
    (grows : ∀ message ∈ world.sent, message ∈ sent)
    (quiet : ∀ other ≠ ballot,
      (∀ value, ProposedBy sent other value → ProposedBy world.sent other value)
      ∧ foldedVotes other reports = foldedVotes other world.reports
      ∧ selectedValues other reports = selectedValues other world.reports)
    (nextKept : DecreeKept acceptors sent reports ballot next)
    : (∀ {other found}, Function.update world.decrees ballot (some next) other = some found
        → DecreeKept acceptors sent reports other found)
      ∧ ∀ {other}, Function.update world.decrees ballot (some next) other = none
        → (∀ value, ¬ ProposedBy sent other value) ∧ foldedVotes other reports = []
          ∧ selectedValues other reports = [] := by
  constructor
  · intro other found known
    by_cases same : other = ballot
    · subst same
      rw [Function.update_self] at known
      exact Option.some.inj known ▸ nextKept
    · rw [Function.update_of_ne same] at known
      obtain ⟨proposals, folded, selected⟩ := quiet other same
      exact (kept.decrees known).mono grows proposals folded selected
  · intro other absent
    by_cases same : other = ballot
    · subst same
      simp at absent
    · rw [Function.update_of_ne same] at absent
      obtain ⟨proposals, folded, selected⟩ := quiet other same
      obtain ⟨silent, none, unselected⟩ := kept.unopened absent
      exact ⟨fun value made => silent value (proposals value made), folded.trans none,
        selected.trans unselected⟩

/-- A step of one acceptor that sends nothing and keeps its image. -/
theorem setVoter {voter : DecreeVoter V}
    (voterKept : VoterKept world.sent node voter)
    (image : voter.image = (world.voters node).image)
    : (world.setVoter node voter).Kept acceptors := by
  have images (other : NodeId)
      : (world.voters other).image = ((world.setVoter node voter).voters other).image := by
    by_cases same : other = node
    · subst same
      simp [DecreeWorld.setVoter, image]
    · simp [DecreeWorld.setVoter, Function.update_of_ne same]
  obtain ⟨step, sound⟩ := kept.unproposed (world.setVoter node voter) (fun _ given => given)
    (fun _ _ made => made) (fun other => (congrArg Acceptor.promised (images other)).le)
    fun _ _ given => .inl given
  refine ⟨fun other => ?_, kept.decrees, kept.unopened, sound, fun reported =>
    (kept.chosen reported).extend step⟩
  by_cases same : other = node
  · subst same
    simpa [DecreeWorld.setVoter] using voterKept
  · simpa [DecreeWorld.setVoter, Function.update_of_ne same] using kept.voters other

/-- Releasing an acceptor's replies: its votes lie at or above its durable promise. -/
theorem persist (node : NodeId)
    : (world.persist node).Kept acceptors := by
  have voterKept := kept.voters node
  have grows : ∀ message ∈ world.sent, message ∈ (world.persist node).sent :=
    fun _ given => List.mem_append_left _ given
  have answers {message : DecreeMessage V} (given : message ∈ (world.persist node).sent)
      : message ∈ world.sent ∨ message ∈ (world.voters node).replies :=
    List.mem_append.mp given
  have proposals (ballot : Ballot) (value : V)
      (made : ProposedBy (world.persist node).sent ballot value)
      : ProposedBy world.sent ballot value := by
    rcases answers made with old | new
    · exact old
    · exact (voterKept.own _ new).elim
  have persisted : ((world.persist node).voters node) = (world.voters node).persist := by
    simp [DecreeWorld.persist, DecreeWorld.setVoter]
  have untouched {other : NodeId} (apart : other ≠ node)
      : (world.persist node).voters other = world.voters other := by
    simp [DecreeWorld.persist, DecreeWorld.setVoter, Function.update_of_ne apart]
  have voters (other : NodeId)
      : VoterKept (world.persist node).sent other ((world.persist node).voters other) := by
    by_cases same : other = node
    · subst same
      rw [persisted]
      exact voterKept.persist
    · rw [untouched same]
      refine (kept.voters other).others grows fun message given answered => ?_
      rcases answers given with old | new
      · exact old
      · exact absurd (answered.author (voterKept.own message new)) same
  obtain ⟨step, sound⟩ := kept.unproposed (world.persist node) grows proposals
    (fun other => by
      by_cases same : other = node
      · subst same
        have stored : ((world.voters other).persist).image = (world.voters other).acceptor :=
          voterKept.replay
        rw [persisted, stored]
        exact voterKept.promised_le
      · rw [untouched same])
    (fun other ballot given => by
      rcases answers given with old | new
      · exact .inl old
      · obtain rfl : other = node := voterKept.own _ new
        exact .inr (voterKept.waiting new))
  refine ⟨voters, fun held => (kept.decrees held).mono grows (proposals _) rfl rfl, fun absent => ?_,
    sound, fun reported => (kept.chosen reported).extend step⟩
  obtain ⟨silent, reports⟩ := kept.unopened absent
  exact ⟨fun value made => silent value (proposals _ _ made), reports⟩

theorem propose (proposal : V) (distinct : world.decrees ballot = none)
    : (world.propose acceptors ballot proposal).Kept acceptors := by
  have grows : ∀ message ∈ world.sent, message ∈ (world.propose acceptors ballot proposal).sent :=
    fun _ given => List.mem_append_left _ given
  have old {message : DecreeMessage V}
      (given : message ∈ (world.propose acceptors ballot proposal).sent)
      (other : message ≠ .prepare ballot)
      : message ∈ world.sent :=
    (List.mem_append.mp given).resolve_right fun new => other (List.mem_singleton.mp new)
  have proposals (other : Ballot) (value : V)
      (made : ProposedBy (world.propose acceptors ballot proposal).sent other value)
      : ProposedBy world.sent other value :=
    old made (by simp)
  obtain ⟨step, sound⟩ := kept.unproposed (world.propose acceptors ballot proposal) grows proposals
    (fun _ => le_rfl) fun _ _ given => .inl (old given (by simp))
  have opened : DecreeKept acceptors (world.propose acceptors ballot proposal).sent world.reports
      ballot (.new ballot acceptors proposal) := by
    obtain ⟨silent, folded, selected⟩ := kept.unopened distinct
    refine ⟨rfl, rfl, .inl ⟨_, rfl, by simp [Decree.new, Proposer.new, Rounds.empty], rfl, ?_, ?_, ?_,
      selected, fun value made => silent value (proposals _ _ made)⟩⟩
    · simp [Election.openPhase1]
    · simp [Election.openPhase1, OrderedMap.getElem?_startingAt]
    · have none : (OrderedMap.startingAt decreeSlot (∅ : SlotMap (Ballot × V)))[decreeSlot]? = none := by
        simp [OrderedMap.getElem?_startingAt]
      rw [folded, Election.openPhase1, none]
      rfl
  obtain ⟨decrees, unopened⟩ := kept.decreed grows (fun other _ => ⟨proposals other, rfl, rfl⟩) opened
  exact ⟨fun node => (kept.voters node).others grows fun message given answered =>
      old given (by rintro rfl; exact answered), decrees, unopened, sound,
    fun reported => (kept.chosen reported).extend step⟩

/-- A decree's answer handled: it reports something, and the other decrees stay as they are. -/
theorem handled {report : DecreeReport V} (about : report.ballot = ballot)
    (nextKept : DecreeKept acceptors world.sent (world.reports ++ [report]) ballot next)
    (chosen : ∀ node value, report = .accept ballot node (.chosen value)
      → (decreeHistory acceptors world.voters world.sent).Chosen AcceptorConfig.quorums ballot value)
    : DecreeWorld.Kept acceptors { world with
        decrees := Function.update world.decrees ballot (some next)
        reports := world.reports ++ [report] } := by
  obtain ⟨decrees, unopened⟩ := kept.decreed (fun _ given => given)
    (fun other apart => ⟨fun _ made => made,
      reports_other world.reports (about.trans_ne apart.symm)⟩) nextKept
  refine ⟨kept.voters, decrees, unopened, kept.sound, fun {other node value} reported => ?_⟩
  rcases List.mem_append.mp reported with old | new
  · exact kept.chosen old
  · obtain rfl := List.mem_singleton.mp new
    obtain rfl : other = ballot := about
    exact chosen node value rfl

/-- A won Phase 1 proposes its value: it is safe, and the only one at its ballot. -/
theorem select {vote : Option (Ballot × V)} {folded : Election V}
    (tallied : ElectionKept acceptors world.sent
      (world.reports ++ [.promise ballot node vote (.counted 0)]) ballot folded)
    (covered : folded.covered) {value : V}
    (isBest : value = (folded.recovered[decreeSlot]?).elim decree.proposal Prod.snd)
    (ballot_eq : next.ballot = ballot) (acceptors_eq : next.acceptors = acceptors)
    (proposal_eq : next.proposal = decree.proposal) (closed : next.proposer.election = none)
    {round : Round V} (opened : next.proposer.rounds.bySlot[decreeSlot]? = some round)
    (command : round.command = value) (unvoted : round.acceptedBy = ∅)
    : DecreeWorld.Kept acceptors { world with
        decrees := Function.update world.decrees ballot (some next)
        sent := world.sent ++ [.accept ballot value]
        reports := world.reports ++ [.promise ballot node vote (.quorum value)] } := by
  let more := world.sent ++ [.accept ballot value]
  have grows : ∀ message ∈ world.sent, message ∈ more := fun _ given => List.mem_append_left _ given
  have proposals {other : Ballot} {made : V} (isMade : ProposedBy more other made)
      : ProposedBy world.sent other made ∨ other = ballot ∧ made = value := by
    rcases List.mem_append.mp isMade with old | new
    · exact .inl old
    · exact .inr (by simpa using new)
  have old {message : DecreeMessage V} (given : message ∈ more)
      (other : message ≠ .accept ballot value)
      : message ∈ world.sent :=
    (List.mem_append.mp given).resolve_right fun new => other (List.mem_singleton.mp new)
  have step : Voting.Extends (decreeHistory acceptors world.voters world.sent)
      (decreeHistory acceptors world.voters more) := by
    refine decreeHistory_extends grows (fun _ => le_rfl) (fun _ _ given => .inl (old given (by simp)))
      fun voter other made voted isMade => ?_
    rcases proposals isMade with earlier | ⟨rfl, _⟩
    · exact earlier
    · obtain ⟨some, already⟩ := (kept.voters voter).image.voted voted
      exact absurd already (tallied.silent some)
  have safe := (tallied.safe kept.voters covered kept.sound decree.proposal).extend step
  rw [← isBest] at safe
  have sound : Voting.Sound AcceptorConfig.quorums (decreeHistory acceptors world.voters more)
      (ProposedBy more) := by
    refine kept.sound.extend step ?_ (fun voted => voted.2) ?_ fun _ barred => barred
    · intro other left right isLeft isRight
      rcases proposals isLeft with early | ⟨rfl, rfl⟩ <;>
        rcases proposals isRight with late | ⟨same, rfl⟩
      · exact kept.sound.functional early late
      · exact absurd (same ▸ early) (tallied.silent left)
      · exact absurd late (tallied.silent right)
      · rfl
    · intro other made isMade
      rcases proposals isMade with earlier | ⟨rfl, rfl⟩
      · exact .inl earlier
      · exact .inr safe
  have folds : foldedVotes ballot (world.reports ++ [.promise ballot node vote (.quorum value)])
      = foldedVotes ballot (world.reports ++ [.promise ballot node vote (.counted 0)]) := by
    simp [foldedVotes_append, DecreeReport.folded]
  have first : selectedValues ballot world.reports = [] := by
    have unselected := tallied.unselected
    rw [selectedValues_append] at unselected
    exact (List.append_eq_nil_iff.mp unselected).1
  have nextKept : DecreeKept acceptors more
      (world.reports ++ [.promise ballot node vote (.quorum value)]) ballot next := by
    refine ⟨ballot_eq, acceptors_eq, .inr ⟨closed, round, opened, ?_, ?_, by simp [unvoted], ?_,
      folded.recovered[decreeSlot]?, folds ▸ tallied.best, ?_⟩⟩
    · exact List.mem_append_right _ (by simp [command])
    · intro made isMade
      rcases proposals isMade with earlier | ⟨_, rfl⟩
      · exact absurd earlier (tallied.silent made)
      · exact command.symm
    · rw [selectedValues_append, first]
      simp [DecreeReport.selected, command]
    · rw [command, isBest, proposal_eq]
  obtain ⟨decrees, unopened⟩ := kept.decreed grows (fun other different =>
    ⟨fun made isMade => (proposals isMade).resolve_right fun new => different new.1,
      @reports_other _ other world.reports (.promise ballot node vote (.quorum value))
        different.symm⟩) nextKept
  refine ⟨fun voter => (kept.voters voter).others grows fun message given answered =>
      old given (by rintro rfl; exact answered), decrees, unopened, sound,
    fun {other voter made} reported => ?_⟩
  have earlier : .accept other voter (.chosen made) ∈ world.reports := by simpa using reported
  exact (kept.chosen earlier).extend step

variable (held : world.decrees ballot = some decree)
include held

/-- A promise delivered to its decree. -/
theorem promise {vote : Option (Ballot × V)}
    (delivered : .promise node ballot vote ∈ world.sent)
    : (world.deliverPromise decree ballot node vote).Kept acceptors := by
  have decreeKept := kept.decrees held
  unfold DecreeWorld.deliverPromise
  rcases decree.onPromise_cases node vote with
    ignored | ⟨election, folded, opened, counts, ⟨remaining, counted⟩ | ⟨covered, won⟩⟩
  · rw [ignored]
    refine kept.handled rfl (decreeKept.mono (fun _ given => given) (fun _ made => made) ?_ ?_)
      (by simp)
    · simp [foldedVotes_append, DecreeReport.folded]
    · simp [selectedValues_append, DecreeReport.selected]
  · rw [counted]
    refine kept.handled rfl ⟨decreeKept.ballot_eq, decreeKept.acceptors_eq, ?_⟩ (by simp)
    rcases decreeKept.phase with ⟨same, opened', noRound, open1⟩ | ⟨closed, _⟩
    · obtain rfl := Option.some.inj (opened'.symm.trans opened)
      exact .inl ⟨folded, rfl, noRound, open1.count delivered counts remaining⟩
    · exact absurd (closed.symm.trans opened) (by simp)
  · rw [won]
    rcases decreeKept.phase with ⟨same, opened', noRound, open1⟩ | ⟨closed, _⟩
    · obtain rfl := Option.some.inj (opened'.symm.trans opened)
      have opens (value : V)
          : (Rounds.empty.openRound decreeSlot decree.ballot value none none).bySlot[decreeSlot]?
            = some ⟨decree.ballot, value, ∅, none, 0, 0⟩ := by
        simp [Rounds.openRound]
      exact kept.select (open1.count delivered counts 0) covered rfl decreeKept.ballot_eq
        decreeKept.acceptors_eq rfl rfl (opens _) rfl rfl
    · exact absurd (closed.symm.trans opened) (by simp)

/-- An accept delivered to its decree: a quorum of them chose the round's value. -/
theorem accepted (delivered : .accepted node ballot ∈ world.sent)
    : (world.deliverAccepted decree ballot node).Kept acceptors := by
  have decreeKept := kept.decrees held
  have quiet (outcome : AcceptFold V)
      : foldedVotes ballot (world.reports ++ [.accept ballot node outcome])
          = foldedVotes ballot world.reports
        ∧ selectedValues ballot (world.reports ++ [.accept ballot node outcome])
          = selectedValues ballot world.reports := by
    simp [foldedVotes_append, selectedValues_append, DecreeReport.folded, DecreeReport.selected]
  unfold DecreeWorld.deliverAccepted
  rcases decree.onAccepted_cases node with ignored | ⟨round, opened, next, outcome⟩
  · rw [ignored]
    obtain ⟨folded, selected⟩ := quiet .ignored
    exact kept.handled rfl
      (decreeKept.mono (fun _ given => given) (fun _ made => made) folded selected) (by simp)
  · generalize decree.onAccepted node = result at next outcome ⊢
    obtain ⟨after, verdict⟩ := result
    dsimp only at next outcome ⊢
    obtain ⟨folded, selected⟩ := quiet verdict
    rcases decreeKept.phase with ⟨_, _, noRound, _⟩ | ⟨closed, same, opened', open2⟩
    · exact absurd (noRound.symm.trans opened) (by simp)
    · obtain rfl := Option.some.inj (opened'.symm.trans opened)
      have votes : ∀ voter ∈ insert node same.acceptedBy, .accepted voter ballot ∈ world.sent := by
        intro voter member
        rcases Finset.mem_insert.mp member with rfl | earlier
        · exact delivered
        · exact open2.votes voter earlier
      refine kept.handled rfl ?_ fun voter value reported => ?_
      · rw [next]
        refine ⟨decreeKept.ballot_eq, decreeKept.acceptors_eq, .inr ⟨closed,
          { same with acceptedBy := insert node same.acceptedBy }, by simp, open2.proposed,
          open2.only, votes, selected ▸ open2.selected, folded ▸ open2.best⟩⟩
      · rcases outcome with ⟨_, counted⟩ | ⟨enough, chosen⟩
        · simp [counted] at reported
        · simp only [chosen, DecreeReport.accept.injEq, AcceptFold.chosen.injEq, true_and] at reported
          obtain ⟨_, rfl⟩ := reported
          rw [decreeKept.acceptors_eq] at enough
          exact ⟨acceptors, rfl, { voter | voter ∈ insert node same.acceptedBy },
            ⟨_, _, enough, fun _ _ member => member⟩,
            fun voter member => ⟨votes voter member, open2.proposed⟩⟩

/-- A refusal preempts the decree and changes nothing else. -/
theorem nack (promised : Ballot)
    : (world.deliverNack decree ballot promised).Kept acceptors := by
  have decreeKept := kept.decrees held
  have nextKept : DecreeKept acceptors world.sent world.reports ballot (decree.onNack promised) := by
    unfold Decree.onNack
    split_ifs
    · exact decreeKept
    · exact ⟨decreeKept.ballot_eq, decreeKept.acceptors_eq, decreeKept.phase⟩
  obtain ⟨decrees, unopened⟩ := kept.decreed (fun _ given => given)
    (fun _ _ => ⟨fun _ made => made, rfl, rfl⟩) nextKept
  exact ⟨kept.voters, decrees, unopened, kept.sound, kept.chosen⟩

omit kept held in
theorem initial : (DecreeWorld.initial : DecreeWorld V).Kept acceptors where
  voters _ := .fresh
  decrees known := by simp [DecreeWorld.initial] at known
  unopened _ := ⟨by simp [DecreeWorld.initial, ProposedBy], rfl, rfl⟩
  sound := ⟨by simp [DecreeWorld.initial, ProposedBy], by simp [decreeHistory, DecreeWorld.initial],
    by simp [DecreeWorld.initial, ProposedBy], fun _ barred => barred⟩
  chosen reported := by simp [DecreeWorld.initial] at reported

end DecreeWorld.Kept

/-- Every run keeps the invariant. Witness: induction over the run, one step lemma per event. -/
theorem DecreeWorld.Reached.kept (run : Reached acceptors world)
    : world.Kept acceptors := by
  induction run with
  | start => exact .initial
  | propose _ proposal distinct kept => exact kept.propose proposal distinct
  | prepare _ node _ kept => exact kept.setVoter ((kept.voters node).prepare _) rfl
  | accept _ node delivered kept =>
    refine kept.setVoter ((kept.voters node).accept delivered) ?_
    unfold DecreeVoter.onAccept
    split <;> rfl
  | persist _ node kept => exact kept.persist node
  | restart _ node kept => exact kept.setVoter (kept.voters node).restart rfl
  | promise _ delivered held kept => exact kept.promise held delivered
  | accepted _ delivered held kept => exact kept.accepted held delivered
  | nack _ _ held kept => exact kept.nack held _

-- Agreement

/-- A single decree chooses one value. In every run of decrees at distinct ballots, all values
reported chosen are equal. A decree's Phase 1 selects at most once, and then the vote of the
highest ballot among the promises it counted, or its own proposal when none carried a vote. No two
promises report different values at one ballot.
-/
theorem DecreeWorld.decree_agreement {acceptors : AcceptorConfig} {world : DecreeWorld V}
    (run : Reached acceptors world)
    : (∀ ballot node value other peer rival,
        .accept ballot node (.chosen value) ∈ world.reports
        → .accept other peer (.chosen rival) ∈ world.reports → value = rival)
      ∧ (∀ ballot, (selectedValues ballot world.reports).length ≤ 1
        ∧ ∀ value ∈ selectedValues ballot world.reports, ∃ decree best,
          world.decrees ballot = some decree
          ∧ BestVote (foldedVotes ballot world.reports) best
          ∧ value = best.elim decree.proposal Prod.snd)
      ∧ ∀ node ballot peer other held value rival,
          .promise node ballot (some (held, value)) ∈ world.sent
          → .promise peer other (some (held, rival)) ∈ world.sent → value = rival := by
  have kept := run.kept
  refine ⟨fun ballot node value other peer rival left right => ?_, fun ballot => ?_,
    fun node ballot peer other held value rival left right => ?_⟩
  · exact kept.sound.agreement (kept.chosen left) (kept.chosen right)
  · cases known : world.decrees ballot with
    | none => simp [(kept.unopened known).2.2]
    | some decree =>
      rcases (kept.decrees known).phase with ⟨_, _, _, open1⟩ | ⟨_, round, _, open2⟩
      · simp [open1.unselected]
      · obtain ⟨best, isBest, same⟩ := open2.best
        rw [open2.selected]
        refine ⟨le_rfl, fun value member => ⟨decree, best, rfl, isBest, ?_⟩⟩
        rw [List.mem_singleton.mp member, same]
  · exact kept.sound.functional ((kept.voters node).image.reported left)
      ((kept.voters peer).image.reported right)

/-- One event of a run. -/
inductive DecreeEvent (V : Type) where
  | propose (ballot : Ballot) (proposal : V)
  | prepare (node : NodeId) (ballot : Ballot)
  | accept (node : NodeId) (ballot : Ballot) (value : V)
  | persist (node : NodeId)
  | restart (node : NodeId)
  | promise (node : NodeId) (ballot : Ballot) (vote : Option (Ballot × V))
  | accepted (node : NodeId) (ballot : Ballot)
  | nack (node : NodeId) (ballot promised : Ballot)

/-- Take one event of a run; one that is not possible changes nothing. -/
def DecreeWorld.step [DecidableEq V] (acceptors : AcceptorConfig) (world : DecreeWorld V)
    : DecreeEvent V → DecreeWorld V
  | .propose ballot proposal =>
    if (world.decrees ballot).isNone then world.propose acceptors ballot proposal else world
  | .prepare node ballot =>
    if .prepare ballot ∈ world.sent then
      world.setVoter node ((world.voters node).onPrepare node ballot)
    else world
  | .accept node ballot value =>
    if .accept ballot value ∈ world.sent then
      world.setVoter node ((world.voters node).onAccept node ballot value)
    else world
  | .persist node => world.persist node
  | .restart node => world.setVoter node (world.voters node).restart
  | .promise node ballot vote =>
    match world.decrees ballot with
    | some decree =>
      if .promise node ballot vote ∈ world.sent then
        world.deliverPromise decree ballot node vote
      else world
    | none => world
  | .accepted node ballot =>
    match world.decrees ballot with
    | some decree =>
      if .accepted node ballot ∈ world.sent then world.deliverAccepted decree ballot node
      else world
    | none => world
  | .nack node ballot promised =>
    match world.decrees ballot with
    | some decree =>
      if .nack node ballot promised ∈ world.sent then world.deliverNack decree ballot promised
      else world
    | none => world

theorem DecreeWorld.Reached.step [DecidableEq V]
    (run : Reached acceptors world) (event : DecreeEvent V)
    : Reached acceptors (world.step acceptors event) := by
  fun_cases DecreeWorld.step acceptors world event
  case case1 ballot proposal distinct =>
    exact run.propose proposal (Option.isNone_iff_eq_none.mp distinct)
  case case3 node ballot delivered => exact run.prepare node delivered
  case case5 node ballot value delivered => exact run.accept node delivered
  case case7 node => exact run.persist node
  case case8 node => exact run.restart node
  case case9 held delivered => exact run.promise delivered held
  case case12 held delivered => exact run.accepted delivered held
  case case15 held delivered => exact run.nack delivered held
  all_goals exact run

theorem DecreeWorld.Reached.steps [DecidableEq V]
    (run : Reached acceptors world) (events : List (DecreeEvent V))
    : Reached acceptors (events.foldl (DecreeWorld.step acceptors) world) := by
  induction events generalizing world with
  | nil => exact run
  | cons event rest ih => exact ih (run.step event)

/-- Two decrees over three acceptors: the first has one vote when the second's Phase 1 finds it,
and the second acceptor restarts before it votes.
-/
def duellingDecrees : DecreeWorld Nat :=
  ([.propose ⟨1, 0⟩ 5, .prepare 0 ⟨1, 0⟩, .prepare 1 ⟨1, 0⟩, .persist 0, .persist 1,
    .promise 0 ⟨1, 0⟩ none, .promise 1 ⟨1, 0⟩ none, .promise 1 ⟨1, 0⟩ none, .restart 1,
    .accept 0 ⟨1, 0⟩ 5, .accept 1 ⟨1, 0⟩ 5, .persist 0, .persist 1, .accepted 0 ⟨1, 0⟩,
    .propose ⟨2, 1⟩ 9, .prepare 0 ⟨2, 1⟩, .prepare 2 ⟨2, 1⟩, .persist 0, .persist 2,
    .promise 2 ⟨2, 1⟩ none, .promise 0 ⟨2, 1⟩ (some (⟨1, 0⟩, 5)), .accepted 1 ⟨1, 0⟩,
    .accept 0 ⟨2, 1⟩ 5, .accept 2 ⟨2, 1⟩ 5, .persist 0, .persist 2, .accepted 0 ⟨2, 1⟩,
    .accepted 2 ⟨2, 1⟩] : List (DecreeEvent Nat)).foldl (DecreeWorld.step .trio) .initial

/-- Both decrees report their value chosen, and the second took the first's over its own. -/
theorem DecreeWorld.decree_agreement_duelling
    : .accept ⟨1, 0⟩ 1 (.chosen 5) ∈ duellingDecrees.reports
      ∧ .accept ⟨2, 1⟩ 2 (.chosen 5) ∈ duellingDecrees.reports
      ∧ (∀ ballot node value, .accept ballot node (.chosen value) ∈ duellingDecrees.reports
        → value = 5)
      ∧ ∀ value ∈ selectedValues ⟨2, 1⟩ duellingDecrees.reports, ∃ decree best,
          duellingDecrees.decrees ⟨2, 1⟩ = some decree
          ∧ BestVote (foldedVotes ⟨2, 1⟩ duellingDecrees.reports) best
          ∧ value = best.elim decree.proposal Prod.snd := by
  have run : Reached .trio duellingDecrees := Reached.steps .start _
  obtain ⟨agree, selects, _⟩ := decree_agreement run
  have first : .accept ⟨1, 0⟩ 1 (.chosen 5) ∈ duellingDecrees.reports := by decide +kernel
  exact ⟨first, by decide +kernel, fun ballot node value reported =>
    agree _ _ _ _ _ _ reported first, (selects ⟨2, 1⟩).2⟩

/-- From a chosen value's ballot on, every accept sent and every durable record carry it. -/
theorem DecreeWorld.chosen_value_stays (run : Reached acceptors world) {ballot upper : Ballot}
    {node : NodeId} {value other : V} (above : ballot ≤ upper)
    (chosen : .accept ballot node (.chosen value) ∈ world.reports)
    : (.accept upper other ∈ world.sent → value = other)
      ∧ ∀ peer, (world.voters peer).image.records[decreeSlot]? = some (upper, other)
        → value = other := by
  have only (made : ProposedBy world.sent upper other) : value = other :=
    run.kept.sound.chosen_eq_proposed (run.kept.chosen chosen) above made
  exact ⟨only, fun peer held => only ((run.kept.voters peer).image.recorded held)⟩

theorem DecreeWorld.chosen_value_stays_duelling : .accept ⟨2, 1⟩ 9 ∉ duellingDecrees.sent := by
  intro sent
  have chosen : .accept ⟨1, 0⟩ 1 (.chosen 5) ∈ duellingDecrees.reports := by decide +kernel
  exact absurd ((chosen_value_stays (Reached.steps .start _) (by decide) chosen).1 sent) (by decide)

end Paros
