import Paros.Decree.Protocol

/-! The two phases of a decree: what an answer does to it, what it has reported to its caller, and
the voting history that the messages sent stand for.
-/

namespace Paros

variable {V : Type}

-- What an answer does to a decree

/-- An election that counted one whole promise. -/
structure Election.Counts (election : Election V) (node : NodeId) (vote : Option (Ballot × V))
    (folded : Election V)
    : Prop where
  recovered : folded.recovered = mergeReports election.recovered (votePage vote)
  answered : folded.promises.answered = insert node election.promises.answered
  prior : folded.prior = election.prior

theorem Election.foldPromise_whole (election : Election V) (node : NodeId) (ballot : Ballot)
    (vote : Option (Ballot × V))
    : election.foldPromise node ballot decreeSlot (votePage vote) ∅ none = (election, .ignored)
      ∨ ∃ folded, election.foldPromise node ballot decreeSlot (votePage vote) ∅ none
          = (folded, .answered)
        ∧ election.Counts node vote folded := by
  unfold foldPromise
  split_ifs
  · exact .inl rfl
  · exact .inl rfl
  · exact .inr ⟨_, rfl, rfl, rfl, rfl⟩

namespace Decree

/-- A promise is ignored, counted, or completes a quorum, which opens Phase 2 with the best vote
merged or the own proposal.
-/
theorem onPromise_cases (decree : Decree V) (node : NodeId) (vote : Option (Ballot × V))
    : decree.onPromise node vote = (decree, .ignored)
      ∨ ∃ election folded, decree.proposer.election = some election
        ∧ election.Counts node vote folded
        ∧ ((∃ remaining, decree.onPromise node vote
            = ({ decree with proposer := { decree.proposer with election := some folded } },
              .counted remaining))
          ∨ folded.covered
            ∧ decree.onPromise node vote
              = ({ decree with
                  proposer := { decree.proposer with
                    election := none
                    probe := (folded.closePhase1 fun _ => false).2
                    rounds := Rounds.empty.openRound decreeSlot decree.ballot
                      ((folded.recovered[decreeSlot]?).elim decree.proposal Prod.snd) none none } },
                .quorum ((folded.recovered[decreeSlot]?).elim decree.proposal Prod.snd))) := by
  unfold onPromise
  split_ifs with refused
  · exact .inl rfl
  · cases opened : decree.proposer.election with
    | none => exact .inl rfl
    | some election =>
      rcases election.foldPromise_whole node decree.ballot vote with
        ignored | ⟨folded, answered, counts⟩
      · left
        simp only [ignored, ne_eq, reduceCtorEq, not_false_eq_true, if_true, ← opened]
      · refine .inr ⟨election, folded, rfl, counts, ?_⟩
        simp only [answered, ne_eq, not_true, if_false]
        split_ifs with short
        · exact .inl ⟨_, rfl⟩
        · refine .inr ⟨?_, rfl⟩
          simp only [Proposer.phase1Won, Option.any_some, Bool.not_eq_true,
            Bool.not_eq_false', Bool.and_eq_true] at short
          exact short.1

/-- An accept is ignored or adds its sender to the round; with a Phase-2 quorum of the senders
the round's value is chosen.
-/
theorem onAccepted_cases (decree : Decree V) (node : NodeId)
    : decree.onAccepted node = (decree, .ignored)
      ∨ ∃ round, decree.proposer.rounds.bySlot[decreeSlot]? = some round
        ∧ (decree.onAccepted node).1 = { decree with
            proposer := { decree.proposer with
              rounds := { decree.proposer.rounds with
                bySlot := decree.proposer.rounds.bySlot.insert decreeSlot
                  { round with acceptedBy := insert node round.acceptedBy } } } }
        ∧ ((∃ remaining, (decree.onAccepted node).2 = .counted remaining)
          ∨ decree.acceptors.hasPhase2QuorumIn (insert node round.acceptedBy) round.column
            ∧ (decree.onAccepted node).2 = .chosen round.command) := by
  unfold onAccepted
  split_ifs with refused
  · exact .inl rfl
  · cases opened : decree.proposer.rounds.bySlot[decreeSlot]? with
    | none => exact .inl rfl
    | some round =>
      by_cases repeated : node ∈ round.acceptedBy
      · simp only [if_pos repeated]
        exact .inl trivial
      · by_cases own : round.ballot = decree.ballot
        · refine .inr ⟨round, rfl, ?_⟩
          have folds : decree.proposer.rounds.foldAccepted node decree.ballot decreeSlot
              = some { decree.proposer.rounds with
                  bySlot := decree.proposer.rounds.bySlot.insert decreeSlot
                    { round with acceptedBy := insert node round.acceptedBy } } := by
            simp only [Rounds.foldAccepted, opened, if_pos own]
          simp only [if_neg repeated, folds, Rounds.decided, OrderedMap.getElem?_insert, if_pos,
            Option.bind_some]
          by_cases enough : decree.acceptors.hasPhase2QuorumIn (insert node round.acceptedBy)
            round.column
          · simp only [enough, if_true]
            exact ⟨trivial, .inr ⟨trivial, trivial⟩⟩
          · simp only [enough, Bool.false_eq_true, if_false]
            exact ⟨trivial, .inl ⟨_, rfl⟩⟩
        · have refuses : decree.proposer.rounds.foldAccepted node decree.ballot decreeSlot = none := by
            simp only [Rounds.foldAccepted, opened, if_neg own]
          simp only [if_neg repeated, refuses]
          exact .inl trivial

end Decree

-- What the decrees reported

namespace DecreeReport

/-- The vote a decree's counted promise carried. -/
def folded (ballot : Ballot) : DecreeReport V → Option (Ballot × V)
  | .promise _ _ _ .ignored => none
  | .promise own _ vote _ => if own = ballot then vote else none
  | .accept _ _ _ => none

/-- The value a decree's Phase-1 quorum selected. -/
def selected (ballot : Ballot) : DecreeReport V → Option V
  | .promise own _ _ (.quorum value) => if own = ballot then some value else none
  | _ => none

def ballot : DecreeReport V → Ballot
  | .promise own _ _ _ => own
  | .accept own _ _ => own

/-- A report of another decree says nothing of this one's Phase 1. -/
theorem other {report : DecreeReport V} {ballot : Ballot} (apart : report.ballot ≠ ballot)
    : report.folded ballot = none ∧ report.selected ballot = none := by
  cases report with
  | promise own node vote outcome =>
    have differs : own ≠ ballot := apart
    cases outcome <;> simp [folded, selected, differs]
  | accept => exact ⟨rfl, rfl⟩

end DecreeReport

/-- The votes of the promises a decree counted, in order. -/
def foldedVotes (ballot : Ballot) (reports : List (DecreeReport V)) : List (Ballot × V) :=
  reports.filterMap (DecreeReport.folded ballot)

/-- The values a decree's Phase-1 quorums selected, in order. -/
def selectedValues (ballot : Ballot) (reports : List (DecreeReport V)) : List V :=
  reports.filterMap (DecreeReport.selected ballot)

/-- The vote of the highest ballot among some votes, if there is any. -/
def BestVote (votes : List (Ballot × V)) : Option (Ballot × V) → Prop
  | none => votes = []
  | some best => best ∈ votes ∧ ∀ vote ∈ votes, vote.1 ≤ best.1

/-- Merging a promise's vote keeps the best one. -/
theorem BestVote.merge {votes : List (Ballot × V)} {tally : SlotMap (Ballot × V)}
    (best : BestVote votes tally[decreeSlot]?) (vote : Option (Ballot × V))
    : BestVote (votes ++ vote.toList) (mergeReports tally (votePage vote))[decreeSlot]? := by
  obtain ⟨keeps, lists, origin⟩ := @getElem?_mergeReports V tally (votePage vote) decreeSlot
  rw [getElem?_votePage] at lists origin
  cases merged : (mergeReports tally (votePage vote))[decreeSlot]? with
  | none =>
    rw [merged] at keeps lists
    cases held : tally[decreeSlot]? with
    | some held' => obtain ⟨_, impossible, _⟩ := keeps held; cases impossible
    | none =>
      rw [held] at best
      cases vote with
      | some vote => obtain ⟨_, impossible, _⟩ := lists rfl; cases impossible
      | none => simpa [BestVote] using best
  | some kept =>
    rw [merged] at keeps lists origin
    refine ⟨?_, fun other listed => ?_⟩
    · rcases origin rfl with old | new
      · rw [old] at best
        exact List.mem_append_left _ best.1
      · exact List.mem_append_right _ (by simp [new])
    · rcases List.mem_append.mp listed with old | new
      · cases held : tally[decreeSlot]? with
        | none =>
          rw [held] at best
          have empty : votes = [] := best
          simp [empty] at old
        | some before =>
          rw [held] at best
          obtain ⟨_, same, atMost⟩ := keeps held
          cases same
          exact (best.2 other old).trans atMost
      · obtain ⟨_, same, atMost⟩ := lists (Option.mem_toList.mp new)
        cases same
        exact atMost

-- The invariant

/-- The voting history of the messages sent: an acceptor has voted once its vote was released, and
casts no further vote below its durable promise.
-/
def decreeHistory (acceptors : AcceptorConfig) (voters : NodeId → DecreeVoter V)
    (sent : List (DecreeMessage V))
    : Voting.History NodeId Ballot V AcceptorConfig where
  vote node ballot value := .accepted node ballot ∈ sent ∧ ProposedBy sent ballot value
  floor node := (voters node).image.promised
  reportedTo node := (voters node).image.promised
  config _ := some acceptors
  barred _ := False
  held _ _ := False

/-- An answer has one author. -/
theorem DecreeMessage.answers.author {message : DecreeMessage V} {node other : NodeId}
    (left : message.answers node) (right : message.answers other)
    : node = other := by
  cases message with
  | promise | accepted | nack => exact left.symm.trans right
  | prepare | accept => exact left.elim

/-- An open Phase 1: every answer it counted was sent, and its tally holds the best vote. -/
structure ElectionKept (acceptors : AcceptorConfig) (sent : List (DecreeMessage V))
    (reports : List (DecreeReport V)) (ballot : Ballot) (election : Election V)
    : Prop where
  prior : election.prior = [acceptors]
  answered : ∀ node ∈ election.promises.answered, ∃ vote, .promise node ballot vote ∈ sent
    ∧ ∀ held ∈ vote, ∃ best, election.recovered[decreeSlot]? = some best ∧ held.1 ≤ best.1
  recovered : ∀ best, election.recovered[decreeSlot]? = some best
    → ∃ node, .promise node ballot (some best) ∈ sent
  best : BestVote (foldedVotes ballot reports) election.recovered[decreeSlot]?
  unselected : selectedValues ballot reports = []
  silent : ∀ value, ¬ ProposedBy sent ballot value

/-- An open Phase 2: its value is the one sent and the one Phase 1 selected, and every vote it
counted was sent.
-/
structure RoundKept (sent : List (DecreeMessage V)) (reports : List (DecreeReport V))
    (ballot : Ballot) (proposal : V) (round : Round V)
    : Prop where
  proposed : ProposedBy sent ballot round.command
  only : ∀ value, ProposedBy sent ballot value → value = round.command
  votes : ∀ node ∈ round.acceptedBy, .accepted node ballot ∈ sent
  selected : selectedValues ballot reports = [round.command]
  best : ∃ best, BestVote (foldedVotes ballot reports) best
    ∧ round.command = best.elim proposal Prod.snd

/-- A decree is in Phase 1 or in Phase 2. -/
structure DecreeKept (acceptors : AcceptorConfig) (sent : List (DecreeMessage V))
    (reports : List (DecreeReport V)) (ballot : Ballot) (decree : Decree V)
    : Prop where
  ballot_eq : decree.ballot = ballot
  acceptors_eq : decree.acceptors = acceptors
  phase : (∃ election, decree.proposer.election = some election
      ∧ decree.proposer.rounds.bySlot[decreeSlot]? = none
      ∧ ElectionKept acceptors sent reports ballot election)
    ∨ decree.proposer.election = none
      ∧ ∃ round, decree.proposer.rounds.bySlot[decreeSlot]? = some round
        ∧ RoundKept sent reports ballot decree.proposal round

/-- What every run keeps. -/
structure DecreeWorld.Kept (acceptors : AcceptorConfig) (world : DecreeWorld V) : Prop where
  voters : ∀ node, VoterKept world.sent node (world.voters node)
  decrees : ∀ {ballot decree}, world.decrees ballot = some decree
    → DecreeKept acceptors world.sent world.reports ballot decree
  unopened : ∀ {ballot}, world.decrees ballot = none
    → (∀ value, ¬ ProposedBy world.sent ballot value)
      ∧ foldedVotes ballot world.reports = [] ∧ selectedValues ballot world.reports = []
  sound : Voting.Sound AcceptorConfig.quorums (decreeHistory acceptors world.voters world.sent)
    (ProposedBy world.sent)
  chosen : ∀ {ballot node value}, .accept ballot node (.chosen value) ∈ world.reports
    → (decreeHistory acceptors world.voters world.sent).Chosen AcceptorConfig.quorums ballot value

-- Messages and reports that say nothing new

variable {acceptors : AcceptorConfig} {ballot : Ballot}

/-- More messages, none of them a proposal of this ballot, and more reports, none of them of its
Phase 1, leave a decree as it is.
-/
theorem DecreeKept.mono {sent more : List (DecreeMessage V)}
    {reports later : List (DecreeReport V)} {decree : Decree V}
    (kept : DecreeKept acceptors sent reports ballot decree)
    (grows : ∀ message ∈ sent, message ∈ more)
    (proposals : ∀ value, ProposedBy more ballot value → ProposedBy sent ballot value)
    (folded : foldedVotes ballot later = foldedVotes ballot reports)
    (selected : selectedValues ballot later = selectedValues ballot reports)
    : DecreeKept acceptors more later ballot decree := by
  refine ⟨kept.ballot_eq, kept.acceptors_eq, ?_⟩
  rcases kept.phase with ⟨election, opened, noRound, open1⟩ | ⟨closed, round, held, open2⟩
  · refine .inl ⟨election, opened, noRound, open1.prior, fun node member => ?_, fun best known => ?_,
      folded ▸ open1.best, selected ▸ open1.unselected, fun value made => ?_⟩
    · obtain ⟨vote, given, bounded⟩ := open1.answered node member
      exact ⟨vote, grows _ given, bounded⟩
    · obtain ⟨node, given⟩ := open1.recovered best known
      exact ⟨node, grows _ given⟩
    · exact open1.silent value (proposals value made)
  · exact .inr ⟨closed, round, held, grows _ open2.proposed,
      fun value made => open2.only value (proposals value made),
      fun node member => grows _ (open2.votes node member), selected ▸ open2.selected,
      folded ▸ open2.best⟩

theorem foldedVotes_append (ballot : Ballot) (reports : List (DecreeReport V))
    (report : DecreeReport V)
    : foldedVotes ballot (reports ++ [report])
      = foldedVotes ballot reports ++ (report.folded ballot).toList := by
  cases found : report.folded ballot <;> simp [foldedVotes, found]

theorem selectedValues_append (ballot : Ballot) (reports : List (DecreeReport V))
    (report : DecreeReport V)
    : selectedValues ballot (reports ++ [report])
      = selectedValues ballot reports ++ (report.selected ballot).toList := by
  cases found : report.selected ballot <;> simp [selectedValues, found]

/-- A report of another decree leaves this one's reports as they were. -/
theorem reports_other (reports : List (DecreeReport V)) {report : DecreeReport V}
    (apart : report.ballot ≠ ballot)
    : foldedVotes ballot (reports ++ [report]) = foldedVotes ballot reports
      ∧ selectedValues ballot (reports ++ [report]) = selectedValues ballot reports := by
  obtain ⟨folded, selected⟩ := DecreeReport.other apart
  simp [foldedVotes_append, selectedValues_append, folded, selected]

-- Phase 1

variable {sent : List (DecreeMessage V)}

/-- Counting a promise that was sent keeps the tally. -/
theorem ElectionKept.count {reports : List (DecreeReport V)} {election folded : Election V}
    {node : NodeId} {vote : Option (Ballot × V)}
    (kept : ElectionKept acceptors sent reports ballot election)
    (delivered : .promise node ballot vote ∈ sent) (counts : election.Counts node vote folded)
    (remaining : Nat)
    : ElectionKept acceptors sent (reports ++ [.promise ballot node vote (.counted remaining)])
      ballot folded := by
  obtain ⟨keeps, lists, origin⟩ :=
    @getElem?_mergeReports V election.recovered (votePage vote) decreeSlot
  rw [← counts.recovered] at keeps lists origin
  rw [getElem?_votePage] at lists origin
  exact {
    prior := counts.prior.trans kept.prior
    answered := by
      intro other member
      rw [counts.answered, Finset.mem_insert] at member
      rcases member with rfl | earlier
      · exact ⟨vote, delivered, fun held known => lists (Option.mem_def.mp known)⟩
      · obtain ⟨given, isSent, bounded⟩ := kept.answered other earlier
        refine ⟨given, isSent, fun held known => ?_⟩
        obtain ⟨best, isBest, atMost⟩ := bounded held known
        obtain ⟨merged, isMerged, above⟩ := keeps isBest
        exact ⟨merged, isMerged, atMost.trans above⟩
    recovered := by
      intro best known
      rcases origin known with old | new
      · exact kept.recovered best old
      · exact ⟨node, new ▸ delivered⟩
    best := by
      rw [counts.recovered, foldedVotes_append]
      simpa [DecreeReport.folded] using kept.best.merge vote
    unselected := by
      rw [selectedValues_append, kept.unselected]
      rfl
    silent := kept.silent }

/-- A promise that was sent is a true report of its acceptor. -/
theorem VoterKept.reported {voters : NodeId → DecreeVoter V}
    {node : NodeId} {vote : Option (Ballot × V)}
    (kept : VoterKept sent node (voters node)) (given : .promise node ballot vote ∈ sent)
    : Voting.Reported AcceptorConfig.quorums (decreeHistory acceptors voters sent) ballot node
      (vote.map Prod.fst) where
  left := kept.image.promise_le given
  reported := kept.image.promise_le given
  votes lower below value voted := by
    obtain ⟨held, _, rfl, atMost⟩ := kept.image.covers given voted.1 below
    exact ⟨held, rfl, .inl atMost⟩
  holds _ _ held := held.elim

/-- The value a covered election selects is safe at its ballot. Witness: a Phase-1 quorum reported
nothing above the best vote, which was proposed; or nothing at all.
-/
theorem ElectionKept.safe {voters : NodeId → DecreeVoter V} {reports : List (DecreeReport V)}
    {election : Election V} (kept : ElectionKept acceptors sent reports ballot election)
    (voterKept : ∀ node, VoterKept sent node (voters node)) (covered : election.covered)
    (sound : Voting.Sound AcceptorConfig.quorums (decreeHistory acceptors voters sent)
      (ProposedBy sent))
    (proposal : V)
    : (decreeHistory acceptors voters sent).Safe AcceptorConfig.quorums ballot
      ((election.recovered[decreeSlot]?).elim proposal Prod.snd) := by
  have enough : acceptors.hasPhase1Quorum election.promises.answered := by
    simpa [Election.covered, kept.prior] using covered
  have covers : (decreeHistory acceptors voters sent).Covered AcceptorConfig.quorums ballot
      (· = acceptors) :=
    fun _ _ => .inr (.inl ⟨acceptors, rfl, rfl⟩)
  have reports {bound : Option Ballot} (bounded : ∀ node ∈ election.promises.answered, ∀ vote,
      .promise node ballot vote ∈ sent
      → (∀ held ∈ vote, ∃ best, election.recovered[decreeSlot]? = some best ∧ held.1 ≤ best.1)
      → ∀ record ∈ vote.map Prod.fst, ∃ limit ∈ bound, record ≤ limit)
      : ∀ config, config = acceptors → Voting.ReportedUpTo AcceptorConfig.quorums
          (decreeHistory acceptors voters sent) ballot bound config := by
    rintro config rfl
    refine ⟨{ node | node ∈ election.promises.answered },
      ⟨election.promises.answered, none, enough, fun _ _ answered => answered⟩, ?_⟩
    intro node answered
    obtain ⟨vote, given, best⟩ := kept.answered node answered
    exact ⟨vote.map Prod.fst, (voterKept node).reported given, bounded node answered vote given best⟩
  cases held : election.recovered[decreeSlot]? with
  | none =>
    refine Voting.safe_of_silence covers (reports fun node _ vote _ best record listed => ?_)
    obtain ⟨reported, isReported, _⟩ := Option.mem_map.mp listed
    obtain ⟨_, impossible, _⟩ := best reported isReported
    rw [held] at impossible
    cases impossible
  | some best =>
    obtain ⟨node, given⟩ := kept.recovered best held
    refine sound.safe_of_reports covers ((voterKept node).image.reported given)
      (reports fun _ _ vote _ bounded record listed => ?_)
    obtain ⟨reported, isReported, rfl⟩ := Option.mem_map.mp listed
    obtain ⟨_, same, atMost⟩ := bounded reported isReported
    rw [held] at same
    cases same
    exact ⟨best.1, rfl, atMost⟩

end Paros
