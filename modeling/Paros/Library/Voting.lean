import Mathlib

/-! Ballot voting on one decree, with a quorum system that may differ from ballot to ballot.
A value is safe at a ballot when no lower ballot can decide against it. The rules below say
how safety is established from acceptor reports, including damaged ones.
-/

namespace Voting

-- Quorum systems and voting histories

/-- The two quorum families of each configuration. Every Phase-1 quorum meets every Phase-2
quorum of its own configuration; nothing is required across configurations.
-/
structure Quorums (N C : Type*) where
  phase1 : C → Set N → Prop
  phase2 : C → Set N → Prop
  meet : ∀ {config first second},
    phase1 config first → phase2 config second → ∃ acceptor, acceptor ∈ first ∧ acceptor ∈ second
  inhabited : ∀ {config second}, phase2 config second → ∃ acceptor, acceptor ∈ second

/-- What the acceptors have done so far on one decree. `floor` is the ballot below which an
acceptor casts no further vote, `reportedTo` the highest ballot it has reported to; a `barred`
ballot is one at which nothing is ever proposed; an acceptor `held` the decision at a ballot when
it had a record standing for a chosen value before it reported to a higher one.
-/
structure History (N B V C : Type*) where
  vote : N → B → V → Prop
  floor : N → B
  reportedTo : N → B
  config : B → Option C
  barred : B → Prop
  held : N → B → Prop

variable {N B V C : Type*} [LinearOrder B] (quorums : Quorums N C)

/-- A Phase-2 quorum of the ballot's configuration voted for the value. -/
def History.Chosen (history : History N B V C) (ballot : B) (value : V) : Prop :=
  ∃ config, history.config ballot = some config
    ∧ ∃ quorum, quorums.phase2 config quorum
      ∧ ∀ acceptor ∈ quorum, history.vote acceptor ballot value

/-- A Phase-1 quorum of the ballot's configuration has left the ballot, and each of its
members voted there for nothing but the value.
-/
def History.Sealed (history : History N B V C) (ballot : B) (value : V) : Prop :=
  ∃ config, history.config ballot = some config
    ∧ ∃ quorum, quorums.phase1 config quorum
      ∧ ∀ acceptor ∈ quorum, ballot < history.floor acceptor
        ∧ ∀ other, history.vote acceptor ballot other → other = value

/-- One lower ballot cannot decide against the value. -/
def History.Settled (history : History N B V C) (ballot : B) (value : V) : Prop :=
  history.barred ballot
  ∨ history.Sealed quorums ballot value
  ∨ ∃ decided ≤ ballot, history.Chosen quorums decided value

/-- No ballot below `ballot` can decide against the value. -/
def History.Safe (history : History N B V C) (ballot : B) (value : V) : Prop :=
  ∀ lower < ballot, history.Settled quorums lower value

/-- The proposals made are consistent with the history: one value per ballot, every vote is
for a proposal, and every proposal is safe at its ballot.
-/
structure Sound (history : History N B V C) (proposed : B → V → Prop) : Prop where
  functional : ∀ {ballot value other},
    proposed ballot value → proposed ballot other → value = other
  voted : ∀ {acceptor ballot value}, history.vote acceptor ballot value → proposed ballot value
  safe : ∀ {ballot value}, proposed ballot value → history.Safe quorums ballot value
  unbarred : ∀ {ballot value}, proposed ballot value → ¬ history.barred ballot

/-- A later history. Votes, floors, bars and held decisions only grow, a configuration stays as
it was fixed, and an acceptor's new votes and held decisions lie at or above what it had promised
and reported to.
-/
structure Extends (earlier later : History N B V C) : Prop where
  vote : ∀ {acceptor ballot value},
    earlier.vote acceptor ballot value → later.vote acceptor ballot value
  floor : ∀ acceptor, earlier.floor acceptor ≤ later.floor acceptor
  reportedTo : ∀ acceptor, earlier.reportedTo acceptor ≤ later.reportedTo acceptor
  config : ∀ {ballot config}, earlier.config ballot = some config
    → later.config ballot = some config
  barred : ∀ {ballot}, earlier.barred ballot → later.barred ballot
  held : ∀ {acceptor ballot}, earlier.held acceptor ballot → later.held acceptor ballot
  fresh : ∀ {acceptor ballot value}, later.vote acceptor ballot value
    → earlier.vote acceptor ballot value ∨ earlier.floor acceptor ≤ ballot
  freshHeld : ∀ {acceptor ballot}, later.held acceptor ballot
    → earlier.held acceptor ballot ∨ earlier.reportedTo acceptor ≤ ballot

-- What later histories keep

variable {quorums} {history earlier later : History N B V C} {proposed : B → V → Prop}
  {ballot lower : B} {value : V}

theorem History.Chosen.extend (chosen : earlier.Chosen quorums ballot value)
    (step : Extends earlier later)
    : later.Chosen quorums ballot value := by
  obtain ⟨config, fixed, quorum, enough, voted⟩ := chosen
  exact ⟨config, step.config fixed, quorum, enough, fun a member => step.vote (voted a member)⟩

/-- A sealed ballot stays sealed: its quorum's floors are above it, so no new vote lands. -/
theorem History.Sealed.extend (isSealed : earlier.Sealed quorums ballot value)
    (step : Extends earlier later)
    : later.Sealed quorums ballot value := by
  obtain ⟨config, fixed, quorum, enough, left⟩ := isSealed
  refine ⟨config, step.config fixed, quorum, enough, fun a member => ?_⟩
  obtain ⟨above, only⟩ := left a member
  refine ⟨above.trans_le (step.floor a), fun other voted => ?_⟩
  rcases step.fresh voted with old | new
  · exact only other old
  · exact absurd new (not_le.mpr above)

theorem History.Settled.extend (settled : earlier.Settled quorums ballot value)
    (step : Extends earlier later)
    : later.Settled quorums ballot value := by
  rcases settled with barred | isSealed | ⟨decided, below, chosen⟩
  · exact Or.inl (step.barred barred)
  · exact Or.inr (Or.inl (isSealed.extend step))
  · exact Or.inr (Or.inr ⟨decided, below, chosen.extend step⟩)

theorem History.Safe.extend (safe : earlier.Safe quorums ballot value)
    (step : Extends earlier later)
    : later.Safe quorums ballot value :=
  fun lower below => (safe lower below).extend step

-- Agreement

section

variable (sound : Sound quorums history proposed)
include sound

theorem Sound.chosen_proposed (chosen : history.Chosen quorums ballot value)
    : proposed ballot value := by
  obtain ⟨_, _, quorum, enough, voted⟩ := chosen
  obtain ⟨acceptor, member⟩ := quorums.inhabited enough
  exact sound.voted (voted acceptor member)

/-- A value chosen at a ballot is the only one proposed at any ballot from there on.
Witness: strong induction on the later ballot. A sealed lower ballot meets the choosing
quorum; a settled one was decided lower still, where the induction hypothesis applies.
-/
theorem Sound.chosen_eq_proposed [WellFoundedLT B] {upper : B} {other : V}
    (chosen : history.Chosen quorums ballot value) (above : ballot ≤ upper)
    (later : proposed upper other)
    : value = other := by
  induction upper using WellFoundedLT.induction generalizing ballot value other with
  | ind upper ih =>
    rcases above.eq_or_lt with same | less
    · exact sound.functional (sound.chosen_proposed chosen) (same ▸ later)
    · rcases sound.safe later ballot less with barred | isSealed | ⟨decided, below, earlier⟩
      · exact absurd barred (sound.unbarred (sound.chosen_proposed chosen))
      · obtain ⟨config, fixed, second, enough, voted⟩ := chosen
        obtain ⟨sameConfig, fixed', first, enough', left⟩ := isSealed
        obtain rfl : config = sameConfig := Option.some.inj (fixed.symm.trans fixed')
        obtain ⟨acceptor, inFirst, inSecond⟩ := quorums.meet enough' enough
        exact (left acceptor inFirst).2 value (voted acceptor inSecond)
      · exact (ih ballot less earlier below (sound.chosen_proposed chosen)).symm

/-- No two values are ever chosen. Witness: the lower of the two ballots decides. -/
theorem Sound.agreement [WellFoundedLT B] {upper : B} {other : V}
    (left : history.Chosen quorums ballot value) (right : history.Chosen quorums upper other)
    : value = other := by
  rcases le_total ballot upper with above | above
  · exact sound.chosen_eq_proposed left above (sound.chosen_proposed right)
  · exact (sound.chosen_eq_proposed right above (sound.chosen_proposed left)).symm

/-- A chosen value is safe at every ballot: below its own by its proposal, above it because
it was decided there.
-/
theorem Sound.chosen_safe (chosen : history.Chosen quorums ballot value) (upper : B)
    : history.Safe quorums upper value := by
  intro lower _
  rcases lt_or_ge lower ballot with below | above
  · exact sound.safe (sound.chosen_proposed chosen) lower below
  · exact Or.inr (Or.inr ⟨ballot, above, chosen⟩)

end

-- Phase 1: deciding a value from acceptor reports

/-- A record at `record` stands for a value already chosen. -/
def History.Decides (quorums : Quorums N C) (history : History N B V C) (record : B) : Prop :=
  ∃ decided ≤ record, ∃ value, history.Chosen quorums decided value

/-- One acceptor's answer about the decree to a candidate at `ballot`: the ballot of the
record it holds, if any. Every vote it cast below `ballot` is at or below that record, or the
record stands for a value already chosen (an acceptor may replace a damaged record by a chosen
one of a lower ballot); and it does where the acceptor held the decision.
-/
structure Reported (quorums : Quorums N C) (history : History N B V C) (ballot : B)
    (acceptor : N) (report : Option B)
    : Prop where
  left : ballot ≤ history.floor acceptor
  reported : ballot ≤ history.reportedTo acceptor
  votes : ∀ lower < ballot, ∀ value, history.vote acceptor lower value
    → ∃ record, report = some record ∧ (lower ≤ record ∨ history.Decides quorums record)
  holds : ∀ lower < ballot, history.held acceptor lower
    → ∃ record, report = some record ∧ history.Decides quorums record

/-- A Phase-1 quorum of a configuration whose members all reported, at or below a bound. -/
def ReportedUpTo (quorums : Quorums N C) (history : History N B V C) (ballot : B)
    (bound : Option B) (config : C)
    : Prop :=
  ∃ quorum, quorums.phase1 config quorum ∧ ∀ acceptor ∈ quorum, ∃ report,
    Reported quorums history ballot acceptor report
    ∧ ∀ record ∈ report, ∃ limit ∈ bound, record ≤ limit

/-- A Phase-1 quorum whose records all lie at or below a proposal settles every ballot of its
configuration for that proposal. Witness: at the proposal's own ballot one value was proposed;
above it, a vote the reports do not cover betrays a value chosen lower, which the proposal
then repeats.
-/
theorem Sound.settled_of_record [WellFoundedLT B] (sound : Sound quorums history proposed)
    {record : B} {config : C} (held : proposed record value)
    (below : lower < ballot) (fixed : history.config lower = some config)
    (reports : ReportedUpTo quorums history ballot (some record) config)
    : history.Settled quorums lower value := by
  obtain ⟨quorum, enough, reports⟩ := reports
  rcases lt_trichotomy lower record with under | same | past
  · exact sound.safe held lower under
  · subst same
    refine Or.inr (Or.inl ⟨config, fixed, quorum, enough, fun a member => ?_⟩)
    obtain ⟨report, reported, _⟩ := reports a member
    exact ⟨below.trans_le reported.left, fun other voted =>
      sound.functional (sound.voted voted) held⟩
  · by_cases silent : ∀ a ∈ quorum, ∀ other, ¬ history.vote a lower other
    · refine Or.inr (Or.inl ⟨config, fixed, quorum, enough, fun a member => ?_⟩)
      obtain ⟨report, reported, _⟩ := reports a member
      exact ⟨below.trans_le reported.left, fun other voted => absurd voted (silent a member other)⟩
    · push Not at silent
      obtain ⟨a, member, other, voted⟩ := silent
      obtain ⟨report, reported, bounded⟩ := reports a member
      obtain ⟨held', same, covered⟩ := reported.votes lower below other voted
      have under : held' ≤ record := by simpa using bounded held' same
      rcases covered with covers | ⟨decided, atMost, third, chosen⟩
      · exact absurd (covers.trans under) (not_le.mpr past)
      · have repeated := sound.chosen_eq_proposed chosen (atMost.trans under) held
        subst repeated
        exact Or.inr (Or.inr ⟨decided, (atMost.trans under).trans past.le, chosen⟩)

/-- A Phase-1 quorum that reports no record settles every ballot of its configuration for any
value: none of its members voted there, and none will.
-/
theorem settled_of_silence {config : C} (below : lower < ballot)
    (fixed : history.config lower = some config)
    (reports : ReportedUpTo quorums history ballot none config)
    : history.Settled quorums lower value := by
  obtain ⟨quorum, enough, reports⟩ := reports
  refine Or.inr (Or.inl ⟨config, fixed, quorum, enough, fun a member => ?_⟩)
  obtain ⟨report, reported, bounded⟩ := reports a member
  refine ⟨below.trans_le reported.left, fun other voted => ?_⟩
  obtain ⟨record, listed, _⟩ := reported.votes lower below other voted
  simpa using bounded record listed

/-- A decision that a Phase-2 quorum held below the candidate's ballot is reported: some record
of a Phase-1 quorum's reports stands for it. Witness: the acceptor the two quorums share.
-/
theorem decides_of_held {second : Set N} {config : C} {bound : Option B} (below : lower < ballot)
    (enough : quorums.phase2 config second)
    (held : ∀ acceptor ∈ second, history.held acceptor lower)
    (reports : ReportedUpTo quorums history ballot bound config)
    : ∃ limit ∈ bound, ∃ record ≤ limit, history.Decides quorums record := by
  obtain ⟨first, enough', reports⟩ := reports
  obtain ⟨a, inFirst, inSecond⟩ := quorums.meet enough' enough
  obtain ⟨report, reported, bounded⟩ := reports a inFirst
  obtain ⟨record, listed, decides⟩ := reported.holds lower below (held a inSecond)
  obtain ⟨limit, top, within⟩ := bounded record listed
  exact ⟨limit, top, record, within, decides⟩

-- Phase 1 over several configurations

/-- Everything below the ballot may be forgotten: nothing was decided there, or a Phase-2 quorum
of the ballot's own configuration held the decision.
-/
def History.Collected (quorums : Quorums N C) (history : History N B V C) (ballot : B) : Prop :=
  (∀ value, history.Safe quorums ballot value)
  ∨ ∃ config, history.config ballot = some config
    ∧ ∃ quorum, quorums.phase2 config quorum ∧ ∀ acceptor ∈ quorum, history.held acceptor ballot

/-- The prior configurations account for every ballot below: it is barred, ran under one of
them, or lies below a collected ballot that did.
-/
def History.Covered (quorums : Quorums N C) (history : History N B V C) (ballot : B)
    (prior : C → Prop)
    : Prop :=
  ∀ lower < ballot, history.barred lower
    ∨ (∃ config, history.config lower = some config ∧ prior config)
    ∨ ∃ middle < ballot, lower < middle ∧ history.Collected quorums middle
      ∧ ∃ config, history.config middle = some config ∧ prior config

/-- Ballot by ballot: one that ran under a prior configuration is settled by its quorum's records, one
below a collected ballot by what was held there.
-/
theorem safe_of_covered {prior : C → Prop} {bound : Option B}
    (covered : history.Covered quorums ballot prior)
    (reports : ∀ config, prior config → ReportedUpTo quorums history ballot bound config)
    (ran : ∀ lower config, lower < ballot → history.config lower = some config
      → ReportedUpTo quorums history ballot bound config → history.Settled quorums lower value)
    (decided : ∀ limit ∈ bound, ∀ record ≤ limit, history.Decides quorums record
      → history.Safe quorums ballot value)
    : history.Safe quorums ballot value := by
  intro lower below
  rcases covered lower below with barred | ⟨config, fixed, isPrior⟩
    | ⟨middle, under, above, free | ⟨same, fixed', second, enough, holds⟩, config, fixed, isPrior⟩
  · exact Or.inl barred
  · exact ran lower config below fixed (reports config isPrior)
  · exact free value lower above
  · obtain rfl : config = same := Option.some.inj (fixed.symm.trans fixed')
    obtain ⟨limit, top, record, within, decides⟩ :=
      decides_of_held under enough holds (reports config isPrior)
    exact decided limit top record within decides lower below

/-- The records held by a quorum of each prior configuration make the highest of them safe. -/
theorem Sound.safe_of_reports [WellFoundedLT B] (sound : Sound quorums history proposed)
    {prior : C → Prop} {record : B} (covered : history.Covered quorums ballot prior)
    (held : proposed record value)
    (reports : ∀ config, prior config → ReportedUpTo quorums history ballot (some record) config)
    : history.Safe quorums ballot value := by
  refine safe_of_covered covered reports
    (fun lower config below fixed => sound.settled_of_record held below fixed) ?_
  rintro limit ⟨rfl⟩ found within ⟨decided, atMost, other, chosen⟩
  obtain rfl := sound.chosen_eq_proposed chosen (atMost.trans within) held
  exact sound.chosen_safe chosen ballot

/-- Quorums of every prior configuration that report no record make every value safe. -/
theorem safe_of_silence {prior : C → Prop}
    (covered : history.Covered quorums ballot prior)
    (reports : ∀ config, prior config → ReportedUpTo quorums history ballot none config)
    : history.Safe quorums ballot value :=
  safe_of_covered covered reports (fun lower config below fixed => settled_of_silence below fixed)
    fun limit absent => absurd absent (by simp)

-- Extending a sound history

/-- Soundness survives a step whose new votes are for proposals and whose new proposals are
safe and do not contradict the old ones.
-/
theorem Sound.extend (sound : Sound quorums earlier proposed) (step : Extends earlier later)
    {proposed' : B → V → Prop}
    (functional : ∀ {ballot value other},
      proposed' ballot value → proposed' ballot other → value = other)
    (voted : ∀ {acceptor ballot value},
      later.vote acceptor ballot value → proposed' ballot value)
    (added : ∀ {ballot value}, proposed' ballot value
      → proposed ballot value ∨ later.Safe quorums ballot value)
    (unbarred : ∀ {ballot value}, proposed' ballot value → ¬ later.barred ballot)
    : Sound quorums later proposed' where
  functional := functional
  voted := voted
  safe made := (added made).elim (fun old => (sound.safe old).extend step) id
  unbarred := unbarred

end Voting
