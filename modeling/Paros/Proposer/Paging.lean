import Paros.Proposer.Pages

/-! A candidate's tally over arriving promise pages. It takes a page exactly at the cursor it
expects of the sender, so each acceptor's suffix is merged once and in order; what is merged then
depends on which acceptors answered, and not on how their pages interleaved.
-/

namespace Paros

open OrderedMap

variable {V : Type}

/-- A promise page on its way to a candidate. -/
structure Arrival (V : Type) where
  sender : NodeId
  ballot : Ballot
  fromSlot : Nat
  page : PromisePage V

namespace Election

variable {election first : Election V} {arrival : Arrival V}

def receive (election : Election V) (arrival : Arrival V) : Election V × PromiseFold :=
  election.foldPromise arrival.sender arrival.ballot arrival.fromSlot arrival.page.accepted
    arrival.page.faulty arrival.page.nextFromSlot

/-- The tally after pages that arrived in this order. -/
def receiveAll (election : Election V) (arrivals : List (Arrival V)) : Election V :=
  arrivals.foldl (fun election arrival => (election.receive arrival).1) election

/-- Whether a page is merged. -/
def takes (election : Election V) (arrival : Arrival V) : Bool :=
  election.involves arrival.sender
    && election.promises.accepts arrival.sender arrival.ballot arrival.fromSlot
      arrival.page.accepted arrival.page.faulty arrival.page.nextFromSlot

/-- What is left of a tally that merged a page. -/
def merged (election : Election V) (arrival : Arrival V) : Election V :=
  { election with
    recovered := mergeReports election.recovered arrival.page.accepted
    faultyReports := election.faultyReports.insertReports arrival.sender arrival.page.faulty
    promises := (election.promises.closePage arrival.sender arrival.page.nextFromSlot).1 }

theorem receive_of_takes (takes : election.takes arrival)
    : election.receive arrival = (election.merged arrival,
      (election.promises.closePage arrival.sender arrival.page.nextFromSlot).2) := by
  simp only [Election.takes, Bool.and_eq_true] at takes
  rw [receive, foldPromise, if_neg (by simp [takes.1]), if_neg (by simp [takes.2])]
  rfl

theorem receive_of_not_takes (refuses : ¬ election.takes arrival)
    : election.receive arrival = (election, .ignored) := by
  rw [receive, foldPromise]
  split_ifs with stranger refused
  · rfl
  · rfl
  · simp only [Bool.not_eq_true, Bool.not_eq_false'] at stranger refused
    exact absurd (Bool.and_eq_true_iff.mpr ⟨stranger, refused⟩) refuses

/-- What a merged page says of itself: it comes at the cursor its sender owed, and moves past it. -/
theorem takes_cursor (takes : election.takes arrival)
    : arrival.sender ∉ election.promises.answered
      ∧ arrival.fromSlot = election.promises.expected arrival.sender
      ∧ arrival.page.nextFromSlot.all (arrival.fromSlot < ·) := by
  simp only [Election.takes, PromiseTally.accepts, promisePageShapeValid, Bool.and_eq_true,
    decide_eq_true_eq, beq_iff_eq] at takes
  obtain ⟨_, ⟨_, fresh⟩, ⟨⟨⟨cursor, _⟩, _⟩, _⟩, next⟩ := takes
  refine ⟨fresh, cursor, ?_⟩
  cases more : arrival.page.nextFromSlot with
  | none => rfl
  | some slot =>
    simp only [more, Option.all_some, Bool.and_eq_true, decide_eq_true_eq] at next ⊢
    exact next.1.1.2

-- Stale pages

/-- The tally is past a sender's page at a cursor: the sender has answered, or owes a later one. -/
def Past (election : Election V) (sender : NodeId) (fromSlot : Nat) : Prop :=
  sender ∈ election.promises.answered ∨ fromSlot < election.promises.expected sender

theorem expected_merged (arrival : Arrival V) (node : NodeId)
    : (election.merged arrival).promises.expected node
      = if arrival.sender = node then arrival.page.nextFromSlot.getD election.promises.fromSlot
        else election.promises.expected node := by
  unfold merged PromiseTally.closePage PromiseTally.expected
  cases more : arrival.page.nextFromSlot with
  | none =>
    simp only [getElem?_erase]
    split_ifs <;> rfl
  | some next =>
    simp only [getElem?_insert]
    split_ifs <;> rfl

theorem mem_answered_merged (arrival : Arrival V) (node : NodeId)
    : node ∈ (election.merged arrival).promises.answered
      ↔ node ∈ election.promises.answered
        ∨ arrival.sender = node ∧ arrival.page.nextFromSlot = none := by
  unfold merged PromiseTally.closePage
  cases more : arrival.page.nextFromSlot with
  | none => simp [eq_comm, or_comm]
  | some next => simp

theorem fromSlot_merged (arrival : Arrival V)
    : (election.merged arrival).promises.fromSlot = election.promises.fromSlot := by
  unfold merged PromiseTally.closePage
  cases arrival.page.nextFromSlot <;> rfl

/-- A merged page is past. -/
theorem past_of_takes (takes : election.takes arrival)
    : (election.merged arrival).Past arrival.sender arrival.fromSlot := by
  obtain ⟨_, _, advances⟩ := takes_cursor takes
  cases more : arrival.page.nextFromSlot with
  | none => exact Or.inl ((mem_answered_merged arrival _).mpr (Or.inr ⟨rfl, more⟩))
  | some next =>
    rw [more, Option.all_some, decide_eq_true_eq] at advances
    right
    rw [expected_merged, if_pos rfl, more]
    exact advances

variable {fromSlot : Nat} {sender : NodeId}

theorem Past.receive (past : election.Past sender fromSlot) (arrival : Arrival V)
    : (election.receive arrival).1.Past sender fromSlot := by
  by_cases takes : election.takes arrival
  · rw [receive_of_takes takes]
    obtain ⟨fresh, cursor, _⟩ := takes_cursor takes
    rcases past with answered | later
    · exact Or.inl ((mem_answered_merged arrival _).mpr (Or.inl answered))
    · by_cases same : arrival.sender = sender
      · subst same
        rcases past_of_takes takes with answered | further
        · exact Or.inl answered
        · exact Or.inr ((cursor ▸ later).trans further)
      · right
        rw [expected_merged, if_neg same]
        exact later
  · rwa [receive_of_not_takes takes]

theorem Past.receiveAll (past : election.Past sender fromSlot) (arrivals : List (Arrival V))
    : (election.receiveAll arrivals).Past sender fromSlot := by
  induction arrivals generalizing election with
  | nil => exact past
  | cons arrival rest ih => exact ih (past.receive arrival)

/-- A page at or below the cursor the tally is past is refused and changes nothing. -/
theorem Past.ignores (past : election.Past sender fromSlot)
    (same : arrival.sender = sender) (stale : arrival.fromSlot ≤ fromSlot)
    : election.receive arrival = (election, .ignored) := by
  refine receive_of_not_takes fun takes => ?_
  obtain ⟨fresh, cursor, _⟩ := takes_cursor takes
  rw [same] at fresh cursor
  rcases past with answered | later
  · exact fresh answered
  · omega

-- Honest pages

/-- A page as an acceptor in some state answers it, within the source's bound on a page. -/
structure Honest (acceptor : Acceptor V) (arrival : Arrival V) : Prop where
  disjoint : acceptor.Disjoint
  page : ∃ limit, 0 < limit ∧ limit ≤ promiseBatch
    ∧ arrival.page = acceptor.promisePage arrival.fromSlot limit

/-- An honest page at the cursor its sender owes is merged. -/
theorem takes_honest {acceptor : Acceptor V} (honest : Honest acceptor arrival)
    (involved : election.involves arrival.sender) (current : arrival.ballot = election.promises.ballot)
    (fresh : arrival.sender ∉ election.promises.answered)
    (cursor : arrival.fromSlot = election.promises.expected arrival.sender)
    : election.takes arrival := by
  obtain ⟨limit, positive, bounded, page⟩ := honest.page
  have filled := Acceptor.promisePage_filled honest.disjoint arrival.fromSlot limit
  have size : (acceptor.promisePage arrival.fromSlot limit).size ≤ limit := by
    have bounded := filled.bounded
    simpa [PromisePage.size] using bounded
  simp only [Election.takes, PromiseTally.accepts, promisePageShapeValid, Bool.and_eq_true,
    decide_eq_true_eq, beq_iff_eq, List.all_eq_true, Std.ExtTreeMap.mem_keys]
  rw [page]
  refine ⟨involved, ⟨current.symm, fresh⟩, ⟨⟨⟨cursor, ?_⟩, ?_⟩, ?_⟩, ?_⟩
  · exact size.trans bounded
  · intro slot listed
    obtain ⟨record, listed⟩ := mem_iff_getElem?.mp listed
    exact (filled.accepted.origin listed).1
  · intro slot listed
    obtain ⟨ballot, listed⟩ := mem_iff_getElem?.mp listed
    obtain ⟨above, rotted⟩ := filled.faulty.origin listed
    refine ⟨above, Option.isNone_iff_eq_none.mpr (Option.eq_none_iff_forall_ne_some.mpr ?_)⟩
    intro record held
    have held := (filled.accepted.origin held).2
    rw [honest.disjoint held] at rotted
    cases rotted
  · cases more : (acceptor.promisePage arrival.fromSlot limit).nextFromSlot with
    | none => rfl
    | some next =>
      have full := filled.full (by rw [more]; rfl)
      have below {α : Type} {entries : SlotMap α}
          (all : ∀ slot ∈ entries, slot < next)
          : (OrderedMap.lastKey? entries).all (· < next) := by
        cases greatest : OrderedMap.lastKey? entries with
        | none => rfl
        | some last =>
          have present := getElem?_of_lastKey? greatest
          simpa using all last (mem_iff_getElem?.mpr present)
      have listed (slot : Nat) (listed : slot ∈ (acceptor.promisePage arrival.fromSlot
          limit).accepted ∨ slot ∈ (acceptor.promisePage arrival.fromSlot limit).faulty)
          : slot < next := by
        simpa [more] using filled.below slot listed
      simp only [Option.all_some, Bool.and_eq_true, decide_eq_true_eq]
      refine ⟨⟨⟨?_, Acceptor.promisePage_next honest.disjoint positive more⟩, ?_⟩, ?_⟩
      · have empty : (⟨∅, ∅, none⟩ : PromisePage V).size = 0 := rfl
        have same : (acceptor.promisePage arrival.fromSlot limit).size = limit := by omega
        exact positive.trans_eq same.symm
      · exact below fun slot member => listed slot (Or.inl member)
      · exact below fun slot member => listed slot (Or.inr member)

-- What is merged at a slot

section Merging

variable {slot : Nat} {entry : NodeId → Option (Ballot × V)} {rotted : NodeId → Option Ballot}

/-- An honest page of an acceptor that holds at the slot what it held all along. -/
def Steady (slot : Nat) (entry : NodeId → Option (Ballot × V)) (rotted : NodeId → Option Ballot)
    (arrival : Arrival V)
    : Prop :=
  ∃ acceptor : Acceptor V, Honest acceptor arrival
    ∧ acceptor.records[slot]? = entry arrival.sender
    ∧ acceptor.faulty[slot]? = rotted arrival.sender

/-- A node whose page with the slot was merged since the tally opened. -/
def Counted (first election : Election V) (slot : Nat) (node : NodeId) : Prop :=
  node ∉ first.promises.answered ∧ election.Past node slot

/-- The report merged for a slot: the highest of what the tally opened with and what the counted
nodes hold there, and the damaged records they reported.
-/
structure Merged (first election : Election V) (slot : Nat)
    (entry : NodeId → Option (Ballot × V)) (rotted : NodeId → Option Ballot)
    : Prop where
  answered : first.promises.answered ⊆ election.promises.answered
  fromSlot : election.promises.fromSlot = first.promises.fromSlot
  keeps : ∀ {held}, first.recovered[slot]? = some held
    → ∃ merged, election.recovered[slot]? = some merged ∧ held.1 ≤ merged.1
  covers : ∀ {node held}, first.Counted election slot node → entry node = some held
    → ∃ merged, election.recovered[slot]? = some merged ∧ held.1 ≤ merged.1
  origin : ∀ {merged}, election.recovered[slot]? = some merged
    → first.recovered[slot]? = some merged
      ∨ ∃ node, first.Counted election slot node ∧ entry node = some merged
  damaged : ∀ {node ballot}, first.Counted election slot node → rotted node = some ballot
    → (election.faultyReports.reporters slot)[node]? = some ballot
  undamaged : ∀ {node}, ¬ first.Counted election slot node ∨ rotted node = none
    → (election.faultyReports.reporters slot)[node]?
      = (first.faultyReports.reporters slot)[node]?

/-- A tally that has only opened counts no one. -/
theorem not_counted_opened (opened : first.promises.promiseNext = ∅)
    (above : first.promises.fromSlot ≤ slot) (node : NodeId)
    : ¬ first.Counted first slot node := by
  rintro ⟨fresh, answered | later⟩
  · exact fresh answered
  · rw [PromiseTally.expected, opened, Std.ExtTreeMap.getElem?_empty] at later
    exact absurd later (not_lt.mpr above)

theorem Merged.opened (opened : first.promises.promiseNext = ∅)
    (above : first.promises.fromSlot ≤ slot)
    : Merged first first slot entry rotted where
  answered := subset_rfl
  fromSlot := rfl
  keeps held := ⟨_, held, le_rfl⟩
  covers counted := absurd counted (not_counted_opened opened above _)
  origin := Or.inl
  damaged counted := absurd counted (not_counted_opened opened above _)
  undamaged _ := rfl

/-- The page lists the slot, if its acceptor holds anything there. -/
def Lists (arrival : Arrival V) (slot : Nat) : Prop :=
  arrival.fromSlot ≤ slot ∧ arrival.page.nextFromSlot.all (slot < ·)

/-- Merging a page counts its sender at the slots the page lists, and no other. -/
theorem counted_merged (answered : first.promises.answered ⊆ election.promises.answered)
    (takes : election.takes arrival) {node : NodeId}
    : first.Counted (election.merged arrival) slot node
      ↔ first.Counted election slot node ∨ arrival.sender = node ∧ Lists arrival slot := by
  obtain ⟨fresh, cursor, advances⟩ := takes_cursor takes
  by_cases same : arrival.sender = node
  · subst same
    have unasked : arrival.sender ∉ first.promises.answered := fun known => fresh (answered known)
    simp only [Counted, Past, Lists, unasked, fresh, mem_answered_merged, expected_merged,
      not_false_eq_true, true_and, false_or, if_true, ← cursor]
    cases more : arrival.page.nextFromSlot with
    | none => simpa using lt_or_ge slot arrival.fromSlot
    | some next =>
      simp only [more, Option.all_some, decide_eq_true_eq] at advances ⊢
      simp only [reduceCtorEq, false_or, Option.getD_some]
      omega
  · simp only [Counted, Past, mem_answered_merged, expected_merged, same, false_and, or_false,
      if_false]

/-- What a steady page carries at the slot. -/
theorem Steady.page (steady : Steady slot entry rotted arrival)
    : (Lists arrival slot → arrival.page.accepted[slot]? = entry arrival.sender
        ∧ arrival.page.faulty[slot]? = rotted arrival.sender)
      ∧ (¬ Lists arrival slot → arrival.page.accepted[slot]? = none
        ∧ arrival.page.faulty[slot]? = none) := by
  obtain ⟨acceptor, honest, held, damaged⟩ := steady
  obtain ⟨limit, _, _, page⟩ := honest.page
  have filled := Acceptor.promisePage_filled honest.disjoint arrival.fromSlot limit
  have accepted := filled.accepted.getElem?_eq slot
  have faulty := filled.faulty.getElem?_eq slot
  rw [← page] at accepted faulty
  constructor
  · intro lists
    exact ⟨(accepted.trans (if_pos lists)).trans held, (faulty.trans (if_pos lists)).trans damaged⟩
  · intro beyond
    exact ⟨accepted.trans (if_neg beyond), faulty.trans (if_neg beyond)⟩

/-- Merging one more page. -/
theorem Merged.take (merged : Merged first election slot entry rotted)
    (takes : election.takes arrival) (steady : Steady slot entry rotted arrival)
    : Merged first (election.merged arrival) slot entry rotted := by
  have counted (node : NodeId)
      : first.Counted (election.merged arrival) slot node
        ↔ first.Counted election slot node ∨ arrival.sender = node ∧ Lists arrival slot :=
    counted_merged merged.answered takes
  obtain ⟨listed, unlisted⟩ := steady.page
  have reports {record : Ballot × V} (found : arrival.page.accepted[slot]? = some record)
      : Lists arrival slot ∧ entry arrival.sender = some record := by
    by_cases lists : Lists arrival slot
    · exact ⟨lists, (listed lists).1 ▸ found⟩
    · rw [(unlisted lists).1] at found
      cases found
  refine {
    answered := fun node known =>
      (mem_answered_merged arrival node).mpr (Or.inl (merged.answered known))
    fromSlot := (fromSlot_merged arrival).trans merged.fromSlot
    keeps := ?_, covers := ?_, origin := ?_, damaged := ?_, undamaged := ?_ }
  · intro held found
    obtain ⟨before, present, least⟩ := merged.keeps found
    obtain ⟨after, result, more⟩ := getElem?_mergeReports.1 present
    exact ⟨after, result, least.trans more⟩
  · intro node held isCounted found
    rcases (counted _).mp isCounted with old | ⟨rfl, lists⟩
    · obtain ⟨before, present, least⟩ := merged.covers old found
      obtain ⟨after, result, more⟩ := getElem?_mergeReports.1 present
      exact ⟨after, result, least.trans more⟩
    · exact getElem?_mergeReports.2.1 ((listed lists).1.trans found)
  · intro result found
    rcases getElem?_mergeReports.2.2 found with old | onPage
    · rcases merged.origin old with opened | ⟨node, isCounted, held⟩
      · exact Or.inl opened
      · exact Or.inr ⟨node, (counted _).mpr (Or.inl isCounted), held⟩
    · obtain ⟨lists, held⟩ := reports onPage
      exact Or.inr ⟨arrival.sender, (counted _).mpr (Or.inr ⟨rfl, lists⟩), held⟩
  · intro node ballot isCounted found
    by_cases fresh : arrival.sender = node ∧ Lists arrival slot
    · obtain ⟨rfl, lists⟩ := fresh
      exact FaultyReports.reporters_insertReports.1 ((listed lists).2.trans found)
    · have absent : arrival.sender = node → arrival.page.faulty[slot]? = none := fun same =>
        (unlisted fun lists => fresh ⟨same, lists⟩).2
      refine (FaultyReports.reporters_insertReports.2 absent).trans (merged.damaged ?_ found)
      exact ((counted _).mp isCounted).resolve_right fresh
  · intro node spared
    have absent : arrival.sender = node → arrival.page.faulty[slot]? = none := by
      rintro rfl
      by_cases lists : Lists arrival slot
      · rw [(listed lists).2]
        exact spared.resolve_left (not_not_intro ((counted _).mpr (Or.inr ⟨rfl, lists⟩)))
      · exact (unlisted lists).2
    refine (FaultyReports.reporters_insertReports.2 absent).trans (merged.undamaged ?_)
    exact spared.imp_left fun uncounted old => uncounted ((counted _).mpr (Or.inl old))

/-- By induction on the arrivals; a page that is not merged changes nothing. -/
theorem Merged.receiveAll (merged : Merged first election slot entry rotted)
    {arrivals : List (Arrival V)}
    (steady : ∀ arrival ∈ arrivals, Steady slot entry rotted arrival)
    : Merged first (election.receiveAll arrivals) slot entry rotted := by
  induction arrivals generalizing election with
  | nil => exact merged
  | cons arrival rest ih =>
    have received : Merged first (election.receive arrival).1 slot entry rotted := by
      by_cases takes : election.takes arrival
      · rw [receive_of_takes takes]
        exact merged.take takes (steady arrival List.mem_cons_self)
      · rwa [receive_of_not_takes takes]
    exact ih received fun later member => steady later (List.mem_cons_of_mem _ member)

/-- One ballot has one proposer: the reports of a slot at one ballot carry one value. -/
def OneValue (first : Election V) (slot : Nat) (entry : NodeId → Option (Ballot × V)) : Prop :=
  ∀ left right : Ballot × V,
    (first.recovered[slot]? = some left ∨ ∃ node, entry node = some left)
    → (first.recovered[slot]? = some right ∨ ∃ node, entry node = some right)
    → left.1 = right.1 → left = right

/-- Two tallies that counted the same nodes merged the same report. -/
theorem Merged.recovered_eq {left right : Election V} (leftMerged : Merged first left slot entry rotted)
    (rightMerged : Merged first right slot entry rotted) (one : OneValue first slot entry)
    (same : ∀ node, first.Counted left slot node ↔ first.Counted right slot node)
    : left.recovered[slot]? = right.recovered[slot]? := by
  have reaches {low high : Election V} (lowMerged : Merged first low slot entry rotted)
      (highMerged : Merged first high slot entry rotted)
      (same : ∀ node, first.Counted low slot node → first.Counted high slot node)
      {report : Ballot × V} (found : low.recovered[slot]? = some report)
      : ∃ other, high.recovered[slot]? = some other ∧ report.1 ≤ other.1 := by
    rcases lowMerged.origin found with opened | ⟨node, counted, held⟩
    · exact highMerged.keeps opened
    · exact highMerged.covers (same node counted) held
  have reported {election : Election V} (merged : Merged first election slot entry rotted)
      {report : Ballot × V} (found : election.recovered[slot]? = some report)
      : first.recovered[slot]? = some report ∨ ∃ node, entry node = some report :=
    (merged.origin found).imp_right fun ⟨node, _, held⟩ => ⟨node, held⟩
  cases found : left.recovered[slot]? with
  | none =>
    cases other : right.recovered[slot]? with
    | none => rfl
    | some report =>
      obtain ⟨_, present, _⟩ := reaches rightMerged leftMerged (fun node => (same node).mpr) other
      rw [found] at present
      cases present
  | some report =>
    obtain ⟨other, present, above⟩ :=
      reaches leftMerged rightMerged (fun node => (same node).mp) found
    obtain ⟨again, back, below⟩ :=
      reaches rightMerged leftMerged (fun node => (same node).mpr) present
    obtain rfl := Option.some.inj (found.symm.trans back)
    rw [present, one report other (reported leftMerged found) (reported rightMerged present)
      (le_antisymm above below)]

theorem Merged.reporters_eq {left right : Election V} (leftMerged : Merged first left slot entry rotted)
    (rightMerged : Merged first right slot entry rotted)
    (same : ∀ node, first.Counted left slot node ↔ first.Counted right slot node)
    : left.faultyReports.reporters slot = right.faultyReports.reporters slot := by
  ext1 node
  by_cases counted : first.Counted left slot node
  · cases held : rotted node with
    | none =>
      rw [leftMerged.undamaged (Or.inr held), rightMerged.undamaged (Or.inr held)]
    | some ballot =>
      rw [leftMerged.damaged counted held, rightMerged.damaged ((same node).mp counted) held]
  · rw [leftMerged.undamaged (Or.inl counted),
      rightMerged.undamaged (Or.inl fun other => counted ((same node).mpr other))]

/-- With no page owed, the counted nodes are those that answered since the tally opened. -/
theorem Merged.counted_iff (merged : Merged first election slot entry rotted)
    (above : first.promises.fromSlot ≤ slot) (complete : election.promises.promiseNext = ∅)
    (node : NodeId)
    : first.Counted election slot node
      ↔ node ∉ first.promises.answered ∧ node ∈ election.promises.answered := by
  refine and_congr_right fun _ => ⟨fun past => past.resolve_right fun later => ?_, Or.inl⟩
  rw [PromiseTally.expected, complete, Std.ExtTreeMap.getElem?_empty, Option.getD_none,
    merged.fromSlot] at later
  omega

end Merging

/-- Promise paging loses nothing. Following the cursor ends and lists every entry once. An honest
page at its expected cursor is merged, and once merged neither it nor an earlier page of its sender
is merged again, whatever arrived meanwhile. When the same acceptors have answered in full, the
report merged for a slot is the same whatever the order of their pages, wherever no acceptor changed
what it holds at that slot between its pages.
-/
theorem promise_paging_loses_nothing
    : (∀ (acceptor : Acceptor V) (fromSlot limit : Nat), acceptor.Disjoint → 0 < limit
        → let pages := acceptor.promisePages limit (acceptor.entriesFrom fromSlot + 1) fromSlot
          (pages.getLast?.any fun page => page.nextFromSlot.isNone)
          ∧ pages.flatMap (fun page => page.accepted.toList)
            = (startingAt fromSlot acceptor.records).toList
          ∧ pages.flatMap (fun page => page.faulty.toList)
            = (startingAt fromSlot acceptor.faulty).toList)
      ∧ (∀ (election : Election V) (acceptor : Acceptor V) (arrival : Arrival V),
        Honest acceptor arrival → election.involves arrival.sender
        → arrival.ballot = election.promises.ballot
        → arrival.sender ∉ election.promises.answered
        → arrival.fromSlot = election.promises.expected arrival.sender
        → (election.receive arrival).2
          = (arrival.page.nextFromSlot.elim .answered PromiseFold.next))
      ∧ (∀ (election : Election V) (arrival stale : Arrival V) (later : List (Arrival V)),
        (election.receive arrival).2 ≠ .ignored → stale.sender = arrival.sender
        → stale.fromSlot ≤ arrival.fromSlot
        → ((election.receive arrival).1.receiveAll later).receive stale
          = ((election.receive arrival).1.receiveAll later, .ignored))
      ∧ (∀ (first : Election V) (slot : Nat) (entry : NodeId → Option (Ballot × V))
          (rotted : NodeId → Option Ballot) (left right : List (Arrival V)),
        first.promises.promiseNext = ∅ → first.promises.fromSlot ≤ slot → OneValue first slot entry
        → (∀ arrival ∈ left ++ right, Steady slot entry rotted arrival)
        → (first.receiveAll left).promises.promiseNext = ∅
        → (first.receiveAll right).promises.promiseNext = ∅
        → (first.receiveAll left).promises.answered = (first.receiveAll right).promises.answered
        → (first.receiveAll left).recovered[slot]? = (first.receiveAll right).recovered[slot]?
          ∧ (first.receiveAll left).faultyReports.reporters slot
            = (first.receiveAll right).faultyReports.reporters slot) := by
  refine ⟨?_, ?_, ?_, ?_⟩
  · intro acceptor fromSlot limit disjoint positive
    exact Acceptor.promisePages_complete disjoint positive (Nat.lt_succ_self _)
  · intro election acceptor arrival honest involved current fresh cursor
    rw [receive_of_takes (takes_honest honest involved current fresh cursor)]
    cases more : arrival.page.nextFromSlot <;> rfl
  · intro election arrival stale later merged sender atMost
    have takes : election.takes arrival := by
      by_contra refused
      rw [receive_of_not_takes refused] at merged
      exact merged rfl
    have past : (election.receive arrival).1.Past arrival.sender arrival.fromSlot := by
      rw [receive_of_takes takes]
      exact past_of_takes takes
    exact (past.receiveAll later).ignores sender atMost
  · intro first slot entry rotted left right opened above one steady leftDone rightDone answered
    have start : Merged first first slot entry rotted := .opened opened above
    have leftMerged := start.receiveAll fun arrival member =>
      steady arrival (List.mem_append_left right member)
    have rightMerged := start.receiveAll fun arrival member =>
      steady arrival (List.mem_append_right left member)
    have same (node : NodeId) : first.Counted (first.receiveAll left) slot node
        ↔ first.Counted (first.receiveAll right) slot node := by
      rw [leftMerged.counted_iff above leftDone, rightMerged.counted_iff above rightDone, answered]
    exact ⟨leftMerged.recovered_eq rightMerged one same, leftMerged.reporters_eq rightMerged same⟩

section Interrupted

/-- An acceptor of three that promised a candidate and holds two older records. -/
def promiser : Acceptor Nat :=
  ⟨⟨5, 0⟩, (((∅ : SlotMap (Ballot × Nat)).insert 0 (⟨1, 1⟩, 10)).insert 2 (⟨1, 1⟩, 12)), ∅, 0⟩

/-- The same acceptor after it accepted slot 1 at the prepared ballot. -/
def voter : Acceptor Nat := (promiser.recordAccepted 1 ⟨5, 0⟩ 11).1

def campaign : Election Nat :=
  .openPhase1 (some 0) ⟨5, 0⟩ .trio [.trio] 0 ∅ ∅

def answer (acceptor : Acceptor Nat) (fromSlot : Nat) : Arrival Nat :=
  ⟨1, ⟨5, 0⟩, fromSlot, acceptor.promisePage fromSlot 1⟩

/-- An accept at the prepared ballot between two answers at one cursor shows in the merged report
or not, depending on which of the answers arrives first.
-/
theorem accept_between_pages_shows
    : promiser.admitAccept ⟨5, 0⟩ 1 = .admitted
      ∧ (let early := campaign.receiveAll
            [answer promiser 0, answer voter 0, answer voter 1, answer voter 2]
        let late := campaign.receiveAll
            [answer voter 0, answer promiser 0, answer voter 1, answer voter 2]
        early.promises.answered = {0, 1} ∧ late.promises.answered = {0, 1}
        ∧ early.promises.promiseNext.isEmpty ∧ late.promises.promiseNext.isEmpty
        ∧ early.recovered[1]? = none ∧ late.recovered[1]? = some (⟨5, 0⟩, 11)) := by
  decide +kernel

/-- One acceptor's three pages, the first of which arrives twice. -/
theorem promise_paging_loses_nothing_resent
    : (campaign.receiveAll [answer voter 0, answer voter 1, answer voter 2]).recovered[1]?
      = (campaign.receiveAll
          [answer voter 0, answer voter 0, answer voter 1, answer voter 1, answer voter 2]).recovered[1]?
      ∧ (campaign.receiveAll [answer voter 0, answer voter 1, answer voter 2]).recovered[1]?
        = some (⟨5, 0⟩, 11) := by
  have disjoint : voter.Disjoint := fun _ => by simp [voter, promiser, Acceptor.recordAccepted]
  let entry : NodeId → Option (Ballot × Nat) := fun _ => some (⟨5, 0⟩, 11)
  have absent : campaign.recovered[1]? = none := by decide +kernel
  have one : OneValue campaign 1 entry := by
    rintro left right (opened | ⟨_, held⟩) (opened' | ⟨_, held'⟩) _
    · exact Option.some.inj (opened.symm.trans opened')
    · cases absent.symm.trans opened
    · cases absent.symm.trans opened'
    · exact Option.some.inj (held.symm.trans held')
  have held : voter.records[1]? = some (⟨5, 0⟩, 11) := by decide +kernel
  have rotted : voter.faulty[1]? = none := by decide +kernel
  have steady (fromSlot : Nat) : Steady 1 entry (fun _ => none) (answer voter fromSlot) :=
    ⟨voter, ⟨disjoint, 1, by decide, by decide, rfl⟩, held, rotted⟩
  obtain ⟨_, _, _, order⟩ := promise_paging_loses_nothing (V := Nat)
  have same := (order campaign 1 entry (fun _ => none)
    [answer voter 0, answer voter 1, answer voter 2]
    [answer voter 0, answer voter 0, answer voter 1, answer voter 1, answer voter 2]
    rfl (by decide) one (by simp [steady]) (Std.ExtTreeMap.isEmpty_iff.mp (by decide +kernel))
    (Std.ExtTreeMap.isEmpty_iff.mp (by decide +kernel))
    (by decide +kernel)).1
  exact ⟨same, by decide +kernel⟩

end Interrupted

end Election

end Paros
