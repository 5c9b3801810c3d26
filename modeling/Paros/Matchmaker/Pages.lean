import Paros.Matchmaker.Reboot

/-! Following a registry's pages from cursor to cursor. A page leaves out a belief only where a later
record repeats its configuration, and the last record of a configuration is never left out, so no
configuration at or above the final watermark is missed.
-/

namespace Paros

open OrderedMap

namespace Matchmaker

variable {window : List (Ballot × Registration)} {limit : Nat} {ballot held : Ballot}
  {registration : Registration}

-- One page

/-- The walk has seen exactly the configurations of the window. -/
theorem mem_seen {config : AcceptorConfig}
    : config ∈ (window.foldr keepUnrepeated ([], [])).2
      ↔ ∃ record ∈ window, record.2.config = config := by
  induction window with
  | nil => simp
  | cons record rest ih =>
    rw [List.foldr_cons, keepUnrepeated]
    rw [List.exists_mem_cons_iff, ← ih]
    split_ifs with repeated
    · exact ⟨.inr, fun either => either.elim (fun same => same ▸ repeated) fun later => later⟩
    · exact ⟨.inr, fun either => either.elim (fun same => same ▸ repeated) fun later => later⟩
    · exact List.mem_cons.trans (or_congr_left eq_comm)

/-- A record whose configuration no later record repeats is kept, and so is a reconfiguration. -/
theorem mem_unrepeated {before after : List (Ballot × Registration)} {record : Ballot × Registration}
    (split : window = before ++ record :: after)
    (kept : record.2.kind = .reconfiguration ∨ ∀ later ∈ after, later.2.config ≠ record.2.config)
    : record ∈ unrepeated window := by
  subst split
  unfold unrepeated
  induction before with
  | nil =>
    rw [List.nil_append, List.foldr_cons, keepUnrepeated]
    split_ifs with repeated reconfigures
    · exact List.mem_cons_self
    · obtain ⟨later, member, same⟩ := mem_seen.mp repeated
      exact absurd same (kept.resolve_left reconfigures later member)
    · exact List.mem_cons_self
  | cons first rest ih =>
    rw [List.cons_append, List.foldr_cons, keepUnrepeated]
    split_ifs
    · exact List.mem_cons_of_mem _ ih
    · exact ih
    · exact List.mem_cons_of_mem _ ih

/-- A kept record of a sorted window is on the page, or at or past its cursor. -/
theorem historyPage_covers (sorted : window.Pairwise fun left right => left.1 < right.1)
    (kept : (held, registration) ∈ unrepeated window)
    : (historyPage window limit).1[held]? = some registration
      ∨ ∃ next, (historyPage window limit).2 = some next ∧ next ≤ held := by
  have ordered := sorted.sublist (unrepeated_sublist window)
  rw [← List.take_append_drop limit (unrepeated window)] at kept ordered
  obtain ⟨shown, rest, _⟩ := List.pairwise_append.mp ordered
  rcases List.mem_append.mp kept with listed | later
  · left
    refine Std.ExtTreeMap.getElem?_ofList_of_mem (by simp) (shown.imp fun less => ?_) listed
    exact mt compare_eq_iff_eq.mp less.ne
  · right
    rw [historyPage]
    cases dropped : (unrepeated window).drop limit with
    | nil => simp [dropped] at later
    | cons first others =>
      rw [dropped] at later rest
      refine ⟨first.1, rfl, ?_⟩
      rcases List.mem_cons.mp later with rfl | after
      · exact le_rfl
      · exact ((List.pairwise_cons.mp rest).1 _ after).le

-- Pages from cursor to cursor

/-- A page that answers a cursor out of a ledger, at the watermark it names. -/
structure CutFrom (ledger : BallotMap Registration) (ballot : Ballot) (cursor : Option Ballot)
    (page : RegisteredPage) : Prop where
  fromBallot : page.fromBallot = max (cursor.getD page.gcWatermark) page.gcWatermark
  cut : ∃ limit, (page.history, page.nextFromBallot) = historyPage
    (OrderedMap.before ballot (startingAt page.fromBallot ledger)).toList limit

/-- A page shows only what lies between its start and its ballot. -/
theorem CutFrom.congr {ledger other : BallotMap Registration} {cursor : Option Ballot}
    {page : RegisteredPage} (cut : CutFrom ledger ballot cursor page)
    (same : ∀ held, page.fromBallot ≤ held → held < ballot → other[held]? = ledger[held]?)
    : CutFrom other ballot cursor page := by
  have window : OrderedMap.before ballot (startingAt page.fromBallot other)
      = OrderedMap.before ballot (startingAt page.fromBallot ledger) := by
    ext1 held
    rw [getElem?_before, getElem?_before, getElem?_startingAt,
      getElem?_startingAt]
    split_ifs with less above
    · exact same held above less
    · rfl
    · rfl
  exact ⟨cut.fromBallot, window ▸ cut.cut⟩

variable {ledger : BallotMap Registration}

/-- A matchmaker's page is cut from any ledger that it holds from its watermark on. -/
theorem cut_page {matchmaker : Matchmaker} {journal : JournalId}
    (holds : ∀ held < ballot, matchmaker.gcWatermark journal ≤ held
      → ledger[held]? = (matchmaker.registry journal)[held]?) (cursor : Option Ballot)
    : CutFrom ledger ballot cursor (matchmaker.page journal cursor ballot) := by
  have cut : CutFrom (matchmaker.registry journal) ballot cursor
      (matchmaker.page journal cursor ballot) := ⟨rfl, matchmaker.pageSize, rfl⟩
  exact cut.congr fun held above below => holds held below ((le_max_right _ _).trans above)

/-- Pages that follow each other from cursor to cursor, to one without a cursor. Their watermarks
only rise.
-/
inductive Followed (ledger : BallotMap Registration) (ballot : Ballot)
    : Option Ballot → List RegisteredPage → Ballot → Prop
  | last {cursor : Option Ballot} {page : RegisteredPage} (cut : CutFrom ledger ballot cursor page)
    (done : page.nextFromBallot = none)
    : Followed ledger ballot cursor [page] page.gcWatermark
  | more {cursor : Option Ballot} {page : RegisteredPage} {next final : Ballot}
    {rest : List RegisteredPage} (cut : CutFrom ledger ballot cursor page)
    (goesOn : page.nextFromBallot = some next)
    (rises : page.gcWatermark ≤ final) (others : Followed ledger ballot (some next) rest final)
    : Followed ledger ballot cursor (page :: rest) final

/-- The last record of each configuration below a ballot. -/
theorem exists_last {config : AcceptorConfig}
    (found : ledger[held]? = some registration) (below : held < ballot)
    (same : registration.config = config)
    : ∃ last record, ledger[last]? = some record ∧ record.config = config ∧ held ≤ last
      ∧ last < ballot ∧ ∀ later other, ledger[later]? = some other → last < later → later < ballot
        → other.config ≠ config := by
  -- The greatest key among the records of the configuration below the ballot.
  let matching : BallotMap Registration :=
    (OrderedMap.before ballot ledger).filter fun _ record => decide (record.config = config)
  have inside : ∀ {key : Ballot} {record : Registration}, matching[key]? = some record
      ↔ key < ballot ∧ ledger[key]? = some record ∧ record.config = config := by
    intro key record
    simp only [matching, Std.ExtTreeMap.getElem?_filter', getElem?_before,
      Option.filter_eq_some_iff, Option.ite_none_right_eq_some, decide_eq_true_eq, and_assoc]
  have here : matching[held]? = some registration := inside.mpr ⟨below, found, same⟩
  cases greatest : OrderedMap.lastKey? matching with
  | none =>
    rw [OrderedMap.lastKey?_eq_none greatest] at here
    cases here
  | some last =>
    obtain ⟨record, isRecord⟩ := getElem?_of_lastKey? greatest
    obtain ⟨under, isHeld, isSame⟩ := inside.mp isRecord
    refine ⟨last, record, isHeld, isSame, le_of_lastKey? greatest here, under, ?_⟩
    intro later other isLater above less alike
    exact absurd above (not_lt.mpr
      (le_of_lastKey? greatest (inside.mpr ⟨less, isLater, alike⟩)))

/-- The last record of a configuration is on a page, if no watermark passes it. By induction over
the pages: each starts at or below the record, and shows it or goes on at or below it.
-/
theorem Followed.shows {cursor : Option Ballot} {pages : List RegisteredPage} {final : Ballot}
    (followed : Followed ledger ballot cursor pages final)
    (found : ledger[held]? = some registration) (below : held < ballot)
    (last : ∀ later other, ledger[later]? = some other → held < later → later < ballot
      → other.config ≠ registration.config)
    (started : ∀ start, cursor = some start → start ≤ held) (kept : final ≤ held)
    : ∃ page ∈ pages, page.history[held]? = some registration := by
  have covers : ∀ {cursor : Option Ballot} {page : RegisteredPage},
      CutFrom ledger ballot cursor page → (∀ start, cursor = some start → start ≤ held)
      → page.gcWatermark ≤ held → page.history[held]? = some registration
        ∨ ∃ next, page.nextFromBallot = some next ∧ next ≤ held := by
    intro cursor page cut started above
    have starts : page.fromBallot ≤ held := by
      rw [cut.fromBallot]
      refine max_le ?_ above
      cases cursor with
      | none => exact above
      | some start => exact started start rfl
    obtain ⟨limit, both⟩ := cut.cut
    obtain ⟨history, next⟩ := Prod.mk.inj both
    rw [history, next]
    refine historyPage_covers (toList_sorted _) ?_
    have listed : (held, registration) ∈ (OrderedMap.before ballot
        (startingAt page.fromBallot ledger)).toList := by
      rw [mem_toList, getElem?_before, if_pos below,
        getElem?_startingAt, if_pos starts, found]
    obtain ⟨before, after, split⟩ := List.append_of_mem listed
    refine mem_unrepeated split (.inr ?_)
    rintro ⟨later, other⟩ member
    have sorted := toList_sorted (OrderedMap.before ballot
      (startingAt page.fromBallot ledger))
    have inside : (later, other) ∈ (OrderedMap.before ballot
        (startingAt page.fromBallot ledger)).toList := by
      rw [split]
      exact List.mem_append_right _ (List.mem_cons_of_mem _ member)
    rw [mem_toList, getElem?_before, getElem?_startingAt,
      Option.ite_none_right_eq_some, Option.ite_none_right_eq_some] at inside
    rw [split] at sorted
    have above := (List.pairwise_cons.mp (List.pairwise_append.mp sorted).2.1).1 _ member
    exact last later other inside.2.2 above inside.1
  induction followed with
  | last cut done =>
    obtain shown | ⟨next, goesOn, _⟩ := covers cut started kept
    · exact ⟨_, List.mem_cons_self, shown⟩
    · rw [done] at goesOn
      cases goesOn
  | more cut goesOn rises others ih =>
    obtain shown | ⟨next, isNext, under⟩ := covers cut started (rises.trans kept)
    · exact ⟨_, List.mem_cons_self, shown⟩
    · rw [goesOn, Option.some.injEq] at isNext
      obtain ⟨page, member, shown⟩ := ih (fun start same => Option.some.inj same ▸ isNext ▸ under) kept
      exact ⟨page, List.mem_cons_of_mem _ member, shown⟩

/-- No configuration at or above the final watermark is missed. -/
theorem Followed.complete {pages : List RegisteredPage}
    {final : Ballot} (followed : Followed ledger ballot none pages final)
    (found : ledger[held]? = some registration) (below : held < ballot) (kept : final ≤ held)
    : ∃ page ∈ pages, ∃ (place : Ballot) (record : Registration), page.history[place]? = some record
      ∧ record.config = registration.config ∧ held ≤ place := by
  obtain ⟨last, record, isHeld, same, after, under, final⟩ := exists_last found below rfl
  obtain ⟨page, member, shown⟩ := followed.shows isHeld under
    (fun later other isLater above less => same ▸ final later other isLater above less)
    nofun (kept.trans after)
  exact ⟨page, member, last, record, shown, same, after⟩

end Matchmaker

end Paros
