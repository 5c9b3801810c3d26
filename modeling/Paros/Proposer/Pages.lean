import Paros.Proposer.Facts

/-! Following promise pages from cursor to cursor. Each page carries exactly the acceptor's entries
between its start and the next cursor, so the pages together list every entry once.
-/

namespace Paros

open OrderedMap

variable {V : Type}

/-- How many entries a page carries. -/
def PromisePage.size (page : PromisePage V) : Nat :=
  page.accepted.size + page.faulty.size

namespace Acceptor

/-- No slot's record is both readable and damaged. -/
def Disjoint (acceptor : Acceptor V) : Prop :=
  ∀ {slot : Nat} {record : Ballot × V}, acceptor.records[slot]? = some record
    → acceptor.faulty[slot]? = none

-- A page stays below its cursor and within its limit

/-- What a page loop keeps true of the page so far and of what is still to be listed: both lists
ascend, they share no slot, and the page lies below them.
-/
structure Filling (readable : List (Nat × (Ballot × V))) (rotted : List (Nat × Ballot))
    (page : PromisePage V)
    : Prop where
  readableSorted : readable.Pairwise fun left right => left.1 < right.1
  rottedSorted : rotted.Pairwise fun left right => left.1 < right.1
  apart : ∀ held ∈ readable, ∀ damaged ∈ rotted, held.1 ≠ damaged.1
  below : ∀ slot, slot ∈ page.accepted ∨ slot ∈ page.faulty
    → (∀ held ∈ readable, slot < held.1) ∧ ∀ damaged ∈ rotted, slot < damaged.1

namespace Filling

variable {readable : List (Nat × (Ballot × V))} {rotted : List (Nat × Ballot)}
  {page : PromisePage V} {slot : Nat}

variable {record : Ballot × V}

/-- Taking the next readable record, where it is the lowest entry left. -/
theorem takeReadable (filling : Filling ((slot, record) :: readable) rotted page)
    (lowest : ∀ damaged ∈ rotted, slot < damaged.1)
    : Filling readable rotted { page with accepted := page.accepted.insert slot record } where
  readableSorted := filling.readableSorted.of_cons
  rottedSorted := filling.rottedSorted
  apart held member := filling.apart held (List.mem_cons_of_mem _ member)
  below := by
    intro place listed
    have cases : place = slot ∨ place ∈ page.accepted ∨ place ∈ page.faulty := by
      rwa [OrderedMap.mem_insert, or_assoc] at listed
    rcases cases with rfl | before
    · exact ⟨fun held member => (List.pairwise_cons.mp filling.readableSorted).1 held member, lowest⟩
    · obtain ⟨lower, lower'⟩ := filling.below place before
      exact ⟨fun held member => lower held (List.mem_cons_of_mem _ member), lower'⟩

variable {ballot : Ballot}

/-- Taking the next damaged record, where it is the lowest entry left. -/
theorem takeRotted (filling : Filling readable ((slot, ballot) :: rotted) page)
    (lowest : ∀ held ∈ readable, slot < held.1)
    : Filling readable rotted { page with faulty := page.faulty.insert slot ballot } where
  readableSorted := filling.readableSorted
  rottedSorted := filling.rottedSorted.of_cons
  apart held member damaged member' :=
    filling.apart held member damaged (List.mem_cons_of_mem _ member')
  below := by
    intro place listed
    have cases : place = slot ∨ place ∈ page.accepted ∨ place ∈ page.faulty := by
      rwa [OrderedMap.mem_insert, or_left_comm] at listed
    rcases cases with rfl | before
    · exact ⟨lowest, fun damaged member =>
        (List.pairwise_cons.mp filling.rottedSorted).1 damaged member⟩
    · obtain ⟨lower, lower'⟩ := filling.below place before
      exact ⟨lower, fun damaged member => lower' damaged (List.mem_cons_of_mem _ member)⟩

/-- In a merge step the head that is not taken bounds the rest of its list too. -/
theorem lowest_readable {damaged : Nat}
    (filling : Filling ((slot, record) :: readable) ((damaged, ballot) :: rotted) page)
    (less : slot < damaged)
    : ∀ entry ∈ (damaged, ballot) :: rotted, slot < entry.1 := by
  intro entry member
  rcases List.mem_cons.mp member with rfl | later
  · exact less
  · exact less.trans ((List.pairwise_cons.mp filling.rottedSorted).1 entry later)

theorem lowest_rotted {damaged : Nat}
    (filling : Filling ((slot, record) :: readable) ((damaged, ballot) :: rotted) page)
    (atLeast : ¬ slot < damaged)
    : ∀ entry ∈ (slot, record) :: readable, damaged < entry.1 := by
  have other : slot ≠ damaged :=
    filling.apart _ List.mem_cons_self _ List.mem_cons_self
  have less : damaged < slot := by omega
  intro entry member
  rcases List.mem_cons.mp member with rfl | later
  · exact less
  · exact less.trans ((List.pairwise_cons.mp filling.readableSorted).1 entry later)

end Filling

variable {readable : List (Nat × (Ballot × V))} {rotted : List (Nat × Ballot)} {slot : Nat}
  {start page : PromisePage V} {room : Nat}

theorem nextPageSlot_above (held : ∀ entry ∈ readable, slot < entry.1)
    (damaged : ∀ entry ∈ rotted, slot < entry.1)
    : (nextPageSlot readable rotted).all (slot < ·) := by
  rcases readable with _ | ⟨first, more⟩ <;> rcases rotted with _ | ⟨other, rest⟩ <;>
    simp_all [nextPageSlot]

/-- Nothing still to be listed lies below where the next page starts. -/
theorem nextPageSlot_le (filling : Filling readable rotted page)
    : (∀ entry ∈ readable, ¬ (nextPageSlot readable rotted).all (entry.1 < ·))
      ∧ ∀ entry ∈ rotted, ¬ (nextPageSlot readable rotted).all (entry.1 < ·) := by
  have head_le {α : Type} {first entry : Nat × α} {rest : List (Nat × α)}
      (sorted : (first :: rest).Pairwise fun left right => left.1 < right.1)
      (member : entry ∈ first :: rest)
      : first.1 ≤ entry.1 := by
    rcases List.mem_cons.mp member with rfl | later
    · exact le_rfl
    · exact ((List.pairwise_cons.mp sorted).1 entry later).le
  constructor
  · intro entry member
    rcases readable with _ | ⟨held, more⟩
    · cases member
    · have least := head_le filling.readableSorted member
      cases rotted <;> simp [nextPageSlot, least]
  · intro entry member
    rcases rotted with _ | ⟨damaged, rest⟩
    · cases member
    · have least := head_le filling.rottedSorted member
      cases readable <;> simp [nextPageSlot, least]

/-- What a page loop adds to one of the page's two maps: the entries below the next cursor. -/
def Adds {α : Type} (next : Option Nat) (entries : List (Nat × α)) (start page : SlotMap α) : Prop :=
  ∀ (slot : Nat) (value : α), page[slot]? = some value
    ↔ start[slot]? = some value ∨ (slot, value) ∈ entries ∧ next.all (slot < ·)

namespace Adds

variable {α : Type} {next : Option Nat} {entries : List (Nat × α)} {start page held : SlotMap α}
  {value : α} {fromSlot : Nat}

theorem stop (past : ∀ entry ∈ entries, ¬ next.all (entry.1 < ·)) : Adds next entries start start :=
  fun slot value => (or_iff_left fun listed => past (slot, value) listed.1 listed.2).symm

/-- One entry taken, then the rest of the loop. -/
theorem cons (fresh : slot ∉ start) (adds : Adds next entries (start.insert slot value) page)
    (below : ∀ place ∈ page, next.all (place < ·))
    : Adds next ((slot, value) :: entries) start page := by
  have here : next.all (slot < ·) :=
    below slot (mem_iff_getElem?.mpr ⟨value, (adds slot value).mpr (.inl (by simp))⟩)
  intro place found
  rw [adds place found, getElem?_insert_fresh (Std.ExtTreeMap.getElem?_eq_none fresh), List.mem_cons,
    Prod.mk.injEq, or_assoc, or_and_right]
  refine or_congr_right (or_congr_left ⟨fun same => ⟨same, same.1 ▸ here⟩, And.left⟩)

variable (adds : Adds next (startingAt fromSlot held).toList ∅ page)
include adds

/-- A page from a slot on lists the entries between that slot and the next cursor. -/
theorem getElem?_eq (slot : Nat)
    : page[slot]? = if fromSlot ≤ slot ∧ next.all (slot < ·) then held[slot]? else none := by
  refine Option.ext fun value => ?_
  rw [adds, mem_toList, getElem?_startingAt, Option.ite_none_right_eq_some,
    Option.ite_none_right_eq_some, and_right_comm]
  simp

theorem origin (listed : page[slot]? = some value) : fromSlot ≤ slot ∧ held[slot]? = some value := by
  rw [adds.getElem?_eq, Option.ite_none_right_eq_some] at listed
  exact ⟨listed.1.1, listed.2⟩

/-- A page's entries, then those from the next cursor on. -/
theorem toList_eq {cursor : Nat} (more : next = some cursor) (ordered : fromSlot ≤ cursor)
    : (startingAt fromSlot held).toList = page.toList ++ (startingAt cursor held).toList := by
  refine OrderedMap.toList_startingAt ordered fun slot => ?_
  simpa only [more, Option.all_some, decide_eq_true_eq] using adds.getElem?_eq slot

/-- A page without a cursor lists everything from its start on. -/
theorem eq_startingAt (last : next = none) : page = startingAt fromSlot held := by
  ext1 slot
  rw [adds.getElem?_eq, getElem?_startingAt, last]
  simp

end Adds

/-- What a page loop with some room left makes of a page: everything it carries lies below the next
cursor, it took no more than the room, and it stopped short of the end only when full.
-/
structure Filled (room : Nat) (readable : List (Nat × (Ballot × V))) (rotted : List (Nat × Ballot))
    (start page : PromisePage V)
    : Prop where
  accepted : Adds page.nextFromSlot readable start.accepted page.accepted
  faulty : Adds page.nextFromSlot rotted start.faulty page.faulty
  below : ∀ slot, slot ∈ page.accepted ∨ slot ∈ page.faulty
    → page.nextFromSlot.all (slot < ·)
  bounded : page.size ≤ start.size + room
  full : page.nextFromSlot.isSome → page.size = start.size + room

namespace Filled

theorem takeReadable {record : Ballot × V} (filling : Filling ((slot, record) :: readable) rotted start)
    (filled : Filled room readable rotted
      { start with accepted := start.accepted.insert slot record } page)
    : Filled (room + 1) ((slot, record) :: readable) rotted start page := by
  have fresh : slot ∉ start.accepted := fun listed =>
    lt_irrefl slot ((filling.below slot (Or.inl listed)).1 _ List.mem_cons_self)
  have bounded := filled.bounded
  have full := filled.full
  simp only [PromisePage.size, OrderedMap.size_insert_fresh fresh] at bounded full
  refine ⟨filled.accepted.cons fresh fun place listed => filled.below place (Or.inl listed),
    filled.faulty, filled.below, ?_, fun more => ?_⟩
  · rw [PromisePage.size, PromisePage.size]
    omega
  · have := full more
    rw [PromisePage.size, PromisePage.size]
    omega

theorem takeRotted {ballot : Ballot} (filling : Filling readable ((slot, ballot) :: rotted) start)
    (filled : Filled room readable rotted
      { start with faulty := start.faulty.insert slot ballot } page)
    : Filled (room + 1) readable ((slot, ballot) :: rotted) start page := by
  have fresh : slot ∉ start.faulty := fun listed =>
    lt_irrefl slot ((filling.below slot (Or.inr listed)).2 _ List.mem_cons_self)
  have bounded := filled.bounded
  have full := filled.full
  simp only [PromisePage.size, OrderedMap.size_insert_fresh fresh] at bounded full
  refine ⟨filled.accepted,
    filled.faulty.cons fresh fun place listed => filled.below place (Or.inr listed),
    filled.below, ?_, fun more => ?_⟩
  · rw [PromisePage.size, PromisePage.size]
    omega
  · have := full more
    rw [PromisePage.size, PromisePage.size]
    omega

end Filled

/-- The page loop, by induction along its own recursion. -/
theorem fillPage_filled (room : Nat) (readable : List (Nat × (Ballot × V)))
    (rotted : List (Nat × Ballot)) (start : PromisePage V)
    (filling : Filling readable rotted start)
    : Filled room readable rotted start (fillPage room readable rotted start) := by
  induction room, readable, rotted, start using fillPage.induct with
  | case1 readable rotted start =>
    simp only [fillPage]
    obtain ⟨held, damaged⟩ := nextPageSlot_le filling
    refine ⟨.stop held, .stop damaged, fun slot listed => ?_, le_rfl, fun _ => rfl⟩
    obtain ⟨held, damaged⟩ := filling.below slot listed
    exact nextPageSlot_above held damaged
  | case2 room start =>
    simp only [fillPage]
    exact ⟨.stop (by simp), .stop (by simp), fun _ _ => rfl, Nat.le_add_right _ _,
      fun more => absurd more (by simp)⟩
  | case3 start room slot record readable ih =>
    simp only [fillPage]
    exact (ih (filling.takeReadable (by simp))).takeReadable filling
  | case4 start room slot ballot rotted ih =>
    simp only [fillPage]
    exact (ih (filling.takeRotted (by simp))).takeRotted filling
  | case5 start room slot record readable damaged ballot rotted less ih =>
    simp only [fillPage, if_pos less]
    exact (ih (filling.takeReadable (filling.lowest_readable less))).takeReadable filling
  | case6 start room slot record readable damaged ballot rotted less ih =>
    simp only [fillPage, if_neg less]
    exact (ih (filling.takeRotted (filling.lowest_rotted less))).takeRotted filling

-- What a page carries

variable {acceptor : Acceptor V} {fromSlot limit : Nat}

theorem promisePage_filled (disjoint : acceptor.Disjoint) (fromSlot limit : Nat)
    : Filled limit (startingAt fromSlot acceptor.records).toList
        (startingAt fromSlot acceptor.faulty).toList ⟨∅, ∅, none⟩
        (acceptor.promisePage fromSlot limit) := by
  refine fillPage_filled _ _ _ _ ⟨toList_sorted _, toList_sorted _, ?_, by simp⟩
  rintro ⟨slot, record⟩ held ⟨damaged, ballot⟩ rotted same
  rw [mem_toList, getElem?_startingAt, Option.ite_none_right_eq_some]
    at held rotted
  obtain rfl : slot = damaged := same
  rw [disjoint held.2] at rotted
  cases rotted.2

variable {next : Nat}

/-- The next cursor is a slot with an entry past the page, at or above its start. -/
theorem promisePage_next (disjoint : acceptor.Disjoint) (positive : 0 < limit)
    (more : (acceptor.promisePage fromSlot limit).nextFromSlot = some next)
    : fromSlot < next := by
  have filled := promisePage_filled disjoint fromSlot limit
  have size : (acceptor.promisePage fromSlot limit).size = limit := by
    have full := filled.full (by rw [more]; rfl)
    simpa [PromisePage.size] using full
  -- a full page carries an entry, which lies between the start and the cursor
  have entry : ∃ slot, slot ∈ (acceptor.promisePage fromSlot limit).accepted
      ∨ slot ∈ (acceptor.promisePage fromSlot limit).faulty := by
    by_contra empty
    push Not at empty
    have accepted : (acceptor.promisePage fromSlot limit).accepted = ∅ :=
      Std.ExtTreeMap.eq_empty_iff_forall_not_mem.mpr fun slot => (empty slot).1
    have faulty : (acceptor.promisePage fromSlot limit).faulty = ∅ :=
      Std.ExtTreeMap.eq_empty_iff_forall_not_mem.mpr fun slot => (empty slot).2
    rw [PromisePage.size, accepted, faulty, Std.ExtTreeMap.size_empty, Std.ExtTreeMap.size_empty]
      at size
    omega
  obtain ⟨slot, listed⟩ := entry
  have below : slot < next := by simpa [more] using filled.below slot listed
  have above : fromSlot ≤ slot := by
    rcases listed with held | rotted
    · obtain ⟨record, held⟩ := mem_iff_getElem?.mp held
      exact (filled.accepted.origin held).1
    · obtain ⟨ballot, rotted⟩ := mem_iff_getElem?.mp rotted
      exact (filled.faulty.origin rotted).1
  omega

-- Following the cursor

/-- How many entries an acceptor holds from a slot on. -/
def entriesFrom (acceptor : Acceptor V) (fromSlot : Nat) : Nat :=
  (startingAt fromSlot acceptor.records).size
    + (startingAt fromSlot acceptor.faulty).size

theorem entriesFrom_next (disjoint : acceptor.Disjoint) (positive : 0 < limit)
    (more : (acceptor.promisePage fromSlot limit).nextFromSlot = some next)
    : acceptor.entriesFrom fromSlot = limit + acceptor.entriesFrom next := by
  have filled := promisePage_filled disjoint fromSlot limit
  have ordered := (promisePage_next disjoint positive more).le
  have held := congrArg List.length (filled.accepted.toList_eq more ordered)
  have rotted := congrArg List.length (filled.faulty.toList_eq more ordered)
  have size := filled.full (by rw [more]; rfl)
  simp only [List.length_append, Std.ExtTreeMap.length_toList] at held rotted
  simp only [PromisePage.size, Std.ExtTreeMap.size_empty] at size
  unfold entriesFrom
  omega

/-- The pages of a candidate that asks for the next cursor until a page has none. -/
def promisePages (acceptor : Acceptor V) (limit : Nat) : Nat → Nat → List (PromisePage V)
  | 0, _ => []
  | fuel + 1, fromSlot =>
    let page := acceptor.promisePage fromSlot limit
    page :: match page.nextFromSlot with
      | some next => acceptor.promisePages limit fuel next
      | none => []

/-- Following the cursor ends, and the pages list every readable record and every damaged one from
the start on, in order and each once. By induction on the pages still to come, as many as there are
entries at most.
-/
theorem promisePages_complete (disjoint : acceptor.Disjoint) (positive : 0 < limit) {fuel : Nat}
    (enough : acceptor.entriesFrom fromSlot < fuel)
    : ((acceptor.promisePages limit fuel fromSlot).getLast?.any fun page =>
        page.nextFromSlot.isNone)
      ∧ (acceptor.promisePages limit fuel fromSlot).flatMap (fun page => page.accepted.toList)
        = (startingAt fromSlot acceptor.records).toList
      ∧ (acceptor.promisePages limit fuel fromSlot).flatMap (fun page => page.faulty.toList)
        = (startingAt fromSlot acceptor.faulty).toList := by
  induction fuel generalizing fromSlot with
  | zero => omega
  | succ fuel ih =>
    have filled := promisePage_filled disjoint fromSlot limit
    cases more : (acceptor.promisePage fromSlot limit).nextFromSlot with
    | none =>
      simp [promisePages, more, filled.accepted.eq_startingAt more,
        filled.faulty.eq_startingAt more]
    | some next =>
      have ordered := (promisePage_next disjoint positive more).le
      have fewer := entriesFrom_next disjoint positive more
      obtain ⟨ends, accepted, faulty⟩ := ih (show acceptor.entriesFrom next < fuel by omega)
      have pages : acceptor.promisePages limit (fuel + 1) fromSlot
          = acceptor.promisePage fromSlot limit :: acceptor.promisePages limit fuel next := by
        simp only [promisePages, more]
      rw [pages]
      refine ⟨?_, ?_, ?_⟩
      · cases rest : acceptor.promisePages limit fuel next with
        | nil => simp [rest] at ends
        | cons second others =>
          rw [rest] at ends
          rw [List.getLast?_cons_cons]
          exact ends
      · rw [List.flatMap_cons, accepted, filled.accepted.toList_eq more ordered]
      · rw [List.flatMap_cons, faulty, filled.faulty.toList_eq more ordered]

end Acceptor

end Paros
