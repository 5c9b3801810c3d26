import Paros.Journal.Fingerprint
import Paros.Store.Node

/-! Scrubbing a node's store: which slots a page reads back, and how a slot read back is judged. The
pages from the floor cover every slot held.
-/

namespace Paros

open OrderedMap

/-- The payload bytes of a command. -/
def Command.bytes : Command → Nat
  | .write entry => max (entry.records.map List.length).sum 1
  | .control _ => 1

inductive ScrubbedSlot where
  | intact (ballot : Ballot) (digest : UInt64)
  | damaged (ballot : Ballot)
  deriving DecidableEq

namespace JournalStorage

/-- A slot with the ballot the store holds there and its size. -/
abbrev Selected := Nat × Ballot × Nat

variable (store : JournalStorage) (limit maxBytes : Nat)

/-- The slots held from a start up. A slot that is listed as faulty too takes the faulty ballot. -/
def heldFrom (start : Nat) : SlotMap (Ballot × Nat) :=
  ((startingAt start store.accepted).map fun _ (ballot, command) => (ballot, command.bytes))
    ∪ (startingAt start store.faulty).map fun _ ballot => (ballot, 1)

/-- The selection loop. The slots come in order, so the page is the list of its entries. -/
def selectHeld : List Selected → List Selected → Nat → List Selected × Option Nat
  | [], held, _ => (held, none)
  | (slot, ballot, size) :: rest, held, bytes =>
    if slot ∈ store.staged then selectHeld rest held bytes
    else if max limit 1 ≤ held.length ∨ maxBytes ≤ bytes ∧ held ≠ [] then (held, some slot)
    else selectHeld rest (held ++ [(slot, ballot, size)]) (bytes + size)

def scrubSelection (start : Nat) : List Selected × Option Nat :=
  store.selectHeld limit maxBytes (store.heldFrom (max start store.first)).toList [] 0

/-- The verdict on a slot read back; nothing is read where the checksum failed. -/
def judge (codec : NodeCodec) (slot : Nat) (read : Option StoreEntry) (ballot : Ballot)
    : JournalStorage × ScrubbedSlot :=
  match store.accepted[slot]? with
  | none => (store, .damaged ballot)
  | some (ownBallot, ownCommand) =>
    if read.any fun entry => (idBallot entry.id).1 == ownBallot
        && decode codec.command entry.payload == some ownCommand then
      (store, .intact ownBallot ownCommand.fingerprint)
    else ({ store with damaged := insert slot store.damaged }, .damaged ballot)

/-- The pages from a slot up to the one that names no next slot, if there are fewer than `fuel`. -/
def scrubPages : Nat → Nat → Option (List (List Selected))
  | 0, _ => none
  | fuel + 1, start =>
    match store.scrubSelection limit maxBytes start with
    | (page, none) => some [page]
    | (page, some next) => (scrubPages fuel next).map (page :: ·)

/-- What scrubbing from a slot has to select. -/
def scrubbable (start : Nat) : List Selected :=
  (store.heldFrom (max start store.first)).toList.filter (·.1 ∉ store.staged)

/-- The ballot the store holds for a slot. -/
def heldBallot (slot : Nat) : Option Ballot :=
  (store.faulty[slot]?).or ((store.accepted[slot]?).map (·.1))

variable {store limit maxBytes} {listed held taken later : List Selected} {start bytes : Nat}

theorem getElem?_heldFrom {slot : Nat}
    : (store.heldFrom start)[slot]? = if start ≤ slot then
        ((store.faulty[slot]?).map (·, 1)).or
          ((store.accepted[slot]?).map fun record => (record.1, record.2.bytes))
      else none := by
  simp only [heldFrom, Std.ExtTreeMap.getElem?_union, Std.ExtTreeMap.getElem?_map, getElem?_startingAt]
  split_ifs <;> rfl

/-- The loop cuts the unstaged slots in two and names the first one it left, once it has one. -/
theorem selectHeld_cuts
    : ∃ taken later, listed.filter (·.1 ∉ store.staged) = taken ++ later
      ∧ store.selectHeld limit maxBytes listed held bytes = (held ++ taken, later.head?.map (·.1))
      ∧ (later = [] ∨ held ++ taken ≠ []) := by
  fun_induction selectHeld store limit maxBytes listed held bytes
  case case1 => exact ⟨[], [], rfl, by simp, Or.inl rfl⟩
  case case2 staged ih => simpa [staged] using ih
  case case3 slot ballot size rest held bytes unstaged full =>
    refine ⟨[], (slot, ballot, size) :: rest.filter (·.1 ∉ store.staged), by simp [unstaged],
      by simp, ?_⟩
    right
    intro none
    simp_all
  case case4 slot ballot size rest held bytes unstaged room ih =>
    obtain ⟨taken, later, parts, result, progress⟩ := ih
    exact ⟨(slot, ballot, size) :: taken, later, by simp [unstaged, ← parts], by simpa using result,
      by simp⟩

theorem scrubbable_sorted : (store.scrubbable start).Pairwise (·.1 < ·.1) :=
  (toList_sorted _).filter _

/-- From the first slot a page left, what the page left is still to be selected. -/
theorem scrubbable_next {first : Selected} (parts : store.scrubbable start = taken ++ first :: later)
    : store.scrubbable first.1 = first :: later := by
  have sorted := parts ▸ store.scrubbable_sorted
  obtain ⟨-, rest, below⟩ := List.pairwise_append.mp sorted
  have above : max start store.first ≤ first.1 := by
    have listed : first ∈ store.scrubbable start := by simp [parts]
    rw [scrubbable, List.mem_filter] at listed
    have held := mem_toList.mp listed.1
    rw [getElem?_heldFrom, Option.ite_none_right_eq_some] at held
    exact held.1
  have suffix : store.heldFrom (max first.1 store.first)
      = startingAt first.1 (store.heldFrom (max start store.first)) := by
    ext1 slot
    simp only [getElem?_heldFrom, getElem?_startingAt]
    split_ifs <;> first | rfl | omega
  rw [scrubbable, suffix, startingAt, Std.ExtTreeMap.toList_filter, List.filter_comm]
  change (store.scrubbable start).filter _ = _
  rw [parts, List.filter_append, List.filter_eq_nil_iff.mpr, List.filter_eq_self.mpr, List.nil_append]
  · rw [List.pairwise_cons] at rest
    simpa using fun slot ballot size member => (rest.1 (slot, ballot, size) member).le
  · intro entry member
    simpa using below entry member first List.mem_cons_self

/-- By induction on the pages: each page but the last takes a slot. -/
theorem scrubPages_cover {fuel : Nat} (enough : (store.scrubbable start).length < fuel)
    : ∃ pages, store.scrubPages limit maxBytes fuel start = some pages
      ∧ pages.flatten = store.scrubbable start := by
  induction fuel generalizing start with
  | zero => omega
  | succ fuel ih =>
    obtain ⟨taken, later, parts, result, progress⟩ := @selectHeld_cuts store limit maxBytes
      (store.heldFrom (max start store.first)).toList [] 0
    change store.scrubbable start = _ at parts
    change store.scrubSelection limit maxBytes start = _ at result
    rw [scrubPages, result, parts]
    cases later with
    | nil => exact ⟨[taken], rfl, by simp⟩
    | cons first later =>
      have shorter : (store.scrubbable first.1).length < fuel := by
        have some := List.length_pos_iff.mpr (progress.resolve_left (List.cons_ne_nil _ _))
        rw [scrubbable_next parts]
        rw [parts, List.length_append] at enough
        simp only [List.nil_append] at some
        omega
      obtain ⟨pages, paged, covered⟩ := ih shorter
      exact ⟨taken :: pages, by simp [paged], by simp [covered, scrubbable_next parts]⟩

theorem mem_scrubbable {slot : Nat} {ballot : Ballot}
    : (∃ size, (slot, ballot, size) ∈ store.scrubbable store.first)
      ↔ store.first ≤ slot ∧ slot ∉ store.staged ∧ store.heldBallot slot = some ballot := by
  simp only [scrubbable, List.mem_filter, mem_toList, getElem?_heldFrom, max_self,
    Option.ite_none_right_eq_some, heldBallot]
  cases store.faulty[slot]? <;> cases store.accepted[slot]? <;>
    simp [and_assoc, and_left_comm, and_comm]

variable (store limit maxBytes) in
/-- Scrubbing page after page from the floor ends, and the pages list every unstaged slot held, once
and in order, at the ballot held there. A slot is judged intact only where what was read back decodes
to the record held.
-/
theorem scrub_covers (codec : NodeCodec)
    : (∃ fuel pages, store.scrubPages limit maxBytes fuel store.first = some pages
        ∧ pages.flatten.Pairwise (·.1 < ·.1)
        ∧ ∀ slot ballot, (∃ size, (slot, ballot, size) ∈ pages.flatten)
          ↔ store.first ≤ slot ∧ slot ∉ store.staged ∧ store.heldBallot slot = some ballot)
      ∧ ∀ slot read ballot own digest,
        (store.judge codec slot read ballot).2 = .intact own digest
          → ∃ entry command, read = some entry ∧ store.accepted[slot]? = some (own, command)
            ∧ (idBallot entry.id).1 = own ∧ decode codec.command entry.payload = some command := by
  constructor
  · obtain ⟨pages, paged, covered⟩ := @scrubPages_cover store limit maxBytes store.first _
      (Nat.lt_succ_self _)
    exact ⟨_, pages, paged, covered ▸ scrubbable_sorted, covered ▸ fun _ _ => mem_scrubbable⟩
  · intro slot read ballot own digest
    fun_cases judge store codec slot read ballot
    case case2 ownBallot ownCommand held intact =>
      rintro ⟨⟩
      obtain ⟨entry, rfl, same⟩ := (Option.any_eq_true _ _).mp intact
      simp only [Bool.and_eq_true, beq_iff_eq] at same
      exact ⟨entry, ownCommand, rfl, held, same⟩
    all_goals rintro ⟨⟩

end JournalStorage

end Paros
