import Paros.Replica.Equivalence

/-! Reading the journal by position: a page of the accepted records from a position on, served
from the retained writes through the positions index, under a record and a byte budget.
-/

namespace Paros

open OrderedMap

-- The read

structure LogPage where
  start : Nat
  records : List Value
  state : JournalView
  deriving DecidableEq, Repr

/-- The position after a page's last record. -/
def LogPage.next (page : LogPage) : Nat := page.start + page.records.length

inductive LogRead where
  | page (page : LogPage)
  | truncated (state : JournalView)
  | notHeld
  deriving DecidableEq, Repr

/-- A page while it is filled, with the bytes it holds. -/
structure PageFill where
  records : List Value
  bytes : Nat

/-- Whether one more record breaks a budget. A page that could hold a record holds one, whatever
its size.
-/
def PageFill.full (limit maxBytes : Nat) (fill : PageFill) (record : Value) : Bool :=
  limit ≤ fill.records.length
    || (!fill.records.isEmpty && maxBytes < fill.bytes + record.length)

def PageFill.push (fill : PageFill) (record : Value) : PageFill :=
  ⟨fill.records ++ [record], fill.bytes + record.length⟩

/-- Take records while the budgets last. The flag tells that a budget stopped the page. -/
def PageFill.take (limit maxBytes : Nat) : List Value → PageFill → PageFill × Bool
  | [], fill => (fill, false)
  | record :: rest, fill =>
    if fill.full limit maxBytes record then (fill, true)
    else take limit maxBytes rest (fill.push record)

namespace Replica

/-- The records of the write that holds a position, from that position on. Nothing stands for
the source's panics: no write indexed at or below it, none retained, or one that ends before it.
-/
def recordsFrom (replica : Replica) (position : Nat) : Option (List Value) :=
  (lastBefore (position + 1) replica.positions).bind fun (start, slot) =>
    (replica.chosen[slot]?).bind fun command =>
      command.asEntry.bind fun entry =>
        let offset := position - start
        if offset < entry.records.length then some (entry.records.drop offset) else none

/-- The source's loop over the writes from `start` on. Every round that no budget stops takes a
record, so as many rounds as there are positions are enough.
-/
def readWrites (replica : Replica) (start limit maxBytes : Nat) : Nat → PageFill → Option PageFill
  | 0, fill => some fill
  | rounds + 1, fill =>
    let position := start + fill.records.length
    if position < replica.state.nextSeq ∧ fill.records.length < limit then
      (replica.recordsFrom position).bind fun records =>
        let (filled, stopped) := fill.take limit maxBytes records
        if stopped then some filled
        else replica.readWrites start limit maxBytes rounds filled
    else some fill

/-- The source's postconditions on a page. -/
def pageHolds (replica : Replica) (limit maxBytes : Nat) (page : LogPage) (bytes : Nat) : Bool :=
  (if page.start < replica.state.nextSeq then decide (page.next ≤ replica.state.nextSeq)
    else page.records.isEmpty)
    && page.records.length ≤ limit
    && (page.records.length ≤ 1 || bytes ≤ maxBytes)

/-- A read of the records from `start` on. Nothing stands for a failed assertion. The byte count
of a page fits the machine word the source keeps it in.
-/
def read (replica : Replica) (start limit maxBytes : Nat) : Option LogRead :=
  if start < replica.state.firstSeq then
    some (.truncated replica.state.view)
  else if start < replica.base.nextSeq then
    if start < replica.state.nextSeq then some .notHeld else none
  else
    (replica.readWrites start limit maxBytes (replica.state.nextSeq - start) ⟨[], 0⟩).bind
      fun fill =>
        let page : LogPage := ⟨start, fill.records, replica.state.view⟩
        if replica.pageHolds limit maxBytes page fill.bytes then some (.page page) else none

/-- Read page after page, each from the end of the one before and with budgets of its own. -/
def readPages (replica : Replica) : Nat → List (Nat × Nat) → Option (List Value)
  | _, [] => some []
  | start, (limit, maxBytes) :: budgets =>
    match replica.read start limit maxBytes with
    | some (.page page) => (replica.readPages page.next budgets).map (page.records ++ ·)
    | _ => none

end Replica

-- The longest page within the budgets

def totalBytes (records : List Value) : Nat := (records.map List.length).sum

/-- A page within its budgets: a lone record may be larger than the byte budget. -/
def Honours (limit maxBytes : Nat) (records : List Value) : Prop :=
  records.length ≤ limit ∧ (1 < records.length → totalBytes records ≤ maxBytes)

/-- The longest beginning of the available records within the budgets. -/
structure LongestPage (limit maxBytes : Nat) (available page : List Value) : Prop where
  begins : page <+: available
  honours : Honours limit maxBytes page
  longest : ∀ other, other <+: available → Honours limit maxBytes other
    → other.length ≤ page.length

theorem totalBytes_append (left right : List Value)
    : totalBytes (left ++ right) = totalBytes left + totalBytes right := by
  simp [totalBytes]

namespace PageFill

variable {limit maxBytes : Nat} {fill : PageFill}

/-- A fill that counts its bytes and is within its budgets. -/
structure Counted (limit maxBytes : Nat) (fill : PageFill) : Prop where
  bytes_eq : fill.bytes = totalBytes fill.records
  honours : Honours limit maxBytes fill.records

theorem Counted.push (counted : fill.Counted limit maxBytes) {record : Value}
    (room : fill.full limit maxBytes record = false)
    : (fill.push record).Counted limit maxBytes := by
  simp only [full, Bool.or_eq_false_iff, decide_eq_false_iff_not, Bool.and_eq_false_iff,
    Bool.not_eq_false', List.isEmpty_iff] at room
  refine ⟨?_, ?_, fun several => ?_⟩
  · simp [PageFill.push, counted.bytes_eq, totalBytes]
  · simp only [PageFill.push, List.length_append, List.length_singleton]
    omega
  · rcases room.2 with empty | fits
    · simp [PageFill.push, empty] at several
    · simp only [PageFill.push, totalBytes_append, ← counted.bytes_eq]
      simpa [totalBytes] using fits

/-- A full page cannot take the next record. -/
theorem Counted.not_honours (counted : fill.Counted limit maxBytes) {record : Value}
    (full : fill.full limit maxBytes record = true) {rest : List Value}
    : ¬ Honours limit maxBytes (fill.records ++ record :: rest) := by
  rintro ⟨short, light⟩
  simp only [PageFill.full, Bool.or_eq_true, decide_eq_true_eq, Bool.and_eq_true,
    Bool.not_eq_true', List.isEmpty_eq_false_iff] at full
  simp only [List.length_append, List.length_cons] at short light
  rcases full with atLimit | ⟨some, heavy⟩
  · omega
  · have several := List.length_pos_iff.mpr some
    have within := light (by omega)
    rw [totalBytes_append, ← counted.bytes_eq] at within
    simp only [totalBytes, List.map_cons, List.sum_cons] at within
    omega

/-- Taking from two runs of records is taking from the second what the first leaves room for. -/
theorem take_append (left right : List Value)
    : fill.take limit maxBytes (left ++ right)
      = if (fill.take limit maxBytes left).2 then fill.take limit maxBytes left
        else (fill.take limit maxBytes left).1.take limit maxBytes right := by
  induction left generalizing fill with
  | nil => rfl
  | cons record rest ih =>
    simp only [List.cons_append, take]
    by_cases full : fill.full limit maxBytes record
    · simp only [full, if_true]
    · simp only [full, Bool.false_eq_true, if_false]
      exact ih

/-- The greedy page is the longest one. Witness: induction over the records still to take; a
longer page would begin with the record that did not fit.
-/
theorem take_longest (counted : fill.Counted limit maxBytes) (records : List Value)
    : (fill.take limit maxBytes records).1.Counted limit maxBytes
      ∧ LongestPage limit maxBytes (fill.records ++ records)
        (fill.take limit maxBytes records).1.records := by
  induction records generalizing fill with
  | nil =>
    refine ⟨counted, by simp [take], counted.honours, fun other begins _ => ?_⟩
    simpa [take] using begins.length_le
  | cons record rest ih =>
    simp only [take]
    split_ifs with full
    · refine ⟨counted, List.prefix_append _ _, counted.honours, fun other begins within => ?_⟩
      by_contra longer
      have longer : fill.records.length < other.length := not_le.mp longer
      -- a longer page holds the record that broke a budget
      have next : fill.records ++ [record] <+: other := by
        refine List.prefix_of_prefix_length_le ?_ begins (by simp; omega)
        simp
      obtain ⟨more, rfl⟩ := next
      rw [List.append_assoc] at within
      exact counted.not_honours full within
    · have further := ih (counted.push (Bool.not_eq_true _ ▸ full))
      simpa only [PageFill.push, List.append_assoc, List.singleton_append] using further

/-- Unless a budget stops it, a fill takes every record. -/
theorem take_all {records : List Value} (room : (fill.take limit maxBytes records).2 = false)
    : (fill.take limit maxBytes records).1.records = fill.records ++ records := by
  induction records generalizing fill with
  | nil => simp [take]
  | cons record rest ih =>
    simp only [take] at room ⊢
    split_ifs at room ⊢ with full
    simpa [PageFill.push] using ih room

/-- A page at its record limit takes nothing more. -/
theorem take_of_limit (full : limit ≤ fill.records.length) (records : List Value)
    : (fill.take limit maxBytes records).1 = fill := by
  cases records with
  | nil => rfl
  | cons record rest => simp [take, PageFill.full, full]

end PageFill

-- A read serves the accepted records

namespace Retains

variable {faithful : Prop} {mode : WriterMode} {chosen : Nat → Command} {replica : Replica}

variable (retains : Retains faithful mode chosen replica)
include retains

/-- The write found for a retained position holds it, and its rest begins the records from
there on. Witness: accepted ranges are disjoint, so the last start indexed at or below the
position is the start of the range that covers it.
-/
theorem recordsFrom_spec {position : Nat}
    (above : replica.base.nextSeq ≤ position) (below : position < replica.state.nextSeq)
    : ∃ records, replica.recordsFrom position = some records ∧ records ≠ []
      ∧ records <+: (acceptedRecords mode chosen replica.folded).drop position := by
  rw [retains.base_eq] at above
  rw [retains.state_eq] at below
  obtain ⟨slot, least, less, seq, count, accepted, starts, ends⟩ :=
    exists_accepted_between retains.floor_le above below
  obtain ⟨entry, write, counted⟩ := verdictAt_accepted_count accepted
  have indexed := (retains.positions_iff seq slot).mpr ⟨⟨least, less⟩, count, accepted⟩
  have found : lastBefore (position + 1) replica.positions = some (seq, slot) := by
    cases last : lastBefore (position + 1) replica.positions with
    | none => simp [lastBefore_eq_none last (Nat.lt_succ_of_le starts)] at indexed
    | some other =>
      obtain ⟨start, holder⟩ := other
      obtain ⟨low, recorded, gap⟩ := lastBefore_eq_some last
      obtain ⟨_, length, judged⟩ := (retains.positions_iff start holder).mp recorded
      have reached : seq ≤ start := by
        by_contra later
        rw [gap seq (not_le.mp later) (Nat.lt_succ_of_le starts)] at indexed
        cases indexed
      rcases lt_trichotomy slot holder with before | rfl | after
      · have apart := verdictAt_accepted_le before accepted judged
        omega
      · rw [accepted] at judged
        rw [(Outcome.accepted.inj judged).1]
      · have apart := verdictAt_accepted_le after judged accepted
        have positive := (verdictAt_accepted judged).2.1
        omega
  have inside : position - seq < entry.records.length := by omega
  refine ⟨entry.records.drop (position - seq), ?_, ?_, acceptedRecords_drop less accepted write starts⟩
  · simp only [Replica.recordsFrom, found, Option.bind_some, retains.held slot least less, write,
      Command.asEntry, if_pos inside]
  · rw [ne_eq, List.drop_eq_nil_iff]
    omega

/-- The loop over the writes takes from the accepted records as one run. Witness: induction over
the rounds; a round takes the rest of one write, and the page's end moves past it.
-/
theorem readWrites_eq {start : Nat}
    (above : replica.base.nextSeq ≤ start) (limit maxBytes rounds : Nat) {fill : PageFill}
    (enough : replica.state.nextSeq ≤ start + fill.records.length + rounds)
    : replica.readWrites start limit maxBytes rounds fill
      = some (fill.take limit maxBytes
          ((acceptedRecords mode chosen replica.folded).drop (start + fill.records.length))).1 := by
  have length : (acceptedRecords mode chosen replica.folded).length = replica.state.nextSeq := by
    rw [acceptedRecords_length, retains.state_eq]
  induction rounds generalizing fill with
  | zero =>
    rw [List.drop_eq_nil_of_le (by omega)]
    rfl
  | succ rounds ih =>
    simp only [Replica.readWrites]
    split_ifs with more
    · obtain ⟨records, found, some, rest, split⟩ :=
        retains.recordsFrom_spec (above.trans (Nat.le_add_right _ _)) more.1
      simp only [found, Option.bind_some, ← split, PageFill.take_append]
      cases stopped : (fill.take limit maxBytes records).2 with
      | true => rfl
      | false =>
        have taken := PageFill.take_all stopped
        have positive := List.length_pos_iff.mpr some
        have onward : (acceptedRecords mode chosen replica.folded).drop
            (start + (fill.take limit maxBytes records).1.records.length) = rest := by
          rw [taken, List.length_append, ← Nat.add_assoc, ← List.drop_drop, ← split,
            List.drop_left]
        simp only [Bool.false_eq_true, if_false]
        rw [ih, onward]
        rw [taken, List.length_append]
        omega
    · rcases Nat.lt_or_ge fill.records.length limit with room | full
      · rw [List.drop_eq_nil_of_le (by omega)]
        rfl
      · rw [PageFill.take_of_limit full]

/-- A read past the dropped records is the longest page of the accepted records. -/
theorem read_page {start : Nat}
    (untrimmed : replica.state.firstSeq ≤ start) (held : replica.base.nextSeq ≤ start)
    (limit maxBytes : Nat)
    : ∃ records, replica.read start limit maxBytes
          = some (.page ⟨start, records, replica.state.view⟩)
      ∧ LongestPage limit maxBytes ((acceptedRecords mode chosen replica.folded).drop start)
        records := by
  have length : (acceptedRecords mode chosen replica.folded).length = replica.state.nextSeq := by
    rw [acceptedRecords_length, retains.state_eq]
  have empty : (⟨[], 0⟩ : PageFill).Counted limit maxBytes :=
    ⟨rfl, Nat.zero_le _, fun several => absurd several (by simp)⟩
  have filled := retains.readWrites_eq held limit maxBytes (replica.state.nextSeq - start)
    (show replica.state.nextSeq ≤ start + (⟨[], 0⟩ : PageFill).records.length + _ by
      simp only [List.length_nil]
      omega)
  obtain ⟨counted, longest⟩ := PageFill.take_longest empty
    ((acceptedRecords mode chosen replica.folded).drop start)
  simp only [List.length_nil, Nat.add_zero, List.nil_append] at filled longest
  generalize PageFill.take limit maxBytes
    ((acceptedRecords mode chosen replica.folded).drop start) ⟨[], 0⟩ = taken at *
  refine ⟨taken.1.records, ?_, longest⟩
  have within := longest.begins.length_le
  rw [List.length_drop, length] at within
  have passes : replica.pageHolds limit maxBytes ⟨start, taken.1.records, replica.state.view⟩
      taken.1.bytes := by
    simp only [Replica.pageHolds, Bool.and_eq_true, Bool.or_eq_true,
      decide_eq_true_eq]
    refine ⟨⟨?_, counted.honours.1⟩, ?_⟩
    · split_ifs with before
      · exact decide_eq_true (show start + taken.1.records.length ≤ _ by omega)
      · rw [List.isEmpty_iff, ← List.length_eq_zero_iff]
        omega
    · rcases Nat.lt_or_ge 1 taken.1.records.length with several | lone
      · exact Or.inr (counted.bytes_eq ▸ counted.honours.2 several)
      · exact Or.inl lone
  simp only [Replica.read, if_neg (not_lt.mpr untrimmed), if_neg (not_lt.mpr held), filled,
    Option.bind_some, passes, if_true]

/-- Page after page gives the accepted records in order, and all of them once there are as many
pages as positions. Witness: induction over the pages; a page with room holds a record unless
none is left.
-/
theorem readPages_spec
    (budgets : List (Nat × Nat)) (room : ∀ budget ∈ budgets, 1 ≤ budget.1) {start : Nat}
    (untrimmed : replica.state.firstSeq ≤ start) (held : replica.base.nextSeq ≤ start)
    : ∃ records, replica.readPages start budgets = some records
      ∧ records <+: (acceptedRecords mode chosen replica.folded).drop start
      ∧ (replica.state.nextSeq ≤ start + budgets.length
        → records = (acceptedRecords mode chosen replica.folded).drop start) := by
  have length : (acceptedRecords mode chosen replica.folded).length = replica.state.nextSeq := by
    rw [acceptedRecords_length, retains.state_eq]
  induction budgets generalizing start with
  | nil =>
    refine ⟨[], rfl, List.nil_prefix, fun past => (List.drop_eq_nil_of_le ?_).symm⟩
    simpa [length] using past
  | cons budget rest ih =>
    obtain ⟨limit, maxBytes⟩ := budget
    obtain ⟨records, served, longest⟩ := retains.read_page untrimmed held limit maxBytes
    obtain ⟨after, split⟩ := longest.begins
    obtain ⟨more, pages, begins, whole⟩ :=
      ih (fun budget member => room budget (List.mem_cons_of_mem _ member))
        (untrimmed.trans (Nat.le_add_right start records.length))
        (held.trans (Nat.le_add_right start records.length))
    have onward : (acceptedRecords mode chosen replica.folded).drop (start + records.length)
        = after := by
      rw [← List.drop_drop, ← split, List.drop_left]
    rw [onward] at begins whole
    refine ⟨records ++ more, ?_, ?_, fun enough => ?_⟩
    · simp only [Replica.readPages, served, LogPage.next, pages, Option.map_some]
    · rw [← split]
      exact (List.prefix_append_right_inj records).mpr begins
    · rw [← split, whole]
      have least : 1 ≤ limit := room _ List.mem_cons_self
      simp only [List.length_cons] at enough
      cases left : (acceptedRecords mode chosen replica.folded).drop start with
      | nil =>
        have past := List.drop_eq_nil_iff.mp left
        omega
      | cons record others =>
        have taken := longest.longest [record] (by simp [left])
          ⟨by simpa using least, fun several => absurd several (by simp)⟩
        simp only [List.length_singleton] at taken
        omega

end Retains

/-- What a read from a position on answers: a truncation below the journal's start, nothing for
positions the replica has dropped, else the longest page of the accepted records.
-/
structure Replica.Answers (mode : WriterMode) (chosen : Nat → Command) (replica : Replica)
    (start limit maxBytes : Nat) (answer : LogRead)
    : Prop where
  truncated_iff : (∃ view, answer = .truncated view) ↔ start < replica.state.firstSeq
  truncated : ∀ view, answer = .truncated view → view = replica.state.view
  notHeld_iff : answer = .notHeld
    ↔ replica.state.firstSeq ≤ start ∧ start < replica.base.nextSeq
  page : ∀ page, answer = .page page → page.start = start ∧ page.state = replica.state.view
    ∧ LongestPage limit maxBytes ((acceptedRecords mode chosen replica.folded).drop start)
      page.records

theorem Retains.read_answers {faithful : Prop} {mode : WriterMode} {chosen : Nat → Command}
    {replica : Replica} (retains : Retains faithful mode chosen replica)
    (start limit maxBytes : Nat)
    : ∃ answer, replica.read start limit maxBytes = some answer
      ∧ replica.Answers mode chosen start limit maxBytes answer := by
  rcases Nat.lt_or_ge start replica.state.firstSeq with below | untrimmed
  · refine ⟨.truncated replica.state.view, by simp only [Replica.read, if_pos below], ?_⟩
    exact ⟨by simp [below], by simp, by simp [below], by simp⟩
  rcases Nat.lt_or_ge start replica.base.nextSeq with dropped | held
  · have inside : start < replica.state.nextSeq := by
      rw [retains.base_eq] at dropped
      rw [retains.state_eq]
      exact dropped.trans_le (ledgerAt_nextSeq_mono retains.floor_le)
    refine ⟨.notHeld, ?_, ?_⟩
    · simp only [Replica.read, if_neg (not_lt.mpr untrimmed), if_pos dropped, if_pos inside]
    · exact ⟨by simp [untrimmed], by simp, by simp [untrimmed, dropped], by simp⟩
  · obtain ⟨records, served, longest⟩ := retains.read_page untrimmed held limit maxBytes
    refine ⟨_, served, by simp [untrimmed], by simp, by simp [held], ?_⟩
    rintro _ ⟨rfl⟩
    exact ⟨rfl, rfl, longest⟩

/-- Whatever it has learned, folded, dropped and read back, a replica's accepted writes tile the
journal's positions, a read is exact, and page after page from the journal's start gives the
accepted records there, unless the replica has dropped the record at that start.
-/
theorem Replica.read_exact {admits : Replica → Nat → Prop} {mode : WriterMode}
    {chosen : Nat → Command} {replica : Replica} (history : Reached admits mode chosen replica)
    : (∀ slot seq count, replica.outcomes[slot]? = some (.accepted seq count)
        ↔ (replica.floor ≤ slot ∧ slot < replica.folded)
          ∧ verdictAt mode chosen slot = .accepted seq count)
      ∧ Tiles mode chosen replica.folded replica.state.nextSeq
      ∧ (∀ slot seq count entry, slot < replica.folded
        → verdictAt mode chosen slot = .accepted seq count → chosen slot = .write entry
        → entry.records <+: (acceptedRecords mode chosen replica.folded).drop seq)
      ∧ (acceptedRecords mode chosen replica.folded).length = replica.state.nextSeq
      ∧ (∀ start limit maxBytes, ∃ answer, replica.read start limit maxBytes = some answer
        ∧ replica.Answers mode chosen start limit maxBytes answer)
      ∧ (replica.base.nextSeq ≤ replica.state.firstSeq
        → ∀ budgets : List (Nat × Nat), (∀ budget ∈ budgets, 1 ≤ budget.1)
          → ∃ records, replica.readPages replica.state.firstSeq budgets = some records
            ∧ records
              <+: (acceptedRecords mode chosen replica.folded).drop replica.state.firstSeq
            ∧ (replica.state.nextSeq ≤ replica.state.firstSeq + budgets.length
              → records
                = (acceptedRecords mode chosen replica.folded).drop replica.state.firstSeq)) := by
  have retains : Retains False mode chosen replica := history.retains fun never => never.elim
  refine ⟨retains.accepted_iff, retains.state_eq ▸ ledgerAt_tiles replica.folded, ?_, ?_,
    retains.read_answers, fun held budgets room => retains.readPages_spec budgets room le_rfl held⟩
  · intro slot seq count entry below accepted write
    simpa using acceptedRecords_drop below accepted write le_rfl
  · rw [acceptedRecords_length, retains.state_eq]

/-- A replica that learned six slots and cut them at slot 2 reads the journal's one record left. -/
theorem Replica.read_exact_retried
    : Tiles .single retriedSequence (retriedReplica.truncateAndReboot 2).folded 3
      ∧ (retriedReplica.truncateAndReboot 2).read 2 5 100
        = some (.page ⟨2, [[3]], ⟨some 7, 3, 2⟩⟩) := by
  have history : Reached (fun _ _ => True) .single retriedSequence
      (retriedReplica.truncateAndReboot 2) :=
    retriedReplica_truncateAndReboot (by decide +kernel) trivial
  have ends : (retriedReplica.truncateAndReboot 2).state.nextSeq = 3 := by decide +kernel
  exact ⟨ends ▸ (Replica.read_exact history).2.1, by decide +kernel⟩

/-- A fresh replica that jumped to a peer's trim point has dropped the record its journal starts at. -/
theorem Replica.jumped_reads_not_held
    : ∃ replica, Reached (fun _ _ => True) .single retriedSequence replica
      ∧ replica.state.firstSeq = 0 ∧ replica.read 0 5 100 = some .notHeld
      ∧ replica.readPages 0 [(5, 100)] = none := by
  have peer : Reached (fun _ _ => True) .single retriedSequence (retriedReplica.truncate 4).1 :=
    .truncate (retriedReplica_reached _) (by decide +kernel) trivial
  exact ⟨_, .trimTo .boot peer (by decide +kernel), by decide +kernel, by decide +kernel,
    by decide +kernel⟩

end Paros
