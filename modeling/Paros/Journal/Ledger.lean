import Paros.Journal.State

/-! The journal of a whole chosen sequence, folded from its first slot with nothing dropped.
This is what every replica's fold is compared with.
-/

namespace Paros

-- What one command can do to the journal

/-- The four effects of a command: nothing, appended positions, a new writer, a trim. -/
inductive JournalState.Effect (state : JournalState) (command : Command)
    : JournalState × Outcome → Prop
  | unchanged {outcome} (verdict : ∀ seq count, outcome ≠ .accepted seq count)
    (untrimmed : ∀ view, outcome ≠ .trimmed view)
    : Effect state command (state, outcome)
  | appended {entry} (write : command = .write entry) (records : 0 < entry.count)
    : Effect state command (state.append entry)
  | led {new : LeaderUuid} {outcome} (verdict : ∀ seq count, outcome ≠ .accepted seq count)
    (untrimmed : ∀ view, outcome ≠ .trimmed view)
    : Effect state command ({ state with term := state.term + 1, leader := some new }, outcome)
  | trimmed {upTo : Nat} : Effect state command (state.trim upTo)

theorem JournalState.apply_effect (mode : WriterMode) (state : JournalState) (command : Command)
    (acceptedAt : Nat → Option Entry)
    : state.Effect command (state.apply mode command acceptedAt) := by
  have same {outcome} (other : (∀ seq count, outcome ≠ .accepted seq count)
      ∧ ∀ view, outcome ≠ .trimmed view)
      : state.Effect command (state, outcome) :=
    .unchanged other.1 other.2
  have written {entry} (write : command = .write entry) (records : ¬ entry.records.isEmpty)
      : state.Effect command (state.append entry) :=
    .appended write (List.length_pos_iff.mpr (by simpa using records))
  match mode, command with
  | .single, .write entry =>
    simp only [apply, applyWrite]
    split_ifs with _ _ _ _ stale
    all_goals try exact same (by simp)
    simp only [Bool.or_eq_true, not_or] at stale
    exact written rfl stale.2
  | .multi, .write entry =>
    simp only [apply, applyAppend]
    split_ifs with _ empty
    all_goals try exact same (by simp)
    exact written rfl empty
  | .single, .control (.truncate leader upTo) =>
    simp only [apply, applyTruncate]
    split_ifs
    all_goals try exact same (by simp)
    exact .trimmed
  | .multi, .control (.truncate leader upTo) =>
    simp only [apply]
    split_ifs
    · exact .trimmed
    · exact same (by simp)
  | .single, .control (.setLeader new old) =>
    simp only [apply, applySetLeader]
    split_ifs
    · exact same (by simp)
    · exact .led (by simp) (by simp)
  | .multi, .control (.setLeader _ _) | .single, .control .noop | .multi, .control .noop =>
    exact same (by simp)

namespace JournalState.Effect

variable {state : JournalState} {command : Command} {result : JournalState × Outcome}
  (effect : state.Effect command result)
include effect

theorem nextSeq_le : state.nextSeq ≤ result.1.nextSeq := by
  cases effect with
  | unchanged | led | trimmed => exact le_rfl
  | appended => simp [append]

theorem firstSeq_le : state.firstSeq ≤ result.1.firstSeq := by
  cases effect with
  | unchanged | appended | led => exact le_rfl
  | trimmed => simp [trim]

/-- An accepted write takes the positions from the journal's end on, one for each record. -/
theorem accepted {seq count : Nat} (accepted : result.2 = .accepted seq count)
    : seq = state.nextSeq ∧ 0 < count ∧ result.1.nextSeq = seq + count
      ∧ ∃ entry, command = .write entry ∧ entry.count = count := by
  cases effect with
  | unchanged verdict | led verdict => exact absurd accepted (verdict seq count)
  | appended write records =>
    simp only [append, Outcome.accepted.injEq] at accepted
    obtain ⟨rfl, rfl⟩ := accepted
    exact ⟨rfl, records, rfl, _, write, rfl⟩
  | trimmed => cases accepted

/-- The journal's end moves only by an accepted write. -/
theorem nextSeq_eq (other : ∀ seq count, result.2 ≠ .accepted seq count)
    : result.1.nextSeq = state.nextSeq := by
  cases effect with
  | unchanged | led | trimmed => rfl
  | appended => exact absurd rfl (other _ _)

/-- The journal's start moves only by a trim. -/
theorem firstSeq_eq (other : ∀ view, result.2 ≠ .trimmed view)
    : result.1.firstSeq = state.firstSeq := by
  cases effect with
  | unchanged | appended | led => rfl
  | trimmed => exact absurd rfl (other _)

end JournalState.Effect

section Retries

variable {mode : WriterMode} {state : JournalState} {command : Command}
  {acceptedAt : Nat → Option Entry}

/-- A retry: a write at a position already inside the journal, judged against the write first
accepted there. Only such a command's verdict reads an earlier record.
-/
def JournalState.Retries (mode : WriterMode) (state : JournalState) (command : Command)
    (seq : Nat)
    : Prop :=
  mode = .single ∧ (∃ entry, command = .write entry ∧ entry.seq = seq)
    ∧ state.firstSeq ≤ seq ∧ seq < state.nextSeq

theorem JournalState.apply_congr {other : Nat → Option Entry}
    (same : ∀ seq, state.Retries mode command seq → acceptedAt seq = other seq)
    : state.apply mode command acceptedAt = state.apply mode command other := by
  match mode, command with
  | .single, .write entry =>
    simp only [apply, applyWrite]
    by_cases low : entry.seq < state.firstSeq
    · simp only [low, if_true]
    · by_cases inside : entry.seq < state.nextSeq
      · have equal := same entry.seq ⟨rfl, ⟨entry, rfl, rfl⟩, by omega, inside⟩
        simp only [low, inside, if_true, if_false, equal]
      · simp only [low, inside, if_false]
  | .multi, .write entry => rfl
  | .single, .control control | .multi, .control control => cases control <;> rfl

/-- What a retry is compared with decides its verdict only: every state, and every acceptance,
is the same for any earlier records.
-/
theorem JournalState.apply_lookup (other : Nat → Option Entry)
    : (state.apply mode command acceptedAt).1 = (state.apply mode command other).1
      ∧ ∀ seq count, (state.apply mode command acceptedAt).2 = .accepted seq count
        ↔ (state.apply mode command other).2 = .accepted seq count := by
  match mode, command with
  | .single, .write entry =>
    simp only [apply, applyWrite]
    split_ifs <;> simp
  | .multi, .write entry => exact ⟨rfl, fun _ _ => Iff.rfl⟩
  | .single, .control control | .multi, .control control =>
    cases control <;> exact ⟨rfl, fun _ _ => Iff.rfl⟩

end Retries

-- The ledger of a chosen sequence

/-- A journal with every write it ever accepted, by first position. -/
structure Ledger where
  state : JournalState
  accepted : Nat → Option Entry

namespace Ledger

def initial : Ledger := ⟨.initial, fun _ => none⟩

/-- Judge one command with nothing dropped. -/
def judge (mode : WriterMode) (ledger : Ledger) (command : Command) : Outcome :=
  (ledger.state.apply mode command ledger.accepted).2

def step (mode : WriterMode) (ledger : Ledger) (command : Command) : Ledger where
  state := (ledger.state.apply mode command ledger.accepted).1
  accepted :=
    match ledger.judge mode command, command with
    | .accepted seq _, .write entry => Function.update ledger.accepted seq (some entry)
    | _, _ => ledger.accepted

end Ledger

/-- The ledger after the first `slots` chosen commands. -/
def ledgerAt (mode : WriterMode) (chosen : Nat → Command) : Nat → Ledger
  | 0 => .initial
  | slot + 1 => (ledgerAt mode chosen slot).step mode (chosen slot)

/-- The verdict on a slot's command in the full fold. -/
def verdictAt (mode : WriterMode) (chosen : Nat → Command) (slot : Nat) : Outcome :=
  (ledgerAt mode chosen slot).judge mode (chosen slot)

variable {mode : WriterMode} {chosen : Nat → Command} {low high slot seq count : Nat}

theorem ledgerAt_nextSeq_mono (below : low ≤ high)
    : (ledgerAt mode chosen low).state.nextSeq ≤ (ledgerAt mode chosen high).state.nextSeq := by
  induction below with
  | refl => exact le_rfl
  | step _ ih => exact ih.trans (JournalState.apply_effect ..).nextSeq_le

theorem ledgerAt_firstSeq_mono (below : low ≤ high)
    : (ledgerAt mode chosen low).state.firstSeq ≤ (ledgerAt mode chosen high).state.firstSeq := by
  induction below with
  | refl => exact le_rfl
  | step _ ih => exact ih.trans (JournalState.apply_effect ..).firstSeq_le

/-- An accepted slot's first position is the journal's end before it. -/
theorem verdictAt_accepted (accepted : verdictAt mode chosen slot = .accepted seq count)
    : seq = (ledgerAt mode chosen slot).state.nextSeq ∧ 0 < count
      ∧ (ledgerAt mode chosen (slot + 1)).state.nextSeq = seq + count
      ∧ ∃ entry, chosen slot = .write entry := by
  obtain ⟨start, positive, after, entry, write, _⟩ :=
    (JournalState.apply_effect ..).accepted accepted
  exact ⟨start, positive, after, entry, write⟩

/-- An accepted position lies inside the journal from then on. -/
theorem verdictAt_accepted_lt (accepted : verdictAt mode chosen slot = .accepted seq count)
    (later : slot < high)
    : seq < (ledgerAt mode chosen high).state.nextSeq := by
  obtain ⟨_, positive, after, _⟩ := verdictAt_accepted accepted
  have grown : (ledgerAt mode chosen (slot + 1)).state.nextSeq
      ≤ (ledgerAt mode chosen high).state.nextSeq :=
    ledgerAt_nextSeq_mono later
  omega

/-- The ledger's record at a position is the write of the slot accepted there. -/
theorem ledgerAt_accepted_iff {entry : Entry} (slots : Nat)
    : (ledgerAt mode chosen slots).accepted seq = some entry
      ↔ ∃ slot < slots, (∃ count, verdictAt mode chosen slot = .accepted seq count)
        ∧ chosen slot = .write entry := by
  induction slots with
  | zero => simp [ledgerAt, Ledger.initial]
  | succ last ih =>
    have earlier (different : ∀ count, verdictAt mode chosen last ≠ .accepted seq count)
        : (∃ slot < last + 1, (∃ count, verdictAt mode chosen slot = .accepted seq count)
            ∧ chosen slot = .write entry)
          ↔ ∃ slot < last, (∃ count, verdictAt mode chosen slot = .accepted seq count)
            ∧ chosen slot = .write entry := by
      constructor
      · rintro ⟨slot, below, ⟨count, accepted⟩, write⟩
        rcases Nat.lt_succ_iff_lt_or_eq.mp below with less | rfl
        · exact ⟨slot, less, ⟨count, accepted⟩, write⟩
        · exact absurd accepted (different count)
      · rintro ⟨slot, below, rest⟩
        exact ⟨slot, by omega, rest⟩
    cases judged : verdictAt mode chosen last with
    | accepted start count =>
      obtain ⟨atEnd, positive, after, written, write⟩ := verdictAt_accepted judged
      have step : (ledgerAt mode chosen (last + 1)).accepted
          = Function.update (ledgerAt mode chosen last).accepted start (some written) := by
        have verdict : (ledgerAt mode chosen last).judge mode (.write written)
            = .accepted start count := write ▸ judged
        simp only [ledgerAt, Ledger.step, write, verdict]
      by_cases here : seq = start
      · subst here
        rw [step, Function.update_self]
        constructor
        · intro same
          exact ⟨last, by omega, ⟨count, judged⟩, by rw [write, Option.some.inj same]⟩
        · rintro ⟨slot, below, ⟨other, accepted⟩, same⟩
          rcases Nat.lt_succ_iff_lt_or_eq.mp below with less | rfl
          · -- a lower slot accepted there too: the journal's end has passed it since
            have inside := verdictAt_accepted_lt accepted less
            omega
          · rw [write] at same
            cases same
            rfl
      · rw [step, Function.update_of_ne here, ih, earlier]
        intro other accepted
        rw [judged, Outcome.accepted.injEq] at accepted
        exact here accepted.1.symm
    | _ =>
      have step : (ledgerAt mode chosen (last + 1)).accepted
          = (ledgerAt mode chosen last).accepted := by
        have verdict := judged
        unfold verdictAt at verdict
        simp only [ledgerAt, Ledger.step, verdict]
      rw [step, ih, earlier (by simp [judged])]

/-- Every position gained between two slots lies in a write accepted between them.
Witness: induction on the upper slot; only an accepted write moves the journal's end.
-/
theorem exists_accepted_between {position : Nat} (below : low ≤ high)
    (above : (ledgerAt mode chosen low).state.nextSeq ≤ position)
    (inside : position < (ledgerAt mode chosen high).state.nextSeq)
    : ∃ slot, low ≤ slot ∧ slot < high ∧ ∃ seq count,
        verdictAt mode chosen slot = .accepted seq count ∧ seq ≤ position
        ∧ position < seq + count := by
  induction below with
  | refl => omega
  | @step last lower ih =>
    by_cases before : position < (ledgerAt mode chosen last).state.nextSeq
    · obtain ⟨slot, least, less, rest⟩ := ih before
      exact ⟨slot, least, by omega, rest⟩
    · by_cases accepts : ∃ seq count, verdictAt mode chosen last = .accepted seq count
      · obtain ⟨seq, count, accepted⟩ := accepts
        obtain ⟨start, _, after, _⟩ := verdictAt_accepted accepted
        refine ⟨last, lower, by omega, seq, count, accepted, by omega, ?_⟩
        rw [← after]
        exact inside
      · have same : (ledgerAt mode chosen (last + 1)).state.nextSeq
            = (ledgerAt mode chosen last).state.nextSeq :=
          (JournalState.apply_effect ..).nextSeq_eq fun seq count accepted =>
            accepts ⟨seq, count, accepted⟩
        exact absurd (same ▸ inside) before

/-- Accepted ranges lie one after the other, in slot order. -/
theorem verdictAt_accepted_le {later seqLater countLater : Nat} (before : slot < later)
    (accepted : verdictAt mode chosen slot = .accepted seq count)
    (acceptedLater : verdictAt mode chosen later = .accepted seqLater countLater)
    : seq + count ≤ seqLater := by
  obtain ⟨_, _, after, _⟩ := verdictAt_accepted accepted
  rw [← after, (verdictAt_accepted acceptedLater).1]
  exact ledgerAt_nextSeq_mono before

-- The accepted records

/-- The accepted ranges of the first slots cover the positions below `upTo` and no other, one
after the other in slot order, each as long as its write.
-/
structure Tiles (mode : WriterMode) (chosen : Nat → Command) (slots upTo : Nat) : Prop where
  covers : ∀ position, position < upTo
    ↔ ∃ slot < slots, ∃ seq count, verdictAt mode chosen slot = .accepted seq count
      ∧ seq ≤ position ∧ position < seq + count
  ordered : ∀ slot later seq count seqLater countLater, slot < later
    → verdictAt mode chosen slot = .accepted seq count
    → verdictAt mode chosen later = .accepted seqLater countLater
    → seq + count ≤ seqLater
  counted : ∀ slot seq count, verdictAt mode chosen slot = .accepted seq count
    → ∃ entry, chosen slot = .write entry ∧ entry.records.length = count

/-- The records a slot adds to the journal. -/
def recordsOf (mode : WriterMode) (chosen : Nat → Command) (slot : Nat) : List Value :=
  match verdictAt mode chosen slot, chosen slot with
  | .accepted _ _, .write entry => entry.records
  | _, _ => []

/-- The records of the writes accepted in the first slots, in order. -/
def acceptedRecords (mode : WriterMode) (chosen : Nat → Command) (slots : Nat) : List Value :=
  (List.range slots).flatMap (recordsOf mode chosen)

theorem verdictAt_accepted_count (accepted : verdictAt mode chosen slot = .accepted seq count)
    : ∃ entry, chosen slot = .write entry ∧ entry.records.length = count :=
  ((JournalState.apply_effect ..).accepted accepted).2.2.2

theorem ledgerAt_tiles (slots : Nat)
    : Tiles mode chosen slots (ledgerAt mode chosen slots).state.nextSeq where
  covers := by
    intro position
    constructor
    · intro inside
      obtain ⟨slot, _, below, held⟩ :=
        exists_accepted_between (Nat.zero_le slots) (Nat.zero_le position) inside
      exact ⟨slot, below, held⟩
    · rintro ⟨slot, below, seq, count, accepted, _, less⟩
      obtain ⟨_, _, after, _⟩ := verdictAt_accepted accepted
      rw [← after] at less
      exact less.trans_le (ledgerAt_nextSeq_mono below)
  ordered := fun _ _ _ _ _ _ => verdictAt_accepted_le
  counted := fun _ _ _ => verdictAt_accepted_count

theorem acceptedRecords_succ (slot : Nat)
    : acceptedRecords mode chosen (slot + 1)
      = acceptedRecords mode chosen slot ++ recordsOf mode chosen slot := by
  simp [acceptedRecords, List.range_succ]

theorem recordsOf_accepted {entry : Entry}
    (accepted : verdictAt mode chosen slot = .accepted seq count)
    (write : chosen slot = .write entry)
    : recordsOf mode chosen slot = entry.records := by
  simp only [recordsOf, accepted, write]

/-- The journal's end counts the accepted records. -/
theorem acceptedRecords_length (slots : Nat)
    : (acceptedRecords mode chosen slots).length = (ledgerAt mode chosen slots).state.nextSeq := by
  induction slots with
  | zero => rfl
  | succ slot ih =>
    rw [acceptedRecords_succ, List.length_append, ih]
    by_cases accepts : ∃ seq count, verdictAt mode chosen slot = .accepted seq count
    · obtain ⟨seq, count, accepted⟩ := accepts
      obtain ⟨atEnd, _, after, _⟩ := verdictAt_accepted accepted
      obtain ⟨entry, write, counted⟩ := verdictAt_accepted_count accepted
      rw [recordsOf_accepted accepted write, after, ← atEnd, counted]
    · have none : recordsOf mode chosen slot = [] := by
        unfold recordsOf
        split
        next accepted _ => exact absurd ⟨_, _, accepted⟩ accepts
        next => rfl
      have same : (ledgerAt mode chosen (slot + 1)).state.nextSeq
          = (ledgerAt mode chosen slot).state.nextSeq :=
        (JournalState.apply_effect ..).nextSeq_eq fun seq count accepted =>
          accepts ⟨seq, count, accepted⟩
      rw [none, same]
      rfl

theorem acceptedRecords_prefix (below : low ≤ high)
    : acceptedRecords mode chosen low <+: acceptedRecords mode chosen high := by
  induction below with
  | refl => exact List.prefix_rfl
  | step _ ih => exact ih.trans (acceptedRecords_succ _ ▸ List.prefix_append _ _)

/-- From a position past an accepted write's start on, the records begin with the rest of it. -/
theorem acceptedRecords_drop {slots position : Nat} {entry : Entry} (below : slot < slots)
    (accepted : verdictAt mode chosen slot = .accepted seq count)
    (write : chosen slot = .write entry) (least : seq ≤ position)
    : entry.records.drop (position - seq) <+: (acceptedRecords mode chosen slots).drop position := by
  have kept : acceptedRecords mode chosen (slot + 1) <+: acceptedRecords mode chosen slots :=
    acceptedRecords_prefix below
  obtain ⟨rest, whole⟩ := kept
  have start : (acceptedRecords mode chosen slot).length = seq :=
    acceptedRecords_length slot ▸ (verdictAt_accepted accepted).1.symm
  rw [← whole, acceptedRecords_succ, recordsOf_accepted accepted write, List.append_assoc,
    List.drop_append, start, List.drop_eq_nil_of_le (start.trans_le least), List.nil_append,
    List.drop_append]
  exact List.prefix_append _ _

end Paros
