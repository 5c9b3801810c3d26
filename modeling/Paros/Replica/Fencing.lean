import Paros.Replica.Equivalence

/-! A single-writer journal is fenced by its leader's identity, and a retried write is accepted
once: what a chosen sequence's verdicts say about one another.
-/

namespace Paros

-- Leaders and accepted writes of one verdict

section Verdicts

variable {mode : WriterMode} {state : JournalState} {command : Command} {entry : Entry}
  {acceptedAt : Nat → Option Entry}

/-- A verdict sets a leader by a `SetLeader` that names the one before and differs from it, and the
leader moves only by such a verdict.
-/
theorem JournalState.apply_leader
    : (∀ view, (state.apply mode command acceptedAt).2 = .leader view
        → ∃ new, command = .control (.setLeader new state.leader) ∧ some new ≠ state.leader
          ∧ (state.apply mode command acceptedAt).1.leader = some new)
      ∧ ((∀ view, (state.apply mode command acceptedAt).2 ≠ .leader view)
        → (state.apply mode command acceptedAt).1.leader = state.leader) := by
  rcases mode with _ | _ <;> rcases command with _ | _ | _ | _
  case single.control.setLeader new old =>
    simp only [apply, applySetLeader]
    split_ifs with refused
    · simp
    · simp only [Bool.or_eq_true, not_or, bne_iff_ne, ne_eq, not_not, beq_iff_eq] at refused
      exact ⟨fun _ _ => ⟨new, by rw [refused.1.1], refused.2, rfl⟩, fun other => absurd rfl (other _)⟩
  case single.write | multi.write | single.control.truncate | multi.control.truncate =>
    simp only [apply, applyWrite, applyAppend, applyTruncate, append, trim]
    split_ifs <;> simp
  all_goals simp [apply]

/-- A single writer's accepted write carries the current leader and the journal's end. -/
theorem JournalState.apply_accepted_single {seq count : Nat}
    (accepted : (state.apply .single (.write entry) acceptedAt).2 = .accepted seq count)
    : entry.leader.isSet ∧ state.leader = some entry.leader ∧ entry.seq = state.nextSeq := by
  simp only [apply, applyWrite] at accepted
  split_ifs at accepted with unset _ _ _ stale
  simp only [isCurrent, Bool.or_eq_true, not_or, Bool.not_eq_true', Bool.not_eq_false,
    beq_iff_eq, bne_iff_ne, ne_eq, not_not] at unset stale
  exact ⟨unset, stale.1⟩

/-- A repeated write changes nothing, and is a duplicate unless it was trimmed. -/
theorem JournalState.apply_retry (isSet : entry.leader.isSet) (inside : entry.seq < state.nextSeq)
    (recorded : acceptedAt entry.seq = some entry)
    : (state.apply .single (.write entry) acceptedAt).1 = state
      ∧ (state.apply .single (.write entry) acceptedAt).2
        = if entry.seq < state.firstSeq then .truncated state.view
          else .duplicate entry.seq entry.count := by
  simp only [apply, applyWrite, isSet, Bool.not_true, Bool.false_eq_true, if_false, if_pos inside,
    if_pos recorded]
  split_ifs <;> exact ⟨rfl, rfl⟩

end Verdicts

-- Leaders and retries of a chosen sequence

/-- Whether a slot's command sets a leader, and is accepted. -/
def SetsLeader (chosen : Nat → Command) (slot : Nat) (leader : LeaderUuid) : Prop :=
  (∃ old, chosen slot = .control (.setLeader leader old))
    ∧ ∃ view, verdictAt .single chosen slot = .leader view

/-- The last accepted `SetLeader` before a slot sets this leader. -/
def LastSet (chosen : Nat → Command) (slot : Nat) (leader : LeaderUuid) : Prop :=
  ∃ set < slot, SetsLeader chosen set leader
    ∧ ∀ between, set < between → between < slot → ∀ other, ¬ SetsLeader chosen between other

section Sequences

variable {chosen : Nat → Command} {slot later : Nat} {entry : Entry} {seq count : Nat}

theorem setsLeader_of_verdict {view : JournalView}
    (led : verdictAt .single chosen slot = .leader view)
    : ∃ new, SetsLeader chosen slot new
      ∧ (ledgerAt .single chosen (slot + 1)).state.leader = some new
      ∧ some new ≠ (ledgerAt .single chosen slot).state.leader := by
  obtain ⟨new, command, moved, leads⟩ := JournalState.apply_leader.1 view led
  exact ⟨new, ⟨⟨_, command⟩, view, led⟩, leads, moved⟩

/-- The journal's leader is the one last set. Witness: induction over the slots; the leader moves
only where a slot sets one.
-/
theorem lastSet_of_leader {leader : LeaderUuid}
    (current : (ledgerAt .single chosen slot).state.leader = some leader)
    : LastSet chosen slot leader := by
  induction slot with
  | zero => cases current
  | succ last ih =>
    by_cases sets : ∃ view, verdictAt .single chosen last = .leader view
    · obtain ⟨view, led⟩ := sets
      obtain ⟨new, setting, leads, _⟩ := setsLeader_of_verdict led
      rw [leads, Option.some.injEq] at current
      exact ⟨last, Nat.lt_succ_self last, current ▸ setting, by omega⟩
    · have same : (ledgerAt .single chosen (last + 1)).state.leader
          = (ledgerAt .single chosen last).state.leader :=
        JournalState.apply_leader.2 fun view led => sets ⟨view, led⟩
      obtain ⟨set, before, setting, none⟩ := ih (same ▸ current)
      refine ⟨set, by omega, setting, fun between after less other sets' => ?_⟩
      rcases Nat.lt_succ_iff_lt_or_eq.mp less with earlier | rfl
      · exact none between after earlier other sets'
      · exact sets sets'.2

theorem accepted_write (accepted : verdictAt .single chosen slot = .accepted seq count)
    (write : chosen slot = .write entry)
    : entry.leader.isSet ∧ (ledgerAt .single chosen slot).state.leader = some entry.leader
      ∧ entry.seq = seq := by
  have atEnd := (verdictAt_accepted accepted).1
  unfold verdictAt Ledger.judge at accepted
  rw [write] at accepted
  obtain ⟨isSet, current, next⟩ := JournalState.apply_accepted_single accepted
  exact ⟨isSet, current, next.trans atEnd.symm⟩

/-- A writer that was moved away from writes again only after being set again. -/
theorem setsLeader_between {old new : LeaderUuid} {view : JournalView}
    (moved : chosen slot = .control (.setLeader new (some old)))
    (led : verdictAt .single chosen slot = .leader view) (after : slot < later)
    (accepted : verdictAt .single chosen later = .accepted seq count)
    (write : chosen later = .write entry) (under : entry.leader = old)
    : ∃ again, slot < again ∧ again < later ∧ SetsLeader chosen again old := by
  obtain ⟨again, before, setting, none⟩ := lastSet_of_leader (accepted_write accepted write).2.1
  rw [under] at setting
  rcases lt_trichotomy slot again with less | rfl | passed
  · exact ⟨again, less, before, setting⟩
  · -- this very slot moved the leader away
    obtain ⟨changed, command, differs, _⟩ := JournalState.apply_leader.1 view led
    obtain ⟨⟨_, same⟩, _⟩ := setting
    rw [moved] at command same
    simp only [Command.control.injEq, Control.setLeader.injEq] at command same
    rw [← command.1, ← command.2, same.1] at differs
    exact absurd rfl differs
  · exact absurd ⟨⟨_, moved⟩, view, led⟩ (none slot passed after new)

/-- A write accepted once changes nothing when it is chosen again, and is judged a duplicate at
its position until that is trimmed.
-/
theorem retried_write (accepted : verdictAt .single chosen slot = .accepted seq count)
    (write : chosen slot = .write entry) (after : slot < later)
    (again : chosen later = .write entry)
    : (ledgerAt .single chosen (later + 1)).state = (ledgerAt .single chosen later).state
      ∧ verdictAt .single chosen later
        = if seq < (ledgerAt .single chosen later).state.firstSeq
          then .truncated (ledgerAt .single chosen later).state.view else .duplicate seq count := by
  obtain ⟨isSet, _, atSeq⟩ := accepted_write accepted write
  obtain ⟨written, isWrite, counted⟩ := verdictAt_accepted_count accepted
  rw [write] at isWrite
  cases isWrite
  have inside := verdictAt_accepted_lt accepted after
  have recorded : (ledgerAt .single chosen later).accepted entry.seq = some entry :=
    (ledgerAt_accepted_iff later).mpr ⟨slot, after, ⟨count, atSeq ▸ accepted⟩, write⟩
  have judged := JournalState.apply_retry isSet (atSeq ▸ inside) recorded
  rw [atSeq, show entry.count = count from counted] at judged
  simp only [ledgerAt, verdictAt, Ledger.step, Ledger.judge, again]
  exact judged

end Sequences

/-- A chosen sequence folded for a single writer: an accepted write carries the leader last set
and the journal's end, a leader that was moved away from writes again only once it is set again,
and a write accepted once is never accepted again, leaves the journal as it is and is a duplicate
at its first position until that is trimmed. These are the verdicts that every replica of the
sequence reports.
-/
theorem Replica.writes_fenced (chosen : Nat → Command)
    : (∀ slot seq count, verdictAt .single chosen slot = .accepted seq count
        → ∃ entry, chosen slot = .write entry ∧ LastSet chosen slot entry.leader
          ∧ entry.seq = seq ∧ seq = (ledgerAt .single chosen slot).state.nextSeq)
      ∧ (∀ slot new old view, chosen slot = .control (.setLeader new (some old))
        → verdictAt .single chosen slot = .leader view
        → ∀ later seq count entry, slot < later
          → verdictAt .single chosen later = .accepted seq count
          → chosen later = .write entry → entry.leader = old
          → ∃ again, slot < again ∧ again < later ∧ SetsLeader chosen again old)
      ∧ (∀ slot seq count entry, verdictAt .single chosen slot = .accepted seq count
        → chosen slot = .write entry → ∀ later, slot < later → chosen later = .write entry
        → (ledgerAt .single chosen (later + 1)).state = (ledgerAt .single chosen later).state
          ∧ ((ledgerAt .single chosen later).state.firstSeq ≤ seq
            → verdictAt .single chosen later = .duplicate seq count)
          ∧ ∀ start length, verdictAt .single chosen later ≠ .accepted start length)
      ∧ (∀ replica,
          Reached (fun replica first => replica.keepsVerdicts first) .single chosen replica
          → replica.state = (ledgerAt .single chosen replica.folded).state
            ∧ ∀ slot outcome, replica.outcomes[slot]? = some outcome
              ↔ (replica.floor ≤ slot ∧ slot < replica.folded)
                ∧ outcome = verdictAt .single chosen slot ∧ outcome ≠ .noop) := by
  refine ⟨?_, ?_, ?_, fun replica history =>
    ⟨history.folds.state_eq, history.folds.outcomes_iff⟩⟩
  · intro slot seq count accepted
    obtain ⟨atEnd, _, _, entry, write⟩ := verdictAt_accepted accepted
    obtain ⟨_, current, atSeq⟩ := accepted_write accepted write
    exact ⟨entry, write, lastSet_of_leader current, atSeq, atEnd⟩
  · intro slot new old view moved led later seq count entry after accepted write under
    exact setsLeader_between moved led after accepted write under
  · intro slot seq count entry accepted write later after again
    obtain ⟨same, judged⟩ := retried_write accepted write after again
    refine ⟨same, fun kept => ?_, fun start length => ?_⟩
    · rw [judged, if_neg (not_lt.mpr kept)]
    · rw [judged]
      split_ifs <;> simp

/-- The write at slot 1 is accepted, and its retry at slot 3 is a duplicate at position 0. -/
theorem Replica.writes_fenced_retried
    : LastSet retriedSequence 1 7 ∧ verdictAt .single retriedSequence 3 = .duplicate 0 1 := by
  obtain ⟨fenced, _, retried, _⟩ := Replica.writes_fenced retriedSequence
  have accepted : verdictAt .single retriedSequence 1 = .accepted 0 1 := by decide +kernel
  obtain ⟨entry, write, last, _⟩ := fenced 1 0 1 accepted
  obtain rfl : ⟨7, 0, [[1]]⟩ = entry := Command.write.inj write
  exact ⟨last, (retried 1 0 1 _ accepted rfl 3 (by decide) rfl).2.1 (by decide +kernel)⟩

end Paros
