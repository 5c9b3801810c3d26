import Paros.Election.Fold

/-! The fold of an election journal from its first position, record by record: what one record does
to it, and that a term has one leader.
-/

namespace Paros

/-- What folds agree on of a leader: all but the position where they met it. -/
def Leader.face (leader : Leader) : Nat × Candidate × LeaderUuid × Nat :=
  (leader.term, leader.candidate, leader.uuid, leader.anchor)

namespace ElectionFold

variable {codec : ElectionCodec} {fold : ElectionFold} {journal : List Bytes}

/-- What folds agree on: the term and its leader. -/
def face (fold : ElectionFold) : Nat × Option (Nat × Candidate × LeaderUuid × Nat) :=
  (fold.term, fold.leader.map Leader.face)

-- The rule

/-- The rule reads nothing of a fold but what folds agree on. -/
theorem rule_face {other : ElectionFold} (same : fold.face = other.face) (seq : Nat)
    (record : ElectionRecord)
    : (fold.rule seq record).1.face = (other.rule seq record).1.face := by
  have term : fold.term = other.term := congrArg Prod.fst same
  have leader : fold.leader.map Leader.face = other.leader.map Leader.face := congrArg Prod.snd same
  cases record with
  | campaign asked candidate uuid =>
    simp only [rule, term]
    split
    · exact same
    · rfl
  | renew asked candidate uuid =>
    cases mine : fold.leader with
    | none =>
      cases theirs : other.leader with
      | none =>
        simp only [rule, mine, theirs, Option.filter_none, term]
        split
        · rfl
        · exact same
      | some held => simp [mine, theirs] at leader
    | some led =>
      cases theirs : other.leader with
      | none => simp [mine, theirs] at leader
      | some held =>
        simp only [mine, theirs, Option.map_some, Option.some.injEq, Leader.face,
          Prod.mk.injEq] at leader
        obtain ⟨ledTerm, ledCandidate, ledUuid, _⟩ := leader
        by_cases matched : held.term = asked ∧ held.candidate.id = candidate.id
            ∧ held.uuid = uuid
        · simp [rule, mine, theirs, Option.filter_some, ledTerm, ledCandidate, ledUuid,
            matched, face, Leader.face, term]
        · simp only [rule, mine, theirs, Option.filter_some, ledTerm, ledCandidate, ledUuid,
            matched, term]
          simp only [decide_false, Bool.false_eq_true, if_false]
          split
          · rfl
          · exact same
  | resign asked candidate successor =>
    have leads : (fold.leader.any fun led => led.term = asked ∧ led.candidate.id = candidate)
        = other.leader.any fun led => led.term = asked ∧ led.candidate.id = candidate := by
      cases mine : fold.leader <;> cases theirs : other.leader <;>
        simp [mine, theirs, Leader.face] at leader ⊢
      rw [leader.1, leader.2.1]
    simp only [rule, leads]
    split
    · cases successor with
      | none => simp [face, term]
      | some next => rfl
    · exact same

/-- What the rule does to a fold whose leader leads its term: nothing, it vacates the term, or it puts
the leadership that the record describes, of a later term or of the leader itself.
-/
theorem rule_cases (fold : ElectionFold)
    (led : ∀ leader, fold.leader = some leader → leader.term = fold.term) (seq : Nat)
    (record : ElectionRecord)
    : (fold.rule seq record).1 = fold ∨ (fold.rule seq record).1 = { fold with leader := none }
      ∨ ∃ term candidate uuid, record.anchored = some (term, candidate, uuid)
        ∧ (fold.rule seq record).1.face = (term, some (term, candidate, uuid, seq))
        ∧ (fold.term < term ∨ ∃ leader, fold.leader = some leader ∧ leader.term = term
          ∧ leader.candidate.id = candidate.id ∧ leader.uuid = uuid) := by
  fun_cases rule fold seq record
  case case2 term candidate uuid next =>
    exact .inr (.inr ⟨term, candidate, uuid, rfl, rfl, .inl (by omega)⟩)
  case case3 term candidate uuid leader renews published =>
    obtain ⟨held, matched⟩ := Option.filter_eq_some_iff.mp renews
    simp only [decide_eq_true_eq] at matched
    refine .inr (.inr ⟨term, candidate, uuid, rfl, ?_, .inr ⟨leader, held, matched⟩⟩)
    obtain ⟨theTerm, theId, theUuid⟩ := matched
    simp only [face, Option.map_some, Leader.face, published, theTerm, theId, theUuid, ← led leader held]
  case case4 term candidate uuid _ later =>
    exact .inr (.inr ⟨term, candidate, uuid, rfl, rfl, .inl later⟩)
  case case6 term candidate leads next uuid =>
    obtain ⟨leader, held, same⟩ := (Option.any_eq_true _ _).mp leads
    have same : leader.term = term := (of_decide_eq_true same).1
    have current := led leader held
    exact .inr (.inr ⟨_, next, uuid, rfl, rfl, .inl (by omega)⟩)
  case case7 => exact .inr (.inl rfl)
  all_goals exact .inl rfl

/-- The rule leaves a fold that knows at its position, with what it awaits and holds or with none. -/
theorem rule_next (seq : Nat) (record : ElectionRecord)
    : (fold.rule seq record).1.next = fold.next
      ∧ (fold.known → (fold.rule seq record).1.known)
      ∧ ((fold.rule seq record).1.floor = fold.floor ∧ (fold.rule seq record).1.tail = fold.tail
        ∨ (fold.rule seq record).1.floor = none ∧ (fold.rule seq record).1.tail = []) := by
  fun_cases rule fold seq record <;> simp [lead]

-- The whole journal

/-- A fold that absorbs a record is at the next position. -/
theorem absorb_next (seq : Nat) (record : Bytes)
    : (fold.absorb codec seq record).1.next = seq + 1 := by
  simp only [absorb]
  split
  · split
    · exact (rule_next seq _).1
    · simp only [anchor]
      split
      · split <;> rfl
      · rfl
  · rfl

/-- What a fold that knows does with a record: nothing, it vacates the term, or it puts the leadership
that the record describes, of a later term or of the leader itself.
-/
theorem absorb_cases (codec : ElectionCodec) (known : fold.known)
    (led : ∀ leader, fold.leader = some leader → leader.term = fold.term) (seq : Nat) (bytes : Bytes)
    : (fold.absorb codec seq bytes).1.known
      ∧ ((fold.absorb codec seq bytes).1.face = fold.face
        ∨ (fold.absorb codec seq bytes).1.face = (fold.term, none)
        ∨ ∃ record term candidate uuid, ElectionRecord.decode codec bytes = some (.ok record)
          ∧ record.anchored = some (term, candidate, uuid)
          ∧ (fold.absorb codec seq bytes).1.face = (term, some (term, candidate, uuid, seq))
          ∧ (fold.term < term ∨ ∃ leader, fold.leader = some leader ∧ leader.term = term
            ∧ leader.candidate.id = candidate.id ∧ leader.uuid = uuid)) := by
  simp only [absorb, known, if_true]
  split
  case h_1 record read =>
    refine ⟨(rule_next seq record).2.1 rfl, ?_⟩
    rcases rule_cases { fold with known := true, next := seq + 1 } led seq record with
      same | vacated | ⟨term, candidate, uuid, describes, put, order⟩
    · exact .inl (by rw [same]; rfl)
    · exact .inr (.inl (by rw [vacated]; rfl))
    · exact .inr (.inr ⟨record, term, candidate, uuid, read, describes, put, order⟩)
  case h_2 => exact ⟨rfl, .inl rfl⟩

/-- Folds that agree absorb a record alike. -/
theorem absorb_face {other : ElectionFold} (known : fold.known) (also : other.known)
    (same : fold.face = other.face) (seq : Nat) (bytes : Bytes)
    : (fold.absorb codec seq bytes).1.face = (other.absorb codec seq bytes).1.face := by
  simp only [absorb, known, also, if_true]
  split
  · exact rule_face (by exact same) seq _
  · exact same

theorem face_eq {term : Nat} {led : Option (Nat × Candidate × LeaderUuid × Nat)}
    : fold.face = (term, led) ↔ fold.term = term ∧ fold.leader.map Leader.face = led := by
  simp [face]

theorem ofJournal_concat (journal : List Bytes) (record : Bytes)
    : ofJournal codec (journal ++ [record])
      = ((ofJournal codec journal).absorb codec (ofJournal codec journal).next record).1 := by
  simp only [ofJournal, List.foldl_append, List.foldl_cons, List.foldl_nil]

/-- What holds of the fold of a whole journal. -/
structure Whole (fold : ElectionFold) (length : Nat) : Prop where
  known : fold.known
  next : fold.next = length
  led : ∀ leader, fold.leader = some leader → leader.term = fold.term
  anchored : ∀ leader, fold.leader = some leader → leader.anchor < length

theorem ofJournal_whole (codec : ElectionCodec) (journal : List Bytes)
    : Whole (ofJournal codec journal) journal.length := by
  induction journal using List.reverseRecOn with
  | nil => exact ⟨rfl, rfl, by simp [ofJournal, new], by simp [ofJournal, new]⟩
  | append_singleton journal bytes ih =>
    obtain ⟨known, next, led, anchored⟩ := ih
    obtain ⟨knows, cases⟩ := absorb_cases codec known led journal.length bytes
    rw [ofJournal_concat, next, List.length_append, List.length_singleton]
    have both : ∀ leader, ((ofJournal codec journal).absorb codec journal.length bytes).1.leader
        = some leader
        → leader.term = ((ofJournal codec journal).absorb codec journal.length bytes).1.term
          ∧ leader.anchor < journal.length + 1 := by
      intro leader held
      rcases cases with same | vacated | ⟨_, term, candidate, uuid, _, _, put, _⟩
      · obtain ⟨sameTerm, sameLeader⟩ := face_eq.mp same
        rw [held, Option.map_some, eq_comm, Option.map_eq_some_iff] at sameLeader
        obtain ⟨earlier, there, alike⟩ := sameLeader
        simp only [Leader.face, Prod.mk.injEq] at alike
        rw [sameTerm, ← alike.1, ← alike.2.2.2]
        exact ⟨led earlier there, (anchored earlier there).trans (Nat.lt_succ_self _)⟩
      · simp [face_eq, held] at vacated
      · simp only [face_eq, held, Option.map_some, Leader.face, Option.some.injEq,
          Prod.mk.injEq] at put
        omega
    exact ⟨knows, absorb_next _ _, fun leader held => (both leader held).1,
      fun leader held => (both leader held).2⟩

-- Positions of the journal

/-- The fold of a journal's records before a position. -/
def upTo (codec : ElectionCodec) (journal : List Bytes) (position : Nat) : ElectionFold :=
  ofJournal codec (journal.take position)

variable {position : Nat}

theorem upTo_whole (codec : ElectionCodec) (bound : position ≤ journal.length)
    : Whole (upTo codec journal position) position := by
  have whole := ofJournal_whole codec (journal.take position)
  rwa [List.length_take, min_eq_left bound] at whole

theorem upTo_succ {bytes : Bytes} (there : journal[position]? = some bytes)
    : upTo codec journal (position + 1)
      = ((upTo codec journal position).absorb codec position bytes).1 := by
  have bound : position ≤ journal.length := (List.getElem?_eq_some_iff.mp there).1.le
  have next := (upTo_whole codec bound).next
  rw [upTo] at next
  rw [upTo, List.take_add_one, there, Option.toList_some, ofJournal_concat, next]
  rfl

theorem upTo_append (bound : position ≤ journal.length) (more : List Bytes)
    : upTo codec (journal ++ more) position = upTo codec journal position := by
  rw [upTo, List.take_append_of_le_length bound]
  rfl

/-- One record of the journal: what the fold before it names is named after it, the term is vacated,
or the record's leadership is named, of a later term or of the leader itself.
-/
theorem upTo_cases (codec : ElectionCodec) {bytes : Bytes} (there : journal[position]? = some bytes)
    : (upTo codec journal (position + 1)).face = (upTo codec journal position).face
      ∨ (upTo codec journal (position + 1)).face = ((upTo codec journal position).term, none)
      ∨ ∃ record term candidate uuid, ElectionRecord.decode codec bytes = some (.ok record)
        ∧ record.anchored = some (term, candidate, uuid)
        ∧ (upTo codec journal (position + 1)).face = (term, some (term, candidate, uuid, position))
        ∧ ((upTo codec journal position).term < term
          ∨ ∃ leader, (upTo codec journal position).leader = some leader ∧ leader.term = term
            ∧ leader.candidate.id = candidate.id ∧ leader.uuid = uuid) := by
  have whole := upTo_whole codec (List.getElem?_eq_some_iff.mp there).1.le
  rw [upTo_succ there]
  exact (absorb_cases codec whole.known whole.led position bytes).2

theorem exists_leader_of_face {term anchor : Nat} {candidate : Candidate} {uuid : LeaderUuid}
    {current : Nat} (same : fold.face = (current, some (term, candidate, uuid, anchor)))
    : ∃ leader, fold.leader = some leader ∧ leader.face = (term, candidate, uuid, anchor) := by
  obtain ⟨leader, held, alike⟩ := Option.map_eq_some_iff.mp (face_eq.mp same).2
  exact ⟨leader, held, alike⟩

/-- A leader's anchor is the position of a record that named it the leader. -/
theorem upTo_anchor (bound : position ≤ journal.length) {leader : Leader}
    (held : (upTo codec journal position).leader = some leader)
    : (upTo codec journal (leader.anchor + 1)).face = (leader.term, some leader.face) := by
  induction position generalizing leader with
  | zero => simp [upTo, ofJournal, new] at held
  | succ position ih =>
    have there := List.getElem?_eq_getElem (Nat.lt_of_succ_le bound)
    have current := (upTo_whole codec bound).led leader held
    rcases upTo_cases codec there with
      same | vacated | ⟨_, term, candidate, uuid, _, _, put, _⟩
    · obtain ⟨_, sameLeader⟩ := face_eq.mp same
      rw [held, Option.map_some, eq_comm, Option.map_eq_some_iff] at sameLeader
      obtain ⟨earlier, before, alike⟩ := sameLeader
      have kept := ih (Nat.le_of_succ_le bound) before
      simp only [Leader.face, Prod.mk.injEq] at alike
      rwa [Leader.face, alike.1, alike.2.1, alike.2.2.1, alike.2.2.2] at kept
    · simp [face_eq, held] at vacated
    · have named := put
      rw [face_eq, held, Option.map_some, Option.some.injEq, Leader.face] at named
      obtain ⟨_, named⟩ := named
      simp only [Prod.mk.injEq] at named
      obtain ⟨rfl, rfl, rfl, rfl⟩ := named
      exact put

/-- A term has one leader. -/
theorem upTo_unique {earlier later : Nat} (order : earlier ≤ later) (bound : later ≤ journal.length)
    {first second : Leader} (held : (upTo codec journal earlier).leader = some first)
    (also : (upTo codec journal later).leader = some second) (same : first.term = second.term)
    : first.candidate.id = second.candidate.id ∧ first.uuid = second.uuid := by
  -- From the first leader on, the term is a later one or the leader is the first, if there is one.
  have onward : first.term ≤ (upTo codec journal later).term
      ∧ ∀ leader, (upTo codec journal later).leader = some leader → leader.term = first.term
        → first.candidate.id = leader.candidate.id ∧ first.uuid = leader.uuid := by
    clear also
    induction order with
    | refl =>
      refine ⟨((upTo_whole codec bound).led first held).le, fun leader there _ => ?_⟩
      cases held.symm.trans there
      exact ⟨rfl, rfl⟩
    | @step position _ ih =>
      obtain ⟨reached, kept⟩ := ih (Nat.le_of_succ_le bound)
      have there := List.getElem?_eq_getElem (Nat.lt_of_succ_le bound)
      rcases upTo_cases codec there with
        alike | vacated | ⟨_, term, candidate, uuid, _, _, put, order⟩
      · obtain ⟨sameTerm, sameLeader⟩ := face_eq.mp alike
        refine ⟨by rwa [sameTerm], fun leader now named => ?_⟩
        rw [now, Option.map_some, eq_comm, Option.map_eq_some_iff] at sameLeader
        obtain ⟨before, led, faces⟩ := sameLeader
        simp only [Leader.face, Prod.mk.injEq] at faces
        rw [← faces.2.1, ← faces.2.2.1]
        exact kept before led (faces.1.trans named)
      · obtain ⟨sameTerm, vacant⟩ := face_eq.mp vacated
        refine ⟨by rwa [sameTerm], fun leader now _ => ?_⟩
        rw [now] at vacant
        cases vacant
      · obtain ⟨newTerm, newLeader⟩ := face_eq.mp put
        have before := (upTo_whole codec (Nat.le_of_succ_le bound)).led
        rcases order with raised | ⟨old, led, oldTerm, oldId, oldUuid⟩
        · refine ⟨newTerm ▸ reached.trans raised.le, fun leader now named => ?_⟩
          rw [now, Option.map_some, Option.some.injEq, Leader.face, Prod.mk.injEq] at newLeader
          omega
        · have oldCurrent := before old led
          refine ⟨newTerm ▸ oldTerm ▸ oldCurrent ▸ reached, fun leader now named => ?_⟩
          simp only [now, Option.map_some, Option.some.injEq, Leader.face,
            Prod.mk.injEq] at newLeader
          obtain ⟨sameTerm, sameCandidate, sameUuid, _⟩ := newLeader
          rw [sameCandidate, sameUuid, ← oldId, ← oldUuid]
          exact kept old led (oldTerm.trans (sameTerm.symm.trans named))
  exact onward.2 second also same.symm

end ElectionFold

end Paros
