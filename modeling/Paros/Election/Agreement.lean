import Paros.Election.Prefix

/-! Every fold of an election journal that knows its term agrees with the fold of the whole
journal, whatever the floors it anchored at.
-/

namespace Paros

namespace ElectionFold

variable {codec : ElectionCodec} {fold : ElectionFold} {journal : List Bytes} {floors : Set Nat}

-- Sound folds

/-- A list holds the journal's records from a position on, each with its position. -/
def Dense (journal : List Bytes) : Nat → List (Nat × Bytes) → Prop
  | _, [] => True
  | start, (seq, record) :: rest =>
    seq = start ∧ journal[start]? = some record ∧ Dense journal (start + 1) rest

variable {held : List (Nat × Bytes)}

theorem Dense.concat {start : Nat} {record : Bytes}
    (dense : Dense journal start held) (there : journal[start + held.length]? = some record)
    : Dense journal start (held ++ [(start + held.length, record)]) := by
  induction held generalizing start with
  | nil => exact ⟨rfl, there, trivial⟩
  | cons first rest ih =>
    obtain ⟨seq, bytes⟩ := first
    obtain ⟨position, record, dense⟩ := dense
    rw [List.length_cons, Nat.add_comm rest.length, ← Nat.add_assoc] at there ⊢
    exact ⟨position, record, ih dense there⟩

theorem Dense.append {start : Nat} (dense : Dense journal start held) (more : List Bytes)
    : Dense (journal ++ more) start held := by
  induction held generalizing start with
  | nil => trivial
  | cons first rest ih =>
    obtain ⟨position, record, dense⟩ := dense
    refine ⟨position, ?_, ih dense⟩
    rw [List.getElem?_append_left (List.getElem?_eq_some_iff.mp record).1]
    exact record

/-- A floor's record, if it is the election's, names the leader whose anchor it is. -/
def Grounded (codec : ElectionCodec) (journal : List Bytes) (floor : Nat) : Prop :=
  ∀ bytes record, journal[floor]? = some bytes
    → ElectionRecord.decode codec bytes = some (.ok record)
    → ∃ leader, (upTo codec journal (floor + 1)).leader = some leader ∧ leader.anchor = floor

/-- What a fold holds of its journal. A fold that knows names what the fold of the whole journal
names; one that does not know names no leader, awaits a floor's record or is at the tail, and the
records it holds there end at its position.
-/
structure Sound (codec : ElectionCodec) (journal : List Bytes) (floors : Set Nat)
    (fold : ElectionFold) : Prop where
  agrees : fold.known → fold.next ≤ journal.length
    ∧ fold.face = (upTo codec journal fold.next).face
  leaderless : fold.known = false → fold.leader = none
  awaited : ∀ floor, fold.floor = some floor → floor ∈ floors
  held : ∃ start, Dense journal start fold.tail
    ∧ (fold.known = false → fold.floor = none → fold.tail ≠ []
      → start + fold.tail.length = fold.next)

/-- A fold that knows is sound where it agrees with the whole journal. -/
theorem sound_of_known (known : fold.known)
    (agrees : fold.next ≤ journal.length ∧ fold.face = (upTo codec journal fold.next).face)
    (awaited : ∀ floor, fold.floor = some floor → floor ∈ floors)
    (held : ∃ start, Dense journal start fold.tail)
    : Sound codec journal floors fold where
  agrees _ := agrees
  leaderless unknown := absurd known (by simp [unknown])
  awaited := awaited
  held := held.imp fun _ dense => ⟨dense, fun unknown => absurd known (by simp [unknown])⟩

theorem new_sound : Sound codec journal floors new :=
  sound_of_known rfl ⟨Nat.zero_le _, rfl⟩ (fun _ none => by cases none) ⟨0, trivial⟩

theorem Sound.append (ok : Sound codec journal floors fold) (more : List Bytes)
    : Sound codec (journal ++ more) floors fold := by
  obtain ⟨start, dense, ends⟩ := ok.held
  refine { ok with agrees := fun known => ?_, held := ⟨start, dense.append more, ends⟩ }
  obtain ⟨bound, same⟩ := ok.agrees known
  rw [upTo_append bound]
  exact ⟨bound.trans (by simp), same⟩

theorem Sound.insert (ok : Sound codec journal floors fold) (floor : Nat)
    : Sound codec journal (insert floor floors) fold :=
  { ok with awaited := fun awaited held => Set.mem_insert_of_mem _ (ok.awaited awaited held) }

variable {bytes : Bytes} {floor : Nat} {record : ElectionRecord}

/-- The record at a floor describes the leader that the whole journal's fold names there. -/
theorem Grounded.face (grounded : Grounded codec journal floor)
    (there : journal[floor]? = some bytes)
    (read : ElectionRecord.decode codec bytes = some (.ok record)) {term : Nat}
    {candidate : Candidate} {uuid : LeaderUuid}
    (describes : record.anchored = some (term, candidate, uuid))
    : (upTo codec journal (floor + 1)).face = (term, some (term, candidate, uuid, floor)) := by
  obtain ⟨leader, held, anchor⟩ := grounded bytes record there read
  have before := upTo_whole codec (List.getElem?_eq_some_iff.mp there).1.le
  rcases upTo_cases codec there with same | vacated | ⟨again, _, _, _, reread, told, put, _⟩
  · -- An earlier leader's anchor is below the floor.
    obtain ⟨_, sameLeader⟩ := face_eq.mp same
    rw [held, Option.map_some, eq_comm, Option.map_eq_some_iff] at sameLeader
    obtain ⟨earlier, led, alike⟩ := sameLeader
    simp only [Leader.face, Prod.mk.injEq] at alike
    have below := before.anchored earlier led
    omega
  · simp [face_eq, held] at vacated
  · cases read.symm.trans reread
    cases describes.symm.trans told
    exact put

-- What a fold does

/-- Away from its floor's leadership, a fold that knows nothing raises its term at most. -/
theorem anchor_cases (fold : ElectionFold) (seq : Nat) (record : ElectionRecord)
    : (∃ term, (fold.anchor seq record).1 = { fold with term := term })
      ∨ ∃ term candidate uuid, record.anchored = some (term, candidate, uuid)
        ∧ fold.floor = some seq
        ∧ (fold.anchor seq record).1 = fold.lead term candidate uuid seq := by
  simp only [anchor]
  split
  case h_1 term candidate uuid describes =>
    split
    case isTrue here => exact .inr ⟨term, candidate, uuid, describes, here.1, rfl⟩
    case isFalse => exact .inl ⟨_, rfl⟩
  case h_2 => exact .inl ⟨_, rfl⟩

theorem Sound.absorb_known (ok : Sound codec journal floors fold) (known : fold.known)
    (there : journal[fold.next]? = some bytes)
    : Sound codec journal floors (fold.absorb codec fold.next bytes).1 := by
  obtain ⟨start, dense, _⟩ := ok.held
  obtain ⟨bound, same⟩ := ok.agrees known
  let after := (fold.absorb codec fold.next bytes).1
  have agrees : after.next ≤ journal.length
      ∧ after.face = (upTo codec journal after.next).face := by
    rw [absorb_next, upTo_succ there]
    exact ⟨(List.getElem?_eq_some_iff.mp there).1,
      absorb_face known (upTo_whole codec bound).known same _ _⟩
  have rest : after.known ∧ (after.floor = fold.floor ∧ after.tail = fold.tail
      ∨ after.floor = none ∧ after.tail = []) := by
    dsimp only [after]
    simp only [ElectionFold.absorb, known, if_true]
    split
    · exact ⟨(rule_next _ _).2.1 rfl, (rule_next _ _).2.2⟩
    · exact ⟨rfl, .inl ⟨rfl, rfl⟩⟩
  obtain ⟨knows, ⟨floor, tail⟩ | ⟨floor, tail⟩⟩ := rest
  · exact sound_of_known knows agrees (floor ▸ ok.awaited) ⟨start, tail ▸ dense⟩
  · refine sound_of_known knows agrees (fun _ held => ?_) ⟨0, ?_⟩
    · cases floor.symm.trans held
    · rw [tail]
      trivial

section

variable (grounded : ∀ floor ∈ floors, Grounded codec journal floor)
include grounded

/-- A fold that knows nothing, led by the record at its floor. -/
theorem lead_sound {seq : Nat} (seen : seq ∈ floors)
    (there : journal[seq]? = some bytes)
    (read : ElectionRecord.decode codec bytes = some (.ok record)) {term : Nat}
    {candidate : Candidate} {uuid : LeaderUuid}
    (describes : record.anchored = some (term, candidate, uuid)) (next : fold.next = seq + 1)
    : Sound codec journal floors (fold.lead term candidate uuid seq) := by
  refine sound_of_known rfl ?_ (fun _ none => by cases none) ⟨0, trivial⟩
  simp only [lead, next]
  exact ⟨(List.getElem?_eq_some_iff.mp there).1,
    ((grounded seq seen).face there read describes).symm⟩

theorem Sound.absorb (ok : Sound codec journal floors fold)
    (there : journal[fold.next]? = some bytes)
    : Sound codec journal floors (fold.absorb codec fold.next bytes).1 := by
  cases known : fold.known with
  | true => exact ok.absorb_known known there
  | false =>
    obtain ⟨start, dense, ends⟩ := ok.held
    -- The records held at the tail, and the one read there.
    have held : ∃ start, Dense journal start
          (if fold.floor.isNone then fold.tail ++ [(fold.next, bytes)] else [])
        ∧ (fold.floor = none
          → start + (if fold.floor.isNone then fold.tail ++ [(fold.next, bytes)]
            else []).length = fold.next + 1) := by
      cases floor : fold.floor with
      | some awaited => exact ⟨0, trivial, fun none => by cases none⟩
      | none =>
        by_cases empty : fold.tail = []
        · exact ⟨fold.next, by simp [empty, Dense, there], by simp [empty]⟩
        · have position := ends known floor empty
          have dense' := dense.concat (position ▸ there)
          rw [position] at dense'
          exact ⟨start, dense', by simp; omega⟩
    obtain ⟨start', dense', ends'⟩ := held
    have passed : ∀ term : Nat, Sound codec journal floors
        { fold with
          known := false, next := fold.next + 1, term := term
          tail := if fold.floor.isNone then fold.tail ++ [(fold.next, bytes)] else [] } :=
      fun term => ⟨fun knows => (by cases knows), fun _ => ok.leaderless known, ok.awaited,
        start', dense', fun _ floor _ => ends' floor⟩
    simp only [ElectionFold.absorb, known, Bool.false_eq_true, if_false]
    split
    case h_1 record read =>
      rcases anchor_cases { fold with
          known := false, next := fold.next + 1
          tail := if fold.floor.isNone then fold.tail ++ [(fold.next, bytes)] else [] }
        fold.next record with ⟨term, raised⟩ | ⟨term, candidate, uuid, describes, here, led⟩
      · rw [raised]
        exact passed term
      · rw [led]
        exact lead_sound grounded (ok.awaited fold.next here) there read describes rfl
    case h_2 => exact passed fold.term

variable {floor start : Nat}

/-- Records held from a position on, folded again from a floor. -/
theorem absorbFrom_sound (dense : Dense journal start held)
    (ok : Sound codec journal floors fold) (position : fold.next = max floor start)
    : Sound codec journal floors (absorbFrom codec floor fold held) := by
  induction held generalizing start fold with
  | nil => exact ok
  | cons first rest ih =>
    obtain ⟨seq, bytes⟩ := first
    obtain ⟨rfl, there, dense⟩ := dense
    rw [absorbFrom]
    split
    case isTrue reached =>
      have here : fold.next = seq := by omega
      rw [← here] at there ⊢
      refine ih dense (ok.absorb grounded there) ?_
      rw [absorb_next]
      omega
    case isFalse below => exact ih dense ok (by omega)

omit grounded in
/-- A fold that knows nothing and awaits the record at a floor. -/
theorem awaiting_sound (seen : floor ∈ floors) (awaits : fold.floor = some floor)
    (unknown : fold.known = false) (leaderless : fold.leader = none)
    (dense : Dense journal start fold.tail)
    : Sound codec journal floors fold where
  agrees known := absurd known (by simp [unknown])
  leaderless _ := leaderless
  awaited floor same := by
    cases awaits.symm.trans same
    exact seen
  held := ⟨start, dense, fun _ none => by cases awaits.symm.trans none⟩

theorem replay_sound (seen : floor ∈ floors) (dense : Dense journal start fold.tail)
    (order : start ≤ floor) (unknown : fold.known = false)
    : Sound codec journal floors (fold.replay codec floor) :=
  absorbFrom_sound grounded dense
    (awaiting_sound seen rfl unknown rfl (show Dense journal 0 [] from trivial)) (by simp [order])

variable (ok : Sound codec journal floors fold)
include ok

omit grounded in
theorem Sound.gap (seen : floor ∈ floors)
    : Sound codec journal floors (fold.gap floor) := by
  rw [ElectionFold.gap]
  split
  · exact ok
  · obtain ⟨start, dense, _⟩ := ok.held
    exact awaiting_sound seen rfl rfl rfl dense

omit grounded in
theorem Sound.resumeAtTail (seen : floor ∈ floors) (tail : Nat)
    : Sound codec journal floors (fold.resumeAtTail floor tail) := by
  rw [ElectionFold.resumeAtTail]
  split
  · exact ok.gap seen
  · split
    · exact ok
    · exact ⟨by simp, fun _ => rfl, by simp, 0, trivial, fun _ _ some => absurd rfl some⟩

/-- A floor that is seen leaves a fold sound, and knowing nothing unless it anchored. -/
theorem Sound.floorSeen (seen : floor ∈ floors)
    : Sound codec journal floors (fold.floorSeen codec floor).1
      ∧ (fold.known = false → (fold.floorSeen codec floor).2 = false
        → (fold.floorSeen codec floor).1.known = false) := by
  obtain ⟨start, dense, _⟩ := ok.held
  rw [ElectionFold.floorSeen]
  split
  case isTrue => exact ⟨ok, fun unknown _ => unknown⟩
  case isFalse unknown =>
    have unknown : fold.known = false := by simpa using unknown
    cases tail : fold.tail with
    | nil =>
      have empty : Dense journal floor fold.tail := by
        rw [tail]
        trivial
      simp only [List.head?_nil]
      split
      · refine ⟨replay_sound grounded seen empty le_rfl unknown, fun _ _ => ?_⟩
        simp only [replay, tail, absorbFrom]
        exact unknown
      · exact ⟨ok, fun unknown _ => unknown⟩
    | cons first rest =>
      obtain ⟨seq, bytes⟩ := first
      have here : seq = start := by
        rw [tail] at dense
        exact dense.1
      simp only [List.head?_cons]
      split
      case isTrue => exact ⟨ok, fun unknown _ => unknown⟩
      case isFalse reached =>
        split
        · exact ⟨ok, fun unknown _ => unknown⟩
        · exact ⟨replay_sound grounded seen dense (by omega) unknown, fun _ => id⟩

theorem Sound.rewind (seen : floor ∈ floors)
    : Sound codec journal floors (fold.rewind codec floor).1 := by
  obtain ⟨after, lost⟩ := ok.floorSeen grounded seen
  obtain ⟨start, dense, _⟩ := after.held
  rw [ElectionFold.rewind]
  split
  case isTrue => exact ok
  case isFalse unknown =>
    dsimp only
    split
    case isTrue => exact after
    case isFalse missed =>
      split
      · exact awaiting_sound seen rfl (lost (by simpa using unknown) (by simpa using missed)) rfl
          dense
      · exact after

end

/-- What a reader does with its fold: it folds the next record, or acts on a floor that the journal
had, at whatever tail.
-/
inductive Reads (codec : ElectionCodec) (journal : List Bytes) (floors : Set Nat)
    (fold : ElectionFold)
    : ElectionFold → Prop where
  | absorb {bytes : Bytes} (there : journal[fold.next]? = some bytes)
    : Reads codec journal floors fold (fold.absorb codec fold.next bytes).1
  | gap {floor : Nat} (seen : floor ∈ floors) : Reads codec journal floors fold (fold.gap floor)
  | resumeAtTail {floor : Nat} (seen : floor ∈ floors) (tail : Nat)
    : Reads codec journal floors fold (fold.resumeAtTail floor tail)
  | floorSeen {floor : Nat} (seen : floor ∈ floors)
    : Reads codec journal floors fold (fold.floorSeen codec floor).1
  | rewind {floor : Nat} (seen : floor ∈ floors)
    : Reads codec journal floors fold (fold.rewind codec floor).1

theorem Grounded.append (grounded : Grounded codec journal floor)
    (bound : floor < journal.length) (more : List Bytes)
    : Grounded codec (journal ++ more) floor := by
  intro bytes record there read
  rw [List.getElem?_append_left bound] at there
  rw [upTo_append bound]
  exact grounded bytes record there read

theorem Reads.sound {after : ElectionFold} (reads : Reads codec journal floors fold after)
    (ok : Sound codec journal floors fold)
    (grounded : ∀ floor ∈ floors, Grounded codec journal floor)
    : Sound codec journal floors after := by
  cases reads with
  | absorb there => exact ok.absorb grounded there
  | gap seen => exact ok.gap seen
  | resumeAtTail seen tail => exact ok.resumeAtTail seen tail
  | floorSeen seen => exact (ok.floorSeen grounded seen).1
  | rewind seen => exact ok.rewind grounded seen

/-- A fold that has met no record of the election. -/
structure Blank (fold : ElectionFold) : Prop where
  term : fold.term = 0
  leader : fold.leader = none
  tailTerm : ∀ term, fold.tailTerm = some term → term = 0
  tail : fold.tail = []

theorem new_blank : Blank new := ⟨rfl, rfl, fun _ none => (by cases none), rfl⟩

theorem Blank.getD (blank : Blank fold) : fold.tailTerm.getD fold.term = 0 := by
  cases held : fold.tailTerm with
  | none => exact blank.term
  | some term => exact blank.tailTerm term held

theorem Blank.gap (blank : Blank fold) (floor : Nat) : Blank (fold.gap floor) := by
  rw [ElectionFold.gap]
  split
  · exact blank
  · exact ⟨blank.term, rfl, blank.tailTerm, blank.tail⟩

theorem Blank.floorSeen (blank : Blank fold) (codec : ElectionCodec) (floor : Nat)
    : Blank (fold.floorSeen codec floor).1 := by
  rw [ElectionFold.floorSeen, blank.tail]
  split
  · exact blank
  · simp only [List.head?_nil]
    split
    · rw [replay, blank.tail]
      exact ⟨blank.getD, rfl, fun _ none => (by cases none), rfl⟩
    · exact blank

/-- Readers of an empty journal stay blank. -/
theorem Reads.blank {after : ElectionFold} (reads : Reads codec [] floors fold after)
    (blank : Blank fold)
    : Blank after := by
  cases reads with
  | absorb there => simp at there
  | gap seen => exact blank.gap _
  | resumeAtTail seen tail =>
    rw [ElectionFold.resumeAtTail]
    split
    · exact blank.gap _
    · split
      · exact blank
      · refine ⟨blank.term, rfl, fun term same => ?_, rfl⟩
        cases same
        exact blank.getD
  | floorSeen seen => exact blank.floorSeen codec _
  | @rewind floor seen =>
    have seen := blank.floorSeen codec floor
    rw [ElectionFold.rewind]
    split
    · exact blank
    · dsimp only
      split
      · exact seen
      · split
        · exact ⟨seen.getD, rfl, fun _ none => (by cases none), seen.tail⟩
        · exact seen

/-- The records a candidate appends: it campaigns for the term after its fold's, and renews or
resigns the lead that its fold names.
-/
def Composes (fold : ElectionFold) : ElectionRecord → Prop
  | .campaign term _ _ => term = fold.term + 1
  | .renew term candidate uuid => ∃ leader, fold.leader = some leader ∧ leader.term = term
      ∧ leader.candidate.id = candidate.id ∧ leader.uuid = uuid
  | .resign term candidate _ => ∃ leader, fold.leader = some leader ∧ leader.term = term
      ∧ leader.candidate.id = candidate

theorem Blank.composes (blank : Blank fold) (composes : fold.Composes record)
    : ∃ candidate uuid, record = .campaign 1 candidate uuid := by
  cases record with
  | campaign term candidate uuid =>
    rw [Composes, blank.term] at composes
    exact ⟨candidate, uuid, by rw [composes]⟩
  | _ =>
    obtain ⟨leader, held, _⟩ := composes
    cases blank.leader.symm.trans held

end ElectionFold

-- An election

/-- An election journal with every floor it had, the records under way to it, and the folds of its
candidates and watchers.
-/
structure ElectionWorld (ι : Type) where
  journal : List Bytes
  floors : Set Nat
  sent : Set Bytes
  folds : ι → ElectionFold

namespace ElectionWorld

open ElectionFold

variable {ι : Type} {codec : ElectionCodec} {election : ElectionWorld ι}

def start : ElectionWorld ι := ⟨[], {0}, ∅, fun _ => .new⟩

/-- Every fold is sound, every floor but the first is a leader's anchor, and only campaigns for the
first term are under way to an empty journal.
-/
structure Sound (codec : ElectionCodec) (election : ElectionWorld ι) : Prop where
  folds : ∀ who, (election.folds who).Sound codec election.journal election.floors
  grounded : ∀ floor ∈ election.floors, Grounded codec election.journal floor
  floors : ∀ floor ∈ election.floors, floor = 0 ∨ floor < election.journal.length
  blank : election.journal = [] → ∀ who, (election.folds who).Blank
  first : election.journal = [] → ∀ bytes ∈ election.sent, ∀ record,
    ElectionRecord.decode codec bytes = some (.ok record)
    → ∃ candidate uuid, record = .campaign 1 candidate uuid

theorem start_sound : Sound codec (start : ElectionWorld ι) where
  folds _ := new_sound
  grounded floor _ bytes record there _ := by simp [start] at there
  floors floor seen := .inl seen
  blank _ _ := new_blank
  first _ bytes sent := absurd sent (Set.notMem_empty bytes)

/-- A fold's leader is the whole journal's at some position. -/
theorem Sound.leads (ok : Sound codec election) {who : ι} {leader : Leader}
    (leads : (election.folds who).leader = some leader)
    : ∃ position whole, position ≤ election.journal.length
        ∧ (upTo codec election.journal position).leader = some whole
        ∧ whole.face = leader.face := by
  have known : (election.folds who).known = true := by
    by_contra unknown
    rw [(ok.folds who).leaderless (by simpa using unknown)] at leads
    cases leads
  obtain ⟨bound, same⟩ := (ok.folds who).agrees known
  have named : (upTo codec election.journal (election.folds who).next).leader.map Leader.face
      = some leader.face := by
    rw [← (face_eq.mp same).2, leads]
    rfl
  obtain ⟨whole, held, alike⟩ := Option.map_eq_some_iff.mp named
  exact ⟨_, whole, bound, held, alike⟩

/-- The anchor of a fold's leader is a ground. -/
theorem Sound.anchor (ok : Sound codec election) {who : ι} {leader : Leader}
    (leads : (election.folds who).leader = some leader)
    : leader.anchor < election.journal.length
      ∧ Grounded codec election.journal leader.anchor := by
  obtain ⟨position, whole, bound, held, alike⟩ := ok.leads leads
  have anchor : whole.anchor = leader.anchor := congrArg (·.2.2.2) alike
  rw [← anchor]
  refine ⟨((upTo_whole codec bound).anchored whole held).trans_le bound, fun _ _ _ _ => ?_⟩
  obtain ⟨first, found, faces⟩ := exists_leader_of_face (upTo_anchor bound held)
  exact ⟨first, found, congrArg (·.2.2.2) faces⟩

/-- The first record of a journal, when it is the election's, wins the first term. -/
theorem grounded_first {bytes : Bytes}
    (first : ∀ record, ElectionRecord.decode codec bytes = some (.ok record)
      → ∃ candidate uuid, record = .campaign 1 candidate uuid)
    : Grounded codec [bytes] 0 := by
  intro _ record there read
  cases there
  obtain ⟨candidate, uuid, rfl⟩ := first record read
  refine ⟨⟨1, candidate, uuid, 0, 0⟩, ?_, rfl⟩
  simp [upTo, ofJournal, absorb, read, rule, new, lead]

variable [DecidableEq ι]

/-- One step of an election. A record lands any time after it was sent, and may land again; the floor
moves to the anchor of the leader that a candidate's fold names; a reader may begin again.
-/
inductive Step (codec : ElectionCodec) (election : ElectionWorld ι) : ElectionWorld ι → Prop where
  | read (who : ι) {fold : ElectionFold}
    (reads : Reads codec election.journal election.floors (election.folds who) fold)
    : Step codec election { election with folds := Function.update election.folds who fold }
  | restart (who : ι)
    : Step codec election { election with folds := Function.update election.folds who .new }
  | send (who : ι) {record : ElectionRecord} (valid : record.isValid)
    (composes : (election.folds who).Composes record)
    : Step codec election { election with sent := insert (record.encode codec) election.sent }
  | foreign {bytes : Bytes} (unread : ∀ record, ElectionRecord.decode codec bytes ≠ some (.ok record))
    : Step codec election { election with sent := insert bytes election.sent }
  | land {bytes : Bytes} (sent : bytes ∈ election.sent)
    : Step codec election { election with journal := election.journal ++ [bytes] }
  | truncate (who : ι) {leader : Leader} (leads : (election.folds who).leader = some leader)
    : Step codec election { election with floors := insert leader.anchor election.floors }

/-- The elections that an election comes to. -/
abbrev Reaches (codec : ElectionCodec) : ElectionWorld ι → ElectionWorld ι → Prop :=
  Relation.ReflTransGen (Step codec)

theorem Sound.update (ok : Sound codec election) (who : ι) {fold : ElectionFold}
    (sound : fold.Sound codec election.journal election.floors)
    (blank : election.journal = [] → fold.Blank)
    : Sound codec { election with folds := Function.update election.folds who fold } :=
  { ok with
    folds := (Function.forall_update_iff election.folds
      (p := fun _ held => held.Sound codec election.journal election.floors)).mpr
        ⟨sound, fun other _ => ok.folds other⟩
    blank := fun empty => (Function.forall_update_iff election.folds (p := fun _ held => held.Blank)).mpr
      ⟨blank empty, fun other _ => ok.blank empty other⟩ }

theorem Step.sound {after : ElectionWorld ι} (step : Step codec election after)
    (ok : Sound codec election)
    : Sound codec after := by
  cases step with
  | read who reads =>
    refine ok.update who (reads.sound (ok.folds who) ok.grounded) fun empty => ?_
    rw [empty] at reads
    exact reads.blank (ok.blank empty who)
  | restart who => exact ok.update who new_sound fun _ => new_blank
  | send who valid composes =>
    refine { ok with first := fun empty =>
      Set.forall_insert_of_forall (ok.first empty) fun record read => ?_ }
    cases (ElectionRecord.decode_encode codec valid).symm.trans read
    exact (ok.blank empty who).composes composes
  | foreign unread =>
    exact { ok with first := fun empty =>
      Set.forall_insert_of_forall (ok.first empty) fun record read => absurd read (unread record) }
  | @land bytes sent =>
    have full : election.journal ++ [bytes] ≠ [] := by simp
    refine ⟨fun who => (ok.folds who).append [bytes], fun floor seen => ?_,
      fun floor seen => (ok.floors floor seen).imp_right fun bound => ?_,
      fun empty => absurd empty full, fun empty => absurd empty full⟩
    · rcases ok.floors floor seen with rfl | bound
      · cases empty : election.journal with
        | nil => exact grounded_first (ok.first empty bytes sent)
        | cons first rest =>
          exact (empty ▸ ok.grounded 0 seen).append (by simp) [bytes]
      · exact (ok.grounded floor seen).append bound [bytes]
    · exact bound.trans (by simp)
  | truncate who leads =>
    obtain ⟨bound, grounded⟩ := ok.anchor leads
    exact { ok with
      folds := fun other => (ok.folds other).insert _
      grounded := Set.forall_insert_of_forall ok.grounded grounded
      floors := Set.forall_insert_of_forall ok.floors (.inr bound) }

theorem Reaches.sound {after : ElectionWorld ι} (run : Reaches codec election after)
    (ok : Sound codec election)
    : Sound codec after := by
  induction run with
  | refl => exact ok
  | tail run step ih => exact step.sound ih

theorem Reaches.journal {after : ElectionWorld ι} (run : Reaches codec election after)
    : ∃ more, after.journal = election.journal ++ more := by
  induction run with
  | refl => exact ⟨[], (List.append_nil _).symm⟩
  | tail run step ih =>
    obtain ⟨more, same⟩ := ih
    cases step with
    | @land bytes sent => exact ⟨more ++ [bytes], by simp [same]⟩
    | _ => exact ⟨more, same⟩

/-- In every election, a fold that knows names the term, the leading candidate and the uuid that the
fold of the whole journal names at its position, so folds that know at one position agree; and a
term is led by one candidate under one uuid, in every fold and at all times.
-/
theorem folds_agree (run : Reaches codec start election)
    : (∀ who, (election.folds who).known → (election.folds who).next ≤ election.journal.length
        ∧ (election.folds who).term
          = (upTo codec election.journal (election.folds who).next).term
        ∧ (election.folds who).leader.map (fun leader => (leader.candidate, leader.uuid))
          = (upTo codec election.journal (election.folds who).next).leader.map
            fun leader => (leader.candidate, leader.uuid))
      ∧ (∀ who other, (election.folds who).known → (election.folds other).known
        → (election.folds who).next = (election.folds other).next
        → (election.folds who).term = (election.folds other).term
          ∧ (election.folds who).leader.map (fun leader => (leader.candidate, leader.uuid))
            = (election.folds other).leader.map fun leader => (leader.candidate, leader.uuid))
      ∧ ∀ later : ElectionWorld ι, Reaches codec election later → ∀ who other first second,
        (election.folds who).leader = some first → (later.folds other).leader = some second
        → first.term = second.term
        → first.candidate.id = second.candidate.id ∧ first.uuid = second.uuid := by
  have ok := Reaches.sound run start_sound
  have agrees : ∀ who, (election.folds who).known
      → (election.folds who).next ≤ election.journal.length
        ∧ (election.folds who).term = (upTo codec election.journal (election.folds who).next).term
        ∧ (election.folds who).leader.map (fun leader => (leader.candidate, leader.uuid))
          = (upTo codec election.journal (election.folds who).next).leader.map
            fun leader => (leader.candidate, leader.uuid) := by
    intro who known
    obtain ⟨bound, same⟩ := (ok.folds who).agrees known
    obtain ⟨term, leader⟩ := face_eq.mp same
    have names := congrArg (Option.map fun face : Nat × Candidate × LeaderUuid × Nat =>
      (face.2.1, face.2.2.1)) leader
    rw [Option.map_map, Option.map_map] at names
    exact ⟨bound, term, names⟩
  refine ⟨agrees, fun who other known also same => ?_, fun later onward who other first second
    leads again terms => ?_⟩
  · obtain ⟨_, term, leader⟩ := agrees who known
    obtain ⟨_, term', leader'⟩ := agrees other also
    rw [same] at term leader
    exact ⟨term.trans term'.symm, leader.trans leader'.symm⟩
  · obtain ⟨position, whole, bound, held, alike⟩ := ok.leads leads
    obtain ⟨place, last, reached, found, faces⟩ := (Reaches.sound onward ok).leads again
    obtain ⟨more, grown⟩ := Reaches.journal onward
    rw [← upTo_append bound more, ← grown] at held
    have bound : position ≤ later.journal.length := by
      rw [grown, List.length_append]
      omega
    simp only [Leader.face, Prod.mk.injEq] at alike faces
    rw [← alike.2.1, ← alike.2.2.1, ← faces.2.1, ← faces.2.2.1]
    have terms : whole.term = last.term := alike.1.trans (terms.trans faces.1.symm)
    rcases Nat.le_total position place with order | order
    · exact upTo_unique order reached held found terms
    · exact (upTo_unique order bound found held terms.symm).imp Eq.symm Eq.symm

-- A leader and a watcher that begins at its renewal.

def ada : Candidate := ⟨1, [], []⟩

def adaLeads (since anchor : Nat) : ElectionFold :=
  ⟨1, some ⟨1, ada, 7, since, anchor⟩, true, none, none, [], anchor + 1⟩

theorem ada_campaigns
    : (ElectionFold.new.absorb codec 0 ((ElectionRecord.campaign 1 ada 7).encode codec)).1
      = adaLeads 0 0 := by
  have read := ElectionRecord.decode_encode codec
    (show (ElectionRecord.campaign 1 ada 7).isValid by decide)
  simp [absorb, read, new, rule, lead, adaLeads]

theorem ada_renews
    : ((adaLeads 0 0).absorb codec 1 ((ElectionRecord.renew 1 ada 7).encode codec)).1
        = adaLeads 0 1
      ∧ ((ElectionFold.new.gap 1).absorb codec 1
          ((ElectionRecord.renew 1 ada 7).encode codec)).1 = adaLeads 1 1 := by
  have read := ElectionRecord.decode_encode codec
    (show (ElectionRecord.renew 1 ada 7).isValid by decide)
  constructor
  · simp only [absorb, read]
    rfl
  · simp only [absorb, read]
    rfl

def pair (leader watcher : ElectionFold) : Bool → ElectionFold
  | true => leader
  | false => watcher

variable {journal : List Bytes} {floors : Set Nat} {sent : Set Bytes}
  {leader watcher fold : ElectionFold}

theorem Step.turn (who : Bool) (reads : Reads codec journal floors (pair leader watcher who) fold)
    : Step codec ⟨journal, floors, sent, pair leader watcher⟩ ⟨journal, floors, sent,
        pair (bif who then fold else leader) (bif who then watcher else fold)⟩ := by
  have same : Function.update (pair leader watcher) who fold
      = pair (bif who then fold else leader) (bif who then watcher else fold) := by
    funext other
    cases who <;> cases other <;> rfl
  rw [← same]
  exact .read who reads

/-- A watcher that begins at the floor agrees with the leader's own fold. -/
theorem folds_agree_at_floor
    : ∃ election : ElectionWorld Bool, Reaches ElectionCodec.counted start election
        ∧ election.folds true = adaLeads 0 1 ∧ election.folds false = adaLeads 1 1
        ∧ (election.folds true).term = (election.folds false).term := by
  let codec := ElectionCodec.counted
  let first := (ElectionRecord.campaign 1 ada 7).encode codec
  let second := (ElectionRecord.renew 1 ada 7).encode codec
  have begins : (start : ElectionWorld Bool) = ⟨[], {0}, ∅, pair .new .new⟩ := by
    rw [start]
    congr 1
    funext who
    cases who <;> rfl
  have run : Reaches codec ⟨[], {0}, ∅, pair .new .new⟩
      ⟨[first, second], {1, 0}, insert second (insert first ∅),
        pair (adaLeads 0 1) (adaLeads 1 1)⟩ := by
    refine .head (.send true (show (ElectionRecord.campaign 1 ada 7).isValid by decide) rfl) ?_
    refine .head (.land (show first ∈ insert first ∅ from Set.mem_insert _ _)) ?_
    refine .head (.turn true (.absorb (show [first][0]? = some first from rfl))) ?_
    simp only [pair, cond_true]
    rw [show ElectionFold.new.next = 0 from rfl, ada_campaigns]
    refine .head (.send true (show (ElectionRecord.renew 1 ada 7).isValid by decide)
      ⟨_, rfl, rfl, rfl, rfl⟩) ?_
    refine .head (.land (show second ∈ insert second _ from Set.mem_insert _ _)) ?_
    refine .head (.turn true (.absorb (show [first, second][1]? = some second from rfl))) ?_
    simp only [pair, cond_true]
    rw [show (adaLeads 0 0).next = 1 from rfl, ada_renews.1]
    refine .head (.truncate true
      (show (adaLeads 0 1).leader = some ⟨1, ada, 7, 0, 1⟩ from rfl)) ?_
    refine .head (.turn false (.gap (show 1 ∈ insert 1 _ from Set.mem_insert _ _))) ?_
    refine .head (.turn false (.absorb (show [first, second][1]? = some second from rfl))) ?_
    simp only [pair, cond_false]
    rw [show (ElectionFold.new.gap 1).next = 1 from rfl, ada_renews.2]
    exact .refl
  have agree := (folds_agree (begins ▸ run)).2.1 true false rfl rfl rfl
  exact ⟨_, begins ▸ run, rfl, rfl, agree.1⟩

end ElectionWorld

end Paros
