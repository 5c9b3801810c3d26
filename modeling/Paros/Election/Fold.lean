import Paros.Checkpoint.Folder
import Paros.Journal.State
import Paros.Registry.Tags

/-! The records of an election journal and the fold that every watcher of it runs. -/

namespace Paros

namespace Wire.Election

structure Leadership where
  uuid : Option LeaderUuid
  interface : Text
  reference : Bytes
  deriving Countable

inductive Kind where
  | campaign (lead : Leadership)
  | renew (lead : Leadership)
  | resign (successor : Nat) (lead : Leadership)
  deriving Countable

structure ElectionRecord where
  term : Nat
  candidate : Nat
  kind : Option Kind
  deriving Countable

end Wire.Election

/-- The message library's codec of election records. -/
structure ElectionCodec where
  encodeRecord : Wire.Election.ElectionRecord → Bytes
  decodeRecord : Bytes → Option Wire.Election.ElectionRecord
  decodeRecord_encodeRecord : ∀ record, decodeRecord (encodeRecord record) = some record

/-- A codec that writes a message's number in unary. -/
noncomputable def ElectionCodec.counted : ElectionCodec := ⟨unary, ofUnary, ofUnary_unary⟩

-- Records

structure Candidate where
  id : Nat
  interface : Text
  reference : Bytes
  deriving DecidableEq, Repr

inductive ElectionRecord where
  | campaign (term : Nat) (candidate : Candidate) (uuid : LeaderUuid)
  | renew (term : Nat) (candidate : Candidate) (uuid : LeaderUuid)
  | resign (term : Nat) (candidate : Nat) (successor : Option (Candidate × LeaderUuid))
  deriving DecidableEq, Repr

namespace ElectionRecord

def term : ElectionRecord → Nat
  | campaign term _ _ | renew term _ _ | resign term _ _ => term

/-- The leadership that a record at the floor describes. -/
def anchored : ElectionRecord → Option (Nat × Candidate × LeaderUuid)
  | .renew term candidate uuid | .campaign term candidate uuid => some (term, candidate, uuid)
  | .resign term _ (some (successor, uuid)) => some (term + 1, successor, uuid)
  | .resign _ _ none => none

/-- The start of every election record. -/
def magic : Bytes := [0, 80, 82, 83, 69, 76, 69, 1]

/-- What a writer asserts of a record: it names a term, a candidate and set uuids. -/
def isValid : ElectionRecord → Bool
  | campaign term candidate uuid | renew term candidate uuid =>
    term != 0 && candidate.id != 0 && uuid.isSet
  | resign term candidate successor =>
    term != 0 && candidate != 0 && successor.all fun (next, uuid) => next.id != 0 && uuid.isSet

def leadership (candidate : Candidate) (uuid : LeaderUuid) : Wire.Election.Leadership :=
  ⟨some uuid, candidate.interface, candidate.reference⟩

def toWire : ElectionRecord → Wire.Election.ElectionRecord
  | campaign term candidate uuid => ⟨term, candidate.id, some (.campaign (leadership candidate uuid))⟩
  | renew term candidate uuid => ⟨term, candidate.id, some (.renew (leadership candidate uuid))⟩
  | resign term candidate none => ⟨term, candidate, some (.resign 0 ⟨none, [], []⟩)⟩
  | resign term candidate (some (next, uuid)) =>
    ⟨term, candidate, some (.resign next.id (leadership next uuid))⟩

def encode (codec : ElectionCodec) (record : ElectionRecord) : Bytes :=
  magic ++ codec.encodeRecord record.toWire

/-- The candidate and the uuid that a leadership names, under a refusal when the uuid is unset. -/
def leader (id : Nat) (lead : Wire.Election.Leadership) (refusal : String)
    : Except String (Candidate × LeaderUuid) :=
  let uuid := lead.uuid.getD 0
  if uuid.isSet then .ok (⟨id, lead.interface, lead.reference⟩, uuid) else .error refusal

def fromWire (record : Wire.Election.ElectionRecord) : Except String ElectionRecord :=
  if record.term = 0 ∨ record.candidate = 0 then
    .error "an election record names a term and a candidate"
  else
    match record.kind with
    | none => .error "an election record names its kind"
    | some (.campaign lead) =>
      (leader record.candidate lead "a leadership names a set uuid").map fun (candidate, uuid) =>
        campaign record.term candidate uuid
    | some (.renew lead) =>
      (leader record.candidate lead "a leadership names a set uuid").map fun (candidate, uuid) =>
        renew record.term candidate uuid
    | some (.resign successor lead) =>
      if successor = 0 then .ok (resign record.term record.candidate none)
      else
        (leader successor lead "a hand-off names a set uuid").map fun next =>
          resign record.term record.candidate (some next)

/-- Nothing for a record that is not the election's, else what its body reads as. -/
def decode (codec : ElectionCodec) (record : Bytes) : Option (Except String ElectionRecord) :=
  if magic.isPrefixOf record then
    some <|
      match codec.decodeRecord (record.drop magic.length) with
      | none => .error "an election record does not decode"
      | some wire => fromWire wire
  else none

theorem fromWire_toWire {record : ElectionRecord} (valid : record.isValid)
    : fromWire record.toWire = .ok record := by
  cases record with
  | campaign term candidate uuid | renew term candidate uuid =>
    simp only [isValid, Bool.and_eq_true, bne_iff_ne] at valid
    simp [fromWire, toWire, leader, leadership, valid, Except.map]
  | resign term candidate successor =>
    cases successor with
    | none =>
      simp only [isValid, Option.all_none, Bool.and_true, Bool.and_eq_true, bne_iff_ne] at valid
      simp [fromWire, toWire, valid]
    | some next =>
      simp only [isValid, Option.all_some, Bool.and_eq_true, bne_iff_ne] at valid
      simp [fromWire, toWire, leader, leadership, valid, Except.map]

theorem decode_encode (codec : ElectionCodec) {record : ElectionRecord} (valid : record.isValid)
    : decode codec (record.encode codec) = some (.ok record) := by
  have marked : magic.isPrefixOf (record.encode codec) := by
    rw [List.isPrefixOf_iff_prefix]
    exact List.prefix_append _ _
  rw [decode, if_pos marked, encode, List.drop_left, codec.decodeRecord_encodeRecord]
  exact congrArg some (fromWire_toWire valid)

end ElectionRecord

-- The fold

/-- Who leads, with the positions of the record that began its lead and of its latest one. -/
structure Leader where
  term : Nat
  candidate : Candidate
  uuid : LeaderUuid
  since : Nat
  anchor : Nat
  deriving DecidableEq, Repr

/-- What folding one record changed. -/
inductive ElectionChange where
  | won (deposed : Option Nat)
  | handedOff (source : Nat)
  | renewed
  | vacated
  | adopted
  | lost (candidate : Nat)
  | ignored
  deriving DecidableEq, Repr

/-- The fold of an election journal. While it knows nothing, it awaits the record at a floor, or it
is at the tail and holds the records that it reads there.
-/
structure ElectionFold where
  term : Nat
  leader : Option Leader
  known : Bool
  floor : Option Nat
  tailTerm : Option Nat
  tail : List (Nat × Bytes)
  next : Nat
  deriving DecidableEq, Repr

namespace ElectionFold

def new : ElectionFold := ⟨0, none, true, none, none, [], 0⟩

variable (fold : ElectionFold)

def gap (floor : Nat) : ElectionFold :=
  if floor ≤ fold.next then fold
  else { fold with next := floor, known := false, floor := some floor, leader := none }

def resumeAtTail (floor tail : Nat) : ElectionFold :=
  if tail ≤ floor then fold.gap floor
  else if tail ≤ fold.next then fold
  else
    { fold with
      next := tail, known := false, floor := none, leader := none
      tailTerm := some (fold.tailTerm.getD fold.term), tail := [] }

def lead (term : Nat) (candidate : Candidate) (uuid : LeaderUuid) (seq : Nat) : ElectionFold :=
  { fold with
    term := term, known := true, floor := none, tailTerm := none, tail := []
    leader := some ⟨term, candidate, uuid, seq, seq⟩ }

/-- The rule, on a fold that knows the term. -/
def rule (seq : Nat) : ElectionRecord → ElectionFold × ElectionChange
  | .campaign term candidate uuid =>
    if term ≠ fold.term + 1 then (fold, .lost candidate.id)
    else (fold.lead term candidate uuid seq, .won (fold.leader.map (·.candidate.id)))
  | .renew term candidate uuid =>
    match fold.leader.filter fun leader =>
        leader.term = term ∧ leader.candidate.id = candidate.id ∧ leader.uuid = uuid with
    | some leader =>
      let published : Candidate :=
        { leader.candidate with
          interface := candidate.interface, reference := candidate.reference }
      ({ fold with leader := some { leader with anchor := seq, candidate := published } },
        .renewed)
    | none =>
      if fold.term < term then (fold.lead term candidate uuid seq, .adopted)
      else (fold, .ignored)
  | .resign term candidate successor =>
    if fold.leader.any fun leader => leader.term = term ∧ leader.candidate.id = candidate then
      match successor with
      | some (next, uuid) => (fold.lead (term + 1) next uuid seq, .handedOff candidate)
      | none => ({ fold with leader := none }, .vacated)
    else (fold, .ignored)

/-- A fold that knows nothing anchors on the record at its floor, and on no other. -/
def anchor (seq : Nat) (record : ElectionRecord) : ElectionFold × ElectionChange :=
  let passed : ElectionFold × ElectionChange :=
    ({ fold with term := max fold.term record.term }, .ignored)
  match record.anchored with
  | some (term, candidate, uuid) =>
    if fold.floor = some seq ∧ fold.term ≤ term then
      (fold.lead term candidate uuid seq, .adopted)
    else passed
  | none => passed

variable (codec : ElectionCodec)

/-- Fold the record at the next position. -/
def absorb (seq : Nat) (record : Bytes) : ElectionFold × ElectionChange :=
  let tail :=
    if fold.known then fold.tail
    else if fold.floor.isNone then fold.tail ++ [(seq, record)]
    else []
  let fold := { fold with next := seq + 1, tail := tail }
  match ElectionRecord.decode codec record with
  | some (.ok record) => if fold.known then fold.rule seq record else fold.anchor seq record
  | _ => (fold, .ignored)

/-- Fold held records from a position on. -/
def absorbFrom (codec : ElectionCodec) (floor : Nat) (fold : ElectionFold)
    : List (Nat × Bytes) → ElectionFold
  | [] => fold
  | (seq, record) :: rest =>
    absorbFrom codec floor (if floor ≤ seq then (fold.absorb codec seq record).1 else fold) rest

/-- Go back to a floor and fold the records held from there. -/
def replay (floor : Nat) : ElectionFold :=
  absorbFrom codec floor
    { fold with
      next := floor, floor := some floor, leader := none, tail := [], tailTerm := none
      term := fold.tailTerm.getD fold.term } fold.tail

/-- An answer reported the journal's floor; whether the fold anchored on it. -/
def floorSeen (floor : Nat) : ElectionFold × Bool :=
  if fold.known then (fold, false)
  else
    match fold.tail.head? with
    | none =>
      if fold.floor.isNone ∧ fold.next < floor then (fold.replay codec floor, false)
      else (fold, false)
    | some (start, _) =>
      let after := (fold.tail.getLast?.map fun held => held.1 + 1).getD start
      if floor < start then (fold, false)
      else if after ≤ floor ∧ fold.floor.isSome then (fold, false)
      else
        let replayed := fold.replay codec floor
        (replayed, replayed.known)

/-- Go back to the journal's floor; whether the fold still knows nothing. -/
def rewind (floor : Nat) : ElectionFold × Bool :=
  if fold.known then (fold, false)
  else
    let (seen, anchored) := fold.floorSeen codec floor
    if anchored then (seen, false)
    else if seen.floor.isNone then
      ({ seen with
          next := floor, floor := some floor, leader := none, tailTerm := none
          term := seen.tailTerm.getD seen.term }, true)
    else (seen, true)

/-- The fold of a journal from its first position. -/
def ofJournal (journal : List Bytes) : ElectionFold :=
  journal.foldl (fun fold record => (fold.absorb codec fold.next record).1) new

end ElectionFold

end Paros
