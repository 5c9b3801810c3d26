import Mathlib

/-! Checkpoint runs inside a journal and the fold that reads them: entries are applied in
position order, a run is collected from its first record and restored, or verified, at its last
one, and a gap is healed by the next run.
-/

namespace Paros

abbrev Bytes := List UInt8

section Unary

variable {α : Type} [Countable α]

/-- A message's number in unary, for codecs of which nothing but the round trip is known. -/
noncomputable def unary (message : α) : Bytes :=
  List.replicate ((exists_injective_nat α).choose message) 0

noncomputable def ofUnary (bytes : Bytes) : Option α :=
  Function.partialInv (exists_injective_nat α).choose bytes.length

theorem ofUnary_unary (message : α) : ofUnary (unary message) = some message := by
  simp [unary, ofUnary, Function.partialInv_left (exists_injective_nat α).choose_spec]

end Unary

-- Run records

/-- The mark of a run record: `\0PRSCKP\1`. -/
def magic : Bytes := [0, 80, 82, 83, 67, 75, 80, 1]

inductive CheckpointRecord where
  | begins (coversUpTo : Nat)
  | chunk (bytes : Bytes)
  | ends (chunks : Nat) (checksum : UInt32)
  deriving DecidableEq, Repr

/-- The libraries that runs are written with. The message library's codec of a record's body reads
back what it wrote; a body may not decode, and a decoded message may name no form. Of the checksum
library's CRC-32C nothing is asked.
-/
structure RecordCodec where
  encode : CheckpointRecord → Bytes
  decode : Bytes → Option (Option CheckpointRecord)
  crc32cAppend : UInt32 → Bytes → UInt32
  decode_encode : ∀ record, decode (encode record) = some (some record)

namespace CheckpointRecord

def encode (codec : RecordCodec) (record : CheckpointRecord) : Bytes :=
  magic ++ codec.encode record

def decodeBody (codec : RecordCodec) (body : Bytes) : Except String CheckpointRecord :=
  match codec.decode body with
  | none => .error "a checkpoint record does not decode"
  | some none => .error "a checkpoint record names no form"
  | some (some record) => .ok record

/-- Read a record back: nothing when it is an entry, an error when it carries the mark and does
not decode.
-/
def decode (codec : RecordCodec) (record : Bytes) : Option (Except String CheckpointRecord) :=
  if magic.isPrefixOf record then some (decodeBody codec (record.drop magic.length)) else none

@[simp]
theorem decode_encode (codec : RecordCodec) (record : CheckpointRecord)
    : decode codec (encode codec record) = some (.ok record) := by
  simp [decode, encode, decodeBody, codec.decode_encode]

end CheckpointRecord

-- Runs

/-- The checksum a run's last record names: of its chunks concatenated. -/
def chunksChecksum (codec : RecordCodec) (chunks : List Bytes) : UInt32 :=
  chunks.foldl codec.crc32cAppend 0

/-- Cut bytes into pieces of a size; as many rounds as there are bytes are enough. -/
def cutInto (size : Nat) : Nat → Bytes → List Bytes
  | 0, _ => []
  | rounds + 1, bytes =>
    if bytes.isEmpty then [] else bytes.take size :: cutInto size rounds (bytes.drop size)

/-- The pieces of a state, of at most `chunkBytes` bytes and at least one. -/
def chunksOf (chunkBytes : Nat) (state : Bytes) : List Bytes :=
  cutInto (max chunkBytes 1) state.length state

/-- The run that checkpoints a state at a position. -/
def run (codec : RecordCodec) (coversUpTo : Nat) (state : Bytes) (chunkBytes : Nat)
    : List Bytes :=
  let chunks := chunksOf chunkBytes state
  (CheckpointRecord.begins coversUpTo).encode codec
    :: chunks.map (fun chunk => (CheckpointRecord.chunk chunk).encode codec)
    ++ [(CheckpointRecord.ends chunks.length (chunksChecksum codec chunks)).encode codec]

theorem cutInto_flatten {size : Nat} (positive : 0 < size) (rounds : Nat) {bytes : Bytes}
    (enough : bytes.length ≤ rounds)
    : (cutInto size rounds bytes).flatten = bytes := by
  induction rounds generalizing bytes with
  | zero => simp_all [cutInto]
  | succ rounds ih =>
    unfold cutInto
    split_ifs with empty
    · simp_all
    · have some : 0 < bytes.length := List.length_pos_iff.mpr (by simpa using empty)
      rw [List.flatten_cons, ih (by rw [List.length_drop]; omega), List.take_append_drop]

theorem chunksOf_flatten (chunkBytes : Nat) (state : Bytes)
    : (chunksOf chunkBytes state).flatten = state :=
  cutInto_flatten (by omega) _ le_rfl

-- The fold

/-- The state a journal's owner folds. A restore gives the reason it was refused for, if any,
and the state it left.
-/
structure Checkpointable (S E : Type) where
  apply : S → Nat → Bytes → S × E
  checkpoint : S → Bytes
  restore : S → Nat → Bytes → Option String × S

inductive Folded (E : Type) where
  | entry (event : E)
  | checkpoint (coversUpTo : Nat) (verified : Option Bool)
  | run
  | skipped
  | unreadable (reason : String)
  deriving DecidableEq, Repr

/-- A run being collected. -/
structure OpenRun where
  begin : Nat
  state : Bytes
  chunks : Nat
  checksum : UInt32
  deriving DecidableEq, Repr

structure Folder (S : Type) where
  state : S
  next : Nat
  whole : Bool
  run : Option OpenRun
  sinceEntries : Nat
  sinceBytes : Nat

namespace OpenRun

def opened (position : Nat) : OpenRun := ⟨position, [], 0, 0⟩

def collect (codec : RecordCodec) (run : OpenRun) (bytes : Bytes) : OpenRun :=
  { run with
    state := run.state ++ bytes
    chunks := run.chunks + 1
    checksum := codec.crc32cAppend run.checksum bytes }

/-- Whether the next record of a run stands at a position. -/
def continuesAt (run : OpenRun) (position : Nat) : Bool := run.begin + 1 + run.chunks == position

end OpenRun

namespace Folder

variable {S E : Type} (ops : Checkpointable S E) (codec : RecordCodec)

def new (state : S) : Folder S := ⟨state, 0, true, none, 0, 0⟩

/-- Move past positions that are gone. -/
def jump (folder : Folder S) (floor : Nat) : Folder S :=
  if folder.next < floor then { folder with next := floor, whole := false, run := none }
  else folder

def dropRun (folder : Folder S) : Folder S := { folder with run := none }

/-- Restore, or verify, from a valid run. Nothing stands for a failed assertion. -/
def restore (folder : Folder S) (begin : Nat) (state : Bytes) : Option (Folder S × Folded E) :=
  if folder.run.isSome || folder.next ≤ begin then none
  else
    let verified := if folder.whole then some (ops.checkpoint folder.state == state) else none
    if verified = some true then
      some ({ folder with sinceEntries := 0, sinceBytes := 0 }, .checkpoint begin verified)
    else
      match ops.restore folder.state begin state with
      | (none, restored) =>
        some ({ folder with
          state := restored, whole := true, sinceEntries := 0, sinceBytes := 0 },
          .checkpoint begin verified)
      | (some reason, left) => some ({ folder with state := left }, .unreadable reason)

/-- The part of `fold` past its position check: the record at `seq`, the fold standing past it.
Nothing stands for a failed assertion.
-/
def foldRecord (folder : Folder S) (seq : Nat) (record : Bytes) : Option (Folder S × Folded E) :=
  match CheckpointRecord.decode codec record with
  | none =>
    -- an entry ends a run that its owner stopped inside
    let dropped := folder.dropRun
    if dropped.whole then
      let (state, event) := ops.apply dropped.state seq record
      some ({ dropped with
        state := state
        sinceEntries := dropped.sinceEntries + 1
        sinceBytes := dropped.sinceBytes + record.length }, .entry event)
    else some (dropped, .skipped)
  | some (.error reason) => some (folder.dropRun, .unreadable reason)
  | some (.ok (.begins coversUpTo)) =>
    if coversUpTo ≠ seq then
      some (folder.dropRun, .unreadable "a checkpoint run not at its own horizon")
    else some ({ folder with run := some (.opened seq) }, .run)
  | some (.ok (.chunk bytes)) =>
    match folder.run with
    | none => some (folder, .run)
    | some run =>
      if run.continuesAt seq then
        some ({ folder with run := some (run.collect codec bytes) }, .run)
      else none
  | some (.ok (.ends chunks checksum)) =>
    match folder.run with
    | none => some (folder, .unreadable "a checkpoint end with no run")
    | some run =>
      if run.chunks ≠ chunks then
        some (folder.dropRun, .unreadable "a checkpoint run with a wrong chunk count")
      else if run.checksum ≠ checksum then
        some (folder.dropRun, .unreadable "a checkpoint run that fails its checksum")
      else if run.continuesAt seq then folder.dropRun.restore ops run.begin run.state
      else none

/-- Fold the record at a position: no event for one already folded, and a gap jumped first.
Nothing stands for a failed assertion.
-/
def fold (folder : Folder S) (seq : Nat) (record : Bytes)
    : Option (Folder S × Option (Folded E)) :=
  if seq < folder.next then some (folder, none)
  else
    let jumped := folder.jump seq
    if jumped.next ≠ seq then none
    else
      (foldRecord ops codec { jumped with next := seq + 1 } seq record).map
        fun (folded, event) => (folded, some event)

/-- Fold records at consecutive positions, from the next one on. -/
def foldAll : Folder S → List Bytes → Option (Folder S × List (Option (Folded E)))
  | folder, [] => some (folder, [])
  | folder, record :: rest =>
    (fold ops codec folder folder.next record).bind fun (folded, event) =>
      (foldAll folded rest).map fun (last, events) => (last, event :: events)

end Folder

end Paros
