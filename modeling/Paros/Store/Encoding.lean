import Paros.Checkpoint.Folder
import Paros.Library.CommitJournal
import Paros.Types

/-! What the durable stores write to their journals: versioned encodings, the identities of entries
and the faults that a boot reports.
-/

namespace Paros

/-- The serialisation library's format of one type. -/
structure Postcard (α : Type) where
  write : α → Bytes
  read : Bytes → Option α
  read_write : ∀ value, read (write value) = some value

/-- A format that writes a value's number in unary. -/
noncomputable def Postcard.counted (α : Type) [Countable α] : Postcard α :=
  ⟨unary, ofUnary, ofUnary_unary⟩

/-- The version of the encodings (the source's `FORMAT_VERSION`). -/
def formatVersion : UInt8 := 6

section Encoding

variable {α : Type} (form : Postcard α)

def encode (value : α) : Bytes := formatVersion :: form.write value

def decode : Bytes → Option α
  | [] => none
  | version :: body => if version = formatVersion then form.read body else none

@[simp]
theorem decode_encode (value : α) : decode form (encode form value) = some value := by
  simp [encode, decode, form.read_write]

theorem encode_injective : Function.Injective (encode form) := fun value other same =>
  Option.some.inj ((decode_encode form value).symm.trans (same ▸ decode_encode form other))

end Encoding

-- Entries

/-- The identity of an entry: two words, a kind and the bytes after it. -/
structure EntryId where
  first : Nat
  second : Nat
  kind : Nat
  rest : Nat
  deriving DecidableEq

def ballotId (ballot : Ballot) (kind : Nat) : EntryId := ⟨ballot.round, ballot.node, kind, 0⟩

def idBallot (id : EntryId) : Ballot × Nat := (⟨id.first, id.second⟩, id.kind)

@[simp]
theorem idBallot_ballotId (ballot : Ballot) (kind : Nat)
    : idBallot (ballotId ballot kind) = (ballot, kind) :=
  rfl

abbrev StoreEntry := CommitJournal.Entry EntryId Bytes

abbrev StoreDisk := CommitJournal.Disk EntryId Bytes Bytes

abbrev StoreDrive := CommitJournal.Drive EntryId Bytes Bytes

abbrev StoreBatch := CommitJournal.Batch EntryId Bytes Bytes

abbrev StoreCommit := CommitJournal.Commit EntryId Bytes Bytes

-- Faults

inductive StorageRecord where
  | promise
  | accepted (slot : Nat)
  | matchmakerScalars
  | registration (ballot : Ballot)
  deriving DecidableEq

inductive IntegrityFault where
  | checksumMismatch
  | lostWrite
  | misdirected
  deriving DecidableEq

inductive CorruptionVerdict where
  | corrupted
  | undecidable
  deriving DecidableEq

/-- Why a store does not boot. Failures of the device itself are left out. -/
inductive StorageError where
  | corruption (record : StorageRecord) (fault : IntegrityFault) (verdict : CorruptionVerdict)
  deriving DecidableEq

def undecodable (record : StorageRecord) : StorageError := .corruption record .misdirected .corrupted

end Paros
