import Paros.Registry.Records

/-! How a fleet's tenants are placed: by the bucket their name falls in, which names a cell, or by
an override with a reason. A checkpoint writes the bucket table as runs.
-/

namespace Paros

/-- The longest start of a text that takes no more than a number of UTF-8 bytes. -/
def Text.cut (limit : Nat) : Text → Text
  | [] => []
  | char :: rest =>
    if char.utf8Size ≤ limit then char :: Text.cut (limit - char.utf8Size) rest else []

theorem Text.utf8Length_cut (limit : Nat) (text : Text)
    : (Text.cut limit text).utf8Length ≤ limit := by
  induction text generalizing limit with
  | nil => simp [Text.cut, Text.utf8Length]
  | cons char rest ih =>
    simp only [Text.cut]
    split_ifs with fits
    · have shorter := ih (limit - char.utf8Size)
      simp only [Text.utf8Length, List.map_cons, List.sum_cons] at shorter ⊢
      omega
    · simp [Text.utf8Length]

-- Buckets and placements

/-- How many buckets a universe has. -/
def bucketCount : Nat := 16384

/-- The longest override reason, in bytes. -/
def maxReason : Nat := 64

/-- One bit of a CRC16 in its XMODEM variant. -/
def crc16Bit (crc : UInt16) : UInt16 :=
  if crc &&& 0x8000 = 0 then crc <<< 1 else (crc <<< 1) ^^^ 0x1021

def crc16 (bytes : Bytes) : UInt16 :=
  bytes.foldl (fun crc byte => crc16Bit^[8] (crc ^^^ (byte.toUInt16 <<< (8 : UInt16)))) 0

/-- The bucket of a tenant's name. -/
def bucketOf (name : Bytes) : Nat := (crc16 name).toNat % bucketCount

example : bucketOf [49, 50, 51, 52, 53, 54, 55, 56, 57] = 12739 := by decide +kernel

/-- How a tenant was placed in its cell. -/
inductive Placement where
  | bucket
  | override (reason : Text) (short : reason.utf8Length ≤ maxReason)
  deriving DecidableEq

namespace Placement

def overrideFor (reason : Text) : Placement :=
  .override (Text.cut maxReason reason) (Text.utf8Length_cut maxReason reason)

def isBucket : Placement → Bool
  | bucket => true
  | override _ _ => false

/-- The kind and the reason. -/
def toWire : Placement → Nat × Text
  | bucket => (1, [])
  | override reason _ => (2, reason)

/-- A placement of kind zero was written before there were buckets: it reads as an override. -/
def fromWire (kind : Nat) (reason : Text) : Except String Placement :=
  if short : reason.utf8Length ≤ maxReason then
    match kind with
    | 0 => .ok (.override "placed before buckets".toList (by decide))
    | 1 => if reason.isEmpty then .ok .bucket else .error "an unknown placement"
    | 2 => .ok (.override reason short)
    | _ => .error "an unknown placement"
  else .error "an override reason is too long"

theorem fromWire_toWire (placement : Placement)
    : fromWire placement.toWire.1 placement.toWire.2 = .ok placement := by
  cases placement with
  | bucket => rfl
  | override reason short => simp only [toWire, fromWire, dif_pos short]

end Placement

/-- The buckets between two, both included. -/
structure BucketRange where
  first : Nat
  last : Nat
  ordered : first ≤ last
  bounded : last < bucketCount
  deriving DecidableEq

namespace BucketRange

def new (first last : Nat) : Option BucketRange :=
  if within : first ≤ last ∧ last < bucketCount then some ⟨first, last, within.1, within.2⟩ else none

def contains (range : BucketRange) (bucket : Nat) : Bool :=
  range.first ≤ bucket && bucket ≤ range.last

end BucketRange

-- The bucket table

/-- A run of buckets that name one cell, as a checkpoint writes it. -/
structure Wire.BucketRun where
  first : Nat
  last : Nat
  cellId : Nat
  deriving DecidableEq, Countable

/-- Which cell each bucket names: nothing before the first cell is added. -/
structure BucketTable where
  owners : List Nat
  sized : owners = [] ∨ owners.length = bucketCount

namespace BucketTable

def empty : BucketTable := ⟨[], .inl rfl⟩

def isEmpty (table : BucketTable) : Bool := table.owners.isEmpty

def cell (table : BucketTable) (bucket : Nat) : Option Nat := table.owners[bucket]?

def fill (cellId : Nat) : BucketTable :=
  ⟨List.replicate bucketCount cellId, .inr List.length_replicate⟩

/-- Give a range of buckets to a cell: nothing while no bucket names a cell. -/
def assign (table : BucketTable) (range : BucketRange) (cellId : Nat) : BucketTable where
  owners := table.owners.mapIdx fun bucket owner =>
    if range.contains bucket then cellId else owner
  sized := by simpa using table.sized

def holds (table : BucketTable) (range : BucketRange) (cellId : Nat) : Bool :=
  !table.isEmpty
    && ((table.owners.take (range.last + 1)).drop range.first).all (· = cellId)

def count (table : BucketTable) (cellId : Nat) : Nat := table.owners.count cellId

/-- The runs with one more bucket: it joins the last run when that one names its owner. -/
def extendRuns (runs : List Wire.BucketRun) (bucket owner : Nat) : List Wire.BucketRun :=
  match runs.getLast? with
  | some run =>
    if run.cellId = owner then runs.dropLast ++ [{ run with last := bucket }]
    else runs ++ [⟨bucket, bucket, owner⟩]
  | none => [⟨bucket, bucket, owner⟩]

/-- The table as runs, in bucket order. -/
def toWire (table : BucketTable) : List Wire.BucketRun :=
  table.owners.zipIdx.foldl (fun runs (owner, bucket) => extendRuns runs bucket owner) []

/-- The owners with those of one more run: it starts where they end. -/
def readRun (owners : List Nat) (run : Wire.BucketRun) : Except String (List Nat) :=
  if 2 ^ 16 ≤ run.first ∨ 2 ^ 16 ≤ run.last then .error "a bucket run is out of range"
  else if (BucketRange.new run.first run.last).isNone ∨ run.first ≠ owners.length
      ∨ run.cellId = 0 then
    .error "bucket runs do not cover the buckets once, in order"
  else .ok (owners ++ List.replicate (run.last + 1 - owners.length) run.cellId)

def fromWire (runs : List Wire.BucketRun) : Except String BucketTable :=
  (runs.foldlM readRun []).bind fun owners =>
    if sized : owners = [] ∨ owners.length = bucketCount then .ok ⟨owners, sized⟩
    else .error "bucket runs do not cover every bucket"

/-- The table of a checkpoint. One from before there were buckets holds none: each then names the
cell of the universe, once that one is added.
-/
def restore (runs : List Wire.BucketRun) (firstCell : Nat) (known : Nat → Bool)
    : Except String BucketTable := do
  let read ← fromWire runs
  let table := if read.isEmpty ∧ firstCell ≠ 0 then fill firstCell else read
  if table.owners.any (!known ·) then throw "a bucket names a cell the state does not hold"
  return table

-- Reading a table back

variable {owners : List Nat} {runs : List Wire.BucketRun}

/-- Runs that a table's owners are read from, with the last one kept apart so that it can grow. -/
inductive Covers : List Wire.BucketRun → List Nat → Prop where
  | nil : Covers [] []
  | snoc {runs : List Wire.BucketRun} {owners : List Nat} (covers : Covers runs owners) (more cellId : Nat)
    : Covers (runs ++ [⟨owners.length, owners.length + more, cellId⟩])
        (owners ++ List.replicate (more + 1) cellId)

theorem Covers.extend (covers : Covers runs owners) (owner : Nat)
    : Covers (extendRuns runs owners.length owner) (owners ++ [owner]) := by
  cases covers with
  | nil => exact .snoc .nil 0 owner
  | @snoc runs owners covers more cellId =>
    simp only [extendRuns, List.getLast?_concat, List.dropLast_concat]
    split_ifs with same
    · subst same
      have grown := covers.snoc (more + 1) cellId
      rwa [List.replicate_succ', ← List.append_assoc,
        show owners.length + (more + 1)
          = (owners ++ List.replicate (more + 1) cellId).length by simp] at grown
    · exact .snoc (covers.snoc more cellId) 0 owner

theorem covers_toWire (table : BucketTable) : Covers table.toWire table.owners := by
  have all : ∀ owners : List Nat, Covers
      (owners.zipIdx.foldl (fun runs (owner, bucket) => extendRuns runs bucket owner) []) owners := by
    intro owners
    induction owners using List.reverseRecOn with
    | nil => exact .nil
    | append_singleton owners owner ih =>
      rw [List.zipIdx_append, List.foldl_append, List.zipIdx_singleton, List.foldl_cons,
        List.foldl_nil, Nat.zero_add]
      exact ih.extend owner
  exact all table.owners

theorem Covers.read (covers : Covers runs owners) (bounded : owners.length ≤ bucketCount)
    (set : ∀ owner ∈ owners, owner ≠ 0)
    : runs.foldlM readRun [] = .ok owners := by
  induction covers with
  | nil => rfl
  | @snoc runs owners covers more cellId ih =>
    rw [List.length_append, List.length_replicate] at bounded
    have before := ih (by omega) fun owner member => set owner (List.mem_append_left _ member)
    have named : cellId ≠ 0 := set cellId (List.mem_append_right _ (by simp))
    have bound : bucketCount < 2 ^ 16 := by decide
    have within : owners.length ≤ owners.length + more
        ∧ owners.length + more < bucketCount := by omega
    rw [List.foldlM_append, before]
    simp only [List.foldlM_cons, List.foldlM_nil, bind, Except.bind, readRun, BucketRange.new,
      dif_pos within, Option.isNone_some, Bool.false_eq_true, ne_eq, not_true, named, or_self,
      if_false, pure, Except.pure]
    rw [if_neg (by omega), Nat.add_assoc, Nat.add_sub_cancel_left]

theorem fromWire_toWire (table : BucketTable) (set : ∀ owner ∈ table.owners, owner ≠ 0)
    : fromWire table.toWire = .ok table := by
  have bounded : table.owners.length ≤ bucketCount := by
    rcases table.sized with empty | full
    · simp [empty]
    · exact full.le
  rw [fromWire, table.covers_toWire.read bounded set]
  exact dif_pos table.sized

/-- A table of known cells is restored, when it is empty only before the universe has a cell. -/
theorem restore_toWire (table : BucketTable) {firstCell : Nat} {known : Nat → Bool}
    (set : ∀ owner ∈ table.owners, owner ≠ 0) (held : ∀ owner ∈ table.owners, known owner = true)
    (early : table.owners = [] → firstCell = 0)
    : restore table.toWire firstCell known = .ok table := by
  have kept : ¬(table.isEmpty = true ∧ firstCell ≠ 0) := fun unset =>
    unset.2 (early (List.isEmpty_iff.mp unset.1))
  have all : ¬table.owners.any (!known ·) = true := by simpa using held
  simp only [restore, table.fromWire_toWire set, bind, Except.bind, if_neg kept, if_neg all, pure,
    Except.pure]

-- Lookups

theorem fill_ne_nil (cellId : Nat) : (fill cellId).owners ≠ [] := by
  intro empty
  have length : (fill cellId).owners.length = bucketCount := List.length_replicate
  rw [empty] at length
  exact absurd length (by decide)

theorem cell_assign (table : BucketTable) (range : BucketRange) (cellId bucket : Nat)
    : (table.assign range cellId).cell bucket
      = (table.cell bucket).map fun owner => if range.contains bucket then cellId else owner := by
  simp [cell, assign]

theorem mem_assign {table : BucketTable} {range : BucketRange} {cellId owner : Nat}
    (member : owner ∈ (table.assign range cellId).owners)
    : owner = cellId ∨ owner ∈ table.owners := by
  obtain ⟨bucket, found⟩ := List.mem_iff_getElem?.mp member
  have read : (table.assign range cellId).cell bucket = some owner := found
  rw [cell_assign, Option.map_eq_some_iff] at read
  obtain ⟨held, before, same⟩ := read
  split_ifs at same
  · exact .inl same.symm
  · exact .inr (same ▸ List.mem_of_getElem? before)

end BucketTable

end Paros
