import Paros.Library.OrderedMap

/-! A journal of numbered entries that is written in commits, and what a crash leaves of it.
Commits are durable in order. A commit's metainfo and floor are written only once its entries are
durable; a crash inside a commit keeps any part of its entries and clears.
-/

namespace CommitJournal

-- Journals and commits

/-- Damage to an entry. In the last batch a torn write and a rotten one may look alike. -/
inductive Damage where
  | corrupt
  | ambiguous
  deriving DecidableEq

/-- An entry on disk. The payload of a damaged entry is what was written; a reader only gets the
identity.
-/
structure Entry (ι β : Type*) where
  id : ι
  payload : β
  damage : Option Damage

/-- A journal on disk. -/
structure Disk (ι β μ : Type*) where
  entries : OrderedMap Nat (Entry ι β)
  floor : Nat
  metainfo : μ

/-- What one commit writes: entries, cleared ranges of positions (end excluded), a floor and a
metainfo.
-/
structure Batch (ι β μ : Type*) where
  puts : OrderedMap Nat (ι × β)
  clears : List (Nat × Nat)
  floor : Option Nat
  metainfo : Option μ

/-- A commit of a batch, or the creation of the journal with its first metainfo. -/
inductive Commit (ι β μ : Type*) where
  | create (metainfo : μ)
  | batch (batch : Batch ι β μ)

/-- A place where there may be a journal. -/
abbrev Drive (ι β μ : Type*) := Option (Disk ι β μ)

variable {ι β μ : Type*}

namespace Batch

def empty : Batch ι β μ := ⟨∅, [], none, none⟩

def isEmpty (batch : Batch ι β μ) : Bool :=
  batch.puts.isEmpty && batch.clears.isEmpty && batch.floor.isNone && batch.metainfo.isNone

def put (batch : Batch ι β μ) (position : Nat) (id : ι) (payload : β) : Batch ι β μ :=
  { batch with puts := batch.puts.insert position (id, payload) }

/-- Whether the batch clears a position. -/
def clearsAt (batch : Batch ι β μ) (position : Nat) : Bool :=
  batch.clears.any fun (first, last) => first ≤ position && position < last

/-- A batch of entries alone. -/
def Plain (batch : Batch ι β μ) : Prop :=
  batch.clears = [] ∧ batch.floor = none ∧ batch.metainfo = none

end Batch

namespace Disk

def commit (disk : Disk ι β μ) (batch : Batch ι β μ) : Disk ι β μ where
  entries := (disk.entries ∪ batch.puts.map fun _ (id, payload) => ⟨id, payload, none⟩).filter
    fun position _ => !batch.clearsAt position && batch.floor.getD 0 ≤ position
  floor := max disk.floor (batch.floor.getD 0)
  metainfo := batch.metainfo.getD disk.metainfo

end Disk

namespace Drive

def apply : Drive ι β μ → Commit ι β μ → Drive ι β μ
  | none, .create metainfo => some ⟨∅, 0, metainfo⟩
  | none, .batch _ => none
  | some disk, .create _ => some disk
  | some disk, .batch batch => some (disk.commit batch)

def applyAll (drive : Drive ι β μ) (commits : List (Commit ι β μ)) : Drive ι β μ :=
  commits.foldl apply drive

/-- The floor of a journal that is not there yet is zero. -/
def floor (drive : Drive ι β μ) : Nat := drive.elim 0 Disk.floor

def entryAt (drive : Drive ι β μ) (position : Nat) : Option (Entry ι β) :=
  drive.bind fun disk => disk.entries[position]?

end Drive

-- What a crash leaves

/-- Part of a batch's entries and clears reached the disk; its metainfo and floor did not. -/
structure Batch.Partial (batch : Batch ι β μ) (disk torn : Disk ι β μ) : Prop where
  floor : torn.floor = disk.floor
  metainfo : torn.metainfo = disk.metainfo
  entries
    : ∀ position : Nat, torn.entries[position]? = disk.entries[position]?
      ∨ (∃ id payload, batch.puts[position]? = some (id, payload)
        ∧ torn.entries[position]? = some ⟨id, payload, none⟩)
      ∨ batch.clearsAt position ∧ torn.entries[position]? = none

/-- What a crash leaves of a drive that was writing commits. -/
inductive Crash : Drive ι β μ → List (Commit ι β μ) → Drive ι β μ → Prop
  | before {drive commits} : Crash drive commits drive
  | inside {disk torn batch commits} (part : batch.Partial disk torn)
    : Crash (some disk) (.batch batch :: commits) (some torn)
  | after {drive commit commits left} (later : Crash (drive.apply commit) commits left)
    : Crash drive (commit :: commits) left

/-- Entries of a journal at rest may be damaged. -/
structure Disk.Decays (disk decayed : Disk ι β μ) : Prop where
  floor : decayed.floor = disk.floor
  metainfo : decayed.metainfo = disk.metainfo
  entries
    : ∀ position : Nat, decayed.entries[position]? = disk.entries[position]?
      ∨ ∃ entry damage, disk.entries[position]? = some entry
        ∧ decayed.entries[position]? = some { entry with damage := some damage }

inductive Drive.Decays : Drive ι β μ → Drive ι β μ → Prop
  | absent : Drive.Decays none none
  | present {disk decayed} (decay : disk.Decays decayed) : Drive.Decays (some disk) (some decayed)

theorem Drive.Decays.floor {drive decayed : Drive ι β μ} (decay : Drive.Decays drive decayed)
    : decayed.floor = drive.floor := by
  cases decay with
  | absent => rfl
  | present decay => exact decay.floor

theorem Drive.Decays.refl {drive : Drive ι β μ} : Drive.Decays drive drive := by
  cases drive with
  | none => exact .absent
  | some disk => exact .present ⟨rfl, rfl, fun _ => Or.inl rfl⟩

/-- Commits that every crash survives: a crash leaves a drive with the property, and without a
crash the drive ends as `final`.
-/
structure Survives (property : Drive ι β μ → Prop) (start : Drive ι β μ)
    (commits : List (Commit ι β μ)) (final : Drive ι β μ)
    : Prop where
  crash : ∀ left, Crash start commits left → property left
  done : start.applyAll commits = final

namespace Survives

variable {property : Drive ι β μ → Prop} {start middle final : Drive ι β μ}
  {commits later : List (Commit ι β μ)} {disk : Disk ι β μ} {batch : Batch ι β μ}

theorem nil (held : property start) : Survives property start [] start where
  crash left crash := by
    cases crash
    exact held
  done := rfl

theorem create {metainfo : μ} (before : property none) (after : property (some ⟨∅, 0, metainfo⟩))
    : Survives property none [.create metainfo] (some ⟨∅, 0, metainfo⟩) where
  crash left crash := by
    cases crash with
    | before => exact before
    | after later =>
      cases later
      exact after
  done := rfl

theorem commit (before : property (some disk))
    (inside : ∀ torn, batch.Partial disk torn → property (some torn))
    (after : property (some (disk.commit batch)))
    : Survives property (some disk) [.batch batch] (some (disk.commit batch)) where
  crash left crash := by
    cases crash with
    | before => exact before
    | inside part => exact inside _ part
    | after later =>
      cases later
      exact after
  done := rfl

theorem append (first : Survives property start commits middle)
    (second : Survives property middle later final)
    : Survives property start (commits ++ later) final where
  crash left crash := by
    induction commits generalizing start with
    | nil =>
      have same : start = middle := first.done
      exact second.crash left (same ▸ crash)
    | cons commit commits ih =>
      cases crash with
      | before => exact first.crash _ .before
      | inside part => exact first.crash _ (.inside part)
      | after rest => exact ih ⟨fun left crash => first.crash left (.after crash), first.done⟩ rest
  done := by
    rw [Drive.applyAll, List.foldl_append]
    exact (congrArg (List.foldl Drive.apply · later) first.done).trans second.done

end Survives

-- Batches of entries

/-- A disk with some of the listed entries written over it. -/
structure Disk.Mixes (all : OrderedMap Nat (ι × β)) (disk mixed : Disk ι β μ) : Prop where
  floor : mixed.floor = disk.floor
  metainfo : mixed.metainfo = disk.metainfo
  entries
    : ∀ position : Nat, mixed.entries[position]? = disk.entries[position]?
      ∨ ∃ id payload, all[position]? = some (id, payload)
        ∧ mixed.entries[position]? = some ⟨id, payload, none⟩

theorem Disk.getElem?_commit {disk : Disk ι β μ} {batch : Batch ι β μ} {position : Nat}
    : (disk.commit batch).entries[position]?
      = if !batch.clearsAt position && batch.floor.getD 0 ≤ position then
          ((batch.puts[position]?).map fun (id, payload) => ⟨id, payload, none⟩).or
            disk.entries[position]?
        else none := by
  rw [Disk.commit, OrderedMap.getElem?_filterKeys
    (fun position => !batch.clearsAt position && decide (batch.floor.getD 0 ≤ position)),
    Std.ExtTreeMap.getElem?_union, Std.ExtTreeMap.getElem?_map]

namespace Batch

variable {disk torn : Disk ι β μ} {batch : Batch ι β μ} {all : OrderedMap Nat (ι × β)}

theorem Plain.clearsAt (plain : batch.Plain) (position : Nat) : batch.clearsAt position = false := by
  simp only [Batch.clearsAt, plain.1, List.any_nil]

theorem Plain.getElem?_commit (plain : batch.Plain) {position : Nat}
    : (disk.commit batch).entries[position]?
      = ((batch.puts[position]?).map fun (id, payload) => ⟨id, payload, none⟩).or
          disk.entries[position]? := by
  rw [Disk.getElem?_commit, plain.clearsAt, plain.2.1]
  simp

theorem plain_empty : (empty : Batch ι β μ).Plain := ⟨rfl, rfl, rfl⟩

theorem Plain.put (plain : batch.Plain) {position : Nat} {id : ι} {payload : β}
    : (batch.put position id payload).Plain :=
  plain

/-- A batch without clears that is torn leaves a mix. -/
theorem Partial.mixes (part : batch.Partial disk torn) (whole : batch.clears = [])
    (within : ∀ (position : Nat) put, batch.puts[position]? = some put → all[position]? = some put)
    : disk.Mixes all torn where
  floor := part.floor
  metainfo := part.metainfo
  entries position := by
    rcases part.entries position with same | ⟨id, payload, listed, written⟩ | ⟨cleared, _⟩
    · exact Or.inl same
    · exact Or.inr ⟨id, payload, within position _ listed, written⟩
    · simp [Batch.clearsAt, whole] at cleared

end Batch

namespace Disk.Mixes

variable {disk mixed last : Disk ι β μ} {batch : Batch ι β μ} {all : OrderedMap Nat (ι × β)}

theorem refl : disk.Mixes all disk := ⟨rfl, rfl, fun _ => Or.inl rfl⟩

theorem trans (first : disk.Mixes all mixed) (second : mixed.Mixes all last) : disk.Mixes all last where
  floor := second.floor.trans first.floor
  metainfo := second.metainfo.trans first.metainfo
  entries position := by
    rcases second.entries position with same | written
    · rw [same]
      exact first.entries position
    · exact Or.inr written

theorem commit (plain : batch.Plain)
    (within : ∀ (position : Nat) put, batch.puts[position]? = some put → all[position]? = some put)
    : disk.Mixes all (disk.commit batch) where
  floor := by simp [Disk.commit, plain.2.1]
  metainfo := by simp [Disk.commit, plain.2.2]
  entries position := by
    rw [plain.getElem?_commit]
    cases put : batch.puts[position]? with
    | none => exact Or.inl rfl
    | some value => exact Or.inr ⟨value.1, value.2, within position value put, rfl⟩

/-- An entry that is written already stays. -/
theorem keeps (mix : disk.Mixes all mixed) {position : Nat} {id : ι} {payload : β}
    (listed : all[position]? = some (id, payload))
    (written : disk.entries[position]? = some ⟨id, payload, none⟩)
    : mixed.entries[position]? = some ⟨id, payload, none⟩ := by
  rcases mix.entries position with same | ⟨other, bytes, again, rewritten⟩
  · rw [same, written]
  · obtain ⟨rfl, rfl⟩ := Prod.mk.inj (Option.some.inj (again.symm.trans listed))
    exact rewritten

end Disk.Mixes

/-- Plain batches of listed entries. -/
structure Packs (all : OrderedMap Nat (ι × β)) (batches : List (Batch ι β μ)) : Prop where
  plain : ∀ batch ∈ batches, batch.Plain
  within
    : ∀ batch ∈ batches, ∀ (position : Nat) put,
      batch.puts[position]? = some put → all[position]? = some put

/-- Commits of plain batches: a crash leaves a mix, and in the end every entry is written. -/
theorem Survives.plain {property : Drive ι β μ → Prop} {all : OrderedMap Nat (ι × β)}
    {batches : List (Batch ι β μ)} {disk : Disk ι β μ}
    (safe : ∀ mixed, disk.Mixes all mixed → property (some mixed))
    (packs : Packs all batches)
    : ∃ mixed, Survives property (some disk) (batches.map .batch) (some mixed)
      ∧ disk.Mixes all mixed
      ∧ ∀ batch ∈ batches, ∀ (position : Nat) id payload,
        batch.puts[position]? = some (id, payload)
        → mixed.entries[position]? = some ⟨id, payload, none⟩ := by
  induction batches generalizing disk with
  | nil => exact ⟨disk, .nil (safe disk .refl), .refl, by simp⟩
  | cons batch batches ih =>
    obtain ⟨plain, within⟩ := packs
    rw [List.forall_mem_cons] at plain within
    have mix : disk.Mixes all (disk.commit batch) := .commit plain.1 within.1
    obtain ⟨mixed, rest, onward, written⟩ := ih
      (fun _ later => safe _ (mix.trans later)) ⟨plain.2, within.2⟩
    have one : Survives property (some disk) [.batch batch] (some (disk.commit batch)) :=
      .commit (safe disk .refl) (fun _ part => safe _ (part.mixes plain.1.1 within.1))
        (safe _ mix)
    refine ⟨mixed, one.append rest, mix.trans onward, ?_⟩
    rw [List.forall_mem_cons]
    refine ⟨fun position id payload listed => ?_, written⟩
    refine onward.keeps (within.1 position _ listed) ?_
    rw [plain.1.getElem?_commit, listed]
    rfl

-- Packing entries into batches

/-- Cut a list of entries into batches, a new one where the next entry does not fit. The last
batch stays open.
-/
def pack (fits : Batch ι β μ → β → Bool)
    : List (Nat × ι × β) → Batch ι β μ → List (Batch ι β μ) × Batch ι β μ
  | [], batch => ([], batch)
  | (position, id, payload) :: rest, batch =>
    if !batch.isEmpty && !fits batch payload then
      let (closed, last) := pack fits rest (Batch.empty.put position id payload)
      (batch :: closed, last)
    else
      pack fits rest (batch.put position id payload)

section Packing

variable {fits : Batch ι β μ → β → Bool} {all : OrderedMap Nat (ι × β)}
  {puts : List (Nat × ι × β)} {batch : Batch ι β μ}

theorem Packs.put {position : Nat} {id : ι} {payload : β} (packs : Packs all [batch])
    (listed : all[position]? = some (id, payload))
    : Packs all [batch.put position id payload] where
  plain := by
    rw [List.forall_mem_singleton]
    exact (packs.plain batch List.mem_cons_self).put
  within := by
    rw [List.forall_mem_singleton]
    intro other put held
    rw [Batch.put, OrderedMap.getElem?_insert] at held
    split at held
    case isTrue same => exact same ▸ held ▸ listed
    case isFalse => exact packs.within batch List.mem_cons_self other put held

theorem packs_empty : Packs all [(Batch.empty : Batch ι β μ)] where
  plain := by simp [Batch.plain_empty]
  within := by simp [Batch.empty]

theorem Packs.append {batches more : List (Batch ι β μ)} (first : Packs all batches)
    (second : Packs all more)
    : Packs all (batches ++ more) where
  plain := List.forall_mem_append.mpr ⟨first.plain, second.plain⟩
  within := List.forall_mem_append.mpr ⟨first.within, second.within⟩

/-- The packed batches are plain and hold listed entries only. -/
theorem pack_packs (packs : Packs all [batch]) (listed : ∀ entry ∈ puts, all[entry.1]? = some entry.2)
    : Packs all ((pack fits puts batch).1 ++ [(pack fits puts batch).2]) := by
  induction puts generalizing batch with
  | nil => exact packs
  | cons entry rest ih =>
    obtain ⟨position, id, payload⟩ := entry
    rw [List.forall_mem_cons] at listed
    rw [pack]
    split
    · exact packs.append (ih (packs_empty.put listed.1) listed.2)
    · exact ih (packs.put listed.1) listed.2

/-- Every entry is in one of the packed batches. -/
theorem exists_mem_pack (listed : ∀ entry ∈ puts, all[entry.1]? = some entry.2)
    (packs : Packs all [batch]) {position : Nat} {put : ι × β}
    (given : batch.puts[position]? = some put ∨ (position, put) ∈ puts)
    : ∃ packed ∈ (pack fits puts batch).1 ++ [(pack fits puts batch).2],
        packed.puts[position]? = some put := by
  induction puts generalizing batch with
  | nil =>
    rcases given with held | impossible
    · exact ⟨batch, List.mem_cons_self, held⟩
    · cases impossible
  | cons entry rest ih =>
    obtain ⟨next, id, payload⟩ := entry
    rw [List.forall_mem_cons] at listed
    rw [pack]
    split
    · rcases given with held | member
      · exact ⟨batch, List.mem_cons_self, held⟩
      · obtain ⟨packed, inside, found⟩ := ih listed.2 (packs_empty.put listed.1)
          (by
            rcases List.mem_cons.mp member with same | later
            · cases same
              exact Or.inl (by simp [Batch.put])
            · exact Or.inr later)
        exact ⟨packed, List.mem_cons_of_mem _ inside, found⟩
    · refine ih listed.2 (packs.put listed.1) ?_
      rcases given with held | member
      · refine Or.inl ?_
        rw [Batch.put, OrderedMap.getElem?_insert]
        split
        case isTrue same =>
          have known := packs.within batch List.mem_cons_self position put held
          exact (same ▸ listed.1).symm.trans known
        case isFalse => exact held
      · rcases List.mem_cons.mp member with same | later
        · cases same
          exact Or.inl (by simp [Batch.put])
        · exact Or.inr later

/-- Some entries leave the open batch with one. -/
theorem pack_isEmpty (given : batch.isEmpty = false ∨ puts ≠ [])
    : (pack fits puts batch).2.isEmpty = false := by
  induction puts generalizing batch with
  | nil => simpa [pack] using given
  | cons entry rest ih =>
    obtain ⟨position, id, payload⟩ := entry
    have put : ∀ batch : Batch ι β μ, (batch.put position id payload).isEmpty = false := by
      simp [Batch.put, Batch.isEmpty]
    rw [pack]
    split
    · exact ih (Or.inl (put _))
    · exact ih (Or.inl (put _))

end Packing

end CommitJournal
