import Paros.Store.Node

/-! An acceptor's word: what a node said on the strength of its store, and what a drive has to hold
for a boot to keep it.
-/

namespace Paros.JournalStorage

open CommitJournal (Damage Disk Drive)

-- The word

/-- What a node said on the strength of its store.
- `promised`: the promise that the last completed sync covered.
- `covered`: the record of a slot that the last completed sync covered, and `since`: the records
  staged for the slot after it.
- `chosen`: the record the image held when the slot became chosen, and `later`: the records staged
  for the slot after it.
- `passed`: the floors that were staged, each with the state sealed at it.
-/
structure Word where
  promised : Ballot
  covered : Nat → Option (Ballot × Command)
  since : Nat → List (Ballot × Command)
  chosen : Nat → Option (Ballot × Command)
  later : Nat → List (Ballot × Command)
  passed : List (Nat × JournalState)

namespace Word

def new : Word where
  promised := .zero
  covered _ := none
  since _ := []
  chosen _ := none
  later _ := []
  passed := [(0, .initial)]

variable (word : Word) (store : JournalStorage)

def append (slot : Nat) (record : Ballot × Command) : Word :=
  { word with
    since := Function.update word.since slot (word.since slot ++ [record])
    later := Function.update word.later slot (word.later slot ++ [record]) }

/-- The slots that the chosen index newly covers are chosen as the image holds them. -/
def choose (index : Nat) : Word :=
  { word with
    chosen := fun slot =>
      if store.chosenIndex.all (· < slot) ∧ slot ≤ index then store.accepted[slot]?
      else word.chosen slot
    later := fun slot =>
      if store.chosenIndex.all (· < slot) ∧ slot ≤ index then [] else word.later slot }

/-- What staging a write adds, given the store before it. -/
def stage : WriteOp → Word
  | .acceptor (.setPromise _) => word
  | .acceptor (.appendAccepted slot ballot command) => word.append slot (ballot, command)
  | .setChosenIndex slot => word.choose store slot
  | .truncate floor state | .trimmedTo floor state =>
    { word with passed := (floor, state) :: word.passed }

/-- A completed sync covers the promise and every record of the image. -/
def sync : Word :=
  { word with
    promised := store.metainfo.promise
    covered := fun slot => (store.accepted[slot]?).or (word.covered slot)
    since := fun slot => if (store.accepted[slot]?).isSome then [] else word.since slot }

end Word

/-- A record is read back: whole, or damaged and reported at its ballot. -/
def Reads (store : JournalStorage) (slot : Nat) (record : Ballot × Command) : Prop :=
  store.accepted[slot]? = some record ∨ store.faulty[slot]? = some record.1

/-- A chosen index covers the slots up to it. -/
def Covers (index : Option Nat) (slot : Nat) : Prop := ∃ known ∈ index, slot ≤ known

/-- A booted store keeps the word. -/
structure Word.KeptBy (word : Word) (store : JournalStorage) : Prop where
  promised : word.promised ≤ store.metainfo.promise
  accepted
    : ∀ (slot : Nat) record, store.accepted[slot]? = some record → record.1 ≤ store.metainfo.promise
  faulty : ∀ (slot : Nat) ballot, store.faulty[slot]? = some ballot → ballot ≤ store.metainfo.promise
  covered
    : ∀ slot record, store.first ≤ slot → word.covered slot = some record
      → ∃ held ∈ record :: word.since slot, store.Reads slot held
  chosen
    : ∀ slot record, store.first ≤ slot → Covers store.chosenIndex slot
      → word.chosen slot = some record
      → ∃ held ∈ record :: word.later slot, store.Reads slot held
  sealedAt : (store.first, store.metainfo.sealedAt) ∈ word.passed

-- Drives that keep the word

/-- The entry of a record. -/
def entryOf (codec : NodeCodec) (record : Ballot × Command) (damage : Option Damage)
    : StoreEntry :=
  ⟨ballotId record.1 acceptedKind, encode codec.command record.2, damage⟩

theorem entryOf_inj {codec : NodeCodec} {record other : Ballot × Command}
    {damage worse : Option Damage} (same : entryOf codec record damage = entryOf codec other worse)
    : record = other ∧ damage = worse := by
  simp only [entryOf, CommitJournal.Entry.mk.injEq] at same
  refine ⟨Prod.ext ?_ (encode_injective _ same.2.1), same.2.2⟩
  exact congrArg (fun id => (idBallot id).1) same.1

/-- The drive holds a record at a slot, damaged or not. -/
def On (codec : NodeCodec) (drive : StoreDrive) (slot : Nat) (record : Ballot × Command) : Prop :=
  ∃ damage, drive.entryAt slot = some (entryOf codec record damage)

/-- A drive that carries a metainfo and holds what the word needs. -/
structure Durable (codec : NodeCodec) (word : Word) (drive : StoreDrive) (metainfo : NodeMeta)
    : Prop where
  absent : drive = none → metainfo = .default
  present : ∀ disk, drive = some disk → disk.metainfo = encode codec.metainfo metainfo
  recorded
    : ∀ slot entry, drive.entryAt slot = some entry
      → ∃ record damage, entry = entryOf codec record damage ∧ record.1 ≤ metainfo.promise
        ∧ drive.floor ≤ slot
  promised : word.promised ≤ metainfo.promise
  covered
    : ∀ slot record, drive.floor ≤ slot → word.covered slot = some record
      → ∃ held ∈ record :: word.since slot, On codec drive slot held
  chosen
    : ∀ slot record, drive.floor ≤ slot → Covers metainfo.chosenIndex slot
      → word.chosen slot = some record
      → ∃ held ∈ record :: word.later slot, On codec drive slot held
  sealedAt : (drive.floor, metainfo.sealedAt) ∈ word.passed

variable {codec : NodeCodec} {word : Word} {drive left : StoreDrive} {metainfo : NodeMeta}

theorem Durable.fresh : Durable codec .new none .default where
  absent _ := rfl
  present _ found := by cases found
  recorded _ _ found := by cases found
  promised := le_rfl
  covered _ _ _ found := by cases found
  chosen _ _ _ _ found := by cases found
  sealedAt := List.mem_cons_self

/-- Damage loses no identity. -/
theorem On.decay {slot : Nat} {record : Ballot × Command} (on : On codec drive slot record)
    (decay : Drive.Decays drive left)
    : On codec left slot record := by
  obtain ⟨damage, found⟩ := on
  cases decay with
  | absent => cases found
  | present decay =>
    rcases decay.entries slot with same | ⟨entry, worse, held, written⟩
    · exact ⟨damage, same.trans found⟩
    · cases held.symm.trans found
      exact ⟨some worse, written⟩

theorem Durable.decay (durable : Durable codec word drive metainfo) (decay : Drive.Decays drive left)
    : Durable codec word left metainfo := by
  have floor := decay.floor
  refine ⟨?_, ?_, ?_, durable.promised, ?_, ?_, floor ▸ durable.sealedAt⟩
  · intro gone
    cases decay with
    | absent => exact durable.absent rfl
    | present => cases gone
  · intro disk found
    cases decay with
    | absent => cases found
    | present decay =>
      cases found
      exact decay.metainfo.trans (durable.present _ rfl)
  · intro slot entry found
    cases decay with
    | absent => cases found
    | present decay =>
      rw [floor]
      rcases decay.entries slot with same | ⟨before, worse, held, written⟩
      · exact durable.recorded slot entry (same.symm.trans found)
      · obtain ⟨record, damage, rfl, bound⟩ := durable.recorded slot before held
        cases written.symm.trans found
        exact ⟨record, some worse, rfl, bound⟩
  · intro slot record above given
    obtain ⟨held, member, on⟩ := durable.covered slot record (floor ▸ above) given
    exact ⟨held, member, on.decay decay⟩
  · intro slot record above index given
    obtain ⟨held, member, on⟩ := durable.chosen slot record (floor ▸ above) index given
    exact ⟨held, member, on.decay decay⟩

-- Booting

/-- What the first entries of a journal are read back as. -/
structure ReadBack (codec : NodeCodec) (opened : JournalStorage)
    (done : List (Nat × StoreEntry)) (store : JournalStorage)
    : Prop where
  rest : store = { opened with accepted := store.accepted, faulty := store.faulty }
  accepted
    : ∀ (slot : Nat) record, store.accepted[slot]? = some record
      → (slot, entryOf codec record none) ∈ done
  faulty
    : ∀ (slot : Nat) ballot, store.faulty[slot]? = some ballot
      → ∃ command damage, (slot, entryOf codec (ballot, command) (some damage)) ∈ done
  reads : ∀ slot record damage, (slot, entryOf codec record damage) ∈ done → store.Reads slot record

section Booting

variable {opened store : JournalStorage} {done : List (Nat × StoreEntry)}

theorem ReadBack.step {next : Nat × StoreEntry} {record : Ballot × Command} {damage : Option Damage}
    (back : ReadBack codec opened done store) (entry : next.2 = entryOf codec record damage)
    (fresh : ∀ other ∈ done, other.1 ≠ next.1)
    : ∃ after, readEntry codec store next = .ok after ∧ ReadBack codec opened (done ++ [next]) after := by
  obtain ⟨slot, _⟩ := next
  obtain rfl : _ = entryOf codec record damage := entry
  have faulty : ∀ (place : Nat) ballot, store.faulty[place]? = some ballot
      → ∃ command hurt, (place, entryOf codec (ballot, command) (some hurt))
        ∈ done ++ [(slot, entryOf codec record damage)] := by
    intro place ballot found
    obtain ⟨command, hurt, member⟩ := back.faulty place ballot found
    exact ⟨command, hurt, List.mem_append_left _ member⟩
  have reads {after : JournalStorage} (now : after.Reads slot record)
      (still : ∀ place held, slot ≠ place → store.Reads place held → after.Reads place held)
      : ∀ place held hurt, (place, entryOf codec held hurt)
        ∈ done ++ [(slot, entryOf codec record damage)] → after.Reads place held := by
    intro place held hurt member
    rcases List.mem_append.mp member with before | last
    · exact still place held (fresh _ before).symm (back.reads place held hurt before)
    · obtain ⟨rfl, same⟩ := Prod.mk.inj (List.mem_singleton.mp last)
      obtain ⟨rfl, rfl⟩ := entryOf_inj same
      exact now
  cases damage with
  | none =>
    refine ⟨{ store with accepted := store.accepted.insert slot record },
      by simp [readEntry, entryOf], by rw [back.rest], ?_, faulty,
      reads (.inl (by simp)) fun place held apart => Or.imp_left fun found => ?_⟩
    · exact OrderedMap.forall_insert
        (fun place held found => List.mem_append_left _ (back.accepted place held found))
        (List.mem_append_right _ List.mem_cons_self)
    · rw [OrderedMap.getElem?_insert, if_neg apart, found]
  | some damage =>
    refine ⟨{ store with faulty := store.faulty.insert slot record.1 },
      by simp [readEntry, entryOf], by rw [back.rest],
      fun place held found => List.mem_append_left _ (back.accepted place held found),
      OrderedMap.forall_insert faulty ⟨record.2, damage, List.mem_append_right _ List.mem_cons_self⟩,
      reads (.inr (by simp)) fun place held apart => Or.imp_right fun found => ?_⟩
    rw [OrderedMap.getElem?_insert, if_neg apart, found]

/-- A journal of records is read back. -/
theorem readBack (codec : NodeCodec) (disk : StoreDisk) (opened : JournalStorage)
    (empty : opened.accepted = ∅ ∧ opened.faulty = ∅)
    (recorded : ∀ (slot : Nat) entry, disk.entries[slot]? = some entry
      → ∃ record damage, entry = entryOf codec record damage)
    : ∃ store, disk.entries.toList.foldlM (readEntry codec) opened = .ok store
      ∧ ReadBack codec opened disk.entries.toList store := by
  obtain ⟨store, read, back⟩ := List.foldlM_map_ok (readEntry codec) id disk.entries.toList opened
    (ReadBack codec opened)
    ⟨rfl, by simp [empty.1], by simp [empty.2], by simp⟩
    (by
      rintro done ⟨slot, entry⟩ rest store split back
      obtain ⟨record, damage, same⟩ := recorded slot entry
        (OrderedMap.mem_toList.mp (split ▸ by simp))
      exact back.step same fun before member => OrderedMap.ne_of_toList_append split member)
  exact ⟨store, by simpa using read, back⟩

end Booting

end Paros.JournalStorage
