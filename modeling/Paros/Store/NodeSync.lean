import Paros.Store.NodeFlush
import Paros.Store.NodeSound

/-! A sync of the node's store: what every crash among its commits leaves, and what a completed
sync covers.
-/

namespace Paros.JournalStorage

open CommitJournal (Batch Disk Drive Packs)

variable {codec : NodeCodec} {word : Word} {store : JournalStorage} {drive : StoreDrive}
  {metainfo : NodeMeta} {slot : Nat} {record : Ballot × Command}

-- Drives in the middle of a flush

/-- Some boot of the drive keeps the word. -/
def Kept (codec : NodeCodec) (word : Word) (drive : StoreDrive) : Prop :=
  ∃ metainfo, Durable codec word drive metainfo

/-- Every staged record lies at or below the promise. -/
def WithinPromise (store : JournalStorage) : Prop :=
  ∀ (slot : Nat) entry, store.staged[slot]? = some entry → entry.1 ≤ store.metainfo.promise

/-- A journal with the entries of the drive and the durable or the early metainfo. -/
structure Near (codec : NodeCodec) (store : JournalStorage) (drive : StoreDrive) (disk : StoreDisk)
    (metainfo : NodeMeta)
    : Prop where
  floor : disk.floor = drive.floor
  entries : ∀ slot : Nat, disk.entries[slot]? = drive.entryAt slot
  carried : disk.metainfo = encode codec.metainfo metainfo
  scalars : metainfo = store.durableMeta ∨ metainfo = store.earlyMeta

variable {disk mixed : StoreDisk} {id : EntryId} {payload : Bytes}

theorem Near.chosenIndex (near : Near codec store drive disk metainfo)
    : metainfo.chosenIndex = store.durableMeta.chosenIndex := by
  rcases near.scalars with rfl | rfl <;> rfl

theorem Near.sealedAt (near : Near codec store drive disk metainfo)
    : metainfo.sealedAt = store.durableMeta.sealedAt := by
  rcases near.scalars with rfl | rfl <;> rfl

variable (sound : Sound codec word store drive)
include sound

/-- A standing entry is a staged record at or above the floor. -/
theorem Sound.of_standing (found : store.standing[slot]? = some (id, payload))
    : ∃ record, id = ballotId record.1 acceptedKind ∧ payload = encode codec.command record.2
      ∧ store.staged[slot]? = some (record.1, encode codec.command record.2)
      ∧ record ∈ word.since slot ∧ store.first ≤ slot := by
  rw [getElem?_standing] at found
  split at found
  case isFalse => cases found
  case isTrue above =>
    obtain ⟨⟨ballot, bytes⟩, staged, same⟩ := Option.map_eq_some_iff.mp found
    obtain ⟨rfl, rfl⟩ := Prod.mk.inj same
    obtain ⟨command, rfl, member, -⟩ := sound.staged slot ballot bytes staged
    refine ⟨(ballot, command), rfl, rfl, staged, member, ?_⟩
    cases raised : store.stagedFloor with
    | none => exact sound.standing slot _ staged raised
    | some floor =>
      obtain ⟨same, -⟩ := sound.raised floor raised
      simpa [raised, same] using above

/-- A staged record at or above the floor stands. -/
theorem Sound.standing_of_staged {entry : Ballot × Bytes}
    (staged : store.staged[slot]? = some entry) (above : store.first ≤ slot)
    : store.standing[slot]? = some (ballotId entry.1 acceptedKind, entry.2) := by
  have stands : store.stagedFloor.all (· ≤ slot) := by
    cases raised : store.stagedFloor with
    | none => rfl
    | some floor =>
      obtain ⟨same, -⟩ := sound.raised floor raised
      simpa [same] using above
  rw [getElem?_standing, if_pos stands, staged]
  rfl

theorem Near.promise (near : Near codec store drive disk metainfo)
    : store.durableMeta.promise ≤ metainfo.promise ∧ metainfo.promise ≤ store.metainfo.promise := by
  rcases near.scalars with rfl | rfl
  · exact ⟨le_rfl, sound.promise⟩
  · exact ⟨sound.promise, le_rfl⟩

/-- A journal that holds the drive's entries and some of the standing ones keeps the word, once it
carries the promise of the standing ones.
-/
theorem Near.mix (all : OrderedMap Nat (EntryId × Bytes))
    (near : Near codec store drive disk metainfo) (within : store.WithinPromise)
    (standing : ∀ (slot : Nat) put, all[slot]? = some put
      → store.standing[slot]? = some put ∧ metainfo.promise = store.metainfo.promise)
    (mix : disk.Mixes all mixed)
    : Durable codec word (some mixed) metainfo := by
  have floor : Drive.floor (some mixed) = drive.floor := mix.floor.trans near.floor
  -- What the mixed journal holds of a slot.
  have holds : ∀ slot, mixed.entries[slot]? = drive.entryAt slot
      ∨ ∃ record, store.staged[slot]? = some (record.1, encode codec.command record.2)
        ∧ record ∈ word.since slot ∧ store.first ≤ slot
        ∧ record.1 ≤ metainfo.promise
        ∧ mixed.entries[slot]? = some (entryOf codec record none) := by
    intro slot
    rcases mix.entries slot with same | ⟨id, payload, listed, written⟩
    · exact Or.inl (same.trans (near.entries slot))
    · obtain ⟨stands, promise⟩ := standing slot _ listed
      obtain ⟨record, rfl, rfl, staged, member, above⟩ := sound.of_standing stands
      exact Or.inr ⟨record, staged, member, above, promise ▸ within slot _ staged, written⟩
  refine ⟨Option.some_ne_none mixed |>.elim, ?_, ?_, ?_, ?_, ?_, ?_⟩
  · intro other same
    cases same
    exact mix.metainfo.trans near.carried
  · intro slot entry found
    rcases holds slot with same | ⟨record, -, -, above, bound, written⟩
    · obtain ⟨record, damage, rfl, bound, low⟩ := sound.durable.recorded slot entry (same ▸ found)
      exact ⟨record, damage, rfl, bound.trans (near.promise sound).1, floor ▸ low⟩
    · cases written.symm.trans found
      exact ⟨record, none, rfl, bound, floor ▸ sound.floor.trans above⟩
  · exact sound.durable.promised.trans (near.promise sound).1
  · intro slot record low given
    obtain ⟨held, member, damage, on⟩ := sound.durable.covered slot record (floor ▸ low) given
    rcases holds slot with same | ⟨staged, -, inside, -, -, written⟩
    · exact ⟨held, member, damage, same.trans on⟩
    · exact ⟨staged, List.mem_cons_of_mem _ inside, none, written⟩
  · intro slot record low covered given
    rw [near.chosenIndex] at covered
    rcases holds slot with same | ⟨staged, found, -, above, -, written⟩
    · obtain ⟨held, member, damage, on⟩ := sound.durable.chosen slot record (floor ▸ low) covered given
      exact ⟨held, member, damage, same.trans on⟩
    · obtain ⟨known, durable, le⟩ := covered
      obtain ⟨live, there, less⟩ := sound.index known durable
      obtain ⟨held, member, next⟩ := sound.image slot record above ⟨live, there, le.trans less⟩ given
      refine ⟨held, member, none, ?_⟩
      rcases next with again | ⟨absent, -⟩
      · obtain ⟨ballot, command⟩ := Prod.mk.inj (Option.some.inj (again.symm.trans found))
        have equal : held = staged := Prod.ext ballot (encode_injective _ command)
        exact equal ▸ written
      · cases absent.symm.trans found
  · rw [floor, near.sealedAt]
    exact sound.durable.sealedAt

-- The end of a flush

/-- A journal that holds the image. -/
structure Flushed (codec : NodeCodec) (store : JournalStorage) (drive : StoreDrive)
    (final : StoreDisk)
    : Prop where
  floor : final.floor = store.first
  next
    : ∀ slot held, store.first ≤ slot → Next codec store drive slot held
      → On codec (some final) slot held
  only
    : ∀ (slot : Nat) entry, final.entries[slot]? = some entry
      → store.first ≤ slot
        ∧ ∃ held damage, entry = entryOf codec held damage ∧ Next codec store drive slot held

theorem Sound.flushed {last : StoreBatch}
    (near : Near codec store drive disk metainfo) (mix : disk.Mixes store.standing mixed)
    (clears : last.clears = []) (floor : last.floor = store.stagedFloor)
    (within : ∀ (slot : Nat) put, last.puts[slot]? = some put → store.standing[slot]? = some put)
    (whole : ∀ (slot : Nat) id payload, store.standing[slot]? = some (id, payload)
      → last.puts[slot]? = some (id, payload) ∨ mixed.entries[slot]? = some ⟨id, payload, none⟩)
    : Flushed codec store drive (mixed.commit last) := by
  have bound : last.floor.getD 0 ≤ store.first := by
    rw [floor]
    cases raised : store.stagedFloor with
    | none => exact Nat.zero_le _
    | some raisedTo => exact (sound.raised raisedTo raised).1.le
  have found : ∀ slot : Nat, (mixed.commit last).entries[slot]?
      = if last.floor.getD 0 ≤ slot then
          ((last.puts[slot]?).map fun (id, payload) => ⟨id, payload, none⟩).or mixed.entries[slot]?
        else none := by
    intro slot
    rw [Disk.getElem?_commit, Batch.clearsAt, clears]
    simp
  -- A slot with a standing entry holds that entry; any other holds what the drive held.
  have written : ∀ (slot : Nat) id payload, store.standing[slot]? = some (id, payload)
      → (mixed.commit last).entries[slot]? = some ⟨id, payload, none⟩ := by
    intro slot id payload stands
    obtain ⟨record, -, -, -, -, above⟩ := sound.of_standing stands
    rw [found, if_pos (bound.trans above)]
    cases put : last.puts[slot]? with
    | none =>
      rcases whole slot id payload stands with listed | there
      · cases put.symm.trans listed
      · exact there
    | some value =>
      cases (within slot value put).symm.trans stands
      rfl
  have others : ∀ slot : Nat, store.standing[slot]? = none
      → (mixed.commit last).entries[slot]?
        = if last.floor.getD 0 ≤ slot then drive.entryAt slot else none := by
    intro slot absent
    have put : last.puts[slot]? = none := Option.eq_none_iff_forall_ne_some.mpr fun value listed => by
      cases absent.symm.trans (within slot value listed)
    rw [found, put]
    rcases mix.entries slot with same | ⟨id, payload, stands, -⟩
    · rw [same, near.entries slot]
      rfl
    · cases absent.symm.trans stands
  refine ⟨?_, ?_, ?_⟩
  · rw [Disk.commit, mix.floor, near.floor, floor]
    cases raised : store.stagedFloor with
    | none => simpa using (sound.unraised raised).symm
    | some raisedTo =>
      obtain ⟨rfl, -⟩ := sound.raised raisedTo raised
      exact max_eq_right sound.floor
  · intro slot held above next
    rcases next with staged | ⟨absent, damage, on⟩
    · exact ⟨none, written slot _ _ (sound.standing_of_staged staged above)⟩
    · refine ⟨damage, (others slot ?_).trans ((if_pos (bound.trans above)).trans on)⟩
      rw [getElem?_standing, absent]
      split <;> rfl
  · intro slot entry there
    cases stands : store.standing[slot]? with
    | some put =>
      obtain ⟨record, same, bytes, staged, -, above⟩ := sound.of_standing stands
      cases (written slot put.1 put.2 stands).symm.trans there
      exact ⟨above, record, none, by rw [entryOf, same, bytes], Or.inl staged⟩
    | none =>
      rw [others slot stands] at there
      split at there
      case isFalse => cases there
      case isTrue low =>
        obtain ⟨record, damage, rfl, -, above⟩ := sound.durable.recorded slot entry there
        have above : store.first ≤ slot := by
          rw [floor] at low
          cases raised : store.stagedFloor with
          | none => exact (sound.unraised raised).le.trans above
          | some raisedTo =>
            obtain ⟨rfl, -⟩ := sound.raised raisedTo raised
            simpa [raised] using low
        refine ⟨above, record, damage, rfl, Or.inr ⟨?_, damage, there⟩⟩
        refine Option.eq_none_iff_forall_ne_some.mpr fun staged held => ?_
        cases stands.symm.trans (sound.standing_of_staged held above)

theorem Flushed.durable {final : StoreDisk} (flushed : Flushed codec store drive final)
    (within : store.WithinPromise)
    (carried : final.metainfo = encode codec.metainfo metainfo)
    (promise : metainfo.promise = store.metainfo.promise)
    (chosen : ∀ slot, Covers metainfo.chosenIndex slot → Covers store.chosenIndex slot)
    (sealedAt : (store.first, metainfo.sealedAt) ∈ word.passed)
    : Durable codec word (some final) metainfo := by
  refine ⟨Option.some_ne_none final |>.elim, ?_, ?_, ?_, ?_, ?_, ?_⟩
  · intro other same
    cases same
    exact carried
  · intro slot entry found
    obtain ⟨above, held, damage, rfl, next⟩ := flushed.only slot entry found
    refine ⟨held, damage, rfl, ?_, flushed.floor.le.trans above⟩
    rw [promise]
    rcases next with staged | ⟨-, _, on⟩
    · exact within slot _ staged
    · obtain ⟨record, _, same, bound, -⟩ := sound.durable.recorded slot _ on
      obtain ⟨rfl, -⟩ := entryOf_inj same
      exact bound.trans sound.promise
  · rw [promise]
    exact sound.durable.promised.trans sound.promise
  · intro slot record low given
    have above : store.first ≤ slot := flushed.floor.ge.trans low
    cases found : store.staged[slot]? with
    | none =>
      obtain ⟨held, member, on⟩ := sound.durable.covered slot record (sound.floor.trans above) given
      exact ⟨held, member, flushed.next slot held above (Or.inr ⟨found, on⟩)⟩
    | some entry =>
      obtain ⟨command, payload, member, -⟩ := sound.staged slot entry.1 entry.2 found
      exact ⟨(entry.1, command), List.mem_cons_of_mem _ member,
        flushed.next slot _ above (Or.inl (payload ▸ found))⟩
  · intro slot record low covered given
    have above : store.first ≤ slot := flushed.floor.ge.trans low
    obtain ⟨held, member, next⟩ := sound.image slot record above (chosen slot covered) given
    exact ⟨held, member, flushed.next slot held above next⟩
  · rw [show Drive.floor (some final) = store.first from flushed.floor]
    exact sealedAt

omit sound in
/-- A completed sync covers the image, once the drive holds it. -/
theorem Durable.sync (durable : Durable codec word drive metainfo)
    (promise : store.metainfo.promise ≤ metainfo.promise)
    (image : ∀ (slot : Nat) record, store.accepted[slot]? = some record → On codec drive slot record)
    : Durable codec (word.sync store) drive metainfo :=
  { durable with
    promised := promise
    covered := by
      intro slot record low given
      cases found : store.accepted[slot]? with
      | none =>
        simp only [Word.sync, found] at given ⊢
        exact durable.covered slot record low given
      | some held =>
        simp only [Word.sync, found, Option.some_or, Option.some.injEq] at given
        exact ⟨held, by simp [given], image slot held found⟩ }

-- The whole sync

/-- The metainfo of the journal once it is there. -/
def openedMeta (store : JournalStorage) : NodeMeta :=
  if store.journal then store.durableMeta else store.earlyMeta

theorem Near.kept (near : Near codec store drive disk metainfo) (within : store.WithinPromise)
    : Kept codec word (some disk) :=
  ⟨metainfo, near.mix sound ∅ within (by simp) .refl⟩

theorem Sound.creation (within : store.WithinPromise)
    : ∃ disk, Near codec store drive disk store.openedMeta
      ∧ CommitJournal.Survives (Kept codec word) drive (store.creation codec) (some disk) := by
  have before : Kept codec word drive := ⟨_, sound.durable⟩
  cases drive with
  | some disk =>
    have journal : store.journal = true := sound.opened
    have near : Near codec store (some disk) disk store.openedMeta :=
      ⟨rfl, fun _ => rfl, by simpa [openedMeta, journal] using sound.durable.present disk rfl,
        by simp [openedMeta, journal]⟩
    refine ⟨disk, near, ?_⟩
    rw [JournalStorage.creation, journal]
    exact .nil before
  | none =>
    have journal : store.journal = false := sound.opened
    have near : Near codec store none ⟨∅, 0, encode codec.metainfo store.earlyMeta⟩
        store.openedMeta :=
      ⟨rfl, fun _ => by simp [Drive.entryAt], by simp [openedMeta, journal],
        by simp [openedMeta, journal]⟩
    refine ⟨_, near, ?_⟩
    rw [JournalStorage.creation, journal]
    exact .create before (near.kept sound within)

theorem Near.early {early : List StoreBatch} (near : Near codec store drive disk store.openedMeta)
    (within : store.WithinPromise)
    (first : early = [] ∧ (store.promiseRaised = true → store.metaDirty = true → store.standing = ∅)
      ∨ early = [metaBatch codec store.earlyMeta] ∧ store.metaDirty = true)
    : ∃ disk' metainfo, Near codec store drive disk' metainfo
      ∧ CommitJournal.Survives (Kept codec word) (some disk) (early.map .batch) (some disk')
      ∧ (∀ (slot : Nat) put, store.standing[slot]? = some put
        → metainfo.promise = store.metainfo.promise)
      ∧ (store.metaDirty = false → metainfo = store.openedMeta) := by
  rcases first with ⟨rfl, nothing⟩ | ⟨rfl, dirty⟩
  · refine ⟨disk, store.openedMeta, near, .nil (near.kept sound within), ?_, fun _ => rfl⟩
    intro slot put found
    have settled : store.promiseRaised = false := by
      by_contra raised
      rw [Bool.not_eq_false] at raised
      simp [nothing raised (sound.dirty raised)] at found
    rw [openedMeta]
    split
    · exact sound.settled settled
    · rfl
  · have written : Near codec store drive (disk.commit (metaBatch codec store.earlyMeta))
        store.earlyMeta := by
      refine ⟨by simpa [Disk.commit, metaBatch, Batch.empty] using near.floor, fun slot => ?_,
        rfl, Or.inr rfl⟩
      rw [Disk.getElem?_commit, ← near.entries slot]
      simp [metaBatch, Batch.empty, Batch.clearsAt]
    refine ⟨_, _, written, ?_, fun _ _ _ => rfl, by simp [dirty]⟩
    refine .commit (near.kept sound within) (fun torn part => ?_) (written.kept sound within)
    exact ⟨_, near.mix sound ∅ within (by simp)
      (part.mixes rfl (by simp [metaBatch, Batch.empty]))⟩

/-- The store after a flush, over a journal that holds its image. -/
theorem Flushed.synced {final : StoreDisk} {after : JournalStorage}
    (flushed : Flushed codec store drive final)
    (durable : Durable codec word (some final) metainfo)
    (same : after = { store.taken with
      journal := true
      durableMeta := metainfo
      metaDirty := false
      promiseRaised := false })
    (promise : metainfo.promise = store.metainfo.promise)
    (chosen : ∀ slot, Covers metainfo.chosenIndex slot → Covers store.chosenIndex slot)
    : Sound codec (word.sync store) after (some final) := by
  subst same
  have scalars : store.taken.metainfo.promise = store.metainfo.promise
      ∧ store.taken.metainfo.sealedAt = store.metainfo.sealedAt := by
    rw [taken]
    split <;> exact ⟨rfl, rfl⟩
  have image : ∀ (slot : Nat) record, store.accepted[slot]? = some record
      → On codec (some final) slot record := fun slot record held =>
    flushed.next slot record (sound.held slot record held) (sound.next held)
  have empty : ∀ slot : Nat, store.taken.staged[slot]? = none := by simp [taken]
  refine ⟨durable.sync promise.ge image, rfl, flushed.floor.le, fun _ => flushed.floor.symm, ?_,
    (promise.trans scalars.1.symm).le, fun _ => promise.trans scalars.1.symm, ?_, ?_, ?_,
    fun slot record _ held => image slot record held, sound.held, ?_, ?_, ?_⟩
  · intro _ impossible
    cases impossible
  · intro impossible
    cases impossible
  · intro slot _ _ found
    cases (empty slot).symm.trans found
  · intro slot _ found
    cases (empty slot).symm.trans found
  · intro slot record above covered given
    obtain ⟨held, member, next⟩ := sound.image slot record above covered given
    exact ⟨held, member, Or.inr ⟨empty slot, flushed.next slot held above next⟩⟩
  · intro known found
    exact chosen known ⟨known, found, le_rfl⟩
  · dsimp only
    rw [scalars.2]
    exact sound.sealedAt

theorem Sound.of_flush (fits : StoreBatch → Bytes → Bool) (split : Bool) (within : store.WithinPromise)
    (busy : store.metaDirty = true ∨ store.staged.isEmpty = false)
    : ∃ final, CommitJournal.Survives (Kept codec word) drive (store.flush codec fits split).commits final
      ∧ Sound codec (word.sync store) (store.flush codec fits split).store final := by
  obtain ⟨early, plain, last, same, first, packs, whole⟩ := flush_flushes fits split busy
  obtain ⟨disk, opened, create⟩ := sound.creation within
  obtain ⟨disk', metainfo, near, promised, enough, still⟩ := opened.early sound within first
  have mixes : ∀ mixed, disk'.Mixes store.standing mixed → Durable codec word (some mixed) metainfo :=
    fun mixed mix =>
      near.mix sound _ within (fun slot put found => ⟨found, enough slot put found⟩) mix
  have plains : Packs store.standing plain :=
    ⟨fun batch member => packs.plain batch (List.mem_append_left _ member),
      fun batch member => packs.within batch (List.mem_append_left _ member)⟩
  have lastPlain := packs.plain last (List.mem_append_right _ List.mem_cons_self)
  have lastWithin := packs.within last (List.mem_append_right _ List.mem_cons_self)
  have safe : ∀ mixed, disk'.Mixes store.standing mixed → Kept codec word (some mixed) :=
    fun mixed mix => ⟨metainfo, mixes mixed mix⟩
  obtain ⟨mixed, wrote, mix, landed⟩ := CommitJournal.Survives.plain safe plains
  have flushed : Flushed codec store drive
      (mixed.commit (lastBatch codec store.taken last store.stagedFloor)) := by
    refine sound.flushed near mix lastPlain.1 rfl lastWithin fun slot id payload stands => ?_
    obtain ⟨batch, member, held⟩ := whole slot _ stands
    rcases List.mem_append.mp member with inside | ends
    · exact Or.inr (landed batch inside slot id payload held)
    · exact Or.inl (List.mem_singleton.mp ends ▸ held)
  -- The metainfo that the last commit leaves.
  let left := if store.metaDirty then store.taken.metainfo else store.openedMeta
  have carried : (mixed.commit (lastBatch codec store.taken last store.stagedFloor)).metainfo
      = encode codec.metainfo left := by
    cases dirty : store.metaDirty with
    | true => simp [Disk.commit, lastBatch, left, taken, dirty]
    | false =>
      simp only [Disk.commit, lastBatch, left, taken, dirty, Bool.false_eq_true, if_false,
        lastPlain.2.2, Option.getD_none]
      rw [mix.metainfo, near.carried, still dirty]
  have promise : left.promise = store.metainfo.promise := by
    cases dirty : store.metaDirty with
    | true => simp [left, taken, dirty]
    | false =>
      have settled : store.promiseRaised = false := by
        by_contra raised
        simp [sound.dirty (by simpa using raised)] at dirty
      simp only [left, dirty, Bool.false_eq_true, if_false, openedMeta]
      split
      · exact sound.settled settled
      · rfl
  have chosen : ∀ slot, Covers left.chosenIndex slot → Covers store.chosenIndex slot := by
    intro slot covered
    cases dirty : store.metaDirty with
    | true => simpa [left, taken, dirty] using covered
    | false =>
      simp only [left, dirty, Bool.false_eq_true, if_false, opened.chosenIndex] at covered
      obtain ⟨known, found, le⟩ := covered
      obtain ⟨live, there, less⟩ := sound.index known found
      exact ⟨live, there, le.trans less⟩
  have sealedAt : (store.first, left.sealedAt) ∈ word.passed := by
    cases dirty : store.metaDirty with
    | true => simpa [left, taken, dirty] using sound.sealedAt
    | false =>
      have unraised : store.stagedFloor = none := by
        refine Option.eq_none_iff_forall_ne_some.mpr fun floor raised => ?_
        cases (sound.raised floor raised).2.symm.trans dirty
      simp only [left, dirty, Bool.false_eq_true, if_false, opened.sealedAt]
      exact sound.unraised unraised ▸ sound.durable.sealedAt
  have durable := flushed.durable sound within carried promise chosen sealedAt
  refine ⟨_, ?_, flushed.synced sound durable ?_ promise chosen⟩
  · rw [same]
    simp only [List.map_append, List.map_cons, List.map_nil, List.append_assoc]
    refine create.append (promised.append (wrote.append ?_))
    exact .commit (safe mixed mix)
      (fun torn part => safe torn (mix.trans (part.mixes lastPlain.1 lastWithin)))
      ⟨left, durable⟩
  · rw [same]
    rfl

theorem Sound.noteLag : Sound codec word store.noteLag drive := by
  rw [JournalStorage.noteLag]
  split
  · exact { sound with
      raised := fun floor found => ⟨(sound.raised floor found).1, rfl⟩
      dirty := fun _ => rfl }
  · exact sound

/-- Every crash inside a sync keeps the word, and a completed sync covers the image. -/
theorem Sound.sync (fits : StoreBatch → Bytes → Bool) (split : Bool) (within : store.WithinPromise)
    : ∃ final, CommitJournal.Survives (Kept codec word) drive (store.sync codec fits split).commits final
      ∧ Sound codec (word.sync store) (store.sync codec fits split).store final := by
  have lagged := sound.noteLag
  have same : word.sync store.noteLag = word.sync store := by
    rw [JournalStorage.noteLag]
    split <;> rfl
  have within : store.noteLag.WithinPromise := by
    rw [JournalStorage.noteLag]
    split <;> exact within
  rw [← same, JournalStorage.sync]
  split
  case isTrue idle =>
    obtain ⟨clean, unstaged⟩ : store.noteLag.metaDirty = false
        ∧ store.noteLag.staged.isEmpty = true := by
      simpa using idle
    have settled : store.noteLag.promiseRaised = false := by
      by_contra raised
      simp [lagged.dirty (by simpa using raised)] at clean
    refine ⟨drive, .nil ⟨_, lagged.durable⟩, { lagged with durable := ?_, staged := ?_ }⟩
    · refine lagged.durable.sync (lagged.settled settled).ge fun slot record held => ?_
      exact lagged.unstaged slot record
        (by rw [Std.ExtTreeMap.isEmpty_iff.mp unstaged]; simp) held
    · intro slot ballot payload found
      rw [Std.ExtTreeMap.isEmpty_iff.mp unstaged] at found
      simp at found
  case isFalse busy =>
    exact lagged.of_flush fits split within (by simpa [imp_iff_not_or] using busy)

end Paros.JournalStorage
