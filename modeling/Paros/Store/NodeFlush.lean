import Paros.Store.Node

/-! The commits of a flush of the node's store. -/

namespace Paros.JournalStorage

open CommitJournal (Batch Commit Packs pack)

/-- The commit that creates the journal, where there is none. -/
def creation (codec : NodeCodec) (store : JournalStorage) : List StoreCommit :=
  if store.journal then [] else [.create (encode codec.metainfo store.earlyMeta)]

/-- A flush that committed some batches; `promised` where one of them carried the early metainfo. -/
structure Flush.Wrote (codec : NodeCodec) (store : JournalStorage) (promised : Bool)
    (batches : List StoreBatch) (flush : Flush)
    : Prop where
  commits
    : flush.commits
      = (if batches.isEmpty then [] else store.creation codec) ++ batches.map Commit.batch
  store
    : flush.store = { store with
        journal := store.journal || !batches.isEmpty
        durableMeta :=
          if promised || (!store.journal && !batches.isEmpty) then store.earlyMeta
          else store.durableMeta }

variable {codec : NodeCodec} {store : JournalStorage} {slot : Nat} {flush : Flush} {promised : Bool}
  {batches : List StoreBatch} {batch : StoreBatch}

theorem Flush.Wrote.nil : Wrote codec store false [] ⟨store, []⟩ where
  commits := rfl
  store := by simp

theorem Flush.Wrote.earlyMeta (wrote : Wrote codec store promised batches flush)
    : flush.store.earlyMeta = store.earlyMeta := by
  rw [wrote.store]
  simp only [JournalStorage.earlyMeta]
  split <;> rfl

theorem Flush.Wrote.commit (wrote : Wrote codec store promised batches flush)
    : Wrote codec store promised (batches ++ [batch]) (flush.commit codec batch) := by
  have early := wrote.earlyMeta
  obtain ⟨commits, same⟩ := wrote
  cases opened : flush.store.journal with
  | true =>
    have before : store.journal = true ∨ batches.isEmpty = false := by
      simpa [same] using opened
    refine ⟨?_, ?_⟩
    · rw [Flush.commit, if_pos opened, commits]
      rcases before with journal | nonempty
      · simp [creation, journal]
      · simp [nonempty]
    · rw [Flush.commit, if_pos opened, same]
      rcases before with journal | nonempty <;> simp [*]
  | false =>
    have before : store.journal = false ∧ batches = [] := by simpa [same] using opened
    obtain ⟨journal, rfl⟩ := before
    refine ⟨?_, ?_⟩
    · simp [Flush.commit, opened, commits, early, creation, journal]
    · simp only [Flush.commit, opened, Bool.false_eq_true, if_false, early]
      rw [same]
      simp [journal]

theorem Flush.Wrote.commitAll (wrote : Wrote codec store promised batches flush)
    (more : List StoreBatch)
    : Wrote codec store promised (batches ++ more) (more.foldl (Flush.commit codec) flush) := by
  induction more generalizing batches flush with
  | nil => simpa using wrote
  | cons batch more ih =>
    have next : Wrote codec store promised (batches ++ [batch]) (flush.commit codec batch) :=
      wrote.commit
    simpa using ih next

theorem Flush.Wrote.commitPromise (wrote : Wrote codec store false batches flush)
    : Wrote codec store true (batches ++ [metaBatch codec store.earlyMeta])
        (flush.commitPromise codec) := by
  have committed : Wrote codec store false (batches ++ [metaBatch codec store.earlyMeta])
      (flush.commit codec (metaBatch codec store.earlyMeta)) :=
    wrote.commit
  refine ⟨?_, ?_⟩
  · rw [Flush.commitPromise, wrote.earlyMeta]
    exact committed.commits
  · simp only [Flush.commitPromise, wrote.earlyMeta]
    rw [committed.store]
    simp

/-- The batch of the last commit. -/
def lastBatch (codec : NodeCodec) (store : JournalStorage) (batch : StoreBatch) (floor : Option Nat)
    : StoreBatch :=
  { batch with
    floor := floor
    metainfo :=
      if store.metaDirty then some (encode codec.metainfo store.metainfo) else batch.metainfo }

theorem Flush.Wrote.commitLast {floor : Option Nat}
    (wrote : Wrote codec store promised batches flush)
    (busy : store.metaDirty = true ∨ floor.isSome ∨ batch.isEmpty = false)
    : flush.commitLast codec batch floor
      = { store := { store with
            journal := true
            durableMeta :=
              if store.metaDirty then store.metainfo
              else if promised || !store.journal then store.earlyMeta
              else store.durableMeta }
          commits := store.creation codec
            ++ (batches ++ [lastBatch codec store batch floor]).map Commit.batch } := by
  have committed : Wrote codec store promised (batches ++ [lastBatch codec store batch floor])
      (flush.commit codec (lastBatch codec store batch floor)) :=
    wrote.commit
  have dirty : flush.store.metaDirty = store.metaDirty := by rw [wrote.store]
  have scalars : flush.store.metainfo = store.metainfo := by rw [wrote.store]
  obtain ⟨commits, same⟩ := committed
  rw [if_neg (by simp)] at commits
  rw [Flush.commitLast, dirty]
  cases write : store.metaDirty with
  | true =>
    simp only [lastBatch, write, if_true] at commits same ⊢
    rw [scalars, same, commits]
    simp
  | false =>
    have more : (floor.isSome || !batch.isEmpty) = true := by simpa [write] using busy
    simp only [lastBatch, write, Bool.false_eq_true, if_false] at commits same ⊢
    rw [if_pos more]
    cases committed : flush.commit codec { batch with floor := floor }
    simp only [committed] at commits same
    simp [commits, same]

theorem getElem?_standing
    : store.standing[slot]?
      = if store.stagedFloor.all (· ≤ slot) then
          (store.staged[slot]?).map fun (ballot, payload) => (ballotId ballot acceptedKind, payload)
        else none := by
  rw [standing, Std.ExtTreeMap.getElem?_map,
    OrderedMap.getElem?_filterKeys (fun slot => store.stagedFloor.all (· ≤ slot))]
  split <;> rfl

/-- The batches of a flush: the early metainfo, plain batches and the last one, which carries the
floor and the metainfo.
-/
structure Flushes (codec : NodeCodec) (store : JournalStorage) (early plain : List StoreBatch)
    (last : StoreBatch) (flush : Flush)
    : Prop where
  flush
    : flush = {
        store := { store.taken with
          journal := true
          durableMeta :=
            if store.metaDirty then store.taken.metainfo
            else if store.journal then store.durableMeta
            else store.earlyMeta
          metaDirty := false
          promiseRaised := false }
        commits := store.creation codec
          ++ (early ++ plain ++ [lastBatch codec store.taken last store.stagedFloor]).map .batch }
  early
    : early = [] ∧ (store.promiseRaised = true → store.metaDirty = true → store.standing = ∅)
      ∨ early = [metaBatch codec store.earlyMeta] ∧ store.metaDirty = true
  packs : Packs store.standing (plain ++ [last])
  whole
    : ∀ (slot : Nat) put, store.standing[slot]? = some put
      → ∃ batch ∈ plain ++ [last], batch.puts[slot]? = some put

theorem earlyMeta_taken : store.taken.earlyMeta = store.earlyMeta := by
  simp only [taken, JournalStorage.earlyMeta]
  split <;> rfl

theorem creation_taken : store.taken.creation codec = store.creation codec := by
  rw [creation, earlyMeta_taken]
  rfl

theorem standing_toList_ne_nil (unraised : store.stagedFloor = none)
    (busy : store.staged.isEmpty = false)
    : store.standing.toList ≠ [] := by
  obtain ⟨slot, entry, found⟩ : ∃ (slot : Nat) (entry : _), store.staged[slot]? = some entry := by
    by_contra absent
    push Not at absent
    have empty : store.staged = ∅ := Std.ExtTreeMap.ext_getElem? fun slot => by
      rw [Option.eq_none_iff_forall_ne_some.mpr (absent slot), Std.ExtTreeMap.getElem?_empty]
    simp [empty] at busy
  have standing : store.standing[slot]? = some (ballotId entry.1 acceptedKind, entry.2) := by
    rw [getElem?_standing, unraised, found]
    rfl
  exact List.ne_nil_of_mem (OrderedMap.mem_toList.mpr standing)

theorem flush_flushes (fits : StoreBatch → Bytes → Bool) (split : Bool)
    (busy : store.metaDirty = true ∨ store.staged.isEmpty = false)
    : ∃ early plain last,
        Flushes codec store early plain last (store.flush codec fits split) := by
  have listed : ∀ entry ∈ store.standing.toList, store.standing[entry.1]? = some entry.2 :=
    fun entry member => OrderedMap.mem_toList.mp member
  have packs : Packs store.standing
      ((pack fits store.standing.toList .empty).1 ++ [(pack fits store.standing.toList .empty).2]) :=
    CommitJournal.pack_packs CommitJournal.packs_empty listed
  have whole : ∀ (slot : Nat) put, store.standing[slot]? = some put
      → ∃ batch ∈ (pack fits store.standing.toList .empty).1
          ++ [(pack fits store.standing.toList .empty).2],
        batch.puts[slot]? = some put := fun slot put found =>
    CommitJournal.exists_mem_pack listed CommitJournal.packs_empty
      (Or.inr (OrderedMap.mem_toList.mpr found))
  have filled : store.standing.toList ≠ []
      → (pack fits store.standing.toList .empty).2.isEmpty = false := fun listed =>
    CommitJournal.pack_isEmpty (Or.inr listed)
  cases pairs : pack fits store.standing.toList .empty with | mk closed last
  rw [pairs] at packs whole filled
  dsimp only at packs whole filled
  -- The promise goes first where it was raised and there are entries.
  obtain ⟨early, promised, begun, first, dirty⟩ : ∃ early promised,
      Flush.Wrote codec store.taken promised early
        (if store.metaDirty && store.promiseRaised && !store.standing.isEmpty then
          Flush.commitPromise codec ⟨store.taken, []⟩ else ⟨store.taken, []⟩)
      ∧ (early = [] ∧ (store.promiseRaised = true → store.metaDirty = true → store.standing = ∅)
        ∨ early = [metaBatch codec store.earlyMeta] ∧ store.metaDirty = true)
      ∧ (promised = true → store.metaDirty = true) := by
    split
    case isTrue both =>
      have write : store.metaDirty = true := by simp_all
      refine ⟨_, true, Flush.Wrote.nil.commitPromise, Or.inr ⟨?_, write⟩, fun _ => write⟩
      rw [earlyMeta_taken]
      rfl
    case isFalse either =>
      refine ⟨_, false, Flush.Wrote.nil, Or.inl ⟨rfl, fun raised dirty => ?_⟩, by simp⟩
      simpa [raised, dirty] using either
  -- The last commit ends the flush, whatever batches went before it.
  have ends : ∀ plain last (packed : Flush), Packs store.standing (plain ++ [last])
      → (∀ (slot : Nat) put, store.standing[slot]? = some put
        → ∃ batch ∈ plain ++ [last], batch.puts[slot]? = some put)
      → Flush.Wrote codec store.taken promised (early ++ plain) packed
      → (store.metaDirty = true ∨ store.stagedFloor.isSome ∨ last.isEmpty = false)
      → Flushes codec store early plain last
          (let synced := packed.commitLast codec last store.stagedFloor
          { synced with store := { synced.store with metaDirty := false, promiseRaised := false } }) := by
    intro plain last packed packs whole wrote busy
    refine ⟨?_, first, packs, whole⟩
    simp only [wrote.commitLast busy, creation_taken, earlyMeta_taken, Flush.mk.injEq, and_true]
    cases write : store.metaDirty with
    | true => simp [taken, write]
    | false =>
      have unpromised : promised = false := by
        cases promised
        · rfl
        · exact absurd (dirty rfl) (by simp [write])
      cases journal : store.journal <;> simp [taken, write, unpromised, journal]
  have packed := begun.commitAll closed
  simp only [flush, pairs]
  split
  case isTrue both =>
    have write : store.metaDirty = true := by simp_all
    refine ⟨early, closed ++ [last], .empty,
      ends _ _ _ (packs.append CommitJournal.packs_empty) ?_ ?_ (Or.inl write)⟩
    · intro slot put found
      obtain ⟨batch, member, held⟩ := whole slot put found
      exact ⟨batch, List.mem_append_left _ member, held⟩
    · rw [← List.append_assoc]
      exact packed.commit
  case isFalse =>
    refine ⟨early, closed, last, ends _ _ _ packs whole packed ?_⟩
    rcases busy with write | staged
    · exact Or.inl write
    · cases unraised : store.stagedFloor with
      | none => exact Or.inr (Or.inr (filled (standing_toList_ne_nil unraised staged)))
      | some _ => exact Or.inr (Or.inl rfl)

end Paros.JournalStorage
