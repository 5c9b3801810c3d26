import Paros.Library.MapFold
import Paros.Matchmaker.Generation

/-! The image of a matchmaker: the store that its writes add up to. A boot from the image is the
matchmaker itself.
-/

namespace Paros

open OrderedMap

-- What writes do to a store

namespace MatchmakerHardState

variable {scalars : MatchmakerHardState} {journal other : JournalId}
  {change : JournalScalars → JournalScalars}

theorem journal_updateJournal
    : (scalars.updateJournal journal change).journal other
      = if journal = other then change (scalars.journal journal) else scalars.journal other := by
  rw [MatchmakerHardState.journal, updateJournal, getElem?_insert]
  split_ifs <;> rfl

end MatchmakerHardState

namespace MemRegistry

variable {store : MemRegistry} {scalars : MatchmakerHardState} {journal : JournalId}

/-- No journal is held without a record, and no record below its journal's watermark. -/
structure Kept (store : MemRegistry) : Prop where
  inhabited : ∀ {journal : JournalId} {ledger : BallotMap Registration},
    store.registry[journal]? = some ledger → ledger ≠ ∅
  retained : ∀ {journal : JournalId} {ledger : BallotMap Registration} {ballot : Ballot}
    {registration : Registration}, store.registry[journal]? = some ledger
    → ledger[ballot]? = some registration → store.hardState.gcWatermark journal ≤ ballot

theorem collect_eq_self {watermark : Ballot}
    (kept : ∀ ledger, store.registry[journal]? = some ledger
      → ledger ≠ ∅ ∧ ∀ ballot registration, ledger[ballot]? = some registration → watermark ≤ ballot)
    : store.collect journal watermark = store := by
  unfold collect
  cases held : store.registry[journal]? with
  | none => rfl
  | some ledger =>
    obtain ⟨inhabited, above⟩ := kept ledger held
    dsimp only
    rw [startingAt_eq_self (above _ _), if_neg (mt Std.ExtTreeMap.isEmpty_iff.mp inhabited),
      OrderedMap.insert_eq_self held]

theorem collect_eq {watermark : Ballot}
    : store.collect journal watermark = { store with
        registry :=
          if (startingAt watermark (store.ledger journal)).isEmpty then
            store.registry.erase journal
          else
            store.registry.insert journal (startingAt watermark (store.ledger journal)) } := by
  unfold collect ledger
  cases held : store.registry[journal]? with
  | some ledger => rfl
  | none =>
    have empty : startingAt watermark (∅ : BallotMap Registration) = ∅ :=
      startingAt_eq_self (by simp)
    have same : store.registry.erase journal = store.registry := by
      ext1 other
      rw [getElem?_erase]
      split_ifs with here
      · rw [← here, held]
      · rfl
    simp [empty, same]

/-- Scalars that keep every watermark are written as they are, and no record is collected. -/
theorem apply_setScalars (kept : store.Kept)
    (known : ∀ journal ∈ store.hardState.journals, journal ∈ scalars.journals)
    (level : ∀ journal, scalars.gcWatermark journal = store.hardState.gcWatermark journal)
    : store.apply (.setScalars scalars) = ⟨scalars, store.registry⟩ := by
  have merged : store.hardState.journals.toList.foldl keepWatermark scalars = scalars := by
    refine OrderedMap.foldl_eq_self ?_
    rintro ⟨journal, held⟩ member
    have there := mem_toList.mp member
    obtain ⟨written, isWritten⟩ :=
      mem_iff_getElem?.mp (known journal (mem_iff_getElem?.mpr ⟨held, there⟩))
    have same : written.gcWatermark = held.gcWatermark := by
      simpa [MatchmakerHardState.gcWatermark, MatchmakerHardState.journal, isWritten, there]
        using level journal
    rw [keepWatermark, MatchmakerHardState.updateJournal, MatchmakerHardState.journal, isWritten,
      Option.getD_some, same, max_self, ← same, OrderedMap.insert_eq_self isWritten]
  rw [apply, merged]
  refine OrderedMap.foldl_eq_self ?_
  rintro ⟨journal, written⟩ member
  have floor : scalars.gcWatermark journal = written.gcWatermark := by
    simp [MatchmakerHardState.gcWatermark, MatchmakerHardState.journal, mem_toList.mp member]
  refine collect_eq_self fun ledger held => ⟨kept.inhabited held, fun ballot registration found => ?_⟩
  rw [← floor, level]
  exact kept.retained held found

end MemRegistry

-- Images

namespace Matchmaker

/-- The records of some windows, without the empty ones. -/
def ledgersOf (registries : OrderedMap JournalId (RetainedWindow Ballot Registration)) : Ledgers :=
  registries.filterMap fun _ window =>
    if window.entries.isEmpty then none else some window.entries

/-- The records held. -/
def ledgers (matchmaker : Matchmaker) : Ledgers := ledgersOf matchmaker.registries

/-- What a boot that continues as this matchmaker reads. -/
def image (matchmaker : Matchmaker) : MemRegistry := ⟨matchmaker.hardState, matchmaker.ledgers⟩

/-- Windows and scalars belong together: every journal with scalars has a window at its watermark,
nothing lies below it, and a window without scalars holds a record. The set is the one the scalars
describe.
-/
structure Coherent (matchmaker : Matchmaker) : Prop where
  floors : ∀ {journal : JournalId} {window : RetainedWindow Ballot Registration},
    matchmaker.registries[journal]? = some window → window.floor = matchmaker.gcWatermark journal
  retained : ∀ {journal : JournalId} {window : RetainedWindow Ballot Registration} {ballot : Ballot}
    {registration : Registration}, matchmaker.registries[journal]? = some window
    → window.entries[ballot]? = some registration → matchmaker.gcWatermark journal ≤ ballot
  windowed : ∀ {journal : JournalId}, journal ∈ matchmaker.hardState.journals
    → journal ∈ matchmaker.registries
  grounded : ∀ {journal : JournalId} {window : RetainedWindow Ballot Registration},
    matchmaker.registries[journal]? = some window → window.entries = ∅
    → journal ∈ matchmaker.hardState.journals
  described : matchmaker.hardState.resolvedSet matchmaker.config.bootstrap = some matchmaker.set
  deployed : normalized matchmaker.config.bootstrap = matchmaker.config.bootstrap
    ∧ matchmaker.config.bootstrap ≠ []

variable {matchmaker : Matchmaker} {journal : JournalId}

theorem getElem?_ledgers {ledger : BallotMap Registration}
    : matchmaker.ledgers[journal]? = some ledger
      ↔ ledger ≠ ∅ ∧ ∃ window, matchmaker.registries[journal]? = some window
        ∧ window.entries = ledger := by
  rw [ledgers, ledgersOf, Std.ExtTreeMap.getElem?_filterMap']
  cases matchmaker.registries[journal]? with
  | none => simp
  | some window =>
    simp only [Option.bind_some, Option.ite_none_left_eq_some, Option.some.injEq,
      Std.ExtTreeMap.isEmpty_iff, exists_eq_left']
    exact ⟨fun ⟨filled, same⟩ => ⟨same ▸ filled, same⟩, fun ⟨filled, same⟩ => ⟨same ▸ filled, same⟩⟩

theorem ledger_image : matchmaker.image.ledger journal = matchmaker.registry journal := by
  rw [MemRegistry.ledger, image, registry, ledgers, ledgersOf, Std.ExtTreeMap.getElem?_filterMap']
  cases matchmaker.registries[journal]? with
  | none => rfl
  | some window =>
    simp only [Option.bind_some, Option.elim_some]
    split_ifs with empty
    · exact (Std.ExtTreeMap.isEmpty_iff.mp empty).symm
    · rfl

theorem Coherent.kept (coherent : matchmaker.Coherent) : matchmaker.image.Kept where
  inhabited held := (getElem?_ledgers.mp held).1
  retained held found := by
    obtain ⟨_, window, isWindow, rfl⟩ := getElem?_ledgers.mp held
    exact coherent.retained isWindow found

-- Boots

/-- A store without empty ledgers is read back as it is. -/
theorem readLedgers_eq {store : MemRegistry}
    (inhabited : ∀ {journal : JournalId} {ledger : BallotMap Registration},
      store.registry[journal]? = some ledger → ledger ≠ ∅)
    : readLedgers store = store.registry := by
  ext1 journal
  rw [readLedgers, Std.ExtTreeMap.getElem?_filter']
  cases held : store.registry[journal]? with
  | none => rfl
  | some ledger => simp [Option.filter, inhabited held]

theorem getElem?_bootWindows (scalars : MatchmakerHardState) (ledgers : Ledgers)
    : (bootWindows scalars ledgers)[journal]?
      = (ledgers[journal]?).elim
        ((scalars.journals[journal]?).map fun held => ⟨∅, held.gcWatermark⟩)
        fun ledger => some ⟨ledger, scalars.gcWatermark journal⟩ := by
  refine (OrderedMap.foldl_view
    (fun journal (windows : OrderedMap JournalId (RetainedWindow Ballot Registration)) =>
      windows[journal]?)
    (fun journal ledger _ => some ⟨ledger, scalars.gcWatermark journal⟩)
    ?_ ?_ ledgers _ journal).trans ?_
  · intro windows journal ledger
    simp
  · intro windows journal ledger other different
    simp [Ne.symm different]
  · simp only [Std.ExtTreeMap.getElem?_map]

theorem Coherent.bootWindows (coherent : matchmaker.Coherent)
    : bootWindows matchmaker.hardState matchmaker.ledgers = matchmaker.registries := by
  ext1 journal
  rw [getElem?_bootWindows]
  cases listed : matchmaker.ledgers[journal]? with
  | some ledger =>
    obtain ⟨_, window, held, rfl⟩ := getElem?_ledgers.mp listed
    have floor : window.floor = matchmaker.hardState.gcWatermark journal := coherent.floors held
    rw [held, Option.elim_some, ← floor]
  | none =>
    rw [Option.elim_none]
    cases held : matchmaker.registries[journal]? with
    | some window =>
      have empty : window.entries = ∅ := by
        by_contra filled
        rw [getElem?_ledgers.mpr ⟨filled, window, held, rfl⟩] at listed
        cases listed
      obtain ⟨scalars, isScalars⟩ := mem_iff_getElem?.mp (coherent.grounded held empty)
      have floor : window.floor = scalars.gcWatermark := by
        rw [coherent.floors held, gcWatermark, MatchmakerHardState.gcWatermark,
          MatchmakerHardState.journal, isScalars, Option.getD_some]
      rw [isScalars, Option.map_some, ← floor, ← empty]
    | none =>
      rw [Option.map_eq_none_iff]
      refine Option.eq_none_iff_forall_ne_some.mpr fun scalars isScalars => ?_
      obtain ⟨window, isWindow⟩ := mem_iff_getElem?.mp
        (coherent.windowed (mem_iff_getElem?.mpr ⟨scalars, isScalars⟩))
      rw [held] at isWindow
      cases isWindow

/-- A boot from the image is the matchmaker, without the batch that waits. -/
theorem Coherent.new_image (coherent : matchmaker.Coherent)
    : Matchmaker.new matchmaker.config matchmaker.image matchmaker.pageSize
      = some matchmaker.advance := by
  have read : readLedgers matchmaker.image = matchmaker.ledgers :=
    readLedgers_eq coherent.kept.inhabited
  simp only [Matchmaker.new, coherent.deployed.1, if_neg coherent.deployed.2]
  rw [read]
  simp only [image, coherent.described, coherent.bootWindows, Option.map_some]
  rfl

theorem normalized_normalized (members : List MatchmakerId)
    : normalized (normalized members) = normalized members :=
  normalized_of_sorted (normalized_sorted members)

/-- A store that boots is the image of what it boots. -/
theorem coherent_of_new {config : MatchmakerConfig} {store : MemRegistry} {pageSize : PageSize}
    (kept : store.Kept) (booted : Matchmaker.new config store pageSize = some matchmaker)
    : matchmaker.Coherent ∧ matchmaker.image = store ∧ matchmaker = matchmaker.advance
      ∧ matchmaker.config = ⟨config.id, normalized config.bootstrap⟩
      ∧ matchmaker.pageSize = pageSize := by
  rw [Matchmaker.new, readLedgers_eq kept.inhabited] at booted
  split at booted
  case isTrue => cases booted
  case isFalse named =>
    obtain ⟨set, described, rfl⟩ := Option.map_eq_some_iff.mp booted
    have windows : ∀ {journal : JournalId} {window : RetainedWindow Ballot Registration},
        (Matchmaker.bootWindows store.hardState store.registry)[journal]? = some window
        → window.floor = store.hardState.gcWatermark journal
          ∧ ((window.entries = ∅ ∧ store.registry[journal]? = none
              ∧ journal ∈ store.hardState.journals)
            ∨ store.registry[journal]? = some window.entries) := by
      intro journal window held
      rw [getElem?_bootWindows] at held
      cases listed : store.registry[journal]? with
      | some ledger =>
        rw [listed, Option.elim_some, Option.some.injEq] at held
        subst held
        exact ⟨rfl, .inr rfl⟩
      | none =>
        rw [listed, Option.elim_none] at held
        obtain ⟨scalars, isScalars, rfl⟩ := Option.map_eq_some_iff.mp held
        refine ⟨?_, .inl ⟨rfl, rfl, mem_iff_getElem?.mpr ⟨scalars, isScalars⟩⟩⟩
        rw [MatchmakerHardState.gcWatermark, MatchmakerHardState.journal, isScalars, Option.getD_some]
    refine ⟨⟨fun held => (windows held).1, ?_, ?_, ?_, described, normalized_normalized _, named⟩,
      ?_, rfl, rfl, rfl⟩
    · intro journal window ballot registration held found
      obtain ⟨empty, -⟩ | listed := (windows held).2
      · rw [empty, Std.ExtTreeMap.getElem?_empty] at found
        cases found
      · exact kept.retained listed found
    · intro journal member
      obtain ⟨scalars, isScalars⟩ := mem_iff_getElem?.mp member
      refine mem_iff_getElem?.mpr ?_
      rw [getElem?_bootWindows]
      cases store.registry[journal]? with
      | some ledger => exact ⟨_, rfl⟩
      | none => exact ⟨⟨∅, scalars.gcWatermark⟩, by simp [isScalars]⟩
    · intro journal window held empty
      obtain ⟨-, -, member⟩ | listed := (windows held).2
      · exact member
      · exact absurd empty (kept.inhabited listed)
    · refine congrArg (MemRegistry.mk store.hardState)
        (Std.ExtTreeMap.ext_getElem? fun journal => Option.ext fun ledger => ?_)
      rw [getElem?_ledgers]
      constructor
      · rintro ⟨filled, window, held, rfl⟩
        obtain ⟨empty, -⟩ | listed := (windows held).2
        · exact absurd empty filled
        · exact listed
      · intro listed
        refine ⟨kept.inhabited listed, ⟨ledger, store.hardState.gcWatermark journal⟩, ?_, rfl⟩
        simp [getElem?_bootWindows, listed]

end Matchmaker

end Paros
