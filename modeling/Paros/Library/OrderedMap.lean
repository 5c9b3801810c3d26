import Mathlib

/-! Lookups in ordered maps: what an update, an erasure or a cut of the key range changes, and
the greatest key below a bound.
-/

/-- A linear order's comparison tells equal keys. -/
instance (priority := low) LinearOrder.lawfulEqOrd {κ : Type*} [LinearOrder κ]
    : Std.LawfulEqOrd κ where
  compare_self := by simp
  eq_of_compare same := compare_eq_iff_eq.mp same

/-- Bytes are ordered by their values, and lists of them letter by letter. -/
instance UInt8.linearOrder : LinearOrder UInt8 := LinearOrder.lift' UInt8.toNat fun _ _ => UInt8.toNat_inj.mp

instance UInt8.transCmp : Std.TransCmp (LinearOrder.toOrd : Ord (List UInt8)).compare := inferInstance

-- Lists read item by item

section Reading

variable {β γ ε : Type*} {read : β → Except ε γ} {write : γ → β} {written : List β}
  {values : List γ} {value : γ}

theorem Except.map_eq_ok_iff {result : Except ε β} {change : β → γ}
    : result.map change = .ok value ↔ ∃ before, result = .ok before ∧ change before = value := by
  cases result <;> simp [Except.map]

theorem Except.bind_eq_ok_iff {result : Except ε β} {next : β → Except ε γ}
    : result.bind next = .ok value ↔ ∃ before, result = .ok before ∧ next before = .ok value := by
  cases result <;> simp [Except.bind]

/-- A list is read when each of its items is. -/
theorem List.mapM_eq_ok_iff
    : written.mapM read = .ok values
      ↔ List.Forall₂ (fun item value => read item = .ok value) written values := by
  induction written generalizing values with
  | nil =>
    rw [List.mapM_nil, List.forall₂_nil_left_iff]
    exact ⟨fun same => (Except.ok.inj same).symm, fun same => same ▸ rfl⟩
  | cons item rest ih =>
    rw [List.mapM_cons, List.forall₂_cons_left_iff]
    constructor
    · intro ok
      cases head : read item with
      | error reason => simp [head, bind, Except.bind] at ok
      | ok value =>
        cases tail : rest.mapM read with
        | error reason => simp [head, tail, bind, Except.bind] at ok
        | ok others =>
          simp only [head, tail, bind, Except.bind, pure, Except.pure, Except.ok.injEq] at ok
          exact ⟨value, others, head ▸ rfl, ih.mp tail, ok.symm⟩
    · rintro ⟨value, others, head, tail, rfl⟩
      rw [head, ih.mpr tail]
      rfl

/-- Values that are each read back as they were are read back as a list. -/
theorem List.mapM_map_ok (each : ∀ value ∈ values, read (write value) = .ok value)
    : (values.map write).mapM read = .ok values :=
  List.mapM_eq_ok_iff.mpr (List.forall₂_map_left_iff.mpr (List.forall₂_same.mpr each))

/-- Every value of a list that was read was read from an item. -/
theorem List.exists_of_mapM_ok (all : written.mapM read = .ok values) (member : value ∈ values)
    : ∃ item, read item = .ok value := by
  obtain ⟨index, bound, rfl⟩ := List.mem_iff_getElem.mp member
  have pairs := List.mapM_eq_ok_iff.mp all
  exact ⟨written.get ⟨index, pairs.length_eq ▸ bound⟩, pairs.get _ bound⟩

/-- A list that was read is read again from what its values are written as. -/
theorem List.mapM_reread (write : γ → β)
    (stable : ∀ item value, read item = .ok value → read (write value) = .ok value)
    (all : written.mapM read = .ok values)
    : (values.map write).mapM read = .ok values :=
  List.mapM_map_ok fun _ member =>
    let ⟨_, ok⟩ := List.exists_of_mapM_ok all member
    stable _ _ ok

/-- A list that is read by a fold: what holds of the items read so far and of the fold's state is
kept by each item.
-/
theorem List.foldlM_map_ok {σ : Type*} (step : σ → β → Except ε σ) (write : γ → β) (values : List γ)
    (start : σ) (holds : List γ → σ → Prop) (first : holds [] start)
    (each : ∀ done value rest state, values = done ++ value :: rest → holds done state
      → ∃ next, step state (write value) = .ok next ∧ holds (done ++ [value]) next)
    : ∃ state, (values.map write).foldlM step start = .ok state ∧ holds values state := by
  have onward : ∀ rest done state, values = done ++ rest → holds done state
      → ∃ final, (rest.map write).foldlM step state = .ok final ∧ holds values final := by
    intro rest
    induction rest with
    | nil =>
      intro done state whole held
      rw [List.append_nil] at whole
      exact ⟨state, rfl, whole ▸ held⟩
    | cons value rest ih =>
      intro done state whole held
      obtain ⟨next, stepped, kept⟩ := each done value rest state whole held
      obtain ⟨final, read, all⟩ := ih (done ++ [value]) next (by simp [whole]) kept
      refine ⟨final, ?_, all⟩
      rw [List.map_cons, List.foldlM_cons, stepped]
      exact read
  exact onward values [] start rfl first

end Reading

/-- A finite map ordered by its keys. -/
abbrev OrderedMap (κ α : Type*) [LinearOrder κ] := Std.ExtTreeMap κ α

namespace OrderedMap

variable {κ α : Type*} [LinearOrder κ]

/-- The entries at or above a key. -/
def startingAt (floor : κ) (entries : OrderedMap κ α) : OrderedMap κ α :=
  entries.filter fun key _ => floor ≤ key

/-- The entries below a key. -/
def before (bound : κ) (entries : OrderedMap κ α) : OrderedMap κ α :=
  entries.filter fun key _ => key < bound

/-- The greatest key. -/
def lastKey? (entries : OrderedMap κ α) : Option κ := entries.keys.getLast?

/-- The entry of the greatest key below a bound. -/
def lastBefore (bound : κ) (entries : OrderedMap κ α) : Option (κ × α) :=
  (lastKey? (before bound entries)).bind fun key => entries[key]?.map fun value => (key, value)

/-- The values, in the order of their keys. -/
def contents (entries : OrderedMap κ α) : List α := entries.toList.map Prod.snd

variable {entries : OrderedMap κ α} {key other floor bound : κ} {value : α}

@[simp]
theorem getElem?_insert
    : (entries.insert key value)[other]? = if key = other then some value else entries[other]? := by
  rw [Std.ExtTreeMap.getElem?_insert]
  simp only [compare_eq_iff_eq]

@[simp]
theorem getElem?_erase
    : (entries.erase key)[other]? = if key = other then none else entries[other]? := by
  rw [Std.ExtTreeMap.getElem?_erase]
  simp only [compare_eq_iff_eq]

/-- What is found after an insertion was inserted, or was there. -/
theorem of_getElem?_insert {found : α} (there : (entries.insert key value)[other]? = some found)
    : key = other ∧ value = found ∨ key ≠ other ∧ entries[other]? = some found := by
  rw [getElem?_insert] at there
  split_ifs at there with same
  · exact .inl ⟨same, Option.some.inj there⟩
  · exact .inr ⟨same, there⟩

theorem of_getElem?_erase (there : (entries.erase key)[other]? = some value)
    : key ≠ other ∧ entries[other]? = some value := by
  rwa [getElem?_erase, Option.ite_none_left_eq_some] at there

section

variable {holds : κ → α → Prop} (kept : ∀ other found, entries[other]? = some found → holds other found)
include kept

/-- What holds of every entry, and of the one inserted, holds of every entry afterwards. -/
theorem forall_insert (here : holds key value)
    : ∀ other found, (entries.insert key value)[other]? = some found → holds other found := by
  intro other found there
  rcases of_getElem?_insert there with ⟨rfl, rfl⟩ | ⟨_, before⟩
  · exact here
  · exact kept other found before

theorem forall_erase
    : ∀ other found, (entries.erase key)[other]? = some found → holds other found :=
  fun other found there => kept other found (of_getElem?_erase there).2

end

/-- An insertion at a fresh key adds that entry and keeps every other. -/
theorem getElem?_insert_fresh {recorded : α} (fresh : entries[key]? = none)
    : (entries.insert key value)[other]? = some recorded
      ↔ entries[other]? = some recorded ∨ (other = key ∧ recorded = value) := by
  rw [getElem?_insert]
  split_ifs with same
  · subst same
    simp only [fresh, reduceCtorEq, false_or, true_and, Option.some.injEq]
    exact eq_comm
  · simp only [Ne.symm same, false_and, or_false]

/-- Recording a value at a fresh key, or not: the held entries grow by that one at most. -/
theorem getElem?_ite_insert {keep : Prop} [Decidable keep] {recorded : α}
    (fresh : entries[key]? = none)
    : (if keep then entries.insert key value else entries)[other]? = some recorded
      ↔ entries[other]? = some recorded ∨ (other = key ∧ recorded = value ∧ keep) := by
  split_ifs with kept
  · rw [getElem?_insert_fresh fresh]
    simp only [kept, and_true]
  · simp only [kept, and_false, or_false]

theorem mem_iff_getElem? : key ∈ entries ↔ ∃ value, entries[key]? = some value := by
  rw [← Std.ExtTreeMap.isSome_getElem?_iff_mem, Option.isSome_iff_exists]

theorem union_empty (entries : OrderedMap κ α) : entries ∪ (∅ : OrderedMap κ α) = entries :=
  Std.ExtTreeMap.ext_getElem? fun key => by
    rw [Std.ExtTreeMap.getElem?_union, Std.ExtTreeMap.getElem?_empty, Option.none_or]

theorem lastKey?_eq_none (empty : lastKey? entries = none) (key : κ)
    : entries[key]? = none := by
  rw [lastKey?, ← Std.ExtTreeMap.maxKey?_eq_getLast?_keys] at empty
  rw [Std.ExtTreeMap.maxKey?_eq_none_iff.mp empty]
  exact Std.ExtTreeMap.getElem?_empty

theorem getElem?_filterKeys (keep : κ → Bool)
    : (entries.filter fun key _ => keep key)[key]? = if keep key then entries[key]? else none := by
  rw [Std.ExtTreeMap.getElem?_filter']
  split <;> cases entries[key]? <;> simp_all [Option.filter]

@[simp]
theorem getElem?_startingAt
    : (startingAt floor entries)[key]? = if floor ≤ key then entries[key]? else none := by
  simp only [startingAt, getElem?_filterKeys (floor ≤ ·), decide_eq_true_eq]

@[simp]
theorem getElem?_before
    : (before bound entries)[key]? = if key < bound then entries[key]? else none := by
  simp only [before, getElem?_filterKeys (· < bound), decide_eq_true_eq]

@[simp]
theorem mem_toList : (key, value) ∈ entries.toList ↔ entries[key]? = some value :=
  Std.ExtTreeMap.mem_toList_iff_getElem?_eq_some

@[simp]
theorem mem_contents : value ∈ contents entries ↔ ∃ key : κ, entries[key]? = some value := by
  simp only [contents, List.mem_map, Prod.exists, exists_eq_right, mem_toList]

/-- The greatest key of a map bounds every key it holds. -/
theorem le_of_lastKey? (greatest : lastKey? entries = some key)
    (held : entries[other]? = some value)
    : other ≤ key := by
  rw [lastKey?, ← Std.ExtTreeMap.maxKey?_eq_getLast?_keys] at greatest
  have all := (Std.ExtTreeMap.maxKey?_eq_some_iff_mem_and_forall.mp greatest).2 other
    (mem_iff_getElem?.mpr ⟨value, held⟩)
  exact compare_le_iff_le.mp (by simpa [Ordering.isLE_iff_ne_gt] using all)

/-- A greatest key is held. -/
theorem getElem?_of_lastKey? (greatest : lastKey? entries = some key)
    : ∃ value, entries[key]? = some value := by
  rw [lastKey?, ← Std.ExtTreeMap.maxKey?_eq_getLast?_keys] at greatest
  exact mem_iff_getElem?.mp (Std.ExtTreeMap.maxKey?_mem greatest)

/-- What `lastBefore` finds: a held entry below the bound with nothing in between. -/
theorem lastBefore_eq_some (found : lastBefore bound entries = some (key, value))
    : key < bound ∧ entries[key]? = some value
      ∧ ∀ other, key < other → other < bound → entries[other]? = none := by
  obtain ⟨greatest, isMax, same⟩ := Option.bind_eq_some_iff.mp found
  obtain ⟨held, present, equal⟩ := Option.map_eq_some_iff.mp same
  obtain ⟨rfl, rfl⟩ := Prod.mk.inj equal
  obtain ⟨_, inside⟩ := getElem?_of_lastKey? isMax
  rw [getElem?_before] at inside
  split at inside
  case isFalse => cases inside
  case isTrue less =>
    refine ⟨less, present, fun other above below => ?_⟩
    by_contra held
    obtain ⟨value, isSome⟩ := Option.ne_none_iff_exists'.mp held
    have bounded : other ≤ greatest :=
      le_of_lastKey? isMax (by simp [below, isSome] : (before bound entries)[other]? = some value)
    exact absurd above (not_lt.mpr bounded)

/-- `lastBefore` finds nothing only when nothing is held below the bound. -/
theorem lastBefore_eq_none (missing : lastBefore bound entries = none) (below : key < bound)
    : entries[key]? = none := by
  cases greatest : lastKey? (before bound entries) with
  | none =>
    have empty := lastKey?_eq_none greatest key
    simpa [below] using empty
  | some held =>
    obtain ⟨value, inside⟩ := getElem?_of_lastKey? greatest
    rw [getElem?_before] at inside
    split at inside
    · simp [lastBefore, greatest, inside] at missing
    · cases inside

-- Maps written to lists and read back

/-- A map is collected again from its entries. -/
theorem ofList_toList (entries : OrderedMap κ α) : Std.ExtTreeMap.ofList entries.toList = entries := by
  ext1 key
  cases held : entries[key]? with
  | some value =>
    exact Std.ExtTreeMap.getElem?_ofList_of_mem (by simp) Std.ExtTreeMap.distinct_keys_toList
      (mem_toList.mpr held)
  | none =>
    refine Std.ExtTreeMap.getElem?_ofList_of_contains_eq_false ?_
    refine Bool.eq_false_iff.mpr fun inside => ?_
    obtain ⟨⟨_, value⟩, member, rfl⟩ := List.mem_map.mp (List.contains_iff_mem.mp inside)
    rw [mem_toList, held] at member
    cases member

theorem ofList_concat (listed : List (κ × α)) (key : κ) (value : α)
    : Std.ExtTreeMap.ofList (listed ++ [(key, value)])
      = (Std.ExtTreeMap.ofList listed : OrderedMap κ α).insert key value := by
  rw [Std.ExtTreeMap.ofList_eq_insertMany_empty, Std.ExtTreeMap.insertMany_append,
    Std.ExtTreeMap.insertMany_list_singleton, ← Std.ExtTreeMap.ofList_eq_insertMany_empty]

/-- A start of a map's entries, collected again, holds those entries. -/
theorem getElem?_ofList_of_append {listed rest : List (κ × α)} (split : entries.toList = listed ++ rest)
    : (Std.ExtTreeMap.ofList listed : OrderedMap κ α)[key]? = some value ↔ (key, value) ∈ listed := by
  have distinct := (List.pairwise_append.mp (split ▸ entries.distinct_keys_toList)).1
  constructor
  · intro found
    by_contra absent
    have member : (listed.map Prod.fst).contains key = true := by
      by_contra missing
      rw [Std.ExtTreeMap.getElem?_ofList_of_contains_eq_false (by simpa using missing)] at found
      cases found
    obtain ⟨⟨_, other⟩, inside, rfl⟩ := List.mem_map.mp (List.contains_iff_mem.mp member)
    rw [Std.ExtTreeMap.getElem?_ofList_of_mem (by simp) distinct inside] at found
    cases found
    exact absent inside
  · intro member
    exact Std.ExtTreeMap.getElem?_ofList_of_mem (by simp) distinct member

/-- The next entry of a map has a key that no entry before it has. -/
theorem ne_of_toList_append {listed rest : List (κ × α)} {earlier : α}
    (split : entries.toList = listed ++ (key, value) :: rest) (member : (other, earlier) ∈ listed)
    : other ≠ key := by
  have distinct := (List.pairwise_append.mp (split ▸ entries.distinct_keys_toList)).2.2
  intro same
  exact distinct _ member _ List.mem_cons_self (by simp [same])

/-- A map that is read with an index of it: the entries that are kept, by their labels. A reader that
accepts every entry whose label is free reads both back.
-/
theorem foldlM_indexed {ν β ε : Type*} [LinearOrder ν] (label : α → ν) (keep : α → Prop)
    [DecidablePred keep] (step : OrderedMap κ α × OrderedMap ν κ → β
      → Except ε (OrderedMap κ α × OrderedMap ν κ)) (write : κ × α → β) {index : OrderedMap ν κ}
    (agree : ∀ (name : ν) (key : κ), index[name]? = some key
      ↔ ∃ value, entries[key]? = some value ∧ keep value ∧ label value = name)
    (each : ∀ (key : κ) (value : α) (held : OrderedMap κ α) (names : OrderedMap ν κ),
      entries[key]? = some value → (keep value → names[label value]? = none)
      → step (held, names) (write (key, value))
        = .ok (held.insert key value,
            if keep value then names.insert (label value) key else names))
    : (entries.toList.map write).foldlM step (∅, ∅) = .ok (entries, index) := by
  -- The index so far is that of the entries read so far.
  obtain ⟨⟨held, names⟩, read, rfl, named⟩ := List.foldlM_map_ok step write entries.toList (∅, ∅)
    (fun done state => state.1 = Std.ExtTreeMap.ofList done
      ∧ ∀ (name : ν) (key : κ), state.2[name]? = some key
        ↔ ∃ value, (key, value) ∈ done ∧ keep value ∧ label value = name)
    ⟨rfl, by simp⟩ (by
      rintro done ⟨key, value⟩ rest ⟨_, names⟩ split ⟨rfl, named⟩
      have held : entries[key]? = some value := mem_toList.mp (by simp [split])
      have free : keep value → names[label value]? = none := by
        intro kept
        refine Option.eq_none_iff_forall_ne_some.mpr fun other found => ?_
        obtain ⟨earlier, member, theirs, same⟩ := (named (label value) other).mp found
        have there : entries[other]? = some earlier := mem_toList.mp (by simp [split, member])
        have mine := (agree (label value) key).mpr ⟨value, held, kept, rfl⟩
        have again := (agree (label value) other).mpr ⟨earlier, there, theirs, same⟩
        exact ne_of_toList_append split member (Option.some.inj (again.symm.trans mine))
      refine ⟨_, each key value _ names held free, (ofList_concat ..).symm, fun name other => ?_⟩
      simp only [List.mem_append, List.mem_singleton, Prod.mk.injEq, or_and_right, exists_or]
      by_cases kept : keep value
      · rw [if_pos kept, getElem?_insert_fresh (free kept), named]
        refine or_congr Iff.rfl ⟨?_, ?_⟩
        · rintro ⟨rfl, rfl⟩
          exact ⟨value, ⟨rfl, rfl⟩, kept, rfl⟩
        · rintro ⟨_, ⟨rfl, rfl⟩, _, rfl⟩
          exact ⟨rfl, rfl⟩
      · rw [if_neg kept, named]
        refine (or_iff_left ?_).symm
        rintro ⟨_, ⟨rfl, rfl⟩, again, _⟩
        exact kept again)
  rw [read, ofList_toList]
  refine congrArg (fun found => Except.ok (entries, found))
    (Std.ExtTreeMap.ext_getElem? fun name => Option.ext fun key => ?_)
  rw [named, agree]
  simp only [mem_toList]

theorem isSome_insert (held : (entries[other]?).isSome) : ((entries.insert key value)[other]?).isSome := by
  rw [getElem?_insert]
  split_ifs
  · rfl
  · exact held

theorem isSome_erase (held : (entries[other]?).isSome) (apart : key ≠ other)
    : ((entries.erase key)[other]?).isSome := by
  rwa [getElem?_erase, if_neg apart]

theorem mem_insert : other ∈ entries.insert key value ↔ other = key ∨ other ∈ entries := by
  rw [Std.ExtTreeMap.mem_insert, compare_eq_iff_eq, eq_comm]

theorem size_insert_fresh (fresh : key ∉ entries)
    : (entries.insert key value).size = entries.size + 1 := by
  rw [Std.ExtTreeMap.size_insert, if_neg]
  simpa using fresh

/-- The greatest key reaches a bound exactly when some key does. -/
theorem some_le_lastKey?_iff
    : some bound ≤ lastKey? entries
      ↔ ∃ (held : κ) (value : α), entries[held]? = some value ∧ bound ≤ held := by
  constructor
  · intro covers
    cases greatest : lastKey? entries with
    | none => simp [greatest] at covers
    | some held =>
      obtain ⟨value, present⟩ := getElem?_of_lastKey? greatest
      rw [greatest, Option.some_le_some] at covers
      exact ⟨held, value, present, covers⟩
  · rintro ⟨held, value, present, covers⟩
    cases greatest : lastKey? entries with
    | none => simp [lastKey?_eq_none greatest held] at present
    | some last =>
      rw [Option.some_le_some]
      exact covers.trans (le_of_lastKey? greatest present)

theorem toList_sorted (entries : OrderedMap κ α)
    : entries.toList.Pairwise fun left right => left.1 < right.1 :=
  Std.ExtTreeMap.ordered_keys_toList.imp fun less => compare_lt_iff_lt.mp less

/-- The entries of a map whose keys split into a lower and a higher part. -/
theorem toList_eq_append {low high : OrderedMap κ α}
    (ordered : ∀ {key other : κ} {value : α} {value' : α}, low[key]? = some value
      → high[other]? = some value' → key < other)
    (parts : ∀ {key : κ} {value : α}, entries[key]? = some value
      ↔ low[key]? = some value ∨ high[key]? = some value)
    : entries.toList = low.toList ++ high.toList := by
  have joined : (low.toList ++ high.toList).Pairwise fun left right => left.1 < right.1 := by
    refine List.pairwise_append.mpr ⟨toList_sorted low, toList_sorted high, ?_⟩
    rintro ⟨key, value⟩ lower ⟨other, value'⟩ higher
    exact ordered (mem_toList.mp lower) (mem_toList.mp higher)
  have irrefl : Std.Irrefl fun left right : κ × α => left.1 < right.1 := ⟨fun _ => lt_irrefl _⟩
  have antisymm : Std.Antisymm fun left right : κ × α => left.1 < right.1 :=
    ⟨fun _ _ less more => absurd (less.trans more) (lt_irrefl _)⟩
  refine List.Pairwise.eq_of_mem_iff (toList_sorted entries) joined ?_
  rintro ⟨key, value⟩
  rw [List.mem_append, mem_toList, mem_toList, mem_toList, parts]

/-- The entries from one bound up to another, then those from there on. -/
theorem toList_startingAt {part : OrderedMap κ α} {low high : κ} (ordered : low ≤ high)
    (between : ∀ key : κ, part[key]? = if low ≤ key ∧ key < high then entries[key]? else none)
    : (startingAt low entries).toList = part.toList ++ (startingAt high entries).toList := by
  refine toList_eq_append ?_ ?_
  · intro key other value value' listed later
    rw [between, Option.ite_none_right_eq_some] at listed
    rw [getElem?_startingAt, Option.ite_none_right_eq_some] at later
    exact listed.1.2.trans_le later.1
  · intro key value
    rw [between, getElem?_startingAt, getElem?_startingAt, Option.ite_none_right_eq_some,
      Option.ite_none_right_eq_some, Option.ite_none_right_eq_some, ← or_and_right]
    refine and_congr_left fun _ => ⟨fun above => ?_, ?_⟩
    · exact (lt_or_ge key high).imp (⟨above, ·⟩) id
    · rintro (⟨above, _⟩ | above)
      · exact above
      · exact ordered.trans above

/-- Read a list of written entries into a map, up to the first one that is refused. -/
def readAll {β ε : Type*} (read : β → Except ε (κ × α)) (written : List β)
    : Except ε (OrderedMap κ α) :=
  (written.mapM read).map fun entries => Std.ExtTreeMap.ofList entries

variable {β ε : Type*} {read : β → Except ε (κ × α)} {write : κ × α → β} {found : OrderedMap κ α}

/-- A map whose entries are each read back as they were is read back whole. -/
theorem readAll_toList
    (each : ∀ key value, entries[key]? = some value → read (write (key, value)) = .ok (key, value))
    : readAll read (entries.toList.map write) = .ok entries := by
  have whole : (entries.toList.map write).mapM read = .ok entries.toList :=
    List.mapM_map_ok fun entry member => each entry.1 entry.2 (mem_toList.mp member)
  rw [readAll, whole]
  exact congrArg Except.ok (ofList_toList entries)

/-- A map that is read back at all has every entry read. -/
theorem exists_of_readAll_toList (ok : readAll read (entries.toList.map write) = .ok found)
    (held : entries[key]? = some value)
    : ∃ got, read (write (key, value)) = .ok got := by
  obtain ⟨values, all, _⟩ := Except.map_eq_ok_iff.mp ok
  have pairs := List.forall₂_map_left_iff.mp (List.mapM_eq_ok_iff.mp all)
  obtain ⟨index, bound, same⟩ := List.mem_iff_getElem.mp (mem_toList.mpr held)
  have taken := pairs.get bound (pairs.length_eq ▸ bound)
  rw [List.get_eq_getElem, same] at taken
  exact ⟨_, taken⟩

/-- A map whose entries are each read back as they were, if they are, is read back whole. -/
theorem readAll_toList_eq
    (each : ∀ key value, entries[key]? = some value
      → ∀ got, read (write (key, value)) = .ok got → got = (key, value))
    (ok : readAll read (entries.toList.map write) = .ok found)
    : found = entries := by
  have whole : readAll read (entries.toList.map write) = .ok entries := by
    refine readAll_toList fun key value held => ?_
    obtain ⟨got, read⟩ := exists_of_readAll_toList ok held
    exact each key value held got read ▸ read
  exact Except.ok.inj (ok.symm.trans whole)

end OrderedMap

/-- The elements of a finite set of naturals in increasing order. -/
def Finset.ascending (elements : Finset ℕ) : List ℕ :=
  (List.range (elements.sup id + 1)).filter (· ∈ elements)

@[simp]
theorem Finset.mem_ascending {elements : Finset ℕ} {element : ℕ}
    : element ∈ elements.ascending ↔ element ∈ elements := by
  simp only [ascending, List.mem_filter, List.mem_range, decide_eq_true_eq, and_iff_right_iff_imp]
  exact fun member => Nat.lt_succ_of_le (Finset.le_sup (f := id) member)

@[simp]
theorem Finset.ascending_toFinset (elements : Finset ℕ) : elements.ascending.toFinset = elements := by
  ext element
  simp
