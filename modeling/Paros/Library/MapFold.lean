import Paros.Library.OrderedMap

/-! Maps that are built by a fold over another map's entries, and pages cut out of a map above a
cursor.
-/

namespace OrderedMap

variable {κ α : Type*} [LinearOrder κ] {entries : OrderedMap κ α} {key floor : κ} {value : α}

/-- A fold over steps that each leave the start as it is. -/
theorem foldl_eq_self {β σ : Type*} {step : σ → β → σ} {start : σ} {items : List β}
    (each : ∀ item ∈ items, step start item = start)
    : items.foldl step start = start := by
  induction items with
  | nil => rfl
  | cons item rest ih =>
    rw [List.foldl_cons, each item List.mem_cons_self]
    exact ih fun other member => each other (List.mem_cons_of_mem _ member)

theorem startingAt_eq_self (above : ∀ {key : κ} {value : α}, entries[key]? = some value → floor ≤ key)
    : startingAt floor entries = entries := by
  ext1 key
  rw [getElem?_startingAt]
  split_ifs with reached
  · rfl
  · exact (Option.eq_none_iff_forall_ne_some.mpr fun value held => reached (above held)).symm

theorem insert_eq_self (held : entries[key]? = some value) : entries.insert key value = entries := by
  ext1 other
  rw [getElem?_insert]
  split_ifs with same
  · rw [← same, held]
  · rfl

/-- What a map collected from a list holds was listed. -/
theorem mem_of_getElem?_ofList {listed : List (κ × α)}
    (found : (Std.ExtTreeMap.ofList listed : OrderedMap κ α)[key]? = some value)
    : (key, value) ∈ listed := by
  induction listed using List.reverseRecOn with
  | nil => simp at found
  | append_singleton rest entry ih =>
    rw [ofList_concat, getElem?_insert] at found
    split_ifs at found with same
    · obtain rfl := Option.some.inj found
      exact same ▸ List.mem_append_right _ List.mem_cons_self
    · exact List.mem_append_left _ (ih found)

/-- A fold over a map's entries that each change the view of one key: a key's view is changed by
its own entry alone.
-/
theorem foldl_view {σ β : Type*} {step : σ → κ × α → σ} (view : κ → σ → β) (change : κ → α → β → β)
    (here : ∀ state key value, view key (step state (key, value)) = change key value (view key state))
    (elsewhere : ∀ state key value other, other ≠ key
      → view other (step state (key, value)) = view other state)
    (entries : OrderedMap κ α) (start : σ) (key : κ)
    : view key (entries.toList.foldl step start)
      = (entries[key]?).elim (view key start) fun value => change key value (view key start) := by
  have onward : ∀ (listed : List (κ × α)) (start : σ),
      listed.Pairwise (fun left right => left.1 < right.1)
      → (∀ value, (key, value) ∈ listed
          → view key (listed.foldl step start) = change key value (view key start))
        ∧ ((∀ value, (key, value) ∉ listed) → view key (listed.foldl step start) = view key start) := by
    intro listed
    induction listed with
    | nil => exact fun start _ => ⟨fun _ member => absurd member List.not_mem_nil, fun _ => rfl⟩
    | cons entry rest ih =>
      intro start sorted
      obtain ⟨first, others⟩ := List.pairwise_cons.mp sorted
      obtain ⟨listedLater, absent⟩ := ih (step start entry) others
      refine ⟨fun value member => ?_, fun missing => ?_⟩
      · rcases List.mem_cons.mp member with rfl | later
        · have gone : ∀ value, (key, value) ∉ rest := fun other again =>
            lt_irrefl key (first (key, other) again)
          rw [List.foldl_cons, absent gone, here]
        · rw [List.foldl_cons, listedLater value later,
            elsewhere start entry.1 entry.2 key (first _ later).ne']
      · rw [List.foldl_cons, absent fun value later => missing value (List.mem_cons_of_mem _ later)]
        exact elsewhere start entry.1 entry.2 key fun same =>
          missing entry.2 (same ▸ List.mem_cons_self)
  obtain ⟨listed, absent⟩ := onward entries.toList start (toList_sorted entries)
  cases held : entries[key]? with
  | some value => exact listed value (mem_toList.mpr held)
  | none => exact absent fun value member => by simp [held] at member

end OrderedMap
