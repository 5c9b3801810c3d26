import Paros.Tenant.Config

/-! Acceptor configurations through serialisation: how a serialised one is read back, with its
members in any order and any number of labels.
-/

namespace Paros

/-- The serialised form. -/
structure SerdeAcceptorConfig where
  members : List NodeId
  quorumSystem : QuorumSystem
  domains : List Wire.FailureDomain
  cell : Nat
  proxies : Nat
  replicas : Nat
  deriving DecidableEq

namespace JournalConfig

/-- A configuration is serialised field by field. -/
def toSerde (config : JournalConfig) : SerdeAcceptorConfig :=
  ⟨config.members, config.quorumSystem, config.domains.map FailureDomain.toProto, config.cell,
    config.proxies, config.replicas⟩

/-- A member with its label; one that is too long is an assertion failure of the source. -/
def readLabel (pair : NodeId × Wire.FailureDomain) : Except String (NodeId × FailureDomain) :=
  (FailureDomain.fromProto pair.2).map (pair.1, ·)

/-- Read a serialised configuration back. The labels are paired with the members as listed. -/
def ofSerde (wire : SerdeAcceptorConfig) : Option JournalConfig :=
  (if wire.domains = [] then new wire.members wire.quorumSystem
    else ((wire.members.zip wire.domains).mapM readLabel).toOption.bind
      (zoned · wire.quorumSystem)).bind fun config =>
        (roleCounts wire.proxies wire.replicas).map (config.withCell wire.cell).withCounts

-- Reading back what was written

theorem new_of_sorted {config : JournalConfig} (plain : config.domains = [])
    : new config.members config.quorumSystem
      = build config.members config.domains config.quorumSystem := by
  rw [new, ascending_of_sorted config.sorted, plain]

/-- Members that ascend are changed neither by sorting nor by deduplicating. -/
theorem zoned_of_sorted {config : JournalConfig}
    (labelled : config.domains.length = config.members.length)
    : zoned (config.members.zip config.domains) config.quorumSystem
      = build config.members config.domains config.quorumSystem := by
  have ids : (config.members.zip config.domains).map Prod.fst = config.members :=
    List.map_fst_zip labelled.ge
  have labels : (config.members.zip config.domains).map Prod.snd = config.domains :=
    List.map_snd_zip labelled.le
  have ascending : (config.members.zip config.domains).Pairwise (·.1 < ·.1) :=
    List.pairwise_map.mp (by rw [ids]; exact config.sorted)
  have sorted : (config.members.zip config.domains).insertionSort (·.1 ≤ ·.1)
      = config.members.zip config.domains :=
    List.Pairwise.insertionSort_eq (ascending.imp fun less => less.le)
  have distinct : (config.members.zip config.domains).destutter (·.1 ≠ ·.1)
      = config.members.zip config.domains :=
    List.destutter_of_isChain _ _ (ascending.imp fun less => less.ne).isChain
  have agree : (config.members.zip config.domains).IsChain
      fun first second => first.1 = second.1 → first.2 = second.2 :=
    (ascending.imp fun less equal => absurd equal less.ne).isChain
  rw [zoned, sorted, distinct, ids, labels, if_pos agree]

theorem ofSerde_toSerde (config : JournalConfig) : ofSerde config.toSerde = some config := by
  have built : build config.members config.domains config.quorumSystem
      = some { config with cell := 0, proxies := 0, replicas := 0, few := by decide } :=
    dif_pos ⟨config.sorted, config.admitted, config.labelled⟩
  have read : (if config.domains.map FailureDomain.toProto = []
      then new config.members config.quorumSystem
      else ((config.members.zip (config.domains.map FailureDomain.toProto)).mapM
        readLabel).toOption.bind (zoned · config.quorumSystem))
        = build config.members config.domains config.quorumSystem := by
    split_ifs with plain
    · exact new_of_sorted (List.map_eq_nil_iff.mp plain)
    · have labelled := config.labelled.resolve_left fun none => plain (by rw [none, List.map_nil])
      have back : (config.members.zip (config.domains.map FailureDomain.toProto)).mapM readLabel
          = .ok (config.members.zip config.domains) := by
        rw [List.zip_map_right]
        refine List.mapM_map_ok fun pair _ => ?_
        simp [readLabel, FailureDomain.fromProto_toProto, Except.map]
      rw [back]
      exact zoned_of_sorted labelled
  have counts : roleCounts config.proxies config.replicas
      = some ⟨(config.proxies, config.replicas), config.few⟩ :=
    dif_pos config.few
  rw [ofSerde, toSerde, read, built, Option.bind_some, counts]
  rfl

-- The members read

theorem readLabel_fst {pairs : List (NodeId × Wire.FailureDomain)}
    {read : List (NodeId × FailureDomain)} (done : pairs.mapM readLabel = .ok read)
    : read.map Prod.fst = pairs.map Prod.fst := by
  have each := List.mapM_eq_ok_iff.mp done
  induction each with
  | nil => rfl
  | cons head _ ih =>
    obtain ⟨_, _, rfl⟩ := Except.map_eq_ok_iff.mp head
    rw [List.map_cons, List.map_cons, ih (List.mapM_eq_ok_iff.mpr ‹_›)]

theorem map_fst_zip {α β : Type} (left : List α) (right : List β)
    : (left.zip right).map Prod.fst = left.take right.length := by
  rw [List.zip_eq_zip_take_min, List.map_fst_zip (by simp)]
  rcases le_total left.length right.length with shorter | longer
  · rw [min_eq_left shorter, List.take_length, List.take_of_length_le shorter]
  · rw [min_eq_right longer]

/-- A configuration is read of the members that have labels, or of all where there are none. -/
theorem mem_ofSerde {wire : SerdeAcceptorConfig} {config : JournalConfig}
    (read : ofSerde wire = some config) (id : NodeId)
    : id ∈ config.members ↔ if wire.domains = [] then id ∈ wire.members
      else id ∈ wire.members.take wire.domains.length := by
  obtain ⟨built, base, counted⟩ := Option.bind_eq_some_iff.mp read
  obtain ⟨_, _, rfl⟩ := Option.map_eq_some_iff.mp counted
  change id ∈ built.members ↔ _
  split_ifs at base ⊢ with plain
  · rw [(build_spec base).1]
    simp
  · obtain ⟨pairs, labels, zoned⟩ := Option.bind_eq_some_iff.mp base
    have ok : (wire.members.zip wire.domains).mapM readLabel = .ok pairs := by
      cases result : (wire.members.zip wire.domains).mapM readLabel with
      | error => simp [result, Except.toOption] at labels
      | ok found => simpa [result, Except.toOption] using labels
    rw [(zoned_spec zoned).1, readLabel_fst ok, map_fst_zip]

/-- Every configuration is read back as it was. What a serialised one is read as is well formed; its
members are those listed exactly where there are no labels, or each member past the last label is
listed before it too.
-/
theorem serde_keeps (config : JournalConfig) (wire : SerdeAcceptorConfig)
    : ofSerde config.toSerde = some config
      ∧ (ofSerde wire = some config
        → (config.quorumSystem.admits config.members.length ∧ config.members.Pairwise (· < ·)
            ∧ (config.domains = [] ∨ config.domains.length = config.members.length))
          ∧ ((∀ id, id ∈ config.members ↔ id ∈ wire.members)
            ↔ wire.domains = [] ∨ ∀ id ∈ wire.members.drop wire.domains.length,
              id ∈ wire.members.take wire.domains.length)) := by
  refine ⟨ofSerde_toSerde config, fun read =>
    ⟨⟨config.admitted, config.sorted, config.labelled⟩, ?_⟩⟩
  simp only [mem_ofSerde read]
  split_ifs with plain
  · simp [plain]
  · simp only [plain, false_or]
    have parts (id : NodeId) : id ∈ wire.members ↔ id ∈ wire.members.take wire.domains.length
        ∨ id ∈ wire.members.drop wire.domains.length := by
      rw [← List.mem_append, List.take_append_drop]
    constructor
    · exact fun same id late => (same id).mpr ((parts id).mpr (.inr late))
    · exact fun again id => ⟨fun early => (parts id).mpr (.inl early),
        fun listed => ((parts id).mp listed).elim (fun early => early) (again id)⟩

/-- A member listed again past the last label is not lost. -/
theorem serde_keeps_repeated
    : ∃ config, ofSerde ⟨[1, 2, 1], .majority, [⟨[], []⟩, ⟨[], []⟩], 0, 0, 0⟩ = some config
      ∧ ∀ id, id ∈ config.members ↔ id ∈ [1, 2, 1] := by
  have read := (Option.some_get (by decide
    : (ofSerde ⟨[1, 2, 1], .majority, [⟨[], []⟩, ⟨[], []⟩], 0, 0, 0⟩).isSome)).symm
  exact ⟨_, read, ((serde_keeps _ _).2 read).2.mpr (.inr (by decide))⟩

/-- Three members and one label are read as a configuration of one member. -/
theorem serde_drops_members
    : (ofSerde ⟨[1, 2, 3], .majority, [⟨[], []⟩], 0, 0, 0⟩).map (·.members) = some [1] := by
  decide

end JournalConfig

end Paros
