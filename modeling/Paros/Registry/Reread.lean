import Paros.Registry.History

/-! A cell journal folded from its start and one folded from a checkpoint: they agree as long as no
tenant that moved out is hosted again without an adoption.
-/

namespace Paros

open OrderedMap

namespace Registry

variable {codec : SystemCodec} {registry : Registry}

-- Folded journals

/-- Fold records at their positions, with the events on the way. -/
def foldAll (codec : SystemCodec) (registry : Registry)
    : List (Nat × Bytes) → Registry × List RegistryEvent
  | [] => (registry, [])
  | (seq, record) :: rest =>
    let (after, event) := registry.fold codec seq record
    let (last, events) := foldAll codec after rest
    (last, event :: events)

/-- Records at increasing positions, none before the next one to fold. -/
def InOrder (next : Nat) : List (Nat × Bytes) → Prop
  | [] => True
  | (seq, _) :: rest => next ≤ seq ∧ InOrder (seq + 1) rest

theorem Change.nextSeq {seq : Nat} {command : SystemCommand} {result : Registry × RegistryEvent}
    (change : Change seq registry command result)
    : result.1.nextSeq = registry.nextSeq := by
  cases change with
  | granted _ _ _ books => rw [books.frame]
  | _ => rfl

theorem fold_nextSeq (ok : Sound codec registry) (seq : Nat) (record : Bytes)
    : (registry.fold codec seq record).1.nextSeq = seq + 1 := by
  obtain ⟨command, _, change⟩ := fold_change ok seq record
  exact change.nextSeq

/-- Folding a journal in order is a run. -/
theorem foldAll_run {first : Registry} {events : List RegistryEvent} (ok : Sound codec first)
    (run : Run codec first events registry) {records : List (Nat × Bytes)}
    (order : InOrder registry.nextSeq records)
    : Run codec first (events ++ (registry.foldAll codec records).2)
        (registry.foldAll codec records).1 := by
  induction records generalizing registry events with
  | nil => simpa [foldAll] using run
  | cons entry rest ih =>
    obtain ⟨seq, record⟩ := entry
    have next := fold_nextSeq (run.sound ok) seq record
    have tail := ih (run.fold seq record order.1) (next ▸ order.2)
    simpa only [foldAll, List.append_assoc, List.singleton_append] using tail

/-- What each record keeps, unless it is barred on the registry it meets, a journal without a barred
record keeps, by induction on the records.
-/
theorem foldAll_keeps (holds : Registry → Prop) {barred : Registry → Bytes → Prop}
    (each : ∀ registry seq record, Sound codec registry → holds registry → ¬barred registry record
      → holds (registry.fold codec seq record).1)
    {records : List (Nat × Bytes)} (ok : Sound codec registry) (start : holds registry)
    (order : InOrder registry.nextSeq records)
    (never : ∀ before seq record after, records = before ++ (seq, record) :: after
      → ¬barred (registry.foldAll codec before).1 record)
    : holds (registry.foldAll codec records).1 := by
  induction records generalizing registry with
  | nil => exact start
  | cons entry rest ih =>
    obtain ⟨seq, record⟩ := entry
    refine ih (fold_sound ok order.1 record)
      (each registry seq record ok start (never [] seq record rest rfl))
      ((fold_nextSeq ok seq record).symm ▸ order.2) fun before place held after same => ?_
    exact never ((seq, record) :: before) place held after (by rw [same]; rfl)

-- Tenants hosted again

/-- A record that hosts a tenant the cell recorded as moved out. -/
def HostsMoved (codec : SystemCodec) (registry : Registry) (record : Bytes) : Prop :=
  ∃ fleetId tenant hosted, SystemCommand.decode codec record = .ok (.hostTenant fleetId tenant hosted)
    ∧ (registry.moved[tenant]?).isSome

/-- Only hosting a tenant that moved out makes one hosted and moved out at once. -/
theorem Change.parted {seq : Nat} {command : SystemCommand} {result : Registry × RegistryEvent}
    (change : Change seq registry command result) (parted : registry.Parted)
    (adopts : ∀ fleetId tenant hosted, command = .hostTenant fleetId tenant hosted
      → registry.moved[tenant]? = none)
    : result.1.Parted := by
  cases change with
  | @hosted fleetId tenant host =>
    intro other hosts
    rw [getElem?_insert] at hosts
    split_ifs at hosts with same
    · exact same ▸ adopts fleetId tenant host rfl
    · exact parted other hosts
  | adopted =>
    intro other hosts
    rw [getElem?_insert] at hosts
    rw [getElem?_erase]
    split_ifs at hosts ⊢
    · rfl
    · exact parted other hosts
  | dropped =>
    intro other hosts
    rw [getElem?_erase] at hosts ⊢
    split_ifs at hosts ⊢
    · rfl
    · exact parted other hosts
  | movedOut =>
    intro other hosts
    rw [getElem?_erase] at hosts
    rw [getElem?_insert]
    split_ifs at hosts ⊢
    · cases hosts
    · exact parted other hosts
  | granted _ _ _ books =>
    rw [books.frame]
    exact parted
  | _ => exact parted

theorem fold_parted {seq : Nat} {record : Bytes} (ok : Sound codec registry)
    (parted : registry.Parted) (adopts : ¬HostsMoved codec registry record)
    : (registry.fold codec seq record).1.Parted := by
  rcases fold_cases ok seq record with refused | ⟨command, decoded, change⟩
  · rw [refused]
    exact parted
  · refine change.parted parted fun fleetId tenant hosted same => ?_
    by_contra leaves
    exact adopts ⟨fleetId, tenant, hosted, same ▸ decoded, Option.isSome_iff_ne_none.mpr leaves⟩

-- Restored at the last position

/-- The members a registry was created with are all known to it later. -/
theorem seeded_eq_empty {initial : List NodeId} (later : Later (new initial) registry)
    : (new initial).seeded registry.nodes = ∅ := by
  ext1 id
  rw [seeded, Std.ExtTreeMap.getElem?_filter', Std.ExtTreeMap.getElem?_empty]
  cases held : (new initial).nodes[id]? with
  | none => rfl
  | some node =>
    obtain ⟨kept, found⟩ := Option.isSome_iff_exists.mp (later.known id (by simp [held]))
    simp [found]

/-- A journal's registry is restored from its own checkpoint exactly when no tenant is hosted and
moved out at once; then any suffix folds as it would have. This is so when no record hosts a
tenant that moved out.
-/
theorem checkpoint_restores_iff (codec : SystemCodec) (initial : List NodeId)
    (records : List (Nat × Bytes)) (order : InOrder 0 records) (last : Nat)
    (reached : ((new initial).foldAll codec records).1.nextSeq = last + 1)
    : ((new initial).restore codec last
          (((new initial).foldAll codec records).1.checkpoint codec)
        = .ok ((new initial).foldAll codec records).1
        ↔ ((new initial).foldAll codec records).1.Parted)
      ∧ (∀ restored, (new initial).restore codec last
            (((new initial).foldAll codec records).1.checkpoint codec) = .ok restored
          → ∀ suffix, restored.foldAll codec suffix
            = ((new initial).foldAll codec records).1.foldAll codec suffix)
      ∧ ((∀ before seq record after, records = before ++ (seq, record) :: after
            → ¬HostsMoved codec ((new initial).foldAll codec before).1 record)
          → ((new initial).foldAll codec records).1.Parted) := by
  have ok : Sound codec (new initial) := new_sound initial
  have run := foldAll_run ok .stay order
  have seeded := seeded_eq_empty (run.later ok)
  refine ⟨restore_checkpoint_iff (run.sound ok) reached seeded, fun restored done suffix => ?_,
    foldAll_keeps Parted (fun _ _ _ => fold_parted) ok (fun tenant hosts => by simp [new]) order⟩
  obtain ⟨same, _⟩ := restore_checkpoint_eq (run.sound ok) done
  rw [same, seeded, OrderedMap.union_empty, ← reached]

-- A tenant hosted again

/-- Entries written one after the other from a position. -/
def written (codec : SystemCodec) : Nat → List Wire.Kind → List (Nat × Bytes)
  | _, [] => []
  | seq, kind :: rest => (seq, codec.encodeEntry kind) :: written codec (seq + 1) rest

theorem written_inOrder (codec : SystemCodec) (kinds : List Wire.Kind) (seq : Nat)
    : InOrder seq (written codec seq kinds) := by
  induction kinds generalizing seq with
  | nil => trivial
  | cons kind rest ih => exact ⟨le_rfl, ih (seq + 1)⟩

/-- Fold entries by their messages. -/
def foldKinds (codec : SystemCodec) (registry : Registry)
    : Nat → List Wire.Kind → Registry × List RegistryEvent
  | _, [] => (registry, [])
  | seq, kind :: rest =>
    let (after, event) :=
      match SystemCommand.fromWire codec kind with
      | .ok command => (registry.advance seq).act seq command
      | .error _ => (registry.advance seq, .refused .malformed)
    let (last, events) := foldKinds codec after (seq + 1) rest
    (last, event :: events)

theorem foldAll_written (codec : SystemCodec) (registry : Registry) (seq : Nat)
    (kinds : List Wire.Kind)
    : registry.foldAll codec (written codec seq kinds) = registry.foldKinds codec seq kinds := by
  induction kinds generalizing registry seq with
  | nil => rfl
  | cons kind rest ih =>
    simp only [written, foldAll, foldKinds, fold, SystemCommand.decode,
      codec.decodeEntry_encodeEntry, ih]
    rfl

/-- A tenant is hosted, leaves for another cell, and is hosted again on the bookings it left. -/
def rehosted : List Wire.Kind :=
  [.joinFleet 1 1 1 0 0 [],
    .grantCapacity 0 7 true false [⟨1, 1, 7, 1, "acceptor".toList, 0, false⟩],
    .hostTenant 1 7 1 [] 1 [1],
    .releaseTenant 1 7 2 [1],
    .movedTenant 1 7 2,
    .hostTenant 1 7 1 [] 1 [1]]

example (codec : SystemCodec) : ((new [1]).foldKinds codec 0 rehosted).2
    = [.joinedFleet 1 1, .granted (.footprint 7) [⟨1, 1, .acceptor, .journal ⟨7, 1⟩⟩],
      .tenantHosted 7 1, .tenantReleased 7 2, .tenantMovedOut 7 2, .tenantHosted 7 1] := by
  rfl

/-- The checkpoint of a cell that hosts a tenant again after it moved out is refused. -/
theorem rehosted_refused
    : (new [1]).restore SystemCodec.counted 5
        (((new [1]).foldAll SystemCodec.counted (written SystemCodec.counted 0 rehosted)).1.checkpoint
          SystemCodec.counted)
      = .error "a registry state moves a tenant it cannot" := by
  have ok : Sound SystemCodec.counted (new [1]) := new_sound [1]
  have ok := (foldAll_run ok .stay (written_inOrder SystemCodec.counted rehosted 0)).sound ok
  simp only [restore, checkpoint, SystemCodec.decodeState_encodeState, ofWire_stateToWire ok]
  rw [if_neg]
  rw [foldAll_written]
  exact Bool.false_ne_true

/-- Hosted once, the tenant is restored with its cell. -/
theorem checkpoint_restores_hosted
    : (new [1]).restore SystemCodec.counted 2
        (((new [1]).foldAll SystemCodec.counted
          (written SystemCodec.counted 0 (rehosted.take 3))).1.checkpoint SystemCodec.counted)
      = .ok ((new [1]).foldAll SystemCodec.counted
          (written SystemCodec.counted 0 (rehosted.take 3))).1 := by
  have order := written_inOrder SystemCodec.counted (rehosted.take 3) 0
  refine (checkpoint_restores_iff SystemCodec.counted [1] _ order 2 ?_).1.mpr ?_
  · rw [foldAll_written]
    rfl
  · rw [foldAll_written]
    intro tenant hosts
    exact Std.ExtTreeMap.getElem?_empty

end Registry

end Paros
