import Paros.Fleet.Restore

/-! Fleet directories over whole histories of records, checkpoints and restores: what their maps
hold together, what stays, and where their tenants live.
-/

namespace Paros

open OrderedMap

namespace FleetDirectory

variable {codec : FleetCodec} {directory : FleetDirectory} {result : FleetDirectory × FleetEvent}

-- What stays

/-- What a later directory keeps of an earlier one: the ids that were removed, the cell of its
universe, and that some root key is in force.
-/
structure Later (before after : FleetDirectory) : Prop where
  removed : before.removed ⊆ after.removed
  removedCells : before.removedCells ⊆ after.removedCells
  universeCell : ∀ cellId, before.universeCell = some cellId → after.universeCell = some cellId
  keys : before.keys.live ≠ ∅ → after.keys.live ≠ ∅

theorem Later.refl (directory : FleetDirectory) : Later directory directory :=
  ⟨subset_rfl, subset_rfl, fun _ => id, id⟩

theorem Later.trans {before middle after : FleetDirectory} (first : Later before middle)
    (second : Later middle after)
    : Later before after where
  removed := first.removed.trans second.removed
  removedCells := first.removedCells.trans second.removedCells
  universeCell cellId host := second.universeCell cellId (first.universeCell cellId host)
  keys set := second.keys (first.keys set)

theorem universeCell_eq_some {cellId : Nat} : directory.universeCell = some cellId
    ↔ ∃ fleet host, directory.fleet = some fleet
      ∧ directory.tenants[fleet.control.tenant]? = some host
      ∧ host.cellId = cellId ∧ cellId ≠ 0 := by
  simp only [universeCell, universe?, Option.filter_eq_some_iff, Option.map_eq_some_iff,
    Option.bind_eq_some_iff, decide_eq_true_eq]
  constructor
  · rintro ⟨⟨host, ⟨fleet, formed, there⟩, home⟩, set⟩
    exact ⟨fleet, host, formed, there, home, set⟩
  · rintro ⟨fleet, host, formed, there, home, set⟩
    exact ⟨⟨host, ⟨fleet, formed, there⟩, home⟩, set⟩

/-- The universe stays in its cell when its tenant's entry does. -/
theorem universeCell_of_host {after : FleetDirectory} (same : after.fleet = directory.fleet)
    (stays : ∀ fleet host, directory.fleet = some fleet
      → directory.tenants[fleet.control.tenant]? = some host → host.cellId ≠ 0
      → ∃ kept, after.tenants[fleet.control.tenant]? = some kept ∧ kept.cellId = host.cellId)
    : ∀ cellId, directory.universeCell = some cellId → after.universeCell = some cellId := by
  intro cellId host
  obtain ⟨fleet, entry, formed, there, home, set⟩ := universeCell_eq_some.mp host
  obtain ⟨kept, found, lives⟩ := stays fleet entry formed there (home ▸ set)
  exact universeCell_eq_some.mpr ⟨fleet, kept, same.trans formed, found, lives.trans home, set⟩

theorem Change.later (change : Change codec directory result) (ok : Sound codec directory)
    : Later directory result.1 := by
  -- An entry that is put or erased is not the universe's, or leaves it in its cell.
  have isUniverse : ∀ {fleet : Formed} {host : TenantEntry}, directory.fleet = some fleet
      → directory.tenants[fleet.control.tenant]? = some host → host.kind = .universe := by
    intro fleet host formed there
    obtain ⟨held, again, kind, _⟩ := ok.founded.hosts fleet formed
    cases there.symm.trans again
    exact kind
  cases change with
  | kept => exact .refl directory
  | formed name unformed =>
    refine ⟨subset_rfl, subset_rfl, fun cellId host => ?_, id⟩
    obtain ⟨fleet, _, formed, _⟩ := universeCell_eq_some.mp host
    rw [unformed] at formed
    cases formed
  | @cellAdded fleet cellId control name kind endpoint version held numbered set parsed standing
      fresh untaken =>
    obtain ⟨host, there, _⟩ := ok.founded.hosts fleet held
    have apart := ne_of_taken untaken there
    rw [Sound.withCell_eq held there apart]
    refine ⟨subset_rfl, subset_rfl, universeCell_of_host rfl ?_, id⟩
    intro formed entry again found hosted
    cases held.symm.trans again
    cases there.symm.trans found
    exact ⟨host, by simp [hosted, apart, there], rfl⟩
  | @cellRemoved cellId cell held alone bare =>
    refine ⟨Finset.subset_insert _ _, Finset.subset_insert _ _,
      universeCell_of_host rfl ?_, id⟩
    intro fleet host formed there _
    refine ⟨host, ?_, rfl⟩
    obtain ⟨_, control, hosted, isCell, _⟩ := ok.celled.tenant cellId cell held
    rw [getElem?_erase, if_neg]
    · exact there
    · intro same
      rw [same, there] at hosted
      cases hosted
      rw [isUniverse formed there] at isCell
      cases isCell
  | cellPut | bucketsAssigned => exact ⟨subset_rfl, subset_rfl, fun _ => id, id⟩
  | @tenantRegistered control name cellId survives tags placement fleet formed set untaken =>
    refine ⟨subset_rfl, subset_rfl, universeCell_of_host rfl ?_, id⟩
    intro fleet host _ there _
    exact ⟨host,
      (getElem?_insert_fresh (taken_eq_false.mp untaken).1).mpr (.inl there), rfl⟩
  | @tenantPut tenant before after tagged event held becomes =>
    refine ⟨subset_rfl, subset_rfl, universeCell_of_host rfl ?_, id⟩
    intro fleet host formed there _
    simp only [putTenant, getElem?_insert]
    split_ifs with this
    · subst this
      cases held.symm.trans there
      exact ⟨after, rfl, (becomes.internal (by simp [isUniverse formed there])).1⟩
    · exact ⟨host, there, rfl⟩
  | @tenantRemoved tenant entry held user =>
    refine ⟨Finset.subset_insert _ _, subset_rfl, universeCell_of_host rfl ?_, id⟩
    intro fleet host formed there _
    refine ⟨host, ?_, rfl⟩
    rw [getElem?_erase, if_neg]
    · exact there
    · rintro rfl
      cases held.symm.trans there
      rw [isUniverse formed there] at user
      cases user
  | keyAdded formed added =>
    exact ⟨subset_rfl, subset_rfl, fun _ => id, RootKeys.add_live added⟩
  | keyRemoved removed =>
    exact ⟨subset_rfl, subset_rfl, fun _ => id, ok.keyed.remove_live removed⟩

/-- A change that says it removed a tenant or a cell did so. -/
theorem Change.buries (change : Change codec directory result)
    : (∀ tenant, result.2 = .tenantRemoved tenant → tenant ∈ result.1.removed)
      ∧ ∀ cellId, result.2 = .cellRemoved cellId → cellId ∈ result.1.removedCells := by
  cases change with
  | cellRemoved | tenantRemoved => simp
  | kept _ quiet | cellPut _ _ _ _ quiet | tenantPut _ _ _ _ quiet =>
    simp [FleetEvent.removes_eq_false.mp quiet]
  | @keyAdded _ _ change | @keyRemoved _ _ change => cases change <;> simp [FleetEvent.ofKeyChange]
  | _ => simp

-- Where the tenants live

/-- A tenant lives in a held cell, if in any, and moves to a held cell. -/
def HousedIn (cells : OrderedMap Nat CellEntry) (entry : TenantEntry) : Prop :=
  (entry.cellId ≠ 0 → (cells[entry.cellId]?).isSome)
    ∧ ∀ cellId : Nat, entry.movingTo = some cellId → (cells[cellId]?).isSome

theorem HousedIn.put_cell {cells : OrderedMap Nat CellEntry} {entry : TenantEntry}
    (housed : HousedIn cells entry) (cellId : Nat) (cell : CellEntry)
    : HousedIn (cells.insert cellId cell) entry :=
  ⟨fun set => isSome_insert (housed.1 set),
    fun other moving => isSome_insert (housed.2 other moving)⟩

def Housed (directory : FleetDirectory) : Prop :=
  ∀ (id : TenantId) (entry : TenantEntry), directory.tenants[id]? = some entry
    → HousedIn directory.cells entry

/-- An event removes no cell that a tenant is moving to. -/
def Orderly (directory : FleetDirectory) (event : FleetEvent) : Prop :=
  ∀ cellId, event = .cellRemoved cellId → ∀ (id : TenantId) (entry : TenantEntry),
    directory.tenants[id]? = some entry → entry.movingTo ≠ some cellId

/-- A removed cell had no tenant but its own. -/
theorem Change.alone (change : Change codec directory result) {cellId : Nat}
    (removed : result.2 = .cellRemoved cellId)
    : ∃ cell, directory.cells[cellId]? = some cell ∧ ∀ (id : TenantId) (entry : TenantEntry),
        directory.tenants[id]? = some entry → entry.cellId = cellId → id = cell.controlTenant := by
  cases change with
  | kept _ quiet | cellPut _ _ _ _ quiet | tenantPut _ _ _ _ quiet =>
    exact absurd removed ((FleetEvent.removes_eq_false.mp quiet).2 cellId)
  | @keyAdded key keys change | @keyRemoved key keys change => cases change <;> cases removed
  | @cellRemoved _ cell held alone =>
    cases removed
    exact ⟨cell, held, fun id entry found lives => lodger_eq_none alone found lives⟩
  | _ => cases removed

theorem Change.housed (change : Change codec directory result) (ok : Sound codec directory)
    (housed : Housed directory) (orderly : Orderly directory result.2)
    : Housed result.1 := by
  cases change with
  | kept | bucketsAssigned | keyAdded | keyRemoved => exact housed
  | formed name =>
    exact forall_insert housed ⟨fun set => absurd rfl set, by simp [internalEntry]⟩
  | @cellAdded fleet cellId control name kind endpoint version held numbered set parsed standing
      fresh untaken =>
    obtain ⟨host, there, _⟩ := ok.founded.hosts fleet held
    have apart := ne_of_taken untaken there
    rw [Sound.withCell_eq held there apart]
    have added : ∀ (id : TenantId) (entry : TenantEntry), (directory.tenants.insert control.tenant
        (internalEntry .cell .pinned name cellId control.journal))[id]? = some entry
          → HousedIn (directory.cells.insert cellId
            ⟨.registering, version, control.tenant, kind, .none⟩) entry :=
      forall_insert (fun id entry found => (housed id entry found).put_cell _ _)
        ⟨fun _ => by simp [internalEntry], by simp [internalEntry]⟩
    intro id entry found
    simp only at found
    split_ifs at found
    · rcases of_getElem?_insert found with ⟨rfl, rfl⟩ | ⟨_, found⟩
      · exact ⟨fun _ => by simp, ((housed _ host there).put_cell _ _).2⟩
      · exact added id entry found
    · exact added id entry found
  | @cellRemoved cellId cell held alone bare =>
    intro id entry found
    obtain ⟨own, there⟩ := of_getElem?_erase found
    obtain ⟨lives, moves⟩ := housed id entry there
    refine ⟨fun set => isSome_erase (lives set) fun here => ?_, fun destination moving =>
      isSome_erase (moves destination moving) ?_⟩
    · exact own (lodger_eq_none alone there here.symm).symm
    · rintro rfl
      exact orderly cellId rfl id entry there moving
  | cellPut tagged event held same =>
    intro id entry found
    exact (housed id entry found).put_cell _ _
  | tenantRegistered survives tags formed set untaken unnamed held placed =>
    exact forall_insert housed ⟨fun _ => held, by simp⟩
  | @tenantPut tenant before after tagged event held becomes =>
    obtain ⟨lives, moves⟩ := housed tenant before held
    refine forall_insert housed ⟨fun set => ?_, fun other goes => ?_⟩
    · rcases becomes.lives with stays | moved
      · rw [stays] at set ⊢
        exact lives set
      · exact moves after.cellId moved
    · rcases becomes.moves other goes with moving | ready
      · exact moves other moving
      · exact ready
  | tenantRemoved => exact forall_erase housed

-- Histories

/-- The directories a directory comes to, with the events on the way: records are folded in
position order, each to an event that is admitted of the directory before it, and at any point the
directory's checkpoint may be restored, at any position.
-/
inductive Run (codec : FleetCodec) (admits : FleetDirectory → FleetEvent → Prop)
    (first : FleetDirectory)
    : List FleetEvent → FleetDirectory → Prop where
  | stay : Run codec admits first [] first
  | fold {events : List FleetEvent} {directory : FleetDirectory}
    (run : Run codec admits first events directory) (seq : Nat) (record : Bytes)
    (order : directory.nextSeq ≤ seq) (admitted : admits directory (directory.fold codec seq record).2)
    : Run codec admits first (events ++ [(directory.fold codec seq record).2])
        (directory.fold codec seq record).1
  | restore {events : List FleetEvent} {directory restored : FleetDirectory}
    (run : Run codec admits first events directory) (coversUpTo : Nat)
    (done : restore codec coversUpTo (directory.checkpoint codec) = .ok restored)
    : Run codec admits first events restored

/-- Every event may happen. -/
def Anything (_ : FleetDirectory) (_ : FleetEvent) : Prop := True

namespace Run

variable {admits : FleetDirectory → FleetEvent → Prop} {first : FleetDirectory}
  {events : List FleetEvent}

theorem sound (run : Run codec admits first events directory) (ok : Sound codec first)
    : Sound codec directory := by
  induction run with
  | stay => exact ok
  | fold run seq record order admitted ih => exact fold_sound ih seq record
  | restore run coversUpTo done ih =>
    cases (ih.restore_checkpoint coversUpTo).symm.trans done
    exact { ih with }

theorem later (run : Run codec admits first events directory) (ok : Sound codec first)
    : Later first directory := by
  induction run with
  | stay => exact .refl first
  | fold run seq record order admitted ih =>
    have change := ((run.sound ok).fold_change seq record).later (advance_sound (run.sound ok) seq)
    exact ih.trans { change with }
  | restore run coversUpTo done ih =>
    cases ((run.sound ok).restore_checkpoint coversUpTo).symm.trans done
    exact ih.trans ⟨subset_rfl, subset_rfl, fun _ => id, id⟩

/-- What any event of a history removed is removed still. -/
theorem buries (run : Run codec admits default events directory)
    : (∀ tenant, .tenantRemoved tenant ∈ events → tenant ∈ directory.removed)
      ∧ ∀ cellId, .cellRemoved cellId ∈ events → cellId ∈ directory.removedCells := by
  induction run with
  | stay => simp
  | fold run seq record order admitted ih =>
    have ok := run.sound default_sound
    have change := ok.fold_change seq record
    have later := change.later (advance_sound ok seq)
    simp only [List.mem_append, List.mem_singleton]
    exact ⟨fun tenant => Or.rec (later.removed <| ih.1 tenant ·) (change.buries.1 tenant ·.symm),
      fun cellId => Or.rec (later.removedCells <| ih.2 cellId ·) (change.buries.2 cellId ·.symm)⟩
  | restore run coversUpTo done ih =>
    cases ((run.sound default_sound).restore_checkpoint coversUpTo).symm.trans done
    exact ih

theorem housed (run : Run codec Orderly default events directory) : Housed directory := by
  induction run with
  | stay => exact fun id entry found => by simp [default] at found
  | fold run seq record order admitted ih =>
    have ok := run.sound default_sound
    exact (ok.fold_change seq record).housed (advance_sound ok seq) ih admitted
  | restore run coversUpTo done ih =>
    cases ((run.sound default_sound).restore_checkpoint coversUpTo).symm.trans done
    exact ih

end Run

-- Written entries

/-- Fold an entry of the fleet numbered one, written at the next position. -/
def foldKind (codec : FleetCodec) (directory : FleetDirectory) (kind : Wire.FleetKind)
    : FleetDirectory × FleetEvent :=
  let directory := directory.advance directory.nextSeq
  match FleetCommand.fromWire codec metadataVersion kind with
  | .error _ => (directory, .refused .malformed)
  | .ok command =>
    match directory.judge ⟨1, metadataVersion, command⟩ with
    | .ok changed => changed
    | .error refusal => (directory, .refused refusal)

theorem fold_encodeEntry (kind : Wire.FleetKind)
    : directory.fold codec directory.nextSeq
        (codec.encodeEntry ⟨1, metadataVersion, some kind⟩)
      = foldKind codec directory kind := by
  simp only [fold, FleetEntry.decode, codec.decodeEntry_encodeEntry, foldKind]
  cases FleetCommand.fromWire codec metadataVersion kind <;> rfl

def foldKinds (codec : FleetCodec) (directory : FleetDirectory)
    : List Wire.FleetKind → List FleetEvent × FleetDirectory
  | [] => ([], directory)
  | kind :: rest =>
    let (after, event) := foldKind codec directory kind
    let (events, final) := foldKinds codec after rest
    (event :: events, final)

theorem Run.foldKinds {admits : FleetDirectory → FleetEvent → Prop} {first : FleetDirectory}
    {events : List FleetEvent} (run : Run codec admits first events directory)
    (kinds : List Wire.FleetKind)
    (admitted : ∀ event ∈ (foldKinds codec directory kinds).1, ∀ before, admits before event)
    : Run codec admits first (events ++ (FleetDirectory.foldKinds codec directory kinds).1)
        (FleetDirectory.foldKinds codec directory kinds).2 := by
  induction kinds generalizing directory events with
  | nil => simpa [FleetDirectory.foldKinds] using run
  | cons kind rest ih =>
    simp only [FleetDirectory.foldKinds, List.mem_cons, forall_eq_or_imp] at admitted ⊢
    have next := run.fold directory.nextSeq (codec.encodeEntry ⟨1, metadataVersion, some kind⟩)
      le_rfl (by rw [fold_encodeEntry]; exact admitted.1 _)
    rw [fold_encodeEntry] at next
    have later := ih next admitted.2
    rwa [List.append_assoc] at later

/-- Two ready cells, the second with no bucket, and a ready tenant that moves to it. -/
def movingKinds : List Wire.FleetKind :=
  let tags : List WireTag := [⟨ReservedKey.kind, CellKind.regionalText⟩]
  [.formFleet 9 1 [], .addCell 1 11 1 [] tags [], .addCell 2 12 1 [] tags [], .markCell 1 1,
    .markCell 2 1, .registerTenant 5 [65] 1 1 1 [] 2 [], .markTenant 5 1, .moveTenant 5 2]

theorem foldKinds_movingKinds : (foldKinds FleetCodec.counted default movingKinds).1
    = [.fleetFormed 1, .cellAdded 1, .cellAdded 2, .cellMarked 1 .ready, .cellMarked 2 .ready,
      .tenantRegistered 5 1, .tenantMarked 5 .ready, .tenantMoving 5 2] := by
  decide +kernel

-- Where the tenants of a history live

/-- Over every history in which no cell is removed that a tenant is moving to, each tenant lives in
a held cell, if in any, and moves to a held cell. In any history, a removed cell had no tenant but
its own.
-/
theorem tenants_housed {events : List FleetEvent} (run : Run codec Orderly default events directory)
    : (∀ (id : TenantId) (entry : TenantEntry), directory.tenants[id]? = some entry
        → (entry.cellId ≠ 0 → (directory.cells[entry.cellId]?).isSome)
          ∧ ∀ cellId : Nat, entry.movingTo = some cellId → (directory.cells[cellId]?).isSome)
      ∧ ∀ (others : List FleetEvent) (other : FleetDirectory) (seq : Nat) (record : Bytes)
          (cellId : Nat), Run codec Anything default others other
        → (other.fold codec seq record).2 = .cellRemoved cellId
        → ∃ cell, other.cells[cellId]? = some cell ∧ ∀ (id : TenantId) (entry : TenantEntry),
            other.tenants[id]? = some entry → entry.cellId = cellId → id = cell.controlTenant := by
  refine ⟨run.housed, fun others other seq record cellId free removed => ?_⟩
  exact ((free.sound default_sound).fold_change seq record).alone removed

/-- A tenant that moves to a held cell. -/
theorem tenants_housed_moving
    : ∃ events directory, Run FleetCodec.counted Orderly default events directory
        ∧ (directory.tenants[5]?).any (fun entry => entry.cellId = 1 ∧ entry.movingTo = some 2)
        ∧ ∀ (id : TenantId) (entry : TenantEntry), directory.tenants[id]? = some entry
          → (entry.cellId ≠ 0 → (directory.cells[entry.cellId]?).isSome)
            ∧ ∀ cellId : Nat, entry.movingTo = some cellId
              → (directory.cells[cellId]?).isSome := by
  have run : Run FleetCodec.counted Orderly default _ _ := Run.stay.foldKinds movingKinds (by
    rw [foldKinds_movingKinds]
    simp [Orderly])
  exact ⟨_, _, run, by decide +kernel, (tenants_housed run).1⟩

/-- The same, and the cell is removed that the tenant is moving to. -/
def strandedKinds : List Wire.FleetKind :=
  movingKinds ++ [.markCell 2 2, .removeCell 2, .finishMove 5]

/-- A cell is removed that a tenant is moving to. The tenant then lives in a cell that the
directory does not hold.
-/
theorem moving_tenant_stranded
    : ∃ events directory, Run FleetCodec.counted Anything default events directory
        ∧ events.drop 8 = [.cellMarked 2 .removing, .cellRemoved 2, .tenantMoved 5 2]
        ∧ (directory.tenants[5]?).any (·.cellId = 2) ∧ (directory.cells[2]?).isNone :=
  ⟨_, _, Run.stay.foldKinds strandedKinds fun _ _ _ => trivial, by decide +kernel, by decide +kernel,
    by decide +kernel⟩

-- One bijection

theorem misplaced_eq_none (ok : Sound codec directory) : directory.misplaced = none := by
  refine List.findSome?_eq_none_iff.mpr ?_
  rintro ⟨id, entry⟩ member
  refine if_neg ?_
  rintro ⟨user, placed, elsewhere⟩
  have bucket : entry.placement = .bucket := by
    cases placement : entry.placement with
    | bucket => rfl
    | override reason short => simp [placement, Placement.isBucket] at placed
  exact elsewhere (ok.bucketed.placed id entry (mem_toList.mp member) user bucket)

/-- Over every history of a directory, its maps are one bijection: names and users' tenants, cells
and cell tenants. No id is held that an event removed, nor is one ever again; every bucket names a
held cell and no tenant is misplaced; the universe's cell is held and stays; a root key stays in
force; and the directory's checkpoint is restored, at any position, to the directory itself.
-/
theorem indexes_agree {events : List FleetEvent} (run : Run codec Anything default events directory)
    : (∀ (name : Bytes) (id : TenantId), directory.names[name]? = some id
        ↔ ∃ entry, directory.tenants[id]? = some entry ∧ entry.kind = .users ∧ entry.name = name)
      ∧ (∀ (cellId : Nat) (cell : CellEntry), directory.cells[cellId]? = some cell
        → ∃ entry, directory.tenants[cell.controlTenant]? = some entry ∧ entry.kind = .cell
          ∧ entry.cellId = cellId)
      ∧ (∀ (id : TenantId) (entry : TenantEntry), directory.tenants[id]? = some entry
        → entry.kind = .cell
        → ∃ cell, directory.cells[entry.cellId]? = some cell ∧ cell.controlTenant = id)
      ∧ ((∀ tenant, .tenantRemoved tenant ∈ events → tenant ∈ directory.removed)
        ∧ ∀ cellId, .cellRemoved cellId ∈ events → cellId ∈ directory.removedCells)
      ∧ (∀ id ∈ directory.removed, directory.tenants[id]? = none)
      ∧ (∀ cellId ∈ directory.removedCells, directory.cells[cellId]? = none)
      ∧ (∀ bucket cellId, directory.buckets.cell bucket = some cellId
        → (directory.cells[cellId]?).isSome)
      ∧ directory.misplaced = none
      ∧ (∀ cellId, directory.universeCell = some cellId → (directory.cells[cellId]?).isSome)
      ∧ (∀ coversUpTo, restore codec coversUpTo (directory.checkpoint codec)
        = .ok { directory with nextSeq := coversUpTo + 1 })
      ∧ ∀ (more : List FleetEvent) (after : FleetDirectory),
        Run codec Anything directory more after
        → (∀ id ∈ directory.removed, after.tenants[id]? = none)
          ∧ (∀ cellId ∈ directory.removedCells, after.cells[cellId]? = none)
          ∧ (∀ cellId, directory.universeCell = some cellId
            → after.universeCell = some cellId ∧ (after.cells[cellId]?).isSome)
          ∧ (directory.keys.live ≠ ∅ → after.keys.live ≠ ∅) := by
  have hosted : ∀ {held : FleetDirectory}, Sound codec held → ∀ cellId,
      held.universeCell = some cellId → (held.cells[cellId]?).isSome := by
    intro held ok cellId host
    obtain ⟨fleet, entry, formed, there, home, set⟩ := universeCell_eq_some.mp host
    obtain ⟨again, found, _, _, late⟩ := ok.founded.hosts fleet formed
    cases there.symm.trans found
    exact home ▸ late (home ▸ set)
  have ok : Sound codec directory := run.sound default_sound
  refine ⟨ok.named, fun cellId cell held => (ok.celled.tenant cellId cell held).2, ok.celled.cell,
    run.buries, ok.buried.tenants, ok.buried.cells, fun bucket cellId named => ?_, misplaced_eq_none ok,
    hosted ok, ok.restore_checkpoint, fun more after next => ?_⟩
  · exact ok.bucketed.known cellId (List.mem_of_getElem? named)
  · have sound := next.sound ok
    have later := next.later ok
    exact ⟨fun id gone => sound.buried.tenants id (later.removed gone),
      fun cellId gone => sound.buried.cells cellId (later.removedCells gone),
      fun cellId host => ⟨later.universeCell cellId host,
        hosted sound cellId (later.universeCell cellId host)⟩, later.keys⟩

/-- The name of a registered tenant is that tenant's, a removed cell is not held, and the directory
is restored.
-/
theorem indexes_agree_registered
    : ∃ events directory, Run FleetCodec.counted Anything default events directory
        ∧ .cellRemoved 2 ∈ events ∧ directory.cells[2]? = none
        ∧ directory.names[([65] : Bytes)]? = some 5 ∧ directory.universeCell = some 1
        ∧ (∃ entry, directory.tenants[(5 : TenantId)]? = some entry ∧ entry.kind = .users
          ∧ entry.name = [65])
        ∧ restore FleetCodec.counted 7 (directory.checkpoint FleetCodec.counted)
          = .ok { directory with nextSeq := 8 } := by
  have run : Run FleetCodec.counted Anything default _ _ :=
    Run.stay.foldKinds strandedKinds fun _ _ _ => trivial
  have named : (foldKinds FleetCodec.counted default strandedKinds).2.names[([65] : Bytes)]?
      = some 5 := by
    decide +kernel
  have removed : .cellRemoved 2 ∈ (foldKinds FleetCodec.counted default strandedKinds).1 := by
    decide +kernel
  obtain ⟨names, _, _, ⟨_, buried⟩, _, gone, _, _, _, restored, _⟩ := indexes_agree run
  exact ⟨_, _, run, removed, gone 2 (buried 2 removed), named, by decide +kernel,
    (names [65] 5).mp named, restored 7⟩

end FleetDirectory

end Paros
