import Paros.Fleet.Change

/-! What holds of a fleet directory's maps together, and that every change keeps it. Each part is
about a few of the fields, so that a change of the others leaves it as it is.
-/

namespace Paros

open OrderedMap

/-- What any tenant's entry keeps to. -/
structure TenantEntry.Fits (entry : TenantEntry) : Prop where
  control : entry.control ≠ 0
  pinned : entry.kind = .cell → entry.movable = .pinned
  internal : entry.kind ≠ .users
    → entry.placement = .overrideFor entry.kind.text ∧ entry.movingTo = none
  moves : entry.movingTo ≠ some 0

namespace FleetDirectory

variable {tenants : OrderedMap TenantId TenantEntry} {names : OrderedMap Bytes TenantId}
  {cells : OrderedMap Nat CellEntry} {endpoints : OrderedMap Nat Endpoint}
  {removed : Finset TenantId} {removedCells : Finset Nat} {buckets : BucketTable}
  {fleet : Option Formed} {id : TenantId} {before after entry : TenantEntry} {cellId : Nat}
  {cell : CellEntry} {name : Bytes}

-- Entries

/-- Every tenant has an id, and an entry that fits. -/
def Entered (tenants : OrderedMap TenantId TenantEntry) : Prop :=
  ∀ (id : TenantId) (entry : TenantEntry), tenants[id]? = some entry → id ≠ 0 ∧ entry.Fits

namespace Entered

theorem insert (ok : Entered tenants) (set : id ≠ 0) (fits : entry.Fits)
    : Entered (tenants.insert id entry) :=
  forall_insert ok ⟨set, fits⟩

theorem erase (ok : Entered tenants) : Entered (tenants.erase id) := forall_erase ok

end Entered

theorem internalEntry_fits {kind : TenantKind} {mobility : Movable} {control : JournalId}
    (pinned : kind = .cell → mobility = .pinned) (set : control ≠ 0)
    : (internalEntry kind mobility name cellId control).Fits :=
  ⟨set, pinned, fun _ => ⟨rfl, rfl⟩, by simp [internalEntry]⟩

-- Names

/-- The names are those of the users' tenants. -/
def Named (tenants : OrderedMap TenantId TenantEntry) (names : OrderedMap Bytes TenantId) : Prop :=
  ∀ (name : Bytes) (id : TenantId), names[name]? = some id
    ↔ ∃ entry, tenants[id]? = some entry ∧ entry.kind = .users ∧ entry.name = name

namespace Named

variable (ok : Named tenants names)
include ok

theorem put (held : tenants[id]? = some before)
    (kind : after.kind = before.kind) (same : after.name = before.name)
    : Named (tenants.insert id after) names := by
  intro name other
  by_cases this : id = other
  · subst this
    simp [ok name id, held, kind, same]
  · simp [ok name other, this]

theorem insert_internal (fresh : tenants[id]? = none) (internal : entry.kind ≠ .users)
    : Named (tenants.insert id entry) names := by
  intro name other
  by_cases this : id = other
  · subst this
    simp [ok name id, fresh, internal]
  · simp [ok name other, this]

theorem register (fresh : tenants[id]? = none)
    (unnamed : names[entry.name]? = none) (user : entry.kind = .users)
    : Named (tenants.insert id entry) (names.insert entry.name id) := by
  intro name other
  rw [getElem?_insert_fresh unnamed, ok name other]
  simp only [getElem?_insert_fresh fresh, or_and_right, exists_or]
  refine or_congr Iff.rfl ⟨?_, ?_⟩
  · rintro ⟨rfl, rfl⟩
    exact ⟨entry, ⟨rfl, rfl⟩, user, rfl⟩
  · rintro ⟨_, ⟨rfl, rfl⟩, _, rfl⟩
    exact ⟨rfl, rfl⟩

theorem erase_internal (held : tenants[id]? = some entry) (internal : entry.kind ≠ .users)
    : Named (tenants.erase id) names := by
  intro name other
  by_cases this : id = other
  · subst this
    simp [ok name id, held, internal]
  · simp [ok name other, this]

/-- A user's tenant leaves with its name: no other tenant has it. -/
theorem erase (held : tenants[id]? = some entry) (user : entry.kind = .users)
    : Named (tenants.erase id) (names.erase entry.name) := by
  have mine : names[entry.name]? = some id := (ok entry.name id).mpr ⟨entry, held, user, rfl⟩
  intro name other
  rw [getElem?_erase, getElem?_erase]
  split_ifs with theirs this
  · simp
  · subst theirs
    refine ⟨fun none => (by cases none), fun found => ?_⟩
    have again := (ok entry.name other).mpr found
    exact absurd (Option.some.inj (mine.symm.trans again)) this
  · rename_i this
    subst this
    refine ⟨fun found => ?_, by simp⟩
    obtain ⟨other, again, _, same⟩ := (ok name _).mp found
    cases held.symm.trans again
    exact absurd same theirs
  · exact ok name other

end Named

-- Cells and their tenants

/-- Each cell has its cell tenant, and each cell tenant its cell. -/
structure Celled (tenants : OrderedMap TenantId TenantEntry) (cells : OrderedMap Nat CellEntry)
    : Prop where
  tenant : ∀ (cellId : Nat) (cell : CellEntry), cells[cellId]? = some cell → cellId ≠ 0
    ∧ ∃ entry, tenants[cell.controlTenant]? = some entry ∧ entry.kind = .cell
      ∧ entry.cellId = cellId
  cell : ∀ (id : TenantId) (entry : TenantEntry), tenants[id]? = some entry → entry.kind = .cell
    → ∃ cell, cells[entry.cellId]? = some cell ∧ cell.controlTenant = id

namespace Celled

variable (ok : Celled tenants cells)
include ok

theorem put (held : tenants[id]? = some before)
    (kind : after.kind = before.kind) (stays : before.kind = .cell → after.cellId = before.cellId)
    : Celled (tenants.insert id after) cells := by
  constructor
  · intro cellId cell found
    obtain ⟨set, entry, hosted, celled, same⟩ := ok.tenant cellId cell found
    refine ⟨set, ?_⟩
    rw [getElem?_insert]
    split_ifs with this
    · rw [← this, held] at hosted
      cases hosted
      exact ⟨after, rfl, kind.trans celled, (stays celled).trans same⟩
    · exact ⟨entry, hosted, celled, same⟩
  · refine forall_insert ok.cell fun celled => ?_
    rw [kind] at celled
    rw [stays celled]
    exact ok.cell id before held celled

theorem insert_other (fresh : tenants[id]? = none) (other : entry.kind ≠ .cell)
    : Celled (tenants.insert id entry) cells := by
  constructor
  · intro cellId cell found
    obtain ⟨set, held, hosted, celled⟩ := ok.tenant cellId cell found
    exact ⟨set, held, (getElem?_insert_fresh fresh).mpr (.inl hosted), celled⟩
  · intro this held found celled
    rcases (getElem?_insert_fresh fresh).mp found with old | ⟨_, rfl⟩
    · exact ok.cell this held old celled
    · exact absurd celled other

theorem erase_other (held : tenants[id]? = some entry) (other : entry.kind ≠ .cell)
    : Celled (tenants.erase id) cells := by
  constructor
  · intro cellId cell found
    obtain ⟨set, control, hosted, celled, same⟩ := ok.tenant cellId cell found
    refine ⟨set, control, ?_, celled, same⟩
    rw [getElem?_erase, if_neg]
    · exact hosted
    · rintro rfl
      cases held.symm.trans hosted
      exact other celled
  · exact forall_erase ok.cell

theorem put_cell {changed : CellEntry}
    (held : cells[cellId]? = some cell) (same : changed.controlTenant = cell.controlTenant)
    : Celled tenants (cells.insert cellId changed) := by
  constructor
  · exact forall_insert ok.tenant (same ▸ ok.tenant cellId cell held)
  · intro id entry found celled
    obtain ⟨host, there, mine⟩ := ok.cell id entry found celled
    rw [getElem?_insert]
    split_ifs with this
    · rw [← this, held] at there
      cases there
      exact ⟨changed, rfl, same.trans mine⟩
    · exact ⟨host, there, mine⟩

/-- A cell joins with its cell tenant, both new. -/
theorem add (fresh : cells[cellId]? = none)
    (freshTenant : tenants[id]? = none) (set : cellId ≠ 0) (celled : entry.kind = .cell)
    (home : entry.cellId = cellId) (mine : cell.controlTenant = id)
    : Celled (tenants.insert id entry) (cells.insert cellId cell) := by
  constructor
  · intro other found there
    rcases (getElem?_insert_fresh fresh).mp there with old | ⟨rfl, rfl⟩
    · obtain ⟨known, control, hosted, held⟩ := ok.tenant other found old
      exact ⟨known, control, (getElem?_insert_fresh freshTenant).mpr (.inl hosted), held⟩
    · exact ⟨set, entry, by simp [mine], celled, home⟩
  · intro other held found isCell
    rcases (getElem?_insert_fresh freshTenant).mp found with old | ⟨rfl, rfl⟩
    · obtain ⟨host, there, theirs⟩ := ok.cell other held old isCell
      exact ⟨host, (getElem?_insert_fresh fresh).mpr (.inl there), theirs⟩
    · exact ⟨cell, by simp [home], mine⟩

/-- A cell leaves with its cell tenant. -/
theorem remove (held : cells[cellId]? = some cell)
    : Celled (tenants.erase cell.controlTenant) (cells.erase cellId) := by
  obtain ⟨_, mine, hosted, _, home⟩ := ok.tenant cellId cell held
  constructor
  · intro other found there
    obtain ⟨this, there⟩ := of_getElem?_erase there
    obtain ⟨known, control, theirs, celled, same⟩ := ok.tenant other found there
    refine ⟨known, control, ?_, celled, same⟩
    rw [getElem?_erase, if_neg]
    · exact theirs
    · intro shared
      rw [← shared, hosted] at theirs
      cases theirs
      exact this (home.symm.trans same)
  · intro id entry found celled
    obtain ⟨this, found⟩ := of_getElem?_erase found
    obtain ⟨host, there, theirs⟩ := ok.cell id entry found celled
    refine ⟨host, ?_, theirs⟩
    rw [getElem?_erase, if_neg]
    · exact there
    · intro shared
      rw [← shared, held] at there
      cases there
      exact this theirs

end Celled

-- Tombstones, endpoints and buckets

/-- No removed id is held. -/
structure Buried (tenants : OrderedMap TenantId TenantEntry) (cells : OrderedMap Nat CellEntry)
    (removed : Finset TenantId) (removedCells : Finset Nat)
    : Prop where
  tenants : ∀ id ∈ removed, tenants[id]? = none
  cells : ∀ cellId ∈ removedCells, cells[cellId]? = none

/-- Every endpoint is a held cell's, is not empty, and names parsed addresses. -/
def Reached (codec : FleetCodec) (cells : OrderedMap Nat CellEntry)
    (endpoints : OrderedMap Nat Endpoint)
    : Prop :=
  ∀ (cellId : Nat) (endpoint : Endpoint), endpoints[cellId]? = some endpoint
    → (cells[cellId]?).isSome ∧ endpoint ≠ []
      ∧ ∀ member ∈ endpoint, codec.parseAddress member.2 = some member.2

/-- Every bucket names a held cell, in which the tenants placed by it live. -/
structure Bucketed (tenants : OrderedMap TenantId TenantEntry) (cells : OrderedMap Nat CellEntry)
    (buckets : BucketTable)
    : Prop where
  known : ∀ owner ∈ buckets.owners, (cells[owner]?).isSome
  placed : ∀ (id : TenantId) (entry : TenantEntry), tenants[id]? = some entry → entry.kind = .users
    → entry.placement = .bucket → buckets.cell (bucketOf entry.name) = some entry.cellId

theorem none_insert (gone : tenants[id]? = none) {other : TenantId} (different : other ≠ id)
    : (tenants.insert other entry)[id]? = none := by
  rw [getElem?_insert, if_neg different]
  exact gone

theorem none_erase {κ α : Type*} [LinearOrder κ] {entries : OrderedMap κ α} {key other : κ}
    (gone : entries[key]? = none)
    : (entries.erase other)[key]? = none := by
  rw [getElem?_erase]
  split_ifs
  · rfl
  · exact gone

section

variable (ok : Buried tenants cells removed removedCells)
include ok

theorem Buried.put (held : tenants[id]? = some before)
    : Buried (tenants.insert id after) cells removed removedCells where
  tenants other gone := by
    refine none_insert (ok.tenants other gone) ?_
    rintro rfl
    rw [ok.tenants id gone] at held
    cases held
  cells := ok.cells

theorem Buried.insert (lives : id ∉ removed)
    : Buried (tenants.insert id entry) cells removed removedCells where
  tenants other gone := none_insert (ok.tenants other gone) fun same => lives (same ▸ gone)
  cells := ok.cells

theorem Buried.put_cell (standing : cellId ∉ removedCells)
    : Buried tenants (cells.insert cellId cell) removed removedCells where
  tenants := ok.tenants
  cells other gone := by
    have different : cellId ≠ other := fun same => standing (same ▸ gone)
    rw [getElem?_insert, if_neg different]
    exact ok.cells other gone

theorem Buried.remove
    : Buried (tenants.erase id) cells (Insert.insert id removed) removedCells where
  tenants other gone := by
    rcases Finset.mem_insert.mp gone with rfl | gone
    · rw [getElem?_erase, if_pos rfl]
    · exact none_erase (ok.tenants other gone)
  cells := ok.cells

theorem Buried.remove_cell
    : Buried tenants (cells.erase cellId) removed (Insert.insert cellId removedCells) where
  tenants := ok.tenants
  cells other gone := by
    rcases Finset.mem_insert.mp gone with rfl | gone
    · rw [getElem?_erase, if_pos rfl]
    · exact none_erase (ok.cells other gone)

end

variable {codec : FleetCodec}

theorem Reached.put_cell (ok : Reached codec cells endpoints)
    : Reached codec (cells.insert cellId cell) endpoints :=
  fun other endpoint found =>
    ⟨isSome_insert (ok other endpoint found).1, (ok other endpoint found).2⟩

theorem Bucketed.put_cell (ok : Bucketed tenants cells buckets)
    : Bucketed tenants (cells.insert cellId cell) buckets :=
  ⟨fun owner member => isSome_insert (ok.known owner member), ok.placed⟩

/-- The first cell takes every bucket; before it, no tenant is placed by one. -/
theorem Bucketed.add_cell (ok : Bucketed tenants cells buckets)
    : Bucketed tenants (cells.insert cellId cell)
        (if buckets.isEmpty then .fill cellId else buckets) := by
  split_ifs with first
  · refine ⟨fun owner member => ?_, fun id entry found user placed => ?_⟩
    · rw [List.eq_of_mem_replicate member]
      simp
    · have home := ok.placed id entry found user placed
      rw [BucketTable.cell, List.isEmpty_iff.mp first] at home
      cases home
  · exact ok.put_cell

theorem Reached.add_cell {endpoint : Endpoint} (ok : Reached codec cells endpoints)
    (parsed : ∀ member ∈ endpoint, codec.parseAddress member.2 = some member.2)
    : Reached codec (cells.insert cellId cell)
        (if endpoint.isEmpty then endpoints else endpoints.insert cellId endpoint) := by
  split_ifs with none
  · exact ok.put_cell
  · exact forall_insert ok.put_cell ⟨by simp, by simpa using none, parsed⟩

/-- A tenant's entry is put where its bucket allows it. -/
theorem Bucketed.insert (ok : Bucketed tenants cells buckets)
    (home : entry.kind = .users → entry.placement = .bucket
      → buckets.cell (bucketOf entry.name) = some entry.cellId)
    : Bucketed (tenants.insert id entry) cells buckets :=
  { ok with placed := forall_insert ok.placed home }

theorem Bucketed.erase (ok : Bucketed tenants cells buckets)
    : Bucketed (tenants.erase id) cells buckets :=
  { ok with placed := forall_erase ok.placed }

-- The universe

/-- Before a fleet is formed there is nothing; from then on its tenant is held, in a held cell
from the first one on.
-/
structure Founded (fleet : Option Formed) (tenants : OrderedMap TenantId TenantEntry)
    (cells : OrderedMap Nat CellEntry) (removed : Finset TenantId) (buckets : BucketTable)
    : Prop where
  unformed : fleet = none → tenants = ∅ ∧ removed = ∅ ∧ buckets.owners = []
  formed : ∀ held, fleet = some held
    → held.id ≠ 0 ∧ held.version ≤ metadataVersion ∧ held.control.isSet
  hosts : ∀ held, fleet = some held → ∃ entry, tenants[held.control.tenant]? = some entry
    ∧ entry.kind = .universe ∧ (entry.cellId = 0 ↔ buckets.owners = [])
    ∧ (entry.cellId ≠ 0 → (cells[entry.cellId]?).isSome)

namespace Founded

variable {held : Formed}

/-- A formed fleet's parts change, and its tenant stays where it is. -/
theorem change {tenants' : OrderedMap TenantId TenantEntry} {cells' : OrderedMap Nat CellEntry}
    {removed' : Finset TenantId} {buckets' : BucketTable}
    (ok : Founded fleet tenants cells removed buckets) (founded : fleet = some held)
    (stays : ∀ entry, tenants[held.control.tenant]? = some entry → entry.kind = .universe
      → ∃ kept, tenants'[held.control.tenant]? = some kept ∧ kept.kind = .universe
        ∧ kept.cellId = entry.cellId
        ∧ (entry.cellId ≠ 0 → (cells[entry.cellId]?).isSome → (cells'[entry.cellId]?).isSome))
    (same : buckets'.owners = [] ↔ buckets.owners = [])
    : Founded fleet tenants' cells' removed' buckets' where
  unformed none := by
    rw [founded] at none
    cases none
  formed := ok.formed
  hosts other found := by
    cases founded.symm.trans found
    obtain ⟨entry, there, kind, early, late⟩ := ok.hosts held founded
    obtain ⟨kept, after, kind', cell, housed⟩ := stays entry there kind
    refine ⟨kept, after, kind', ?_, ?_⟩
    · rw [cell, same, early]
    · intro set
      rw [cell] at set ⊢
      exact housed set (late set)

end Founded

/-- What holds of a directory's fields together. -/
structure Sound (codec : FleetCodec) (directory : FleetDirectory) : Prop where
  founded : Founded directory.fleet directory.tenants directory.cells directory.removed
    directory.buckets
  entered : Entered directory.tenants
  named : Named directory.tenants directory.names
  celled : Celled directory.tenants directory.cells
  buried : Buried directory.tenants directory.cells directory.removed directory.removedCells
  reached : Reached codec directory.cells directory.endpoints
  bucketed : Bucketed directory.tenants directory.cells directory.buckets
  keyed : directory.keys.Sound

-- Every change keeps it

variable {directory : FleetDirectory}

theorem isSet_iff {control : JournalIdentifier}
    : control.isSet = true ↔ control.tenant ≠ 0 ∧ control.journal ≠ 0 := by
  simp [JournalIdentifier.isSet, TenantId.isSet, JournalId.isSet]

theorem taken_eq_false : directory.taken id = false
    ↔ directory.tenants[id]? = none ∧ id ∉ directory.removed := by
  rw [taken, Bool.or_eq_false_iff, Option.isSome_eq_false_iff, Option.isNone_iff_eq_none,
    decide_eq_false_iff_not]

theorem ne_of_taken {held : TenantId} (untaken : directory.taken id = false)
    (there : directory.tenants[held]? = some entry)
    : id ≠ held := by
  rintro rfl
  cases (taken_eq_false.mp untaken).1.symm.trans there

/-- A tenant that lives in a cell is the cell's own, when there is no lodger. -/
theorem lodger_eq_none {control : TenantId} (alone : directory.lodger cellId control = none)
    (found : directory.tenants[id]? = some entry) (lives : entry.cellId = cellId)
    : id = control := by
  have this := List.find?_eq_none.mp alone (id, entry) (mem_toList.mpr found)
  simpa [lives] using this

theorem bucketBlocker_eq_none {range : BucketRange}
    (free : directory.bucketBlocker range cellId = none)
    (found : directory.tenants[id]? = some entry) (user : entry.kind = .users)
    (placed : entry.placement = .bucket) (inside : range.contains (bucketOf entry.name) = true)
    : entry.cellId = cellId := by
  have this := List.findSome?_eq_none_iff.mp free (id, entry) (mem_toList.mpr found)
  by_contra elsewhere
  simp [user, placed, Placement.isBucket, elsewhere, inside] at this

theorem TenantEntry.Becomes.fits (becomes : before.Becomes cells after) (fits : before.Fits)
    (known : ∀ cellId : Nat, (cells[cellId]?).isSome → cellId ≠ 0)
    : after.Fits where
  control := becomes.control ▸ fits.control
  pinned isCell := becomes.movable ▸ fits.pinned (becomes.kind ▸ isCell)
  internal inside := by
    rw [becomes.kind] at inside ⊢
    obtain ⟨_, placement, moving⟩ := becomes.internal inside
    exact ⟨placement.trans (fits.internal inside).1, moving.trans (fits.internal inside).2⟩
  moves zero := by
    rcases becomes.moves 0 zero with before | held
    · exact fits.moves before
    · exact known 0 held rfl

namespace Sound

section

variable {fleet : Formed} {control : JournalIdentifier} (ok : Sound codec directory)
include ok

theorem cell_ne_zero (held : (directory.cells[cellId]?).isSome) : cellId ≠ 0 := by
  obtain ⟨cell, found⟩ := Option.isSome_iff_exists.mp held
  exact (ok.celled.tenant cellId cell found).1

theorem stays (found : directory.tenants[id]? = some entry) (internal : entry.kind ≠ .users)
    : entry.movingTo = none :=
  ((ok.entered id entry found).2.internal internal).2

/-- A directory that holds a tenant has a fleet. -/
theorem formed (held : directory.tenants[id]? = some entry)
    : ∃ fleet, directory.fleet = some fleet := by
  refine Option.ne_none_iff_exists'.mp fun none => ?_
  simp [(ok.founded.unformed none).1] at held

theorem form {fleetId version : Nat} (unformed : directory.fleet = none) (named : fleetId ≠ 0)
    (spoken : version ≤ metadataVersion) (set : control.isSet)
    : Sound codec { directory with
        fleet := some ⟨fleetId, version, control⟩
        tenants := directory.tenants.insert control.tenant
          (internalEntry .universe .movable name 0 control.journal) } := by
  obtain ⟨empty, none, early⟩ := ok.founded.unformed unformed
  have fresh : directory.tenants[control.tenant]? = Option.none := by simp [empty]
  refine { ok with
    founded := ⟨?_, ?_, ?_⟩
    entered := ok.entered.insert (isSet_iff.mp set).1
      (internalEntry_fits (by simp) (isSet_iff.mp set).2)
    named := ok.named.insert_internal fresh (by simp [internalEntry])
    celled := ok.celled.insert_other fresh (by simp [internalEntry])
    buried := ok.buried.insert (by simp [none])
    bucketed := ok.bucketed.insert fun user => by cases user }
  · exact fun none => by cases none
  · rintro _ ⟨⟩
    exact ⟨named, spoken, set⟩
  · rintro _ ⟨⟩
    exact ⟨internalEntry .universe .movable name 0 control.journal, by simp, rfl,
      by simp [internalEntry, early], by simp [internalEntry]⟩

theorem putTenant (held : directory.tenants[id]? = some before)
    (becomes : before.Becomes directory.cells after)
    : Sound codec (directory.putTenant id after) := by
  have entered := ok.entered id before held
  refine { ok with
    founded := ?_
    entered := ok.entered.insert entered.1
      (TenantEntry.Becomes.fits becomes entered.2 fun _ => ok.cell_ne_zero)
    named := ok.named.put held becomes.kind becomes.name
    celled := ok.celled.put held becomes.kind fun isCell =>
      (becomes.internal (by simp [isCell])).1
    buried := ok.buried.put held
    bucketed := ok.bucketed.insert fun user placed => ?_ }
  · obtain ⟨fleet, formed⟩ := ok.formed held
    refine ok.founded.change formed (fun entry there kind => ?_) Iff.rfl
    simp only [FleetDirectory.putTenant, getElem?_insert]
    split_ifs with this
    · subst this
      cases held.symm.trans there
      exact ⟨after, rfl, becomes.kind.trans kind, (becomes.internal (by simp [kind])).1,
        fun _ housed => housed⟩
    · exact ⟨entry, there, kind, rfl, fun _ housed => housed⟩
  · obtain ⟨was, home⟩ := becomes.bucket placed
    rw [becomes.name, home]
    exact ok.bucketed.placed id before held (becomes.kind ▸ user) was

theorem register (formed : directory.fleet = some fleet) (set : id ≠ 0) (fits : entry.Fits)
    (user : entry.kind = .users) (untaken : directory.taken id = false)
    (unnamed : directory.names[entry.name]? = none)
    (home : entry.placement = .bucket → directory.bucketCellOf entry.name = some entry.cellId)
    : Sound codec { directory with
        names := directory.names.insert entry.name id
        tenants := directory.tenants.insert id entry } := by
  obtain ⟨fresh, lives⟩ := taken_eq_false.mp untaken
  exact { ok with
    founded := ok.founded.change formed (fun held there kind =>
      ⟨held, (getElem?_insert_fresh fresh).mpr (.inl there), kind, rfl,
        fun _ housed => housed⟩) Iff.rfl
    entered := ok.entered.insert set fits
    named := ok.named.register fresh unnamed user
    celled := ok.celled.insert_other fresh (by simp [user])
    buried := ok.buried.insert lives
    bucketed := ok.bucketed.insert fun _ => home }

theorem unregister (held : directory.tenants[id]? = some entry) (user : entry.kind = .users)
    : Sound codec { directory with
        tenants := directory.tenants.erase id
        names := directory.names.erase entry.name
        removed := insert id directory.removed } := by
  refine { ok with
    founded := ?_
    entered := ok.entered.erase
    named := ok.named.erase held user
    celled := ok.celled.erase_other held (by simp [user])
    buried := ok.buried.remove
    bucketed := ok.bucketed.erase }
  obtain ⟨fleet, formed⟩ := ok.formed held
  refine ok.founded.change formed (fun host there kind => ?_) Iff.rfl
  refine ⟨host, ?_, kind, rfl, fun _ housed => housed⟩
  rw [getElem?_erase, if_neg]
  · exact there
  · rintro rfl
    cases held.symm.trans there
    rw [user] at kind
    cases kind

theorem putCell {changed : CellEntry} (held : directory.cells[cellId]? = some cell)
    (same : changed.controlTenant = cell.controlTenant)
    : Sound codec { directory with cells := directory.cells.insert cellId changed } := by
  have standing : cellId ∉ directory.removedCells := by
    intro gone
    rw [ok.buried.cells cellId gone] at held
    cases held
  exact { ok with
    founded := { ok.founded with
      hosts := fun fleet formed => (ok.founded.hosts fleet formed).imp fun host =>
        .imp_right (.imp_right (.imp_right fun late set => isSome_insert (late set))) }
    celled := ok.celled.put_cell held same
    buried := ok.buried.put_cell standing
    reached := ok.reached.put_cell
    bucketed := ok.bucketed.put_cell }

theorem assign {range : BucketRange} (held : (directory.cells[cellId]?).isSome)
    (free : directory.bucketBlocker range cellId = none)
    : Sound codec { directory with buckets := directory.buckets.assign range cellId } := by
  have same : (directory.buckets.assign range cellId).owners = [] ↔ directory.buckets.owners = [] := by
    simp [BucketTable.assign]
  refine { ok with
    founded := { ok.founded with
      unformed := fun none => (ok.founded.unformed none).imp_right (.imp_right same.mpr)
      hosts := fun fleet formed => (ok.founded.hosts fleet formed).imp fun host =>
        .imp_right (.imp_right (.imp_left (·.trans same.symm))) }
    bucketed := ⟨?_, ?_⟩ }
  · intro owner member
    rcases BucketTable.mem_assign member with rfl | before
    · exact held
    · exact ok.bucketed.known owner before
  · intro tenant entry found user placed
    rw [BucketTable.cell_assign, ok.bucketed.placed tenant entry found user placed,
      Option.map_some]
    split_ifs with inside
    · rw [bucketBlocker_eq_none free found user placed inside]
    · rfl

theorem removeCell (held : directory.cells[cellId]? = some cell)
    (alone : directory.lodger cellId cell.controlTenant = none)
    (bare : directory.buckets.count cellId = 0)
    : Sound codec { directory with
        cells := directory.cells.erase cellId
        endpoints := directory.endpoints.erase cellId
        tenants := directory.tenants.erase cell.controlTenant
        removed := insert cell.controlTenant directory.removed
        removedCells := insert cellId directory.removedCells } := by
  obtain ⟨_, control, hosted, isCell, home⟩ := ok.celled.tenant cellId cell held
  refine { ok with
    founded := ?_
    entered := ok.entered.erase
    named := ok.named.erase_internal hosted (by simp [isCell])
    celled := ok.celled.remove held
    buried := ⟨ok.buried.remove.tenants, ok.buried.remove_cell.cells⟩
    reached := ?_
    bucketed := ⟨?_, ok.bucketed.erase.placed⟩ }
  · -- The universe's tenant is no cell tenant, so it would be a lodger.
    obtain ⟨fleet, formed⟩ := ok.formed hosted
    refine ok.founded.change formed (fun host there kind => ?_) Iff.rfl
    have apart : cell.controlTenant ≠ fleet.control.tenant := by
      intro same
      rw [← same, hosted] at there
      cases there
      rw [isCell] at kind
      cases kind
    refine ⟨host, ?_, kind, rfl, fun _ housed => isSome_erase housed fun lives => ?_⟩
    · rwa [getElem?_erase, if_neg apart]
    · exact apart (lodger_eq_none alone there lives.symm).symm
  · intro kept endpoint found
    obtain ⟨this, found⟩ := of_getElem?_erase found
    obtain ⟨there, rest⟩ := ok.reached kept endpoint found
    exact ⟨isSome_erase there this, rest⟩
  · intro owner member
    refine isSome_erase (ok.bucketed.known owner member) ?_
    rintro rfl
    exact List.count_eq_zero.mp bare member

omit ok in
/-- A directory with one more cell, where its universe is hosted. -/
theorem withCell_eq {host : TenantEntry}
    {kind : CellKind} {endpoint : Endpoint} {version : Nat} (formed : directory.fleet = some fleet)
    (there : directory.tenants[fleet.control.tenant]? = some host)
    (apart : control.tenant ≠ fleet.control.tenant)
    : directory.withCell cellId control name kind endpoint version
      = { directory with
          cells := directory.cells.insert cellId ⟨.registering, version, control.tenant, kind, .none⟩
          endpoints :=
            if endpoint.isEmpty then directory.endpoints
            else directory.endpoints.insert cellId endpoint
          tenants :=
            let base := directory.tenants.insert control.tenant
              (internalEntry .cell .pinned name cellId control.journal)
            if host.cellId = 0 then
              base.insert fleet.control.tenant { host with cellId := cellId }
            else base
          buckets := if directory.buckets.isEmpty then .fill cellId else directory.buckets } := by
  simp only [withCell, hostUniverse, formed, getElem?_insert, if_neg apart, there]
  split_ifs <;> rfl

theorem addCell {kind : CellKind} {endpoint : Endpoint} {version : Nat}
    (formed : directory.fleet = some fleet) (numbered : cellId ≠ 0) (set : control.isSet)
    (parsed : ∀ member ∈ endpoint, codec.parseAddress member.2 = some member.2)
    (standing : cellId ∉ directory.removedCells) (fresh : directory.cells[cellId]? = none)
    (untaken : directory.taken control.tenant = false)
    : Sound codec (directory.withCell cellId control name kind endpoint version) := by
  obtain ⟨freshTenant, lives⟩ := taken_eq_false.mp untaken
  obtain ⟨host, there, isUniverse, early, late⟩ := ok.founded.hosts fleet formed
  have apart := ne_of_taken untaken there
  rw [withCell_eq formed there apart]
  set own := internalEntry .cell .pinned name cellId control.journal with ownEntry
  set base := directory.tenants.insert control.tenant own with added
  set cell : CellEntry := ⟨.registering, version, control.tenant, kind, .none⟩ with cellEntry
  have hosted : base[fleet.control.tenant]? = some host := by
    rw [added, getElem?_insert, if_neg apart, there]
  have fits := ok.entered _ host there
  have entered : Entered base :=
    ok.entered.insert (isSet_iff.mp set).1 (internalEntry_fits (by simp) (isSet_iff.mp set).2)
  have named : Named base directory.names :=
    ok.named.insert_internal freshTenant (by simp [ownEntry, internalEntry])
  have celled : Celled base (directory.cells.insert cellId cell) :=
    ok.celled.add fresh freshTenant numbered rfl rfl rfl
  have buried : Buried base (directory.cells.insert cellId cell) directory.removed
      directory.removedCells :=
    Buried.put_cell (ok.buried.insert lives) standing
  have homeless : Bucketed base directory.cells directory.buckets :=
    ok.bucketed.insert fun user => by cases user
  have bucketed : Bucketed base (directory.cells.insert cellId cell)
      (if directory.buckets.isEmpty then .fill cellId else directory.buckets) :=
    homeless.add_cell
  by_cases first : host.cellId = 0
  · have empty : directory.buckets.isEmpty = true := List.isEmpty_iff.mpr (early.mp first)
    simp only [first, empty, if_true] at bucketed ⊢
    exact { ok with
      founded := {
        unformed := fun none => by cases formed.symm.trans none
        formed := ok.founded.formed
        hosts := fun held found => by
          cases formed.symm.trans found
          exact ⟨{ host with cellId := cellId }, by simp, isUniverse,
            by simp [numbered, BucketTable.fill_ne_nil], by simp⟩ }
      entered := entered.insert fits.1 { fits.2 with }
      named := named.put hosted rfl rfl
      celled := celled.put hosted rfl (by simp [isUniverse])
      buried := buried.put hosted
      reached := ok.reached.add_cell parsed
      bucketed := bucketed.insert fun user => by simp [isUniverse] at user }
  · have filled : ¬directory.buckets.isEmpty = true := fun empty =>
      first (early.mpr (List.isEmpty_iff.mp empty))
    simp only [first, filled, if_false] at bucketed ⊢
    exact { ok with
      founded := ok.founded.change formed (fun entry held kind =>
        ⟨entry, by rwa [added, getElem?_insert, if_neg apart], kind, rfl,
          fun _ => isSome_insert⟩) Iff.rfl
      entered, named, celled, buried, bucketed
      reached := ok.reached.add_cell parsed }

end

end Sound

theorem default_sound : Sound codec default where
  founded := ⟨fun _ => ⟨rfl, rfl, rfl⟩, by simp [default], by simp [default]⟩
  entered := fun id entry found => by simp [default] at found
  named := fun name id => by simp [default]
  celled := ⟨fun id cell found => by simp [default] at found,
    fun id entry found => by simp [default] at found⟩
  buried := ⟨by simp [default], by simp [default]⟩
  reached := fun id endpoint found => by simp [default] at found
  bucketed := ⟨by simp [default, BucketTable.empty],
    fun id entry found => by simp [default] at found⟩
  keyed := RootKeys.default_sound

theorem Change.sound {result : FleetDirectory × FleetEvent} (change : Change codec directory result)
    (ok : Sound codec directory)
    : Sound codec result.1 := by
  cases change with
  | kept => exact ok
  | formed name unformed named spoken set => exact ok.form unformed named spoken set
  | cellAdded name kind version held numbered set parsed standing fresh untaken =>
    exact ok.addCell held numbered set parsed standing fresh untaken
  | cellRemoved held alone bare => exact ok.removeCell held alone bare
  | cellPut tagged event held same => exact { ok.putCell held same with }
  | tenantRegistered survives tags formed set untaken unnamed held placed =>
    refine ok.register formed (isSet_iff.mp set).1 ⟨(isSet_iff.mp set).2, ?_, ?_, ?_⟩ rfl untaken
      unnamed placed
    · exact fun isCell => by cases isCell
    · exact fun inside => absurd rfl inside
    · simp
  | bucketsAssigned held free => exact ok.assign held free
  | tenantPut tagged event held becomes => exact { ok.putTenant held becomes with }
  | tenantRemoved held user => exact ok.unregister held user
  | keyAdded formed added => exact { ok with keyed := ok.keyed.add added }
  | keyRemoved removed => exact { ok with keyed := ok.keyed.remove removed }

theorem advance_sound (ok : Sound codec directory) (seq : Nat)
    : Sound codec (directory.advance seq) :=
  { ok with }

theorem Sound.fold_change (ok : Sound codec directory) (seq : Nat) (record : Bytes)
    : Change codec (directory.advance seq) (directory.fold codec seq record) :=
  FleetDirectory.fold_change seq record fun _ _ => ok.stays

theorem fold_sound (ok : Sound codec directory) (seq : Nat) (record : Bytes)
    : Sound codec (directory.fold codec seq record).1 :=
  (ok.fold_change seq record).sound (advance_sound ok seq)

end FleetDirectory

end Paros
