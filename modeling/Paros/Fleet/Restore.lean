import Paros.Fleet.Invariant
import Paros.Registry.Restore

/-! A sound directory's own checkpoint is restored, to the directory it was taken of. -/

namespace Paros

-- Tags read back

namespace Tags

variable {keep : Text → Bool}

theorem getElem?_insert (tags : Tags) (tag : Tag) (key : Text)
    : (tags.insert tag).entries[key]?
      = if tag.key = key then some tag.value else tags.entries[key]? := by
  rw [insert, OrderedMap.getElem?_insert]
  congr

theorem withAll_cons (tags : Tags) (tag : Tag) (rest : List Tag)
    : tags.withAll (tag :: rest) = (tags.insert tag).withAll rest := rfl

theorem withAll_nil (tags : Tags) : tags.withAll [] = tags := rfl

theorem restrict_withAll (tags : Tags) (more : List Tag)
    : (tags.withAll more).restrict keep
      = (tags.restrict keep).withAll (more.filter fun tag => keep tag.key) := by
  induction more generalizing tags with
  | nil => rfl
  | cons tag rest ih =>
    rw [withAll_cons, ih, List.filter_cons]
    have first : (tags.insert tag).restrict keep
        = if keep tag.key then (tags.restrict keep).insert tag else tags.restrict keep := by
      refine Tags.ext ?_
      ext1 key
      by_cases same : tag.key = key <;> split_ifs with kept <;>
        simp_all [getElem?_restrict, getElem?_insert]
    rw [first]
    split_ifs <;> rfl

theorem restrict_withAll_dropped (tags : Tags) {more : List Tag}
    (dropped : ∀ tag ∈ more, keep tag.key = false)
    : (tags.withAll more).restrict keep = tags.restrict keep := by
  rw [restrict_withAll, List.filter_eq_nil_iff.mpr fun tag member => by simp [dropped tag member]]
  rfl

/-- The tags of some reserved ones and a user's are split into both again. -/
theorem split_withAll (user : UserTags) {more : List Tag}
    (reserved : ∀ tag ∈ more, isReserved tag.key = true)
    : (user.tags.withAll more).split = .ok (Tags.empty.withAll more, user) := by
  have none : user.tags.restrict isReserved = .empty := by
    refine Tags.ext ?_
    ext1 key
    rw [Tags.getElem?_restrict]
    split_ifs with held
    · simp [user.getElem?_reserved held, Tags.empty]
    · simp [Tags.empty]
  have all : user.tags.restrict (fun key => !isReserved key) = user.tags := by
    refine Tags.ext ?_
    ext1 key
    rw [Tags.getElem?_restrict]
    split_ifs with held
    · rfl
    · exact (user.getElem?_reserved (by simpa using held)).symm
  have dropped : (user.tags.withAll more).restrict (fun key => !isReserved key)
      = user.tags.restrict fun key => !isReserved key :=
    restrict_withAll_dropped _ fun tag member => by rw [reserved tag member]; rfl
  rw [split, dropped, all, user.ofTags_tags, restrict_withAll, List.filter_eq_self.mpr reserved,
    none]
  rfl

/-- Tags of some keys only are all taken with those keys. -/
theorem without_withAll {more : List Tag} {keys : List Text}
    (covered : ∀ tag ∈ more, tag.key ∈ keys)
    : (Tags.empty.withAll more).without keys = .empty := by
  rw [without, restrict_withAll_dropped _ fun tag member => by simp [covered tag member]]
  exact Tags.ext (Std.ExtTreeMap.ext_getElem? fun key => by simp [Tags.getElem?_restrict, Tags.empty])

theorem finish_empty {α : Type} (read : α) : Tags.empty.finish read = .ok read := rfl

end Tags

namespace CellKind

theorem tags_reserved (kind : CellKind) : ∀ tag ∈ kind.tags, isReserved tag.key = true := by
  intro tag member
  cases kind with
  | regional region labelled =>
    simp only [tags] at member
    split_ifs at member
    · simp only [List.mem_cons, List.not_mem_nil, or_false] at member
      exact member ▸ rfl
    · simp only [List.mem_cons, List.not_mem_nil, or_false] at member
      rcases member with rfl | rfl <;> rfl
  | multiRegion regions witness labelled apart witnessed =>
    simp only [tags, List.mem_cons, List.not_mem_nil, or_false] at member
    rcases member with rfl | rfl | rfl <;> rfl

theorem fromTags_regional (region : Text) (labelled : checkValue region = .ok ())
    : fromTags (Tags.empty.withAll (tags (.regional region labelled)))
      = .ok (.regional region labelled) := by
  have apart : ReservedKey.region ≠ ReservedKey.kind := by decide
  have kind : (Tags.empty.withAll (tags (.regional region labelled))).entries[ReservedKey.kind]?
      = some regionalText := by
    simp only [tags]
    split_ifs <;> simp only [Tags.withAll_cons, Tags.withAll_nil, Tags.getElem?_insert, apart,
      if_true, if_false]
  have label : (Tags.empty.withAll (tags (.regional region labelled))).label ReservedKey.region
      = region := by
    simp only [tags, Tags.label]
    split_ifs with unnamed
    · simp [Tags.withAll_cons, Tags.withAll_nil, Tags.getElem?_insert, apart.symm, Tags.empty,
        List.isEmpty_iff.mp unnamed]
    · simp [Tags.withAll_cons, Tags.withAll_nil, Tags.getElem?_insert]
  have rest : (Tags.empty.withAll (tags (.regional region labelled))).without
      [ReservedKey.kind, ReservedKey.region] = .empty := by
    refine Tags.without_withAll fun tag member => ?_
    simp only [tags] at member
    split_ifs at member <;> simp only [List.mem_cons, List.not_mem_nil, or_false] at member
    · simp [member]
    · rcases member with rfl | rfl <;> simp
  rw [fromTags, kind]
  simp only [if_true, rest, Tags.finish_empty, label]

theorem fromTags_multiRegion (regions : List Text) (witness : Text)
    (labelled : checkValue (joinRegions regions) = .ok ())
    (apart : (joinRegions regions).splitOn '+' = regions)
    (witnessed : checkValue witness = .ok ())
    : fromTags (Tags.empty.withAll (tags (.multiRegion regions witness labelled apart witnessed)))
      = .ok (.multiRegion regions witness labelled apart witnessed) := by
  set held := Tags.empty.withAll (tags (.multiRegion regions witness labelled apart witnessed))
    with heldTags
  have different : ReservedKey.witness ≠ ReservedKey.kind ∧ ReservedKey.regions ≠ ReservedKey.kind
      ∧ ReservedKey.witness ≠ ReservedKey.regions := by decide
  have kind : held.entries[ReservedKey.kind]? = some multiRegionText := by
    simp only [heldTags, tags, Tags.withAll_cons, Tags.withAll_nil, Tags.getElem?_insert, different,
      if_true, if_false]
  have joined : held.entries[ReservedKey.regions]? = some (joinRegions regions) := by
    simp only [heldTags, tags, Tags.withAll_cons, Tags.withAll_nil, Tags.getElem?_insert, different,
      if_true, if_false]
  have named : held.entries[ReservedKey.witness]? = some witness := by
    simp only [heldTags, tags, Tags.withAll_cons, Tags.withAll_nil, Tags.getElem?_insert, if_true]
  have rest : held.without [ReservedKey.kind, ReservedKey.regions, ReservedKey.witness] = .empty := by
    refine Tags.without_withAll fun tag member => ?_
    simp only [tags, List.mem_cons, List.not_mem_nil, or_false] at member
    rcases member with rfl | rfl | rfl <;> simp
  have other : ¬multiRegionText = regionalText := by decide
  rw [fromTags, kind]
  simp only [if_neg other, if_true]
  split
  case h_1 none =>
    rw [joined] at none
    cases none
  case h_2 read readJoined =>
    cases joined.symm.trans readJoined
    split
    case h_1 none =>
      rw [named] at none
      cases none
    case h_2 read readNamed =>
      cases named.symm.trans readNamed
      simp only [rest, Tags.finish_empty, apart]

theorem fromTags_tags (kind : CellKind)
    : fromTags (Tags.empty.withAll kind.tags) = .ok kind := by
  cases kind with
  | regional region labelled => exact fromTags_regional region labelled
  | multiRegion regions witness labelled apart witnessed =>
    exact fromTags_multiRegion regions witness labelled apart witnessed

end CellKind

namespace TenantEntry

theorem reservedTags_reserved (kind : TenantKind) (mobility : Movable)
    : ∀ tag ∈ kind.tags ++ [mobility.tag], isReserved tag.key = true := by
  cases kind <;> cases mobility <;> decide

theorem kind_tags_taken (kind : TenantKind) (mobility : Movable)
    : (Tags.empty.withAll (kind.tags ++ [mobility.tag])).without [ReservedKey.kind, ReservedKey.role]
      = Tags.empty.withAll [mobility.tag] := by
  have taken : ∀ tag ∈ kind.tags, tag.key ∈ [ReservedKey.kind, ReservedKey.role] := by
    cases kind <;> decide
  have left : ∀ tag ∈ [mobility.tag],
      (!List.contains [ReservedKey.kind, ReservedKey.role] tag.key) = true := by
    cases mobility <;> decide
  rw [Tags.withAll, List.foldl_append, ← Tags.withAll, ← Tags.withAll, Tags.without,
    Tags.restrict_withAll, List.filter_eq_self.mpr left]
  exact congrArg (Tags.withAll · [mobility.tag]) (Tags.without_withAll taken)

theorem take_kind (kind : TenantKind) (mobility : Movable)
    : TenantKind.take (Tags.empty.withAll (kind.tags ++ [mobility.tag]))
      = .ok (kind, Tags.empty.withAll [mobility.tag]) := by
  rw [← kind_tags_taken kind mobility]
  cases kind <;> cases mobility <;> rfl

theorem take_movable (mobility : Movable)
    : Movable.take (Tags.empty.withAll [mobility.tag]) = .ok (mobility, .empty) := by
  have taken : (Tags.empty.withAll [mobility.tag]).without [ReservedKey.movable] = .empty :=
    Tags.without_withAll (by cases mobility <;> decide)
  refine Eq.trans ?_ (congrArg (fun left => Except.ok (mobility, left)) taken)
  cases mobility <;> rfl

theorem fromTags_allTags {tenant : TenantEntry} (fits : tenant.Fits)
    : fromTags tenant.allTags = .ok (tenant.kind, tenant.movable, tenant.tags) := by
  have unforced : ¬(tenant.kind.forced.any fun forced => decide (forced ≠ tenant.movable)) = true := by
    cases isKind : tenant.kind <;> simp [TenantKind.forced, fits.pinned, isKind]
  rw [fromTags, allTags, Tags.split_withAll _ (reservedTags_reserved _ _)]
  simp only [bind, Except.bind, take_kind, take_movable, Tags.finish_empty, if_neg unforced, pure,
    Except.pure]

end TenantEntry

-- Entries read back

theorem CellState.fromWire_toWire (state : CellState) : fromWire state.toWire = some state := by
  cases state <;> rfl

theorem TenantState.fromWire_toWire (state : TenantState) : fromWire state.toWire = some state := by
  cases state <;> rfl

theorem membersFromWire_toWire {codec : FleetCodec} {endpoint : Endpoint}
    (parsed : ∀ member ∈ endpoint, codec.parseAddress member.2 = some member.2)
    : membersFromWire codec (membersToWire endpoint) = .ok endpoint := by
  refine List.mapM_map_ok fun member inside => ?_
  simp only [memberFromWire, parsed member inside]

namespace FleetDirectory

variable {codec : FleetCodec} {directory : FleetDirectory} {id : TenantId} {entry : TenantEntry}
  {cellId : Nat} {cell : CellEntry}

theorem cellFromWire_toWire (ok : Sound codec directory) (cellId : Nat) (cell : CellEntry)
    : cellFromWire codec (directory.cellToWire (cellId, cell))
      = .ok (cell, directory.endpoint cellId) := by
  have parsed : ∀ member ∈ directory.endpoint cellId,
      codec.parseAddress member.2 = some member.2 := by
    intro member inside
    rw [endpoint] at inside
    cases found : directory.endpoints[cellId]? with
    | none => simp [found] at inside
    | some held =>
      rw [found] at inside
      exact (ok.reached cellId held found).2.2 member inside
  simp only [cellFromWire, cellToWire, CellState.fromWire_toWire, Tags.fromWire_toWire,
    CellEntry.allTags, Except.bind, Tags.split_withAll _ cell.kind.tags_reserved,
    membersFromWire_toWire parsed, CellKind.fromTags_tags, Paros.tagged, bind, pure, Except.pure]

theorem readTenant_toWire {read : OrderedMap TenantId TenantEntry × OrderedMap Bytes TenantId}
    (set : id ≠ 0) (fits : entry.Fits)
    (unnamed : entry.kind = .users → read.2[entry.name]? = none)
    : readTenant read (tenantToWire (id, entry))
      = .ok (read.1.insert id entry,
          if entry.kind = .users then read.2.insert entry.name id else read.2) := by
  have identified : ¬((!TenantId.isSet id) = true ∨ entry.control = 0) := by
    simp [TenantId.isSet, set, fits.control]
  have once : ¬(entry.kind = .users ∧ (read.2[entry.name]?).isSome = true) := by
    rintro ⟨user, held⟩
    simp [unnamed user] at held
  have placement : placementFromWire entry.kind entry.placement.toWire.1 entry.placement.toWire.2
      = .ok entry.placement := by
    cases isKind : entry.kind with
    | users => exact entry.placement.fromWire_toWire
    | cell | «universe» => rw [(fits.internal (by simp [isKind])).1, isKind]; rfl
  simp only [readTenant, tenantToWire, Tags.fromWire_toWire, Except.bind,
    TenantEntry.fromTags_allTags fits, Paros.tagged, bind, pure, Except.pure, tenantFromWire,
    TenantState.fromWire_toWire, Survives.fromWire_toWire, placement, setId_getD fits.moves,
    if_neg identified,
    if_neg once]

-- Maps read back

variable (ok : Sound codec directory)
include ok

theorem readCell_toWire
    (read : OrderedMap Nat CellEntry × OrderedMap Nat Endpoint) (cellId : Nat) (cell : CellEntry)
    : readCell codec read (directory.cellToWire (cellId, cell))
      = .ok (read.1.insert cellId cell,
          if (directory.endpoint cellId).isEmpty then read.2
          else read.2.insert cellId (directory.endpoint cellId)) := by
  rw [readCell, cellFromWire_toWire ok]
  rfl

/-- A cell has an endpoint when that is not empty. -/
theorem endpoint_isEmpty (cellId : Nat)
    : directory.endpoints[cellId]?
      = if (directory.endpoint cellId).isEmpty then none else some (directory.endpoint cellId) := by
  rw [endpoint]
  cases found : directory.endpoints[cellId]? with
  | none => rfl
  | some held =>
    have set := (ok.reached cellId held found).2.1
    simp [set]

theorem cells_read_back
    : (directory.cells.toList.map directory.cellToWire).foldlM (readCell codec) (∅, ∅)
      = .ok (directory.cells, directory.endpoints) := by
  obtain ⟨⟨cells, endpoints⟩, read, rfl, reached⟩ := List.foldlM_map_ok (readCell codec)
    directory.cellToWire directory.cells.toList (∅, ∅)
    (fun done state => state.1 = Std.ExtTreeMap.ofList done
      ∧ ∀ cellId : Nat, state.2[cellId]?
        = if cellId ∈ done.map Prod.fst then directory.endpoints[cellId]? else none)
    ⟨rfl, by simp⟩ (by
      rintro done ⟨cellId, cell⟩ rest ⟨_, endpoints⟩ split ⟨rfl, reached⟩
      refine ⟨_, readCell_toWire ok _ cellId cell, (OrderedMap.ofList_concat ..).symm, ?_⟩
      intro other
      simp only [List.map_append, List.map_cons, List.map_nil, List.mem_append, List.mem_singleton]
      by_cases this : other = cellId
      · subst this
        have fresh : endpoints[other]? = none := by
          rw [reached, if_neg]
          intro earlier
          obtain ⟨⟨_, held⟩, member, rfl⟩ := List.mem_map.mp earlier
          exact OrderedMap.ne_of_toList_append split member rfl
        have listed : other ∈ done.map Prod.fst ∨ other = other := .inr rfl
        rw [if_pos listed, endpoint_isEmpty ok other]
        by_cases none : (directory.endpoint other).isEmpty = true
        · rw [if_pos none, if_pos none]
          exact fresh
        · rw [if_neg none, if_neg none, OrderedMap.getElem?_insert, if_pos rfl]
      · have kept : (if (directory.endpoint cellId).isEmpty then endpoints
            else endpoints.insert cellId (directory.endpoint cellId))[other]? = endpoints[other]? := by
          split_ifs
          · rfl
          · rw [OrderedMap.getElem?_insert, if_neg (Ne.symm this)]
        have same : (other ∈ done.map Prod.fst ∨ other = cellId) ↔ other ∈ done.map Prod.fst :=
          or_iff_left this
        rw [kept, reached]
        simp only [same])
  rw [read, OrderedMap.ofList_toList]
  refine congrArg (fun held => Except.ok (directory.cells, held))
    (Std.ExtTreeMap.ext_getElem? fun cellId => ?_)
  rw [reached]
  split_ifs with listed
  · rfl
  · refine (Option.eq_none_iff_forall_ne_some.mpr fun held found => listed ?_).symm
    obtain ⟨cell, there⟩ := Option.isSome_iff_exists.mp (ok.reached cellId held found).1
    exact List.mem_map.mpr ⟨(cellId, cell), OrderedMap.mem_toList.mpr there, rfl⟩

theorem tenants_read_back
    : (directory.tenants.toList.map tenantToWire).foldlM readTenant (∅, ∅)
      = .ok (directory.tenants, directory.names) := by
  refine OrderedMap.foldlM_indexed TenantEntry.name (·.kind = .users) readTenant tenantToWire ok.named
    fun id entry tenants names held unnamed => ?_
  obtain ⟨set, fits⟩ := ok.entered id entry held
  exact readTenant_toWire set fits unnamed

theorem formed_read_back
    : formedFromWire directory.stateToWire.fleetId directory.stateToWire.version
        directory.stateToWire.fleetTenant directory.stateToWire.fleetJournal
      = .ok directory.fleet := by
  cases formed : directory.fleet with
  | none => simp [formedFromWire, stateToWire, formed]
  | some fleet =>
    obtain ⟨named, _, set⟩ := ok.founded.formed fleet formed
    simp only [formedFromWire, stateToWire, formed, Option.map_some, Option.getD_some,
      if_neg named]
    rw [if_neg (by simpa using set)]

theorem version_read_back
    : ¬metadataVersion < directory.stateToWire.version := by
  cases formed : directory.fleet with
  | none => simp [stateToWire, formed]
  | some fleet =>
    have spoken := (ok.founded.formed fleet formed).2.1
    simpa [stateToWire, formed] using spoken

theorem buckets_read_back
    : BucketTable.restore directory.buckets.toWire
        (((directory.fleet.bind fun held => directory.tenants[held.control.tenant]?).map
          TenantEntry.cellId).getD 0)
        (fun id => (directory.cells[id]?).isSome)
      = .ok directory.buckets := by
  refine directory.buckets.restore_toWire
    (fun owner member => ok.cell_ne_zero (ok.bucketed.known owner member)) ok.bucketed.known ?_
  intro empty
  cases formed : directory.fleet with
  | none => rfl
  | some fleet =>
    obtain ⟨host, there, _, early, _⟩ := ok.founded.hosts fleet formed
    simp [there, early.mpr empty]

/-- A sound directory's checkpoint is restored, at any position, to the directory itself. -/
theorem Sound.restore_checkpoint (coversUpTo : Nat)
    : restore codec coversUpTo (directory.checkpoint codec)
      = .ok { directory with nextSeq := coversUpTo + 1 } := by
  have lives : ¬(directory.removed.ascending.any fun id => (directory.tenants[id]?).isSome) = true := by
    simp only [List.any_eq_true, Finset.mem_ascending, not_exists, not_and]
    intro id gone
    rw [ok.buried.tenants id gone]
    simp
  have stand : ¬(directory.removedCells.ascending.any
      fun id => (directory.cells[id]?).isSome) = true := by
    simp only [List.any_eq_true, Finset.mem_ascending, not_exists, not_and]
    intro id gone
    rw [ok.buried.cells id gone]
    simp
  rw [restore, checkpoint, codec.decodeState_encodeState]
  simp only [ofWire, if_neg (version_read_back ok), formed_read_back ok]
  simp only [stateToWire, cells_read_back ok, tenants_read_back ok, RootKeys.restore_toWire ok.keyed,
    buckets_read_back ok, bind, Except.bind, if_neg lives, if_neg stand, Finset.ascending_toFinset,
    pure, Except.pure]

end FleetDirectory

end Paros
