import Paros.Fleet.Checkpoint

/-! What one entry changes in a fleet directory. Every command that is not refused makes one of a
few changes, each with the checks that let it through.
-/

namespace Paros

/-- What a command may make of a tenant's entry. An internal tenant keeps its cell, its placement
and its moves; a user's tenant goes only where its open move takes it, and by an override then.
-/
structure TenantEntry.Becomes (cells : OrderedMap Nat CellEntry) (before after : TenantEntry)
    : Prop where
  name : after.name = before.name
  kind : after.kind = before.kind
  control : after.control = before.control
  movable : after.movable = before.movable
  internal : before.kind ≠ .users → after.cellId = before.cellId
    ∧ after.placement = before.placement ∧ after.movingTo = before.movingTo
  bucket : after.placement = .bucket → before.placement = .bucket ∧ after.cellId = before.cellId
  lives : after.cellId = before.cellId ∨ before.movingTo = some after.cellId
  moves : ∀ cellId : Nat, after.movingTo = some cellId
    → before.movingTo = some cellId ∨ (cells[cellId]?).isSome

def FleetEvent.removes : FleetEvent → Bool
  | cellRemoved _ | tenantRemoved _ => true
  | _ => false

theorem FleetEvent.removes_eq_false {event : FleetEvent}
    : event.removes = false
      ↔ (∀ tenant, event ≠ .tenantRemoved tenant) ∧ ∀ cellId, event ≠ .cellRemoved cellId := by
  cases event <;> simp [removes]

namespace FleetDirectory

/-- What one entry changes. -/
inductive Change (codec : FleetCodec) (directory : FleetDirectory)
    : FleetDirectory × FleetEvent → Prop where
  | kept (event : FleetEvent) (quiet : event.removes = false)
    : Change codec directory (directory, event)
  | formed {fleetId version : Nat} {control : JournalIdentifier} (name : Bytes)
    (unformed : directory.fleet = none) (named : fleetId ≠ 0) (spoken : version ≤ metadataVersion)
    (set : control.isSet)
    : Change codec directory
        ({ directory with
            fleet := some ⟨fleetId, version, control⟩
            tenants := directory.tenants.insert control.tenant
              (internalEntry .universe .movable name 0 control.journal) },
          .fleetFormed fleetId)
  | cellAdded {fleet : Formed} {cellId : Nat} {control : JournalIdentifier} (name : Bytes)
    (kind : CellKind) {endpoint : Endpoint} (version : Nat) (held : directory.fleet = some fleet)
    (numbered : cellId ≠ 0) (set : control.isSet)
    (parsed : ∀ member ∈ endpoint, codec.parseAddress member.2 = some member.2)
    (standing : cellId ∉ directory.removedCells) (fresh : directory.cells[cellId]? = none)
    (untaken : directory.taken control.tenant = false)
    : Change codec directory
        (directory.withCell cellId control name kind endpoint version, .cellAdded cellId)
  | cellRemoved {cellId : Nat} {cell : CellEntry} (held : directory.cells[cellId]? = some cell)
    (alone : directory.lodger cellId cell.controlTenant = none)
    (bare : directory.buckets.count cellId = 0)
    : Change codec directory
        ({ directory with
            cells := directory.cells.erase cellId
            endpoints := directory.endpoints.erase cellId
            tenants := directory.tenants.erase cell.controlTenant
            removed := insert cell.controlTenant directory.removed
            removedCells := insert cellId directory.removedCells },
          .cellRemoved cellId)
  | cellPut {cellId : Nat} {before after : CellEntry} (tagged : Finset Nat) (event : FleetEvent)
    (held : directory.cells[cellId]? = some before)
    (same : after.controlTenant = before.controlTenant)
    (quiet : event.removes = false)
    : Change codec directory
        ({ directory with cells := directory.cells.insert cellId after, tagged := tagged }, event)
  | tenantRegistered {control : JournalIdentifier} {name : Bytes} {cellId : Nat}
    (survives : Survives) (tags : UserTags) {placement : Placement} {fleet : Formed}
    (formed : directory.fleet = some fleet) (set : control.isSet)
    (untaken : directory.taken control.tenant = false) (unnamed : directory.names[name]? = none)
    (held : (directory.cells[cellId]?).isSome)
    (placed : placement = .bucket → directory.bucketCellOf name = some cellId)
    : Change codec directory
        ({ directory with
            names := directory.names.insert name control.tenant
            tenants := directory.tenants.insert control.tenant
              ⟨name, cellId, control.journal, .registering, 0, .users, .movable, survives, tags,
                placement, none⟩ },
          .tenantRegistered control.tenant cellId)
  | bucketsAssigned {range : BucketRange} {cellId : Nat} (held : (directory.cells[cellId]?).isSome)
    (free : directory.bucketBlocker range cellId = none)
    : Change codec directory
        ({ directory with buckets := directory.buckets.assign range cellId },
          .bucketsAssigned range cellId)
  | tenantPut {tenant : TenantId} {before after : TenantEntry} (tagged : Finset Nat)
    (event : FleetEvent) (held : directory.tenants[tenant]? = some before)
    (becomes : before.Becomes directory.cells after)
    (quiet : event.removes = false)
    : Change codec directory
        ({ directory.putTenant tenant after with tagged := tagged }, event)
  | tenantRemoved {tenant : TenantId} {entry : TenantEntry}
    (held : directory.tenants[tenant]? = some entry) (user : entry.kind = .users)
    : Change codec directory
        ({ directory with
            tenants := directory.tenants.erase tenant
            names := directory.names.erase entry.name
            removed := insert tenant directory.removed },
          .tenantRemoved tenant)
  | keyAdded {key : RootKeyEntry} {keys : RootKeys} {change : KeyChange} {fleet : Formed}
    (formed : directory.fleet = some fleet) (added : directory.keys.add key = .ok (keys, change))
    : Change codec directory ({ directory with keys := keys }, .ofKeyChange change)
  | keyRemoved {label : Text} {keys : RootKeys} {change : KeyChange}
    (removed : directory.keys.remove label = .ok (keys, change))
    : Change codec directory ({ directory with keys := keys }, .ofKeyChange change)

/-- A judgement that is a refusal or a change. -/
def Makes (codec : FleetCodec) (directory : FleetDirectory) : Judged → Prop
  | .error _ => True
  | .ok result => Change codec directory result

variable {codec : FleetCodec} {directory : FleetDirectory}

-- Each command

theorem unchanged_change : Change codec directory (directory, .unchanged) :=
  .kept .unchanged rfl

theorem setTags_makes {request : Nat} {target : Tagged} {tags : UserTags}
    : Makes codec directory (directory.setTags request target tags) := by
  fun_cases setTags directory request target tags
  case case4 tenant entry held =>
    exact Change.tenantPut _ _ held
      ⟨rfl, rfl, rfl, rfl, fun _ => ⟨rfl, rfl, rfl⟩, fun same => ⟨same, rfl⟩, .inl rfl, fun _ => .inl⟩
      rfl
  case case6 cellId entry held => exact Change.cellPut _ _ held rfl rfl
  all_goals first | exact unchanged_change | trivial

variable {control : JournalIdentifier} {name : Bytes}

theorem formFleet_makes {fleetId version : Nat}
    (named : fleetId ≠ 0) (spoken : version ≤ metadataVersion)
    : Makes codec directory (directory.formFleet fleetId version control name) := by
  fun_cases formFleet directory fleetId version control name
  case case2 unset unformed => exact Change.formed name unformed named spoken (by simpa using unset)
  all_goals first | exact unchanged_change | trivial

variable {cellId : Nat}

theorem addCell_makes {fleet : Formed}
    {kind : CellKind} {endpoint : Endpoint} {version : Nat} (held : directory.fleet = some fleet)
    (parsed : ∀ member ∈ endpoint, codec.parseAddress member.2 = some member.2)
    : Makes codec directory (directory.addCell cellId control name kind endpoint version) := by
  fun_cases addCell directory cellId control name kind endpoint version
  case case7 formed standing fresh untaken unnamed =>
    simp only [not_or] at formed
    exact Change.cellAdded name kind version held formed.1 (by simpa using formed.2.1) parsed standing
      fresh (by simpa using untaken)
  all_goals first | exact unchanged_change | trivial

theorem removeCell_makes : Makes codec directory (directory.removeCell cellId) := by
  fun_cases removeCell directory cellId
  case case6 standing cell held removing alone bare =>
    exact Change.cellRemoved held alone (by omega)
  all_goals first | exact unchanged_change | trivial

theorem markCell_makes {state : CellState}
    : Makes codec directory (directory.markCell cellId state) := by
  fun_cases markCell directory cellId state
  case case4 cell held other may => exact Change.cellPut directory.tagged _ held rfl rfl
  all_goals first | exact unchanged_change | trivial

theorem registerTenant_makes {fleet : Formed}
    {survives : Survives} {placement : Placement} {tags : UserTags}
    (formed : directory.fleet = some fleet)
    : Makes codec directory
        (directory.registerTenant control name cellId survives placement tags) := by
  fun_cases registerTenant directory control name cellId survives placement tags
  case case9 set plain fresh lives unnamed ready home =>
    refine Change.tenantRegistered survives tags formed (by simpa using set) ?_ unnamed ?_ ?_
    · simp [taken, fresh, lives]
    · obtain ⟨cell, held, _⟩ := Option.map_eq_some_iff.mp (not_not.mp ready)
      simp [held]
    · rintro rfl
      by_contra other
      simp [elsewhere, Placement.isBucket, other] at home
  all_goals first | exact unchanged_change | trivial

theorem assignBuckets_makes {range : BucketRange}
    : Makes codec directory (directory.assignBuckets range cellId) := by
  fun_cases assignBuckets directory range cellId
  case case5 cell held others ready free => exact Change.bucketsAssigned (by simp [held]) free
  all_goals first | exact unchanged_change | trivial

theorem users_of_not_isInternal {kind : TenantKind} (external : ¬kind.isInternal = true)
    : kind = .users := by
  simpa [TenantKind.isInternal] using external

variable {tenant : TenantId}

theorem markTenant_makes {state : TenantState}
    : Makes codec directory (directory.markTenant tenant state) := by
  fun_cases markTenant directory tenant state
  case case6 entry held external other may still =>
    exact Change.tenantPut directory.tagged _ held
      ⟨rfl, rfl, rfl, rfl, fun _ => ⟨rfl, rfl, rfl⟩, fun same => ⟨same, rfl⟩, .inl rfl, fun _ => .inl⟩
      rfl
  all_goals first | exact unchanged_change | trivial

theorem moveTenant_makes {destination : Nat}
    : Makes codec directory (directory.moveTenant tenant destination) := by
  fun_cases moveTenant directory tenant destination
  case case8 cell ready entry held external other movable up may =>
    refine Change.tenantPut directory.tagged _ held
      ⟨rfl, rfl, rfl, rfl, fun inside => ?_, fun same => ⟨same, rfl⟩, .inl rfl, ?_⟩ rfl
    · exact absurd (users_of_not_isInternal external) inside
    · intro cellId moving
      cases moving
      exact .inr (by simp [ready])
  all_goals first | exact unchanged_change | trivial

theorem finishMove_makes
    (stays : ∀ entry, directory.tenants[tenant]? = some entry → entry.kind ≠ .users
      → entry.movingTo = none)
    : Makes codec directory (directory.finishMove tenant) := by
  fun_cases finishMove directory tenant
  case case4 entry held destination moving updating =>
    refine Change.tenantPut directory.tagged _ held
      ⟨rfl, rfl, rfl, rfl, fun inside => ?_, ?_, .inr moving, ?_⟩ rfl
    · rw [stays entry held inside] at moving
      cases moving
    · exact fun placed => by cases placed
    · exact fun _ none => by cases none
  all_goals trivial

theorem removeTenant_makes
    : Makes codec directory (directory.removeTenant tenant) := by
  fun_cases removeTenant directory tenant
  case case5 standing entry held external removing =>
    exact Change.tenantRemoved held (users_of_not_isInternal external)
  all_goals first | exact unchanged_change | trivial

-- Every entry

theorem memberFromWire_eq_ok {written : Wire.CellMember} {member : Nat × Text}
    (read : memberFromWire codec written = .ok member)
    : codec.parseAddress member.2 = some member.2 := by
  simp only [memberFromWire] at read
  cases parsed : codec.parseAddress written.addr with
  | none => simp [parsed] at read
  | some addr =>
    simp only [parsed, Except.ok.injEq] at read
    exact read ▸ codec.parseAddress_canonical _ _ parsed

/-- The addresses of a cell's endpoint were parsed. -/
theorem addCell_parsed {version cellId : Nat} {written : Wire.FleetKind}
    {kind : CellKind} {endpoint : Endpoint}
    (read : FleetCommand.fromWire codec version written
      = .ok (.addCell cellId control name kind endpoint))
    : ∀ member ∈ endpoint, codec.parseAddress member.2 = some member.2 := by
  cases written with
  | addCell =>
    obtain ⟨⟨held, user⟩, _, read⟩ := Except.bind_eq_ok_iff.mp read
    simp only at read
    split_ifs at read
    · cases read
    · obtain ⟨kind, _, read⟩ := Except.bind_eq_ok_iff.mp read
      obtain ⟨endpoint, parsed, read⟩ := Except.bind_eq_ok_iff.mp read
      cases read
      intro member inside
      obtain ⟨written, ok⟩ := List.exists_of_mapM_ok parsed inside
      exact memberFromWire_eq_ok ok
  | registerTenant =>
    obtain ⟨survives, _, read⟩ := Except.bind_eq_ok_iff.mp read
    obtain ⟨tags, _, read⟩ := Except.bind_eq_ok_iff.mp read
    simp only at read
    split_ifs at read
    · cases read
    · obtain ⟨placement, _, read⟩ := Except.bind_eq_ok_iff.mp read
      cases read
  | setTenantTags | setCellTags =>
    obtain ⟨tags, _, read⟩ := Except.bind_eq_ok_iff.mp read
    cases read
  | markCell | assignBuckets | markTenant =>
    simp only [FleetCommand.fromWire] at read
    split at read <;> cases read
  | _ => cases read

/-- A command in context makes a change, or is refused. -/
theorem act_makes {fleetId version : Nat} {command : FleetCommand} (named : fleetId ≠ 0)
    (spoken : version ≤ metadataVersion)
    (context : (∃ control name, command = .formFleet control name)
      ∨ ∃ fleet, directory.fleet = some fleet)
    (parsed : ∀ cellId control name kind endpoint,
      command = .addCell cellId control name kind endpoint
        → ∀ member ∈ endpoint, codec.parseAddress member.2 = some member.2)
    (stays : ∀ (tenant : TenantId) (entry : TenantEntry), directory.tenants[tenant]? = some entry
      → entry.kind ≠ .users → entry.movingTo = none)
    : Makes codec directory (directory.act fleetId version command) := by
  rcases context with ⟨control, name, rfl⟩ | ⟨fleet, formed⟩
  · exact formFleet_makes named spoken
  cases command with
  | formFleet => exact formFleet_makes named spoken
  | addCell => exact addCell_makes formed (parsed _ _ _ _ _ rfl)
  | removeCell => exact removeCell_makes
  | markCell => exact markCell_makes
  | registerTenant => exact registerTenant_makes formed
  | assignBuckets => exact assignBuckets_makes
  | markTenant => exact markTenant_makes
  | moveTenant => exact moveTenant_makes
  | finishMove tenant => exact finishMove_makes (stays tenant)
  | removeTenant => exact removeTenant_makes
  | addRootKey key =>
    simp only [act, withKeys]
    cases added : directory.keys.add key with
    | error refusal => trivial
    | ok changed => exact Change.keyAdded formed added
  | removeRootKey label =>
    simp only [act, withKeys]
    cases removed : directory.keys.remove label with
    | error refusal => trivial
    | ok changed => exact Change.keyRemoved removed
  | setTenantTags | setCellTags =>
    simp only [act]
    exact setTags_makes

theorem outOfContext_eq_none {entry : FleetEntry} (inside : directory.outOfContext entry = none)
    : entry.fleetId ≠ 0 ∧ entry.version ≤ metadataVersion
      ∧ ((∃ control name, entry.command = .formFleet control name)
        ∨ ∃ fleet, directory.fleet = some fleet) := by
  rw [outOfContext] at inside
  split_ifs at inside with unnamed unknown
  refine ⟨(not_or.mp unnamed).1, not_lt.mp unknown, ?_⟩
  split at inside
  case h_1 control name same => exact .inl ⟨control, name, same⟩
  case h_2 => cases inside
  case h_3 fleet held _ => exact .inr ⟨fleet, held⟩

/-- Folding a record takes its position and makes a change, of nothing when it is refused. -/
theorem fold_change (seq : Nat) (record : Bytes)
    (stays : ∀ (tenant : TenantId) (entry : TenantEntry), directory.tenants[tenant]? = some entry
      → entry.kind ≠ .users → entry.movingTo = none)
    : Change codec (directory.advance seq) (directory.fold codec seq record) := by
  simp only [fold]
  cases decoded : FleetEntry.decode codec record with
  | error reason => exact .kept _ rfl
  | ok entry =>
    have judged : Makes codec (directory.advance seq) ((directory.advance seq).judge entry) := by
      rw [judge]
      cases inside : (directory.advance seq).outOfContext entry with
      | some refusal => trivial
      | none =>
        obtain ⟨named, spoken, context⟩ := outOfContext_eq_none inside
        refine act_makes named spoken context (fun _ _ _ _ _ added => ?_) stays
        simp only [FleetEntry.decode] at decoded
        split at decoded
        · cases decoded
        · split at decoded
          · cases decoded
          · obtain ⟨command, read, rfl⟩ := Except.map_eq_ok_iff.mp decoded
            simp only at added
            exact addCell_parsed (added ▸ read)
    simp only
    cases result : (directory.advance seq).judge entry with
    | error refusal => exact .kept _ rfl
    | ok changed =>
      rw [result] at judged
      exact judged

end FleetDirectory

end Paros
