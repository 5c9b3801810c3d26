import Paros.Fleet.Invariant
import Paros.Library.Handover

/-! How a user's tenant stands in the directory, as the register of a handover: the cell that has
it, the one it moves to, and whether it is being removed.
-/

namespace Paros

open Handover

/-- A tenant that is no user's stands nowhere; a posted one is `live` once it was created. -/
inductive TenantStanding where
  | absent
  | posted (post : Post Nat) (live : Bool)
  | removed

namespace TenantEntry

def post (entry : TenantEntry) : Post Nat :=
  ⟨entry.cellId, entry.movingTo, entry.state = .removing⟩

def live (entry : TenantEntry) : Bool :=
  entry.state = .ready || entry.state = .updatingConfiguration

end TenantEntry

/-- An internal tenant is ready; a moving one's configuration is updated, or it is being removed. -/
structure TenantEntry.Steady (entry : TenantEntry) : Prop where
  internal : entry.kind ≠ .users → entry.state = .ready
  moving : entry.movingTo.isSome → entry.state = .updatingConfiguration ∨ entry.state = .removing

namespace FleetDirectory

variable {directory : FleetDirectory} {tenant id : TenantId} {entry before after : TenantEntry}

def standing (directory : FleetDirectory) (tenant : TenantId) : TenantStanding :=
  match directory.tenants[tenant]? with
  | some entry => if entry.kind = .users then .posted entry.post entry.live else .absent
  | none => if tenant ∈ directory.removed then .removed else .absent

/-- What a tenant's standing rests on. -/
theorem standing_congr {other : FleetDirectory}
    (tenants : other.tenants[tenant]? = directory.tenants[tenant]?)
    (removed : tenant ∈ other.removed ↔ tenant ∈ directory.removed)
    : other.standing tenant = directory.standing tenant := by
  simp only [standing, tenants, removed]

theorem standing_user (held : directory.tenants[tenant]? = some entry) (user : entry.kind = .users)
    : directory.standing tenant = .posted entry.post entry.live := by
  simp [standing, held, user]

theorem standing_posted {post : Post Nat} {live : Bool}
    (posted : directory.standing tenant = .posted post live)
    : ∃ entry, directory.tenants[tenant]? = some entry ∧ entry.kind = .users ∧ entry.post = post
      ∧ entry.live = live := by
  rw [standing] at posted
  cases held : directory.tenants[tenant]? with
  | none =>
    simp only [held] at posted
    split_ifs at posted
  | some entry =>
    simp only [held] at posted
    split_ifs at posted with user
    obtain ⟨same, lives⟩ := TenantStanding.posted.inj posted
    exact ⟨entry, rfl, user, same, lives⟩

theorem standing_internal (held : directory.tenants[tenant]? = some entry)
    (internal : entry.kind ≠ .users)
    : directory.standing tenant = .absent := by
  simp [standing, held, internal]

/-- Every tenant's entry is steady. -/
def Steady (directory : FleetDirectory) : Prop :=
  ∀ (tenant : TenantId) (entry : TenantEntry), directory.tenants[tenant]? = some entry
    → entry.Steady

/-- What one command makes of a tenant's standing. -/
inductive Stands (command : FleetCommand) (tenant : TenantId)
    : TenantStanding → TenantStanding → Prop where
  | kept {standing : TenantStanding} : Stands command tenant standing standing
  | register (cellId : Nat) : Stands command tenant .absent (.posted ⟨cellId, none, false⟩ false)
  | create {post : Post Nat} (marked : command = .markTenant tenant .ready)
    : Stands command tenant (.posted post false) (.posted post true)
  | fail {post : Post Nat} {live : Bool}
    : Stands command tenant (.posted post live) (.posted post false)
  | move {cellId destination : Nat} (apart : destination ≠ cellId)
    : Stands command tenant (.posted ⟨cellId, none, false⟩ true)
        (.posted ⟨cellId, some destination, false⟩ true)
  | flip {cellId destination : Nat} (finished : command = .finishMove tenant)
    : Stands command tenant (.posted ⟨cellId, some destination, false⟩ true)
        (.posted ⟨destination, none, false⟩ true)
  | close {post : Post Nat} {live : Bool} (marked : command = .markTenant tenant .removing)
    : Stands command tenant (.posted post live) (.posted { post with closing := true } false)
  | remove {post : Post Nat} {live : Bool} (removed : command = .removeTenant tenant)
    (closing : post.closing)
    : Stands command tenant (.posted post live) .removed
  | retire : Stands command tenant .absent .removed

/-- A judgement that leaves every entry steady, with every tenant standing as the command may make
it stand.
-/
def Moves (directory : FleetDirectory) (command : FleetCommand) : Judged → Prop
  | .error _ => True
  | .ok (after, _) => ∀ tenant,
      (∀ entry, after.tenants[tenant]? = some entry → entry.Steady)
        ∧ Stands command tenant (directory.standing tenant) (after.standing tenant)

variable {codec : FleetCodec} {command : FleetCommand} {other : FleetDirectory}

/-- A tenant that a command does not touch. -/
theorem Steady.untouched (steady : directory.Steady)
    (tenants : other.tenants[tenant]? = directory.tenants[tenant]?)
    (removed : tenant ∈ other.removed ↔ tenant ∈ directory.removed)
    : (∀ entry, other.tenants[tenant]? = some entry → entry.Steady)
      ∧ Stands command tenant (directory.standing tenant) (other.standing tenant) := by
  refine ⟨fun entry found => steady tenant entry (tenants ▸ found), ?_⟩
  rw [standing_congr tenants removed]
  exact .kept

variable {event : FleetEvent}

theorem Moves.kept (steady : directory.Steady)
    (tenants : other.tenants = directory.tenants) (removed : other.removed = directory.removed)
    : Moves directory command (.ok (other, event)) :=
  fun _ => steady.untouched (by rw [tenants]) (by rw [removed])

/-- One entry is put, in the place of another or where there was none. -/
theorem Moves.put (steady : directory.Steady)
    (tenants : other.tenants = directory.tenants.insert id after)
    (removed : other.removed = directory.removed) (fits : after.Steady)
    (stands : Stands command id (directory.standing id)
      (if after.kind = .users then .posted after.post after.live else .absent))
    : Moves directory command (.ok (other, event)) := by
  intro tenant
  by_cases same : id = tenant
  · subst same
    refine ⟨fun entry found => ?_, ?_⟩
    · rw [tenants, OrderedMap.getElem?_insert, if_pos rfl] at found
      cases found
      exact fits
    · simpa [standing, tenants] using stands
  · exact steady.untouched (by simp [tenants, same]) (by rw [removed])

/-- One tenant is removed. -/
theorem Moves.erase (steady : directory.Steady)
    (tenants : other.tenants = directory.tenants.erase id)
    (removed : other.removed = insert id directory.removed)
    (stands : Stands command id (directory.standing id) .removed)
    : Moves directory command (.ok (other, event)) := by
  intro tenant
  by_cases same : id = tenant
  · subst same
    refine ⟨fun entry found => ?_, ?_⟩
    · simp [tenants] at found
    · simpa [standing, tenants, removed] using stands
  · exact steady.untouched (by simp [tenants, same]) (by simp [removed, Ne.symm same])

-- Each command

theorem setTags_moves {request : Nat} {target : Tagged} {tags : UserTags}
    (steady : directory.Steady)
    : Moves directory command (directory.setTags request target tags) := by
  fun_cases setTags directory request target tags
  case case4 tenant entry held =>
    have fits := steady tenant entry held
    refine .put steady rfl rfl ⟨fits.internal, fits.moving⟩ ?_
    simp only [standing, held]
    exact .kept
  all_goals first | exact .kept steady rfl rfl | trivial

variable {cellId : Nat} {name : Bytes}

theorem internalEntry_steady {kind : TenantKind} {mobility : Movable} {control : JournalId}
    : (internalEntry kind mobility name cellId control).Steady :=
  ⟨fun _ => rfl, by simp [internalEntry]⟩

variable {control : JournalIdentifier}

theorem formFleet_moves {fleetId version : Nat}
    (ok : Sound codec directory) (steady : directory.Steady)
    : Moves directory command (directory.formFleet fleetId version control name) := by
  fun_cases formFleet directory fleetId version control name
  case case2 unset formed =>
    obtain ⟨tenants, removed, -⟩ := ok.founded.unformed formed
    refine .put steady rfl rfl internalEntry_steady ?_
    simp only [standing, tenants, removed, internalEntry]
    exact .kept
  all_goals first | exact .kept steady rfl rfl | trivial

/-- A tenant that is internal after a command, and stood nowhere before it. -/
theorem Stands.internal (entry : TenantEntry) (held : other.tenants[tenant]? = some entry)
    (internal : entry.kind ≠ .users) (fits : entry.Steady) (nowhere : directory.standing tenant = .absent)
    : (∀ entry, other.tenants[tenant]? = some entry → entry.Steady)
      ∧ Stands command tenant (directory.standing tenant) (other.standing tenant) := by
  refine ⟨fun found same => ?_, ?_⟩
  · cases held.symm.trans same
    exact fits
  · rw [nowhere, standing_internal held internal]
    exact .kept

/-- A new cell's tenant stands nowhere, and neither does the universe that it comes to host. -/
theorem withCell_moves {fleet : Formed}
    {kind : CellKind} {endpoint : Endpoint} {version : Nat} (event : FleetEvent)
    (ok : Sound codec directory) (steady : directory.Steady) (formed : directory.fleet = some fleet)
    (untaken : directory.taken control.tenant = false)
    : Moves directory command
        (.ok (directory.withCell cellId control name kind endpoint version, event)) := by
  obtain ⟨fresh, lives⟩ := taken_eq_false.mp untaken
  obtain ⟨host, there, isUniverse, -, -⟩ := ok.founded.hosts fleet formed
  have apart := ne_of_taken untaken there
  have internal : host.kind ≠ .users := by simp [isUniverse]
  have fits := steady _ host there
  rw [Sound.withCell_eq formed there apart]
  intro tenant
  by_cases own : control.tenant = tenant
  · subst own
    refine Stands.internal (internalEntry .cell .pinned name cellId control.journal) ?_
      (by simp [internalEntry]) internalEntry_steady (by simp [standing, fresh, lives])
    simp only
    split_ifs <;> rw [OrderedMap.getElem?_insert]
    · rw [if_neg (Ne.symm apart), OrderedMap.getElem?_insert, if_pos rfl]
    · rw [if_pos rfl]
  · by_cases hosts : fleet.control.tenant = tenant
    · subst hosts
      have nowhere := standing_internal there internal
      by_cases first : host.cellId = 0
      · refine Stands.internal { host with cellId := cellId } ?_ internal
          ⟨fits.internal, fits.moving⟩ nowhere
        simp [first]
      · refine steady.untouched ?_ Iff.rfl
        simp [first, own]
    · refine steady.untouched ?_ Iff.rfl
      simp only
      split_ifs <;> simp [own, hosts]

theorem addCell_moves {fleet : Formed}
    {kind : CellKind} {endpoint : Endpoint} {version : Nat} (ok : Sound codec directory)
    (steady : directory.Steady) (formed : directory.fleet = some fleet)
    : Moves directory command (directory.addCell cellId control name kind endpoint version) := by
  fun_cases addCell directory cellId control name kind endpoint version
  case case7 named standing fresh untaken unnamed =>
    exact withCell_moves _ ok steady formed (by simpa using untaken)
  all_goals first | exact .kept steady rfl rfl | trivial

theorem removeCell_moves (ok : Sound codec directory) (steady : directory.Steady)
    : Moves directory command (directory.removeCell cellId) := by
  fun_cases removeCell directory cellId
  case case6 standing cell held removing alone bare =>
    obtain ⟨_, entry, there, isCell, _⟩ := ok.celled.tenant cellId cell held
    refine .erase steady rfl rfl ?_
    rw [standing_internal there (by simp [isCell])]
    exact .retire
  all_goals first | exact .kept steady rfl rfl | trivial

section

variable (steady : directory.Steady)
include steady

theorem markCell_moves {state : CellState}
    : Moves directory command (directory.markCell cellId state) := by
  fun_cases markCell directory cellId state
  all_goals first | exact .kept steady rfl rfl | trivial

theorem registerTenant_moves {survives : Survives} {placement : Placement} {tags : UserTags}
    : Moves directory command
        (directory.registerTenant control name cellId survives placement tags) := by
  fun_cases registerTenant directory control name cellId survives placement tags
  case case9 set plain fresh lives unnamed ready home =>
    refine .put steady rfl rfl ⟨by simp, by simp⟩ ?_
    simp only [standing, fresh, lives, TenantEntry.post, TenantEntry.live, if_true, if_false]
    exact .register cellId
  all_goals first | exact .kept steady rfl rfl | trivial

theorem assignBuckets_moves {range : BucketRange}
    : Moves directory command (directory.assignBuckets range cellId) := by
  fun_cases assignBuckets directory range cellId
  all_goals first | exact .kept steady rfl rfl | trivial

/-- A removal closes a tenant's post; another mark neither opens one nor closes it. -/
theorem markTenant_moves {state : TenantState}
    : Moves directory (.markTenant tenant state) (directory.markTenant tenant state) := by
  fun_cases markTenant directory tenant state
  case case6 entry held inside other may moving =>
    have user := users_of_not_isInternal inside
    refine .put steady rfl rfl ⟨fun internal => absurd user internal, ?_⟩ ?_
    · intro moves
      exact .inr (by simpa [moves] using moving)
    · simp only [standing_user held user, user, TenantEntry.post, TenantEntry.live, if_true]
      have allowed : entry.state.mayBecome state := by simpa using may
      cases state with
      | registering => simp [TenantState.mayBecome] at allowed
      | removing => exact .close rfl
      | ready =>
        simp only [TenantState.mayBecome, Bool.or_eq_true, decide_eq_true_eq] at allowed
        rcases allowed with created | updated
        · simpa [created] using Stands.create rfl
        · simpa [updated] using Stands.kept
      | updatingConfiguration =>
        simp only [TenantState.mayBecome, decide_eq_true_eq] at allowed
        simpa [allowed] using Stands.kept
      | error =>
        simp only [TenantState.mayBecome, decide_eq_true_eq] at allowed
        simpa [allowed] using Stands.fail
  all_goals first | exact .kept steady rfl rfl | trivial

/-- A move opens from a ready tenant, which has none open. -/
theorem moveTenant_moves {destination : Nat}
    : Moves directory command (directory.moveTenant tenant destination) := by
  fun_cases moveTenant directory tenant destination
  case case8 cell known entry held inside opened may notReady running =>
    have user := users_of_not_isInternal inside
    have ready : entry.state = .ready := by simpa [TenantState.mayBecome] using running
    have idle : entry.movingTo = none := by
      cases moving : entry.movingTo with
      | none => rfl
      | some elsewhere =>
        rcases (steady tenant entry held).moving (by simp [moving]) with updating | removing
        · simp [ready] at updating
        · simp [ready] at removing
    refine .put steady rfl rfl ⟨fun internal => absurd user internal, fun _ => .inl rfl⟩ ?_
    simp only [standing_user held user, user, TenantEntry.post, TenantEntry.live, if_true, ready, idle,
      reduceCtorEq, decide_false]
    exact .move (Ne.symm (not_or.mp may).2)
  all_goals first | exact .kept steady rfl rfl | trivial

theorem finishMove_moves
    : Moves directory (.finishMove tenant) (directory.finishMove tenant) := by
  fun_cases finishMove directory tenant
  case case4 entry held destination moving updating =>
    have fits := steady tenant entry held
    have user : entry.kind = .users := by
      by_contra internal
      simp [fits.internal internal] at updating
    refine .put steady rfl rfl ⟨fun internal => absurd user internal, by simp⟩ ?_
    simp only [standing_user held user, user, TenantEntry.post, TenantEntry.live, if_true, moving,
      not_not.mp updating, reduceCtorEq, decide_false]
    exact .flip rfl
  all_goals trivial

theorem removeTenant_moves
    : Moves directory (.removeTenant tenant) (directory.removeTenant tenant) := by
  simp only [removeTenant]
  split_ifs
  · exact .kept steady rfl rfl
  · cases held : directory.tenants[tenant]? with
    | none => trivial
    | some entry =>
      simp only
      split_ifs with inside running
      · trivial
      · trivial
      · refine .erase steady rfl rfl ?_
        rw [standing_user held (users_of_not_isInternal inside)]
        exact .remove rfl (by simpa [TenantEntry.post] using running)

theorem withKeys_moves {changed : Except FleetDirectoryRefusal (RootKeys × KeyChange)}
    : Moves directory command (directory.withKeys changed) := by
  cases changed with
  | error refusal => trivial
  | ok changed => exact .kept steady rfl rfl

end

/-- Every command in context leaves the tenants standing as it may make them stand. -/
theorem judge_moves (ok : Sound codec directory) (steady : directory.Steady) (entry : FleetEntry)
    : Moves directory entry.command (directory.judge entry) := by
  rw [judge]
  cases inside : directory.outOfContext entry with
  | some refusal => trivial
  | none =>
    obtain ⟨_, _, ⟨control, name, formed⟩ | ⟨fleet, formed⟩⟩ := outOfContext_eq_none inside
    · rw [formed]
      exact formFleet_moves ok steady
    · simp only
      cases entry.command with
      | formFleet => exact formFleet_moves ok steady
      | addCell => exact addCell_moves ok steady formed
      | removeCell => exact removeCell_moves ok steady
      | markCell => exact markCell_moves steady
      | registerTenant => exact registerTenant_moves steady
      | assignBuckets => exact assignBuckets_moves steady
      | markTenant => exact markTenant_moves steady
      | moveTenant => exact moveTenant_moves steady
      | finishMove => exact finishMove_moves steady
      | removeTenant => exact removeTenant_moves steady
      | addRootKey | removeRootKey => exact withKeys_moves steady
      | setTenantTags | setCellTags =>
        simp only [act]
        exact setTags_moves steady

end FleetDirectory

end Paros
