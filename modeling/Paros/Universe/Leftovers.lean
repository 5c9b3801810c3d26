import Paros.Universe.Exclusion

/-! What is left of a tenant once nobody has anything to write: a finished move leaves it with its
cell alone and a removal with none, as long as no move ends over a third cell that still hosts the
tenant, and no removal meets it settled in the target of an open move.
-/

namespace Paros

open OrderedMap

open Handover

-- Fleets

variable {directory : FleetDirectory}

/-- A formed fleet stays. -/
theorem FleetDirectory.Sound.record_fleet {fleet : Formed}
    (ok : directory.Sound .counted) (formed : directory.fleet = some fleet) (entry : FleetEntry)
    : (directory.record entry).fleet = some fleet := by
  have makes := (advance_sound ok directory.nextSeq).judge_makes entry
  have advanced : (directory.advance directory.nextSeq).fleet = some fleet := formed
  rw [FleetDirectory.record]
  cases judged : (directory.advance directory.nextSeq).judge entry with
  | error refusal => exact formed
  | ok result =>
    rw [judged] at makes
    change result.1.fleet = some fleet
    cases (makes : Change _ _ result) with
    | formed name unformed =>
      rw [advanced] at unformed
      cases unformed
    | cellAdded name kind version held =>
      cases held.symm.trans advanced
      simp only [withCell, hostUniverse, held]
      split
      · rfl
      · split_ifs <;> rfl
    | _ => exact advanced

/-- A created tenant is not being removed. -/
theorem FleetDirectory.running_of_live {tenant : TenantId} {post : Post Nat}
    (posted : directory.standing tenant = .posted post true)
    : post.closing = false := by
  obtain ⟨entry, _, _, rfl, live⟩ := FleetDirectory.standing_posted posted
  cases state : entry.state <;> simp_all [TenantEntry.live, TenantEntry.post]

namespace Registry

variable {registry : Registry} {command : SystemCommand} {seq : Nat} {tenant : TenantId}
  {result : Registry × RegistryEvent}

variable (change : Change seq registry command result)
include change

theorem Change.fleet {fleet : FleetRegistration} (joined : registry.fleet = some fleet)
    : result.1.fleet = some fleet := by
  cases change with
  | granted fresh keyed owned books =>
    rw [books.frame]
    exact joined
  | joined named alone => simp [joined] at alone
  | _ => exact joined

theorem Change.joins {fleet : FleetRegistration} (joined : result.1.fleet = some fleet)
    : registry.fleet = some fleet ∨ ∃ pointer, command = .joinFleet fleet pointer := by
  cases change with
  | granted fresh keyed owned books =>
    rw [books.frame] at joined
    exact .inl joined
  | joined named alone =>
    cases joined
    exact .inr ⟨_, rfl⟩
  | _ => exact .inl joined

/-- A cell comes to host a tenant by a command of its own fleet. -/
theorem Change.hosts (hosts : result.1.hosts tenant)
    : registry.hosts tenant
      ∨ ∃ fleet, registry.fleet = some fleet
        ∧ ((∃ hosted, command = .hostTenant fleet.fleetId tenant hosted)
          ∨ ∃ hosted source born, command = .adoptTenant fleet.fleetId tenant hosted source born) := by
  cases change with
  | granted fresh keyed owned books =>
    rw [books.frame] at hosts
    exact .inl hosts
  | @hosted fleetId id hosted ours =>
    obtain ⟨fleet, joined, rfl⟩ := ours.joined
    simp only [Registry.hosts, getElem?_insert] at hosts ⊢
    split_ifs at hosts with same
    · subst same
      exact .inr ⟨fleet, joined, .inl ⟨_, rfl⟩⟩
    · exact .inl hosts
  | @adopted fleetId id hosted source born ours =>
    obtain ⟨fleet, joined, rfl⟩ := ours.joined
    simp only [Registry.hosts, getElem?_insert] at hosts ⊢
    split_ifs at hosts with same
    · subst same
      exact .inr ⟨fleet, joined, .inr ⟨_, _, _, rfl⟩⟩
    · exact .inl hosts
  | dropped | movedOut =>
    simp only [Registry.hosts, getElem?_erase] at hosts ⊢
    split_ifs at hosts
    · simp at hosts
    · exact .inl hosts
  | _ => exact .inl hosts

end Registry

/-- A command that makes a cell host a tenant names the directory's fleet, and the cell joins one
under its own id.
-/
def SystemCommand.Fits (directory : FleetDirectory) (cell : Nat) : SystemCommand → Prop
  | .hostTenant fleetId _ _ | .adoptTenant fleetId _ _ _ _ =>
    ∃ fleet, directory.fleet = some fleet ∧ fleet.id = fleetId
  | .joinFleet joined _ => joined.cellId = cell
  | _ => True

variable {command : SystemCommand}

theorem Warrants.fits {registry : Registry} {own : Nat} {others : Others}
    (warrants : Warrants directory registry own others command)
    : command.Fits directory own := by
  cases warrants with
  | host formed | adopt formed => exact ⟨_, formed, rfl⟩
  | _ => trivial

theorem SystemCommand.Fits.of_routine {cell : Nat} (routine : command.isRoutine cell)
    : command.Fits directory cell := by
  cases command with
  | joinFleet => simpa [isRoutine, Fits] using routine
  | hostTenant | adoptTenant => cases routine
  | _ => trivial

theorem SystemCommand.Fits.mono {directory other : FleetDirectory} {cell : Nat}
    (fits : command.Fits directory cell)
    (kept : ∀ fleet, directory.fleet = some fleet → other.fleet = some fleet)
    : command.Fits other cell := by
  cases command with
  | hostTenant | adoptTenant =>
    obtain ⟨fleet, formed, named⟩ := fits
    exact ⟨fleet, kept fleet formed, named⟩
  | _ => exact fits

namespace Universe

variable {world : Universe} {tenant : TenantId} {state : State Nat} {cell : Nat}

/-- A cell joined its fleet under its own id, and hosts tenants of the directory's fleet only. -/
structure Joined (world : Universe) : Prop where
  own : ∀ cell joined, (world.registries cell).fleet = some joined → joined.cellId = cell
  hosts : ∀ cell tenant, (world.registries cell).hosts tenant
    → ∃ fleet joined, world.directory.fleet = some fleet
      ∧ (world.registries cell).fleet = some joined ∧ joined.fleetId = fleet.id
  reads : ∀ cell fleet, (world.rounds cell).directory.fleet = some fleet
    → world.directory.fleet = some fleet
  pending : ∀ cell, ∀ command ∈ (world.rounds cell).pending,
    command.Fits (world.rounds cell).directory cell

theorem start_joined (members : Nat → List NodeId) : (start members).Joined where
  own _ _ joined := by simp [start, Registry.new] at joined
  hosts _ _ hosts := by simp [start, Registry.new, Registry.hosts] at hosts
  reads _ _ formed := formed
  pending _ _ member := by simp [start] at member

namespace Joined

/-- A cell that hosts a tenant writes steps. -/
theorem joinedBy (joined : world.Joined) (hosts : (world.registries cell).hosts tenant)
    : ∃ fleetId, world.directory.joinedBy (world.registries cell) cell = some fleetId := by
  obtain ⟨fleet, member, formed, inFleet, same⟩ := joined.hosts cell tenant hosts
  refine ⟨fleet.id, ?_⟩
  simp [FleetDirectory.joinedBy, formed, inFleet, same, joined.own cell member inFleet]

theorem setRegistry {command : SystemCommand} (joined : world.Joined) (orderly : world.Orderly)
    (fits : command.Fits world.directory cell)
    : (world.setRegistry cell ((world.registries cell).record command)).Joined := by
  have change := (orderly.lodges cell).record_change command
  refine { joined with own := fun other member inFleet => ?_, hosts := fun other id hosts => ?_ }
  · simp only [Universe.setRegistry, Function.update_apply] at inFleet
    split_ifs at inFleet with here
    · rcases change.joins inFleet with before | ⟨pointer, rfl⟩
      · exact here ▸ joined.own cell member before
      · exact here ▸ fits
    · exact joined.own other member inFleet
  · simp only [Universe.setRegistry, Function.update_apply] at hosts ⊢
    split_ifs at hosts ⊢ with here
    · rcases change.hosts hosts with before | ⟨member, inFleet, commands⟩
      · obtain ⟨fleet, member, formed, inFleet, same⟩ := joined.hosts cell id before
        exact ⟨fleet, member, formed, change.fleet inFleet, same⟩
      · have named : ∃ fleet, world.directory.fleet = some fleet ∧ fleet.id = member.fleetId := by
          rcases commands with ⟨_, rfl⟩ | ⟨_, _, _, rfl⟩ <;> exact fits
        obtain ⟨fleet, formed, same⟩ := named
        exact ⟨fleet, member, formed, change.fleet inFleet, same.symm⟩
    · exact joined.hosts other id hosts

theorem setRound {round : WatchRound} (joined : world.Joined)
    (reads : ∀ fleet, round.directory.fleet = some fleet → world.directory.fleet = some fleet)
    (pending : ∀ command ∈ round.pending, command.Fits round.directory cell)
    : (world.setRound cell round).Joined := by
  refine { joined with reads := fun other => ?_, pending := fun other => ?_ }
  all_goals
    simp only [Universe.setRound, Function.update_apply]
    split_ifs with here
  · exact reads
  · exact joined.reads other
  · exact here ▸ pending
  · exact joined.pending other

theorem step (joined : world.Joined) (orderly : world.Orderly) (happening : Happening)
    : (world.step happening).Joined := by
  fun_cases Universe.step world happening
  case case1 entry _ =>
    have kept : ∀ fleet, world.directory.fleet = some fleet
        → (world.directory.record entry).fleet = some fleet :=
      fun _ formed => orderly.sound.record_fleet formed entry
    refine { joined with hosts := fun cell id hosts => ?_, reads := fun cell fleet read => ?_ }
    · obtain ⟨fleet, member, formed, rest⟩ := joined.hosts cell id hosts
      exact ⟨fleet, member, kept fleet formed, rest⟩
    · exact kept fleet (joined.reads cell fleet read)
  case case3 => exact { joined with }
  case case4 => exact joined.setRound (fun _ formed => formed) (by simp)
  case case5 cell _ _ _ _ _ _ => exact joined.setRound (joined.reads cell) (joined.pending cell)
  case case8 cell _ _ =>
    refine joined.setRound (joined.reads cell) fun command member => ?_
    have warrants : Warrants _ _ cell ∅ command := tenantSteps_warrants member
    exact warrants.fits
  case case10 cell _ _ =>
    exact joined.setRound (joined.reads cell) fun command member => (steps_warrants member).fits
  case case13 cell _ command rest pending =>
    have planned := joined.pending cell
    rw [pending] at planned
    have fits := (planned command List.mem_cons_self).mono (joined.reads cell)
    exact (joined.setRegistry orderly fits).setRound (joined.reads cell) fun next member =>
      planned next (List.mem_cons_of_mem command member)
  case case14 cell fleetId tenant _ _ =>
    have fits : (SystemCommand.settleTenant fleetId tenant).Fits world.directory cell := trivial
    exact joined.setRegistry orderly fits
  case case16 routine => exact joined.setRegistry orderly (.of_routine routine)
  all_goals exact joined

end Joined

-- Created tenants

variable {happening : Happening}

/-- A hosted tenant that still stands after a happening, and is not being removed, is hosted. -/
theorem Handed.hosted_step {post : Post Nat} {live : Bool} (handed : Handed tenant world state)
    (hosted : ∃ cell, (world.registries cell).hosts tenant)
    (posted : (world.step happening).directory.standing tenant = .posted post live)
    (running : post.closing = false)
    : ∃ cell, ((world.step happening).registries cell).hosts tenant := by
  obtain ⟨cell, hosts⟩ := hosted
  obtain ⟨after, steps, later, _⟩ := handed.step happening
  have shown := later.shows.post
  rw [posted] at shown
  cases steps with
  | refl => exact ⟨cell, later.hosts_iff.mpr (handed.hosts_iff.mp hosts)⟩
  | single step =>
    have stillOpen : ∀ other, after.post = some other → other.closing = false := by
      intro other there
      cases shown.symm.trans there
      exact running
    obtain ⟨own, holds⟩ := step.held handed.sound ⟨cell, handed.hosts_iff.mp hosts⟩ stillOpen
    exact ⟨own, later.hosts_iff.mpr holds⟩

/-- A tenant that was created is hosted, and so is one that an operator saw hosted. -/
structure Served (tenant : TenantId) (world : Universe) : Prop where
  created : ∀ post, world.directory.standing tenant = .posted post true
    → ∃ cell, (world.registries cell).hosts tenant
  looked : ∀ cell registry, world.looked cell = some registry → registry.hosts tenant
    → ∀ post live, world.directory.standing tenant = .posted post live → post.closing = false
    → ∃ cell, (world.registries cell).hosts tenant

theorem start_served (members : Nat → List NodeId) (tenant : TenantId)
    : Served tenant (start members) where
  created _ posted := by simp [start, FleetDirectory.standing, FleetDirectory.default] at posted
  looked _ _ found := by simp [start] at found

/-- What an operator writes leaves a created tenant hosted: it saw the tenant hosted before it
marked it created.
-/
theorem Served.operate {entry : FleetEntry} (served : Served tenant world) (orderly : world.Orderly)
    (permitted : world.permits entry.command)
    : Served tenant
        { world with directory := world.directory.record entry, looked := fun _ => none } := by
  refine ⟨fun post posted => ?_, by simp⟩
  have stands := (orderly.sound.record orderly.steady entry).2.2 tenant
  have running := FleetDirectory.running_of_live posted
  simp only at posted ⊢
  rw [posted] at stands
  generalize before : world.directory.standing tenant = standing at stands
  cases stands with
  | kept | move | flip => exact served.created _ before
  | create marked =>
    rw [marked] at permitted
    simp only [permits, Option.any_eq_true] at permitted
    obtain ⟨entry, _, registry, read, hosts⟩ := permitted
    exact served.looked _ registry read hosts _ _ before running

/-- Whatever does not write the directory leaves it as it is. -/
theorem step_directory (silent : ∀ entry, happening ≠ .operate entry)
    : (world.step happening).directory = world.directory := by
  fun_cases Universe.step world happening
  case case1 entry _ => exact absurd rfl (silent entry)
  all_goals rfl

/-- A registry that is known to operators was, or is the cell's. -/
theorem step_looked {registry : Registry}
    (found : (world.step happening).looked cell = some registry)
    : world.looked cell = some registry ∨ registry = world.registries cell := by
  revert found
  fun_cases Universe.step world happening
  case case1 => rintro ⟨⟩
  case case3 other =>
    intro found
    simp only [Function.update_apply] at found
    split_ifs at found with here
    · cases found
      exact .inr (here ▸ rfl)
    · exact .inl found
  all_goals exact .inl

theorem Served.step (served : Served tenant world) (handed : Handed tenant world state)
    (happening : Happening)
    : Served tenant (world.step happening) := by
  by_cases writes : ∃ entry, happening = .operate entry
  · obtain ⟨entry, rfl⟩ := writes
    simp only [Universe.step]
    split_ifs with permitted
    · exact served.operate handed.orderly permitted
    · exact served
  · have same : (world.step happening).directory = world.directory :=
      step_directory fun entry written => writes ⟨entry, written⟩
    refine ⟨fun post posted => ?_, fun cell registry found hosts post live posted running => ?_⟩
    · have running := FleetDirectory.running_of_live posted
      exact handed.hosted_step (served.created post (same ▸ posted)) posted running
    · refine handed.hosted_step ?_ posted running
      rcases step_looked found with before | rfl
      · exact served.looked cell registry before hosts post live (same ▸ posted) running
      · exact ⟨cell, hosts⟩

-- Runs that clear up

/-- Whether everything that happens leaves no cell behind with the tenant. -/
def Tidily (tenant : TenantId) : Universe → List Happening → Prop
  | _, [] => True
  | world, happening :: rest => world.Tidy tenant happening ∧ Tidily tenant (world.step happening) rest

/-- What holds of a universe and one of its tenants after a tidy run. -/
structure Swept (tenant : TenantId) (world : Universe) (state : State Nat) : Prop
    extends Handed tenant world state where
  joined : world.Joined
  served : Served tenant world
  cleared : ∀ post, state.post = some post → Cleared post state.holding

theorem Swept.step (swept : Swept tenant world state) (tidy : world.Tidy tenant happening)
    : ∃ after, Swept tenant (world.step happening) after := by
  obtain ⟨after, steps, handed, tidied⟩ := swept.toHanded.step happening
  refine ⟨after, handed, swept.joined.step swept.orderly happening,
    swept.served.step swept.toHanded happening, ?_⟩
  cases steps with
  | refl => exact swept.cleared
  | single step => exact step.cleared swept.sound (tidied tidy) swept.cleared

variable {happenings : List Happening}

theorem Swept.run (swept : Swept tenant world state) (tidily : world.Tidily tenant happenings)
    : ∃ after, Swept tenant (world.run happenings) after := by
  induction happenings generalizing world state with
  | nil => exact ⟨state, swept⟩
  | cons happening rest ih =>
    obtain ⟨middle, swept⟩ := swept.step tidily.1
    exact ih swept tidily.2

theorem run_swept {members : Nat → List NodeId} (tidily : (start members).Tidily tenant happenings)
    : ∃ state, Swept tenant ((start members).run happenings) state := by
  have started : Swept tenant (start members) nobody :=
    ⟨⟨start_orderly members, start_shows members tenant, nobody_sound⟩, start_joined members,
      start_served members tenant, by simp [nobody]⟩
  exact started.run tidily

-- Nothing left

/-- The other sides of a cell's moves, read now. -/
def others (world : Universe) (cell : Nat) : Others :=
  (sides world.directory cell).foldl
    (fun others other =>
      match reach world.directory (world.registries cell) other with
      | some (_, endpoint) => others.insert other (world.registries other, endpoint)
      | none => others)
    ∅

/-- Whether no coordinator that reads now has anything to write. -/
def Idle (world : Universe) : Prop :=
  ∀ cell, tenantSteps world.directory (world.registries cell) cell = []
    ∧ steps world.directory (world.registries cell) cell (world.others cell) = []

/-- A cell that released a tenant to its new cell has it to forget. -/
theorem Swept.not_leaving {entry : TenantEntry} (swept : Swept tenant world state)
    (idle : world.Idle) (held : world.directory.tenants[tenant]? = some entry)
    (user : entry.kind = .users) (away : entry.cellId ≠ cell)
    : (world.registries cell).leaving tenant ≠ some entry.cellId := by
  intro leaving
  have lodges := swept.orderly.lodges cell
  have hosts : (world.registries cell).hosts tenant :=
    lodges.holds_iff.mp (by rw [lodges.leaving_iff.mpr leaving]; simp)
  obtain ⟨fleetId, joined⟩ := swept.joined.joinedBy hosts
  have step : moveStep (world.registries cell) cell (world.others cell) fleetId tenant entry
      = some (.movedTenant fleetId tenant entry.cellId) := by
    rw [moveStep, if_neg (by simp [user, lodges.present tenant hosts]), if_pos ⟨away, leaving⟩]
  have nothing := (idle cell).2
  simp only [steps, joined, List.append_eq_nil_iff, List.filterMap_eq_nil_iff] at nothing
  have skipped := nothing.1 (tenant, entry) (mem_toList.mpr held)
  simp [step] at skipped

/-- A cell that hosts a removed tenant on its way has it to drop. -/
theorem Swept.not_moving (swept : Swept tenant world state) (idle : world.Idle)
    (removed : tenant ∈ world.directory.removed) (hosts : (world.registries cell).hosts tenant)
    : (world.registries cell).moving tenant = false := by
  have lodges := swept.orderly.lodges cell
  obtain ⟨fleetId, joined⟩ := swept.joined.joinedBy hosts
  have nothing := (idle cell).2
  simp only [steps, joined, List.append_eq_nil_iff, List.map_eq_nil_iff, List.filter_eq_nil_iff]
    at nothing
  have listed : tenant ∈ (world.registries cell).hosted.keys := by
    rw [Std.ExtTreeMap.mem_keys, mem_iff_getElem?]
    exact Option.isSome_iff_exists.mp hosts
  simpa [overtaken, removed, lodges.present tenant hosts] using nothing.2 tenant listed

/-- Once nobody has anything to write, after a run that left no cell behind, a ready tenant without
an open move is hosted by its cell alone, and a removed one by none.
-/
theorem idle_leaves_nothing (members : Nat → List NodeId) (happenings : List Happening)
    (tenant : TenantId) (tidily : (start members).Tidily tenant happenings)
    (idle : ((start members).run happenings).Idle)
    : (∀ entry, ((start members).run happenings).directory.tenants[tenant]? = some entry
        → entry.kind = .users → entry.state = .ready → entry.movingTo = none
        → ∀ cell, (((start members).run happenings).registries cell).hosts tenant
          ↔ cell = entry.cellId)
      ∧ (tenant ∈ ((start members).run happenings).directory.removed
        → ∀ cell, ¬(((start members).run happenings).registries cell).hosts tenant) := by
  obtain ⟨state, swept⟩ := run_swept tidily
  have shown := swept.shows.post
  refine ⟨fun entry held user ready still cell => ?_, fun removed cell hosts => ?_⟩
  · have standing := FleetDirectory.standing_user held user
    have created := swept.served.created entry.post (by rw [standing]; simp [TenantEntry.live, ready])
    rw [standing] at shown
    have running : entry.post.closing = false := by simp [TenantEntry.post, ready]
    constructor
    · intro hosts
      by_contra away
      have holds := swept.hosts_iff.mp hosts
      rcases (swept.cleared entry.post shown).holds cell away holds with leaving | moves
      · rw [← swept.shows.holding, (swept.orderly.lodges cell).leaving_iff] at leaving
        exact swept.not_leaving idle held user (Ne.symm away) leaving
      · simp [TenantEntry.post, still] at moves
    · rintro rfl
      obtain ⟨own, hosts⟩ := created
      exact swept.hosts_iff.mpr
        ((swept.sound.held entry.post shown).keeps running own (swept.hosts_iff.mp hosts))
  · have holds := swept.hosts_iff.mp hosts
    have buried : ((start members).run happenings).directory.standing tenant = .removed := by
      simp [FleetDirectory.standing, swept.orderly.sound.buried.tenants tenant removed, removed]
    cases posted : state.post with
    | none => simp [(swept.sound.unregistered posted cell).1] at holds
    | some post =>
      have gone := swept.shows.gone buried post posted
      rw [buried] at shown
      have away : cell ≠ post.owner := by
        rintro rfl
        simp [gone] at holds
      -- The cell did not settle, so the tenant is on its way, and the cell is to drop it.
      have unsettled := (swept.cleared post posted).unsettled (shown post posted) cell away
      rw [← swept.shows.holding] at unsettled
      exact unsettled ((swept.orderly.lodges cell).settled_iff.mpr
        ⟨hosts, swept.not_moving idle removed hosts⟩)

-- A cell that nothing was written to is in no fleet, so whether a universe is idle shows in the
-- cells that were.

/-- The cell whose registry is written. -/
def writes : Happening → Option Nat
  | .write cell | .settle cell _ _ | .routine cell _ => some cell
  | _ => none

theorem step_untouched (apart : writes happening ≠ some cell)
    : (world.step happening).registries cell = world.registries cell := by
  fun_cases Universe.step world happening
  case case13 other _ _ _ _ | case14 other _ _ _ _ | case16 other _ _ =>
    have differs : cell ≠ other := fun same => apart (by rw [same]; rfl)
    simp [Universe.setRound, Universe.setRegistry, differs]
  all_goals rfl

theorem run_untouched (apart : ∀ happening ∈ happenings, writes happening ≠ some cell)
    : (world.run happenings).registries cell = world.registries cell := by
  induction happenings generalizing world with
  | nil => rfl
  | cons happening rest ih =>
    obtain ⟨first, later⟩ := List.forall_mem_cons.mp apart
    exact (ih later).trans (step_untouched first)

theorem new_of_bounded (members : Nat → List NodeId) {bound : Nat}
    (bounded : ∀ happening ∈ happenings, (writes happening).all (· < bound)) (above : bound ≤ cell)
    : ((start members).run happenings).registries cell = .new (members cell) := by
  refine run_untouched fun happening member same => ?_
  have below : cell < bound := by simpa [same] using bounded happening member
  omega

theorem idle_of_bounded {members : Nat → List NodeId} (bound : Nat)
    (bounded : ∀ happening ∈ happenings, (writes happening).all (· < bound))
    (run : (start members).run happenings = world)
    (empty : ∀ cell < bound, (tenantSteps world.directory (world.registries cell) cell).isEmpty
      ∧ (steps world.directory (world.registries cell) cell (world.others cell)).isEmpty)
    : world.Idle := by
  intro cell
  by_cases written : cell < bound
  · simpa using empty cell written
  · have untouched := run ▸ new_of_bounded members bounded (not_lt.mp written)
    have alone : world.directory.joinedBy (world.registries cell) cell = none := by
      rw [untouched, FleetDirectory.joinedBy]
      cases world.directory.fleet <;> simp [Registry.new]
    simp [tenantSteps, steps, alone]

/-- A cell forgets a tenant that it released. -/
def forgetting (cell : Nat) : List Happening := [.read cell, .planMoves cell, .write cell]

/-- Two moves in a row, the second ended before the first cell forgot the tenant. -/
def chained : List Happening :=
  threeCells ++ created ++ moving 1 2 ++ arriving 2 ++ moving 2 3 ++ arriving 3 ++ forgetting 2

/-- A removal of a tenant that settled in the target of its move, before the move ended. -/
def removedSettled : List Happening :=
  threeCells ++ created ++ moving 1 2
    ++ [.write 2, .settle 2 7 50, operator (.markTenant 50 .removing), .read 1, .planTenants 1,
      .write 1, .look 1, operator (.removeTenant 50)]

/-- A ready tenant that moved on is still hosted where it moved from first, and a removed one where
it settled, and nobody has anything to write.
-/
theorem idle_leaves_behind
    : ((singles.run chained).Idle
        ∧ ((singles.run chained).directory.tenants[(50 : TenantId)]?.any fun entry =>
          entry.kind = .users ∧ entry.state = .ready ∧ entry.movingTo = none ∧ entry.cellId = 3)
        ∧ ((singles.run chained).registries 1).hosts 50)
      ∧ ((singles.run removedSettled).Idle
        ∧ 50 ∈ (singles.run removedSettled).directory.removed
        ∧ ((singles.run removedSettled).registries 2).hosts 50) := by
  refine ⟨⟨idle_of_bounded 4 ?_ rfl ?_, ?_, ?_⟩, idle_of_bounded 4 ?_ rfl ?_, ?_, ?_⟩
  all_goals decide +kernel

/-- Whether a happening leaves no cell behind, whatever the universe. -/
def plain : Happening → Bool
  | .operate ⟨_, _, .finishMove _⟩ | .operate ⟨_, _, .markTenant _ .removing⟩ | .settle _ _ _ => false
  | _ => true

theorem tidy_of_plain (safe : plain happening)
    : world.Tidy tenant happening := by
  rw [Tidy.eq_def]
  split <;> trivial

theorem tidily_append {first later : List Happening} (before : world.Tidily tenant first)
    (after : (world.run first).Tidily tenant later)
    : world.Tidily tenant (first ++ later) := by
  induction first generalizing world with
  | nil => exact after
  | cons happening rest ih => exact ⟨before.1, ih before.2 after⟩

theorem tidily_of_plain (safe : happenings.all plain)
    : world.Tidily tenant happenings := by
  induction happenings generalizing world with
  | nil => trivial
  | cons happening rest ih =>
    rw [List.all_cons, Bool.and_eq_true] at safe
    exact ⟨tidy_of_plain safe.1, ih safe.2⟩

/-- A move of the tenant until its target adopted it. -/
def adopted : List Happening := threeCells ++ created ++ moving 1 2 ++ [.write 2]

/-- The tenant settled, and an operator saw that it did. -/
def settled : List Happening := adopted ++ [.settle 2 7 50, .look 2]

/-- The move ended, and the first cell forgot the tenant. -/
def finished : List Happening := settled ++ operator (.finishMove 50) :: forgetting 1

/-- No third cell hosts the tenant before its move ends. -/
theorem settled_hosts {cell : Nat}
    (hosts : ((singles.run settled).registries cell).hosts 50)
    : cell = 1 ∨ cell = 2 := by
  by_cases written : cell < 4
  · have below : ∀ cell < 4, ((singles.run settled).registries cell).hosts 50
        → cell = 1 ∨ cell = 2 := by
      decide +kernel
    exact below cell written hosts
  · rw [new_of_bounded _ (by decide +kernel) (not_lt.mp written)] at hosts
    simp [Registry.hosts, Registry.new] at hosts

theorem finished_tidily : singles.Tidily 50 finished := by
  have settles : singles.Tidily 50 settled :=
    tidily_append (tidily_of_plain (by decide +kernel))
      ⟨fun _ _ => by decide +kernel, trivial, trivial⟩
  have moves : (singles.run settled).directory.tenants[(50 : TenantId)]?.all
      fun entry => entry.cellId = 1 ∧ entry.movingTo = some 2 := by
    decide +kernel
  refine tidily_append settles ⟨fun _ _ entry held cell away off hosts => ?_, tidily_of_plain rfl⟩
  rw [held] at moves
  simp only [Option.all_some, decide_eq_true_eq] at moves
  rcases settled_hosts hosts with rfl | rfl
  · exact away moves.1.symm
  · exact off moves.2

theorem idle_leaves_nothing_finished
    : (singles.run finished).Idle
      ∧ ((singles.run finished).directory.tenants[(50 : TenantId)]?.any
        fun entry => entry.kind = .users ∧ entry.state = .ready ∧ entry.movingTo = none
          ∧ entry.cellId = 2)
      ∧ ∀ cell, ((singles.run finished).registries cell).hosts 50
        ↔ cell = 2 := by
  have idle : (singles.run finished).Idle :=
    idle_of_bounded 4 (by decide +kernel) rfl (by decide +kernel)
  have held := (Option.some_get (by decide +kernel
    : (singles.run finished).directory.tenants[(50 : TenantId)]?.isSome)).symm
  have nothing := (idle_leaves_nothing _ _ 50 finished_tidily idle).1 _ held (by decide +kernel)
    (by decide +kernel) (by decide +kernel)
  refine ⟨idle, by decide +kernel, fun cell => (nothing cell).trans ?_⟩
  rw [show (Option.get _ _ : TenantEntry).cellId = 2 by decide +kernel]

end Universe

end Paros
