import Paros.Universe.Handover

/-! At most one cell acts for a tenant, in every interleaving of operators, coordinators' rounds
and settling tenants; a cell adopts what the tenant's cell released to it or dropped, and a hosted
tenant is hosted until it is removed.
-/

namespace Paros

open Handover

namespace Universe

variable {world : Universe} {tenant : TenantId}

/-- A cell acts for a tenant that it hosts, did not drop and did not release. -/
def Acts (world : Universe) (cell : Nat) (tenant : TenantId) : Prop :=
  (world.registries cell).hosts tenant ∧ tenant ∉ (world.registries cell).dropped
    ∧ (world.registries cell).leaving tenant = none

instance (world : Universe) (cell : Nat) (tenant : TenantId) : Decidable (world.Acts cell tenant) :=
  inferInstanceAs (Decidable (_ ∧ _ ∧ _))

/-- The handover of a tenant that nobody registered. -/
def nobody : State Nat := ⟨none, fun _ => .free, fun _ => ⟨none, ∅⟩, ∅⟩

theorem nobody_sound : Sound nobody where
  unregistered _ _ := ⟨rfl, rfl⟩
  held post posted := by cases posted
  current post posted := by cases posted
  looked post posted := by cases posted

theorem start_shows (members : Nat → List NodeId) (tenant : TenantId)
    : (start members).Shows tenant nobody := by
  have absent : FleetDirectory.default.standing tenant = .absent := by
    simp [FleetDirectory.standing, FleetDirectory.default]
  refine ⟨?_, ?_, fun cell => ?_, fun cell => ?_, by simp [start]⟩
  · simp [start, absent, TenantStanding.Shows, nobody]
  · simp [start, absent]
  · simp [start, Registry.holding, Registry.hosts, Registry.new, nobody]
  · refine ⟨?_, ?_, by simp [start], by simp [start]⟩
    · simp [start, absent, TenantStanding.Shows, nobody]
    · simp [start, absent]

/-- What holds of a universe and one of its tenants. -/
structure Handed (tenant : TenantId) (world : Universe) (state : State Nat) : Prop where
  orderly : world.Orderly
  shows : world.Shows tenant state
  sound : Sound state

theorem Handed.step {state : State Nat} (handed : Handed tenant world state) (happening : Happening)
    : ∃ after, Relation.ReflGen Step state after ∧ Handed tenant (world.step happening) after
      ∧ (world.Tidy tenant happening → Handover.Tidy state after) := by
  obtain ⟨after, steps, shown, tidy⟩ := handed.shows.step handed.orderly handed.sound happening
  refine ⟨after, steps, ⟨handed.orderly.step happening, shown, ?_⟩, tidy⟩
  cases steps with
  | refl => exact handed.sound
  | single step => exact handed.sound.step step

theorem Handed.run {state : State Nat} (handed : Handed tenant world state)
    (happenings : List Happening)
    : ∃ after, Relation.ReflTransGen Step state after
      ∧ Handed tenant (world.run happenings) after := by
  induction happenings generalizing world state with
  | nil => exact ⟨state, .refl, handed⟩
  | cons happening rest ih =>
    obtain ⟨middle, first, handed, _⟩ := handed.step happening
    obtain ⟨after, later, handed⟩ := ih handed
    exact ⟨after, first.to_reflTransGen.trans later, handed⟩

/-- Whatever happened, the universe shows a sound handover of each tenant. -/
theorem run_handed (members : Nat → List NodeId) (happenings : List Happening) (tenant : TenantId)
    : ∃ state, Handed tenant ((start members).run happenings) state := by
  have started : Handed tenant (start members) nobody :=
    ⟨start_orderly members, start_shows members tenant, nobody_sound⟩
  obtain ⟨state, _, handed⟩ := started.run happenings
  exact ⟨state, handed⟩

/-- Every run shows, tenant by tenant, a run of the handover. -/
theorem run_refines_handover (members : Nat → List NodeId) (happenings : List Happening)
    : ∃ state, Relation.ReflTransGen Step nobody state
      ∧ Handed tenant ((start members).run happenings) state :=
  Handed.run ⟨start_orderly members, start_shows members tenant, nobody_sound⟩ happenings

namespace Handed

variable {state : State Nat} {cell : Nat}

theorem acts_iff (handed : Handed tenant world state)
    : world.Acts cell tenant ↔ (state.holding cell).Acts := by
  have lodges := handed.orderly.lodges cell
  rw [← handed.shows.holding cell, lodges.acts_iff, Acts]
  constructor
  · exact fun acts => ⟨acts.1, acts.2.2⟩
  · exact fun acts => ⟨acts.1, lodges.present tenant acts.1, acts.2⟩

theorem hosts_iff (handed : Handed tenant world state)
    : (world.registries cell).hosts tenant ↔ (state.holding cell).Holds := by
  rw [← handed.shows.holding cell, (handed.orderly.lodges cell).holds_iff]

/-- A write that makes a cell host a tenant it adopts: the tenant's cell released it or dropped
it.
-/
theorem adopts {fleetId source : Nat} {hosted : HostedTenant} {born : List NodeId}
    {rest : List SystemCommand} (handed : Handed tenant world state)
    (next : (world.rounds cell).pending = .adoptTenant fleetId tenant hosted source born :: rest)
    (fresh : ¬(world.registries cell).hosts tenant)
    (adopted : ((world.step (.write cell)).registries cell).hosts tenant)
    : (∀ entry, world.directory.tenants[tenant]? = some entry → entry.cellId = source)
      ∧ ((world.registries source).leaving tenant = some cell
        ∨ tenant ∈ (world.registries source).dropped) := by
  have lodges := handed.orderly.lodges cell
  obtain ⟨read, seen, rfl, moves, member⟩ :=
    ((handed.shows.rounds cell).pending _ (next ▸ List.mem_cons_self)).source _ _ _ _ rfl
  have free : state.holding cell = .free := by
    have keeps := lodges.record (.adoptTenant fleetId tenant hosted read.owner born)
    have written : (world.step (.write cell)).registries cell
        = (world.registries cell).record (.adoptTenant fleetId tenant hosted read.owner born) := by
      simp [Universe.step, next, setRound, setRegistry]
    have holds := keeps.1.holds_iff.mpr (written ▸ adopted)
    rw [← handed.shows.holding cell]
    rcases keeps.2 tenant with same | effect
    · rw [same] at holds
      exact absurd (lodges.holds_iff.mp holds) fresh
    · generalize (world.registries cell).holding tenant = before at effect
      generalize Registry.holding _ tenant = after at effect
      cases effect
      rfl
  obtain ⟨post, posted⟩ : ∃ post, state.post = some post := by
    cases posted : state.post with
    | none => simp [(handed.sound.unregistered posted cell).2] at seen
    | some post => exact ⟨post, rfl⟩
  obtain ⟨owner, released⟩ :=
    (handed.sound.current post posted cell read seen).adopts free moves member
  refine ⟨fun entry held => ?_, released.imp ?_ ?_⟩
  · have shown := handed.shows.post
    simp only [FleetDirectory.standing, held] at shown
    split_ifs at shown
    · cases shown.symm.trans posted
      exact owner
    · cases shown.symm.trans posted
  · rw [← handed.shows.holding]
    exact (handed.orderly.lodges read.owner).leaving_iff.mp
  · rw [← handed.shows.holding]
    exact Registry.gone_iff.mp

end Handed

-- Exclusion

/-- In every interleaving at most one cell acts for a tenant; a cell adopts one only while the
tenant's cell holds it as leaving to it, or dropped it; and a tenant that was hosted stays hosted
by some cell until its removal.
-/
theorem one_cell_acts (members : Nat → List NodeId) (happenings later : List Happening)
    (tenant : TenantId)
    : (∀ left right, ((start members).run happenings).Acts left tenant
        → ((start members).run happenings).Acts right tenant → left = right)
      ∧ (∀ cell fleetId hosted source born rest,
        (((start members).run happenings).rounds cell).pending
            = .adoptTenant fleetId tenant hosted source born :: rest
          → ¬(((start members).run happenings).registries cell).hosts tenant
          → ((((start members).run happenings).step (.write cell)).registries cell).hosts tenant
          → (∀ entry, ((start members).run happenings).directory.tenants[tenant]? = some entry
              → entry.cellId = source)
            ∧ ((((start members).run happenings).registries source).leaving tenant = some cell
              ∨ tenant ∈ (((start members).run happenings).registries source).dropped))
      ∧ ((∃ cell, (((start members).run happenings).registries cell).hosts tenant)
        → (((start members).run happenings).run later).Stays tenant
        → ∃ cell, ((((start members).run happenings).run later).registries cell).hosts tenant) := by
  obtain ⟨state, handed⟩ := run_handed members happenings tenant
  refine ⟨fun left right acts other => ?_, fun cell fleetId hosted source born rest => ?_, ?_⟩
  · exact handed.sound.alone (handed.acts_iff.mp acts) (handed.acts_iff.mp other)
  · exact handed.adopts
  · rintro ⟨cell, hosts⟩ stays
    obtain ⟨after, run, last⟩ := handed.run later
    obtain ⟨own, holds⟩ :=
      run_held run handed.sound ⟨cell, handed.hosts_iff.mp hosts⟩ (last.shows.running stays)
    exact ⟨own, last.hosts_iff.mpr holds⟩

/-- Cells of one machine each, numbered as its cell. -/
abbrev singles : Universe := start fun cell => [cell]

/-- What an operator writes to the directory of the fleet 7. -/
def operator (command : FleetCommand) : Happening := .operate ⟨7, 1, command⟩

/-- The fleet 7 of the cells 1 to 3, each of one machine. -/
def threeCells : List Happening :=
  operator (.formFleet ⟨100, 1⟩ [1]) :: [1, 2, 3].flatMap fun cell =>
    [operator (.addCell cell ⟨100 + cell, 1⟩ [.ofNat (10 + cell)]
        (.regional [] Locality.default.racked) [(cell, ['a'])]),
      operator (.markCell cell .ready),
      .routine cell (.registerNode cell ['a'] .storage .default [] 1 []),
      .routine cell (.joinFleet ⟨7, cell, 1⟩ none)]

/-- The tenant 50 is created in the cell 1. -/
def created : List Happening :=
  [operator (.registerTenant ⟨50, 5⟩ [9] 1 .az .none (.overrideFor [])), .read 1, .planTenants 1,
    .write 1, .planTenants 1, .write 1, .look 1, operator (.markTenant 50 .ready)]

/-- A move of the tenant, until its target is about to adopt it. -/
def moving (source destination : Nat) : List Happening :=
  [operator (.moveTenant 50 destination), .read source, .planMoves source, .write source,
    .read destination, .side destination source, .planMoves destination, .write destination,
    .planMoves destination]

def arriving (destination : Nat) : List Happening :=
  [.write destination, .settle destination 7 50, .look destination, operator (.finishMove 50)]

def midMove : Universe := singles.run (threeCells ++ created ++ moving 1 2)

/-- Whether a round's next write adopts a tenant from a cell. -/
def adopts (round : WatchRound) (tenant : TenantId) (source : Nat) : Bool :=
  match round.pending with
  | .adoptTenant _ id _ cell _ :: _ => id = tenant ∧ cell = source
  | _ => false

theorem adopts_iff {round : WatchRound} {source : Nat}
    : adopts round tenant source ↔ ∃ fleetId hosted born rest,
      round.pending = .adoptTenant fleetId tenant hosted source born :: rest := by
  rw [adopts]
  split
  case h_1 pending =>
    simp only [pending, decide_eq_true_eq, List.cons.injEq, SystemCommand.adoptTenant.injEq]
    grind
  case h_2 other =>
    simp only [Bool.false_eq_true, false_iff]
    rintro ⟨fleetId, hosted, born, rest, pending⟩
    exact other _ _ _ _ _ _ pending

theorem one_cell_acts_moving
    : ((singles.run (threeCells ++ created)).Acts 1 50
        ∧ ∀ cell, (singles.run (threeCells ++ created)).Acts cell 50 → cell = 1)
      ∧ ((midMove.registries 1).leaving 50 = some 2 ∨ 50 ∈ (midMove.registries 1).dropped)
      ∧ ∃ cell, ((midMove.run (arriving 2)).registries cell).hosts 50 := by
  have acts : (singles.run (threeCells ++ created)).Acts 1 50 := by decide +kernel
  have adopting : adopts (midMove.rounds 2) 50 1 := by decide +kernel
  obtain ⟨fleetId, hosted, born, rest, pending⟩ := adopts_iff.mp adopting
  refine ⟨⟨acts, fun cell other => ?_⟩, ?_, ?_⟩
  · exact ((one_cell_acts _ _ [] 50).1 1 cell acts other).symm
  · exact ((one_cell_acts _ _ [] 50).2.1 2 fleetId hosted 1 born rest pending (by decide +kernel)
      (by decide +kernel)).2
  · exact (one_cell_acts _ _ (arriving 2) 50).2.2 ⟨1, by decide +kernel⟩ (by decide +kernel)

/-- Only the cell that the directory names acts for a tenant, or the move's target once that cell
released or dropped it; and the named cell hosts the tenant if any does.
-/
theorem directory_names_host {members : Nat → List NodeId} {happenings : List Happening}
    {entry : TenantEntry} (run : (start members).run happenings = world)
    (user : entry.kind = .users) (known : world.directory.tenants[tenant]? = some entry)
    : (∀ cell, world.Acts cell tenant → cell = entry.cellId
        ∨ entry.movingTo = some cell ∧ ((world.registries entry.cellId).leaving tenant = some cell
          ∨ tenant ∈ (world.registries entry.cellId).dropped))
      ∧ (entry.state ≠ .removing → ∀ cell, (world.registries cell).hosts tenant
        → (world.registries entry.cellId).hosts tenant) := by
  obtain ⟨state, handed⟩ := run_handed members happenings tenant
  rw [run] at handed
  have posted := handed.shows.post
  rw [FleetDirectory.standing_user known user] at posted
  have held := handed.sound.held _ posted
  refine ⟨fun cell acts => (held.acts cell (handed.acts_iff.mp acts)).imp_right fun moves => ?_,
    fun stays cell hosts => handed.hosts_iff.mpr ?_⟩
  · rw [← (handed.orderly.lodges _).leaving_iff, ← Registry.gone_iff, handed.shows.holding]
    exact moves
  · exact held.keeps (decide_eq_false stays) cell (handed.hosts_iff.mp hosts)

theorem directory_names_host_moving
    : ∃ entry, midMove.directory.tenants[50]? = some entry
      ∧ (midMove.registries entry.cellId).hosts 50 := by
  have known := (Option.some_get (by decide +kernel : midMove.directory.tenants[50]?.isSome)).symm
  exact ⟨_, known, (directory_names_host rfl (by decide +kernel) known).2 (by decide +kernel) 1
    (by decide +kernel)⟩

end Universe

end Paros
