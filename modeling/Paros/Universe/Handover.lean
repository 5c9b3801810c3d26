import Paros.Universe.Model

/-! For each tenant, a universe hands the tenant over between its cells: the directory is the
register, the cells are the holders, and every happening is one step of the handover, or none.
-/

namespace Paros

open Handover

-- What holds of every universe

namespace Universe

/-- What is kept of the directory, the registries and their readings, whatever the tenant. -/
structure Orderly (world : Universe) : Prop where
  sound : world.directory.Sound .counted
  steady : world.directory.Steady
  reads : ∀ cell, (world.rounds cell).directory.Sound .counted
    ∧ (world.rounds cell).directory.Steady
  lodges : ∀ cell, (world.registries cell).Lodges
  looks : ∀ cell registry, world.looked cell = some registry
    → registry.Lodges ∧ registry.dropped ⊆ (world.registries cell).dropped

end Universe

namespace Registry

variable {registry : Registry} {tenant : TenantId}

theorem new_lodges (initial : List NodeId) : (new initial).Lodges where
  live id booking found := by simp [new] at found
  opens tenant held := by simp [new] at held
  present tenant hosted := by simp [new, hosts] at hosted
  oneWay tenant := .inl (by simp [new, leaving])

theorem Lodges.record_change (lodges : registry.Lodges) (command : SystemCommand)
    : Change registry.nextSeq (registry.advance registry.nextSeq) command
        ((registry.advance registry.nextSeq).act registry.nextSeq command) := by
  have live : (registry.advance registry.nextSeq).LiveSpent := lodges.live
  exact act_change live command

theorem Lodges.record (lodges : registry.Lodges) (command : SystemCommand)
    : Keeps command registry (registry.record command) :=
  (lodges.record_change command).keeps { lodges with }

/-- A dropped tenant stays dropped. -/
theorem Keeps.gone {other : Registry} {command : SystemCommand} (keeps : Keeps command registry other)
    (gone : tenant ∈ registry.dropped)
    : tenant ∈ other.dropped := by
  have held := gone_iff.mpr gone
  rw [← gone_iff]
  rcases keeps.2 tenant with same | effect
  · exact same.trans held
  · rw [held] at effect
    generalize other.holding tenant = after at effect
    cases effect
    rfl

end Registry

namespace FleetDirectory

variable {directory : FleetDirectory}

theorem default_steady : default.Steady := fun tenant entry found => by simp [default] at found

/-- An entry makes a change of the directory, or is refused: addresses are read as they are. -/
theorem Sound.judge_makes (ok : directory.Sound .counted) (entry : FleetEntry)
    : Makes .counted directory (directory.judge entry) := by
  rw [judge]
  cases inside : directory.outOfContext entry with
  | some refusal => trivial
  | none =>
    obtain ⟨named, spoken, context⟩ := outOfContext_eq_none inside
    exact act_makes named spoken context (fun _ _ _ _ _ _ _ _ => rfl) fun _ _ => ok.stays

/-- A record leaves the directory sound and steady, and a tenant standing as it may make it. -/
theorem Sound.record (ok : directory.Sound .counted) (steady : directory.Steady)
    (entry : FleetEntry)
    : (directory.record entry).Sound .counted ∧ (directory.record entry).Steady
      ∧ ∀ tenant, Stands entry.command tenant (directory.standing tenant)
        ((directory.record entry).standing tenant) := by
  have advanced := advance_sound ok directory.nextSeq
  have makes := advanced.judge_makes entry
  have moves := judge_moves advanced steady entry
  rw [FleetDirectory.record]
  cases judged : (directory.advance directory.nextSeq).judge entry with
  | error refusal => exact ⟨advanced, steady, fun _ => .kept⟩
  | ok result =>
    rw [judged] at makes moves
    exact ⟨Change.sound makes advanced, fun tenant => (moves tenant).1,
      fun tenant => (moves tenant).2⟩

end FleetDirectory

-- A universe shows a handover

/-- What a standing says of the register. A removed tenant's last post is not in the directory. -/
def TenantStanding.Shows : TenantStanding → Option (Post Nat) → Prop
  | absent, register => register = none
  | posted post _, register => register = some post
  | removed, register => ∀ post, register = some post → post.closing

open FleetDirectory in
/-- What a record makes of a tenant's standing is a write to the register. -/
theorem TenantStanding.Shows.write {before after : TenantStanding} {register : Option (Post Nat)}
    {command : FleetCommand} {tenant : TenantId} {looked : Set Nat} (shows : before.Shows register)
    (stands : Stands command tenant before after)
    (settled : ∀ post live next, command = .finishMove tenant → before = .posted post live
      → post.next = some next → next ∈ looked)
    : ∃ written, Handover.Entry looked register written ∧ after.Shows written
      ∧ (before = .removed ∨ after = .removed → written = register) := by
  cases stands with
  | kept => exact ⟨register, .kept, shows, fun _ => rfl⟩
  | register cellId =>
    cases shows
    exact ⟨_, .register cellId, rfl, by simp⟩
  | move apart =>
    cases shows
    exact ⟨_, .move apart, rfl, by simp⟩
  | flip finished =>
    cases shows
    exact ⟨_, .flip (settled _ _ _ finished rfl rfl), rfl, by simp⟩
  | create | fail =>
    cases shows
    exact ⟨_, .kept, rfl, by simp⟩
  | close =>
    cases shows
    exact ⟨_, .close, rfl, by simp⟩
  | remove removed closing =>
    cases shows
    refine ⟨_, .kept, fun post same => ?_, fun _ => rfl⟩
    cases same
    exact closing
  | retire =>
    cases shows
    exact ⟨_, .kept, by simp [Shows], fun _ => rfl⟩

/-- What a coordinator may be about to write for a tenant: its effect is a turn of the cell's, and
an adoption names the owner it read.
-/
structure Planned (tenant : TenantId) (cell : Nat) (view : View Nat) (command : SystemCommand)
    : Prop where
  turn : ∀ before after, Registry.Effect tenant command before after → Turn cell view before after
  source : ∀ fleetId hosted source born, command = .adoptTenant fleetId tenant hosted source born
    → ∃ read, view.post = some read ∧ read.owner = source ∧ read.next = some cell
      ∧ source ∈ view.released
  unsettled : ∀ fleetId id, command ≠ .settleTenant fleetId id

/-- What may be planned on less may be planned on more. -/
theorem Planned.insert {tenant : TenantId} {own : Nat} {view : View Nat} {command : SystemCommand}
    (planned : Planned tenant own view command) (other : Nat)
    : Planned tenant own { view with released := insert other view.released } command := by
  refine ⟨fun before after effect => ?_, fun fleetId hosted source born same => ?_,
    planned.unsettled⟩
  · cases planned.turn before after effect with
    | host seen mine => exact .host seen mine
    | release seen mine moves => exact .release seen mine moves
    | adopt seen moves released => exact .adopt seen moves (Set.mem_insert_of_mem other released)
    | settle => exact .settle
    | forget seen other => exact .forget seen other
    | drop seen closing => exact .drop seen closing
  · obtain ⟨read, seen, owner, moves, member⟩ := planned.source fleetId hosted source born same
    exact ⟨read, seen, owner, moves, Set.mem_insert_of_mem other member⟩

/-- A round shows what a holder read of the register, and whatever it is about to write for the
tenant is a turn that the holder may take.
-/
structure WatchRound.Shows (tenant : TenantId) (cell : Nat) (standing : TenantStanding)
    (register : Option (Post Nat)) (round : WatchRound) (view : View Nat) : Prop where
  seen : (round.directory.standing tenant).Shows view.post
  late : round.directory.standing tenant = .removed → standing = .removed ∧ view.post = register
  released : ∀ other source endpoint, round.others[other]? = some (source, endpoint)
    → source.leaving tenant = some cell → other ∈ view.released
  pending : ∀ command ∈ round.pending, Planned tenant cell view command

namespace Universe

/-- A universe shows the handover of a tenant: the directory is its register, and each cell's
record and round are those of a holder.
-/
structure Shows (tenant : TenantId) (world : Universe) (state : State Nat) : Prop where
  post : (world.directory.standing tenant).Shows state.post
  gone : world.directory.standing tenant = .removed → ∀ post, state.post = some post
    → state.holding post.owner = .gone
  holding : ∀ cell, (world.registries cell).holding tenant = state.holding cell
  rounds : ∀ cell, (world.rounds cell).Shows tenant cell (world.directory.standing tenant) state.post
    (state.view cell)
  looked : ∀ cell registry, world.looked cell = some registry
    → registry.holding tenant = .acting true → cell ∈ state.looked

/-- Whether a tenant is neither removed nor being removed. -/
def Stays (world : Universe) (tenant : TenantId) : Prop :=
  tenant ∉ world.directory.removed
    ∧ ∀ entry, world.directory.tenants[tenant]? = some entry → entry.state ≠ .removing

instance (world : Universe) (tenant : TenantId) : Decidable (world.Stays tenant) :=
  decidable_of_iff
    (tenant ∉ world.directory.removed
      ∧ world.directory.tenants[tenant]?.all fun entry => entry.state ≠ .removing)
    (by simp [Stays, Option.all_eq_true])

/-- What leaves no cell behind, of the records that are not refused: a move ends only once no third
cell hosts the tenant, no removal is marked while the target of an open move holds it settled, and
it does not settle during one.
-/
def Tidy (tenant : TenantId) (world : Universe) : Happening → Prop
  | .operate record@⟨_, _, .finishMove id⟩ => id = tenant
      → (world.directory.record record).standing id ≠ world.directory.standing id
      → ∀ entry, world.directory.tenants[id]? = some entry
      → ∀ cell, cell ≠ entry.cellId → entry.movingTo ≠ some cell
      → ¬(world.registries cell).hosts id
  | .operate record@⟨_, _, .markTenant id .removing⟩ => id = tenant
      → (world.directory.record record).standing id ≠ world.directory.standing id
      → ∀ entry, world.directory.tenants[id]? = some entry
      → ∀ cell, entry.movingTo = some cell → (world.registries cell).hosts id
      → (world.registries cell).moving id
  | .settle cell fleetId id => id = tenant
      → ((world.registries cell).record (.settleTenant fleetId id)).holding id
        ≠ (world.registries cell).holding id
      → world.Stays id
  | _ => True

variable {world : Universe} {tenant : TenantId} {state : State Nat} {cell : Nat}

theorem start_orderly (members : Nat → List NodeId) : (start members).Orderly where
  sound := FleetDirectory.default_sound
  steady := FleetDirectory.default_steady
  reads _ := ⟨FleetDirectory.default_sound, FleetDirectory.default_steady⟩
  lodges cell := Registry.new_lodges (members cell)
  looks _ _ found := by simp [start] at found

variable {command : SystemCommand}

theorem Orderly.setRegistry {registry : Registry} (orderly : world.Orderly)
    (keeps : Registry.Keeps command (world.registries cell) registry)
    : (world.setRegistry cell registry).Orderly := by
  refine { orderly with
    lodges := fun other => ?_
    looks := fun other read found => ?_ }
  · simp only [Universe.setRegistry, Function.update_apply]
    split_ifs
    · exact keeps.1
    · exact orderly.lodges other
  · obtain ⟨lodges, dropped⟩ := orderly.looks other read found
    refine ⟨lodges, fun tenant member => ?_⟩
    simp only [Universe.setRegistry, Function.update_apply]
    split_ifs with same
    · exact keeps.gone (same ▸ dropped member)
    · exact dropped member

theorem Orderly.setRound {round : WatchRound} (orderly : world.Orderly)
    (sound : round.directory.Sound .counted) (steady : round.directory.Steady)
    : (world.setRound cell round).Orderly := by
  refine { orderly with reads := fun other => ?_ }
  simp only [Universe.setRound, Function.update_apply]
  split_ifs
  · exact ⟨sound, steady⟩
  · exact orderly.reads other

theorem Orderly.step (orderly : world.Orderly) (happening : Happening)
    : (world.step happening).Orderly := by
  fun_cases Universe.step world happening
  case case1 entry _ =>
    obtain ⟨sound, steady, _⟩ := orderly.sound.record orderly.steady entry
    exact { orderly with sound, steady, looks := by simp }
  case case3 cell =>
    refine { orderly with looks := fun other registry found => ?_ }
    simp only [Function.update_apply] at found
    split_ifs at found with same
    · cases found
      exact ⟨orderly.lodges cell, by rw [same]⟩
    · exact orderly.looks other registry found
  case case4 => exact orderly.setRound orderly.sound orderly.steady
  case case5 cell _ _ _ _ _ _ | case8 cell _ _ | case10 cell _ _ =>
    obtain ⟨sound, steady⟩ := orderly.reads cell
    exact orderly.setRound sound steady
  case case13 cell _ command _ _ =>
    obtain ⟨sound, steady⟩ := orderly.reads cell
    exact (orderly.setRegistry ((orderly.lodges cell).record command)).setRound sound steady
  case case14 | case16 => exact orderly.setRegistry ((orderly.lodges _).record _)
  all_goals exact orderly

-- What a coordinator plans

section

variable (shows : world.Shows tenant state) (sound : Sound state) (orderly : world.Orderly)
  (warrants : Warrants (world.rounds cell).directory (world.registries cell) cell
    (world.rounds cell).others command)
include shows sound orderly warrants

/-- What a coordinator plans for a tenant is a turn it may take. -/
theorem Shows.plans {before after : Holding Nat}
    (effect : Registry.Effect tenant command before after)
    : Turn cell (state.view cell) before after := by
  have ⟨seen, late, released, _⟩ := shows.rounds cell
  obtain ⟨reads, steady⟩ := orderly.reads cell
  cases effect with
  | host =>
    cases warrants with
    | host formed held user here =>
      rw [FleetDirectory.standing_user held user] at seen
      exact .host seen here
  | release =>
    cases warrants with
    | release held user here moves =>
      rw [FleetDirectory.standing_user held user] at seen
      exact .release seen here moves
  | adopt =>
    cases warrants with
    | adopt formed held user moves read left =>
      rw [FleetDirectory.standing_user held user] at seen
      exact .adopt seen moves (released _ _ _ read left)
  | settle => cases warrants
  | moved =>
    cases warrants with
    | moved held user away =>
      rw [FleetDirectory.standing_user held user] at seen
      exact .forget seen away
  | drop =>
    cases warrants with
    | drop removing =>
      rcases removing with ⟨entry, held, removing⟩ | ⟨removed, hosted⟩
      · have user : entry.kind = .users := by
          by_contra internal
          simp [(steady tenant entry held).internal internal] at removing
        rw [FleetDirectory.standing_user held user] at seen
        exact .drop seen (by simpa [TenantEntry.post] using removing)
      · -- A hosted tenant was registered, and the reading is of its last post.
        have standing : (world.rounds cell).directory.standing tenant = .removed := by
          simp [FleetDirectory.standing, reads.buried.tenants tenant removed, removed]
        obtain ⟨_, same⟩ := late standing
        rw [standing] at seen
        cases posted : (state.view cell).post with
        | none =>
          have free := (sound.unregistered (same ▸ posted) cell).1
          rw [← shows.holding cell] at free
          have holds := (orderly.lodges cell).holds_iff.mpr hosted
          simp [free] at holds
        | some post => exact .drop posted (seen post posted)

theorem Shows.planned
    : Planned tenant cell (state.view cell) command := by
  refine ⟨fun before after => shows.plans sound orderly warrants, ?_, ?_⟩
  · rintro fleetId hosted source born rfl
    have ⟨seen, _, released, _⟩ := shows.rounds cell
    cases warrants with
    | adopt formed held user moves read left =>
      rw [FleetDirectory.standing_user held user] at seen
      exact ⟨_, seen, rfl, moves, released _ _ _ read left⟩
  · rintro fleetId id rfl
    cases warrants

end

-- Every happening is a step

variable (shows : world.Shows tenant state)
include shows

/-- A tenant that stays is not closing. -/
theorem Shows.running (stays : world.Stays tenant)
    (post : Post Nat) (posted : state.post = some post)
    : post.closing = false := by
  have shown := shows.post
  simp only [FleetDirectory.standing, stays.1, if_false] at shown
  cases held : world.directory.tenants[tenant]? with
  | none =>
    simp only [held] at shown
    cases shown.symm.trans posted
  | some entry =>
    simp only [held] at shown
    split_ifs at shown
    · cases shown.symm.trans posted
      simpa [TenantEntry.post] using stays.2 entry held
    · cases shown.symm.trans posted

/-- What a record of a cell comes to: a turn of the cell's, or nothing. -/
theorem Shows.setRegistry {registry : Registry}
    (keeps : Registry.Keeps command (world.registries cell) registry)
    (turn : ∀ before after, Registry.Effect tenant command before after
      → Turn cell (state.view cell) before after)
    : ∃ after, Relation.ReflGen Step state after
      ∧ (world.setRegistry cell registry).Shows tenant after
      ∧ after.view = state.view
      ∧ ((registry.holding tenant ≠ (world.registries cell).holding tenant
          → ∀ fleetId, command = .settleTenant fleetId tenant → world.Stays tenant)
        → Handover.Tidy state after) := by
  rcases keeps.2 tenant with same | effect
  · refine ⟨state, .refl, { shows with holding := fun other => ?_ }, rfl, fun _ => .of_post rfl ?_⟩
    rotate_left
    · simp +contextual
    simp only [Universe.setRegistry, Function.update_apply]
    split_ifs with here
    · rw [same, here]
      exact shows.holding cell
    · exact shows.holding other
  · rw [shows.holding cell] at effect
    have step := Step.turn cell (turn _ _ effect)
    refine ⟨_, .single step,
      { shows with gone := fun removed post posted => ?_, holding := fun other => ?_ }, rfl,
      fun settles => .of_post rfl fun post own posted closing unsettled => ?_⟩
    · have gone := shows.gone removed post posted
      simp only [Function.update_apply]
      split_ifs with here
      · -- From a dropped tenant there is no turn but to drop it again.
        rw [← here, gone] at effect
        generalize registry.holding tenant = after at effect
        cases effect
        rfl
      · exact gone
    · simp only [Universe.setRegistry, Function.update_apply]
      split_ifs
      · rfl
      · exact shows.holding other
    · simp only [Function.update_apply]
      split_ifs with here
      · intro settled
        have turned : registry.holding tenant ≠ (world.registries cell).holding tenant := by
          rw [settled, shows.holding, ← here, unsettled]
          simp
        rw [← here, unsettled, settled] at effect
        cases effect
        have running := shows.running (settles turned _ rfl) post posted
        simp [running] at closing
      · simp [unsettled]

/-- A round in the place of another, shown by the same state but for the holder's view. -/
theorem Shows.setRound {round : WatchRound} {view : View Nat}
    (shown : round.Shows tenant cell (world.directory.standing tenant) state.post view)
    : (world.setRound cell round).Shows tenant
        { state with view := Function.update state.view cell view } := by
  refine { shows with rounds := fun other => ?_ }
  simp only [Universe.setRound, Function.update_apply]
  split_ifs with here
  · exact here ▸ shown
  · exact shows.rounds other

/-- A round that only plans or writes: its readings are as they were. -/
theorem Shows.setPending {commands : List SystemCommand}
    (planned : ∀ command ∈ commands, Planned tenant cell (state.view cell) command)
    : (world.setRound cell { world.rounds cell with pending := commands }).Shows tenant state := by
  have ⟨seen, late, released, _⟩ := shows.rounds cell
  have shown : WatchRound.Shows tenant cell (world.directory.standing tenant) state.post
      { world.rounds cell with pending := commands } (state.view cell) :=
    ⟨seen, late, released, planned⟩
  have replaced := shows.setRound shown
  rwa [Function.update_eq_self] at replaced

variable (orderly : world.Orderly)
include orderly

/-- Reading the other side of a move, the holder sees whether the tenant is released to it. -/
theorem Shows.side (other : Nat) (endpoint : Endpoint)
    : ∃ after, Relation.ReflGen Step state after
      ∧ Shows tenant
        (world.setRound cell
          { world.rounds cell with
            others := (world.rounds cell).others.insert other (world.registries other, endpoint) })
        after
      ∧ Handover.Tidy state after := by
  obtain ⟨seen, late, released, pending⟩ := shows.rounds cell
  by_cases leaving : (world.registries other).leaving tenant = some cell
  · have held := (shows.holding other).symm.trans ((orderly.lodges other).leaving_iff.mpr leaving)
    refine ⟨_, .single (.side held), shows.setRound ⟨seen, late, ?_, ?_⟩, .quiet rfl rfl⟩
    · intro side source endpoint found left
      rcases OrderedMap.of_getElem?_insert found with ⟨rfl, _⟩ | ⟨_, found⟩
      · exact Set.mem_insert other _
      · exact Set.mem_insert_of_mem other (released side source endpoint found left)
    · exact fun command member => (pending command member).insert other
  · have shown : WatchRound.Shows tenant cell (world.directory.standing tenant) state.post
        { world.rounds cell with
          others := (world.rounds cell).others.insert other (world.registries other, endpoint) }
        (state.view cell) := by
      refine ⟨seen, late, fun side source endpoint found left => ?_, pending⟩
      rcases OrderedMap.of_getElem?_insert found with ⟨rfl, same⟩ | ⟨_, found⟩
      · cases same
        exact absurd left leaving
      · exact released side source endpoint found left
    have replaced := shows.setRound shown
    rw [Function.update_eq_self] at replaced
    exact ⟨state, .refl, replaced, .quiet rfl rfl⟩

/-- A move is finished only to a cell that was looked at, settled. -/
theorem Shows.settled {post : Post Nat} {live : Bool} {next : Nat}
    (permitted : world.permits (.finishMove tenant))
    (posted : world.directory.standing tenant = .posted post live) (moves : post.next = some next)
    : next ∈ state.looked := by
  simp only [permits, Option.any_eq_true, Bool.and_eq_true, Bool.not_eq_true'] at permitted
  obtain ⟨entry, held, destination, going, target, read, hosted, idle⟩ := permitted
  obtain ⟨_, there, _, rfl, _⟩ := FleetDirectory.standing_posted posted
  cases held.symm.trans there
  cases going.symm.trans moves
  exact shows.looked next target read
    ((orderly.looks next target read).1.settled_iff.mpr ⟨hosted, idle⟩)

/-- A tenant is removed only once its cell dropped it. -/
theorem Shows.dropped {post : Post Nat} {live : Bool}
    (permitted : world.permits (.removeTenant tenant))
    (posted : world.directory.standing tenant = .posted post live)
    : state.holding post.owner = .gone := by
  simp only [permits, Option.any_eq_true, decide_eq_true_eq] at permitted
  obtain ⟨entry, held, registry, read, dropped⟩ := permitted
  obtain ⟨_, there, _, rfl, _⟩ := FleetDirectory.standing_posted posted
  cases held.symm.trans there
  rw [← shows.holding]
  exact Registry.gone_iff.mpr ((orderly.looks entry.cellId registry read).2 dropped)

/-- A tidy record is a tidy write to the register. -/
theorem Shows.tidy {entry : FleetEntry} {written : Option (Post Nat)}
    (tidy : world.Tidy tenant (.operate entry))
    (stands : FleetDirectory.Stands entry.command tenant (world.directory.standing tenant)
      ((world.directory.record entry).standing tenant))
    (shown : ((world.directory.record entry).standing tenant).Shows written)
    (same : world.directory.standing tenant = .removed
      ∨ (world.directory.record entry).standing tenant = .removed → written = state.post)
    : Handover.Tidy state { state with post := written, looked := ∅ } := by
  obtain ⟨fleetId, version, command⟩ := entry
  have register := shows.post
  generalize before : world.directory.standing tenant = standing at stands register same
  generalize later : (world.directory.record ⟨fleetId, version, command⟩).standing tenant = after
    at stands shown same
  by_cases kept : after = standing
  · subst kept
    cases after with
    | absent | posted => exact .quiet (shown.trans register.symm) rfl
    | removed => exact .quiet (same (.inl rfl)) rfl
  have moved := before ▸ later ▸ kept
  have unsettled : ∀ post own, state.post = some post → post.closing
      → state.holding own = .acting false → state.holding own ≠ .acting true := by
    simp +contextual
  cases stands with
  | kept => exact absurd rfl kept
  | create | fail => exact .quiet (shown.trans register.symm) rfl
  | remove | retire => exact .quiet (same (.inr rfl)) rfl
  | register =>
    refine ⟨fun post other posted => ?_, fun post other posted => ?_, unsettled⟩
    all_goals cases register.symm.trans posted
  | move =>
    refine ⟨fun post other posted there => ?_, fun post other posted there => ?_, unsettled⟩
    all_goals
      cases register.symm.trans posted
      cases shown.symm.trans there
      simp
  | flip finished =>
    obtain ⟨entry, held, _, posts, _⟩ := FleetDirectory.standing_posted before
    cases finished
    refine ⟨fun post other posted there _ own apart off holds => ?_,
      fun post other posted there => ?_, unsettled⟩
    all_goals
      cases register.symm.trans posted
      cases shown.symm.trans there
    · rw [← shows.holding, (orderly.lodges own).holds_iff] at holds
      have owner : entry.cellId = _ := congrArg Post.owner posts
      have next : entry.movingTo = _ := congrArg Post.next posts
      refine tidy rfl moved entry held own (owner ▸ apart) ?_ holds
      rw [next]
      exact fun same => off (Option.some.inj same).symm
    · simp
  | close marked =>
    obtain ⟨entry, held, _, posts, _⟩ := FleetDirectory.standing_posted before
    cases marked
    refine ⟨fun post other posted there => ?_, fun post other posted there _ _ next moves settled => ?_,
      unsettled⟩
    all_goals
      cases register.symm.trans posted
      cases shown.symm.trans there
    · simp
    · rw [← shows.holding, (orderly.lodges next).settled_iff] at settled
      have moving := tidy rfl moved entry held next (by rw [← posts] at moves; exact moves) settled.1
      simp [settled.2] at moving

/-- What an operator writes comes to a write to the register. -/
theorem Shows.operate {entry : FleetEntry} (permitted : world.permits entry.command)
    : ∃ after, Step state after
      ∧ Shows tenant
        { world with directory := world.directory.record entry, looked := fun _ => none } after
      ∧ (world.Tidy tenant (.operate entry) → Handover.Tidy state after) := by
  have stands := (orderly.sound.record orderly.steady entry).2.2 tenant
  obtain ⟨written, entered, shown, same⟩ :=
    shows.post.write stands fun post live next finished posted moves =>
      shows.settled orderly (finished ▸ permitted) posted moves
  refine ⟨_, .write entered, ⟨shown, fun removed post posted => ?_, shows.holding,
    fun cell => ?_, by simp⟩, fun tidy => ?_⟩
  · rw [same (.inr removed)] at posted
    have register := shows.post
    simp only at removed
    rw [removed] at stands
    generalize before : world.directory.standing tenant = standing at stands register
    cases stands with
    | kept => exact shows.gone before post posted
    | remove command closing =>
      cases register.symm.trans posted
      exact shows.dropped orderly (command ▸ permitted) before
    | retire => cases register.symm.trans posted
  · obtain ⟨seen, late, released, pending⟩ := shows.rounds cell
    refine ⟨seen, fun removed => ?_, released, pending⟩
    obtain ⟨before, view⟩ := late removed
    refine ⟨?_, view.trans (same (.inl before)).symm⟩
    simp only
    rw [before] at stands
    generalize (world.directory.record entry).standing tenant = after at stands
    cases stands
    rfl
  · exact shows.tidy orderly tidy stands shown same

theorem Shows.step (sound : Sound state) (happening : Happening)
    : ∃ after, Relation.ReflGen Step state after ∧ (world.step happening).Shows tenant after
      ∧ (world.Tidy tenant happening → Handover.Tidy state after) := by
  have still : Handover.Tidy state state := .quiet rfl rfl
  fun_cases Universe.step world happening
  case case1 entry permitted =>
    obtain ⟨after, step, shown, tidy⟩ := shows.operate orderly permitted
    exact ⟨after, .single step, shown, tidy⟩
  case case3 cell =>
    by_cases settled : state.holding cell = .acting true
    · refine ⟨_, .single (.look settled),
        { shows with looked := fun other registry found held => ?_ }, fun _ => .quiet rfl rfl⟩
      simp only [Function.update_apply] at found
      split_ifs at found with here
      · exact here ▸ Set.mem_insert cell state.looked
      · exact Set.mem_insert_of_mem cell (shows.looked other registry found held)
    · refine ⟨state, .refl, { shows with looked := fun other registry found held => ?_ },
        fun _ => still⟩
      simp only [Function.update_apply] at found
      split_ifs at found with here
      · cases found
        exact absurd ((shows.holding cell).symm.trans held) settled
      · exact shows.looked other registry found held
  case case4 cell =>
    exact ⟨_, .single (.read cell),
      shows.setRound ⟨shows.post, fun removed => ⟨removed, rfl⟩, by simp, by simp⟩,
      fun _ => .quiet rfl rfl⟩
  case case5 cell other _ _ endpoint _ _ =>
    obtain ⟨after, step, shown, tidy⟩ := shows.side orderly other endpoint
    exact ⟨after, step, shown, fun _ => tidy⟩
  case case8 cell _ _ =>
    exact ⟨state, .refl, shows.setPending fun command member =>
      shows.planned sound orderly (tenantSteps_warrants member), fun _ => still⟩
  case case10 cell _ _ =>
    exact ⟨state, .refl, shows.setPending fun command member =>
      shows.planned sound orderly (steps_warrants member), fun _ => still⟩
  case case13 cell _ command rest pending =>
    have planned := (shows.rounds cell).pending
    rw [pending] at planned
    have first := planned command List.mem_cons_self
    obtain ⟨after, step, shown, view, tidy⟩ :=
      shows.setRegistry ((orderly.lodges cell).record command) first.turn
    refine ⟨after, step, shown.setPending fun next member => ?_, fun _ => tidy fun _ fleetId same => ?_⟩
    · rw [view]
      exact planned next (List.mem_cons_of_mem command member)
    · exact absurd same (first.unsettled fleetId tenant)
  case case14 cell fleetId arrived _ _ =>
    obtain ⟨after, step, shown, _, tidy⟩ := shows.setRegistry
      ((orderly.lodges cell).record (.settleTenant fleetId arrived)) fun before after effect => by
        cases effect
        exact .settle
    refine ⟨after, step, shown, fun stays => tidy fun turned fleetId same => ?_⟩
    cases same
    exact stays rfl turned
  case case16 cell command routine =>
    obtain ⟨after, step, shown, _, tidy⟩ :=
      shows.setRegistry ((orderly.lodges cell).record command) fun before after effect => by
        cases effect <;> cases routine
    refine ⟨after, step, shown, fun _ => tidy fun _ fleetId same => ?_⟩
    subst same
    cases routine
  all_goals exact ⟨state, .refl, shows, fun _ => still⟩

end Universe

end Paros
