import Paros.Registry.Lodging
import Paros.Registry.Reread

/-! The moves of a tenant in one cell as one state machine, told by the events of the cell's
journal.
-/

namespace Paros

open OrderedMap

/-- Where a tenant stands in a cell. -/
inductive TenantStage where
  | away
  | here
  | leaving (destination : Nat)
  | arriving (source : Nat)
  | gone (destination : Nat)
  | dropped
  deriving DecidableEq, Repr

/-- The tenant an event moves, with the stage it moves it to. -/
def RegistryEvent.tells : RegistryEvent → Option (TenantId × TenantStage)
  | .tenantHosted tenant _ => some (tenant, .here)
  | .tenantReleased tenant destination => some (tenant, .leaving destination)
  | .tenantAdopted tenant _ source => some (tenant, .arriving source)
  | .tenantSettled tenant _ => some (tenant, .here)
  | .tenantMovedOut tenant destination => some (tenant, .gone destination)
  | .tenantDropped tenant => some (tenant, .dropped)
  | _ => none

/-- An event that takes a tenant out of the cell or adopts it. -/
def RegistryEvent.uproots (tenant : TenantId) : RegistryEvent → Bool
  | .tenantAdopted id _ _ | .tenantMovedOut id _ | .tenantDropped id => id = tenant
  | _ => false

namespace TenantStage

/-- The stage of a tenant after an event. -/
def next (tenant : TenantId) (stage : TenantStage) (event : RegistryEvent) : TenantStage :=
  ((event.tells.filter (·.1 = tenant)).map Prod.snd).getD stage

/-- The stage that the events of a history tell. -/
def told (tenant : TenantId) (events : List RegistryEvent) : TenantStage :=
  events.foldl (next tenant) .away

/-- No event hosts a tenant that moved out, other than by an adoption. -/
def Unreturned (tenant : TenantId) (events : List RegistryEvent) : Prop :=
  ∀ before control after, events = before ++ .tenantHosted tenant control :: after
    → ∀ destination, told tenant before ≠ .gone destination

/-- The moves of the machine: which stage an event of its tenant meets. A tenant is hosted where it
is not, whether or not it moved out of the cell before.
-/
def Meets (stage : TenantStage) : RegistryEvent → Prop
  | .tenantHosted _ _ => stage = .away ∨ ∃ destination, stage = .gone destination
  | .tenantAdopted _ _ _ => stage = .away ∨ ∃ destination, stage = .gone destination
  | .tenantReleased _ _ => stage = .here
  | .tenantSettled _ _ => ∃ source, stage = .arriving source
  | .tenantMovedOut _ destination => stage = .leaving destination
  | .tenantDropped _ => stage ≠ .dropped
  | _ => True

theorem next_apart {tenant : TenantId} {event : RegistryEvent} (stage : TenantStage)
    (apart : ∀ told, event.tells = some told → told.1 ≠ tenant)
    : stage.next tenant event = stage := by
  cases tells : event.tells with
  | none => simp [next, tells]
  | some told => simp [next, tells, Option.filter_some, apart told tells]

theorem Unreturned.left {tenant : TenantId} {events more : List RegistryEvent}
    (unreturned : Unreturned tenant (events ++ more))
    : Unreturned tenant events :=
  fun before control after same => unreturned before control (after ++ more) (by simp [same])

theorem told_concat {tenant : TenantId} (events : List RegistryEvent) (event : RegistryEvent)
    : told tenant (events ++ [event]) = (told tenant events).next tenant event := by
  rw [told, List.foldl_append]
  rfl

end TenantStage

/-- The stage of a hosted tenant with a move record. -/
def TenantMove.stage (record : TenantMove) : TenantStage :=
  match record.leaving, record.arriving with
  | some destination, _ => .leaving destination
  | none, some source => .arriving source
  | none, none => .here

namespace Registry

variable {codec : SystemCodec} {registry other : Registry} {tenant : TenantId} {seq : Nat}
  {event : RegistryEvent} {result : Registry × RegistryEvent}

/-- The stage of a tenant that the registry holds. -/
def stage (registry : Registry) (tenant : TenantId) : TenantStage :=
  if tenant ∈ registry.dropped then .dropped
  else if registry.hosts tenant then (registry.moveOf tenant).stage
  else
    match registry.moved[tenant]? with
    | some destination => .gone destination
    | none => .away

/-- Two registries hold the same of a tenant. -/
structure SameTenant (registry other : Registry) (tenant : TenantId) : Prop where
  dropped : tenant ∈ other.dropped ↔ tenant ∈ registry.dropped
  hosted : other.hosted[tenant]? = registry.hosted[tenant]?
  moves : other.moves[tenant]? = registry.moves[tenant]?
  moved : other.moved[tenant]? = registry.moved[tenant]?

theorem SameTenant.stage (same : SameTenant registry other tenant)
    : other.stage tenant = registry.stage tenant := by
  simp [Registry.stage, hosts, moveOf, same.dropped, same.hosted, same.moves, same.moved]

/-- What a change makes of one tenant: its stage is the one the event tells, the event meets the
stage it may, a settled tenant's event names the cell of its move peers, and the machines it was
born on stay unless the event uproots it.
-/
structure Turns (registry : Registry) (result : Registry × RegistryEvent) (tenant : TenantId)
    : Prop where
  stage : result.1.stage tenant = (registry.stage tenant).next tenant result.2
  meets : ∀ stage, result.2.tells = some (tenant, stage) → (registry.stage tenant).Meets result.2
  settles : ∀ source, result.2 = .tenantSettled tenant source
    → source = ((registry.movePeers tenant).map MovePeers.cellId).getD 0
  born : ∀ machines, registry.born tenant = some machines
    → result.1.born tenant = some machines ∨ result.2.uproots tenant
  parted : (registry.hosts tenant → registry.moved[tenant]? = none)
    → ((∃ control, result.2 = .tenantHosted tenant control) → registry.moved[tenant]? = none)
    → result.1.hosts tenant → result.1.moved[tenant]? = none

/-- A tenant that a change leaves alone. -/
theorem SameTenant.turns (same : SameTenant registry result.1 tenant)
    (apart : ∀ told, result.2.tells = some told → told.1 ≠ tenant)
    : Turns registry result tenant where
  stage := by rw [TenantStage.next_apart _ apart, same.stage]
  meets stage tells := absurd rfl (apart _ tells)
  settles source told := absurd rfl (apart (tenant, .here) (by rw [told]; rfl))
  born machines held := .inl (by rw [← held, born, born, same.moves])
  parted parted _ hosts := by
    rw [Registry.hosts, same.hosted] at hosts
    exact same.moved.trans (parted hosts)

/-- A change of one tenant: what it makes of that one, and of the others, which it leaves alone. -/
theorem turns_touch {who : TenantId} {told : TenantStage} (tells : event.tells = some (who, told))
    (same : ∀ id, who ≠ id → SameTenant registry other id) (stage : other.stage who = told)
    (meets : (registry.stage who).Meets event)
    (settles : ∀ source, event = .tenantSettled who source
      → source = ((registry.movePeers who).map MovePeers.cellId).getD 0)
    (born : ∀ machines, registry.born who = some machines
      → other.born who = some machines ∨ event.uproots who)
    (parted : (registry.hosts who → registry.moved[who]? = none)
      → ((∃ control, event = .tenantHosted who control) → registry.moved[who]? = none)
      → other.hosts who → other.moved[who]? = none)
    : Turns registry (other, event) tenant := by
  by_cases here : who = tenant
  · subst here
    refine ⟨?_, fun _ _ => meets, settles, born, parted⟩
    simp [TenantStage.next, tells, stage, Option.filter_some]
  · refine (same tenant here).turns fun moved held => ?_
    rw [tells] at held
    cases held
    exact here

-- What the commands make of the tenants

/-- Commands of something else than tenants and their moves. -/
def SystemCommand.elsewhere : SystemCommand → Bool
  | .hostTenant .. | .dropTenant .. | .releaseTenant .. | .adoptTenant .. | .settleTenant ..
  | .movePeers .. | .movedTenant .. => false
  | _ => true

theorem tells_elsewhere {command : SystemCommand} (live : registry.LiveSpent)
    (elsewhere : SystemCommand.elsewhere command)
    : (registry.act seq command).2.tells = none := by
  cases command
  all_goals try cases elsewhere
  all_goals simp only [act, register, setTags, setControlPlane, setBalance, startBalance,
    abandonBalance, drain, retire, book, down, up, slow, space, judge, admitted, openMaintenance,
    releaseCapacity, joinFleet, grant]
  all_goals repeat' split
  all_goals try rfl
  case _ refused error =>
    -- A grant that is refused at one of its slots has that slot's refusal.
    obtain ⟨reason, rfl⟩ := bookSlots_error live rfl (by simp) (by simp) error
    rfl

theorem Change.sameTenant {command : SystemCommand} (change : Change seq registry command result)
    (elsewhere : SystemCommand.elsewhere command)
    : SameTenant registry result.1 tenant := by
  cases change with
  | granted _ _ _ books =>
    rw [books.frame]
    exact ⟨.rfl, rfl, rfl, rfl⟩
  | hosted | dropped | tenantReleased | adopted | settled | peersSet | movedOut => cases elsewhere
  | _ => exact ⟨.rfl, rfl, rfl, rfl⟩

/-- A tenant is turned by every command of something else, as it is by a refused one. -/
theorem turns_same (quiet : event.tells = none) : Turns registry (registry, event) tenant :=
  SameTenant.turns ⟨.rfl, rfl, rfl, rfl⟩ (by simp [quiet])

/-- An empty record is the one a tenant without moves has. -/
theorem moveOf_putMove {record : TenantMove}
    : (registry.putMove tenant record).moveOf tenant = record := by
  obtain ⟨leaving, arriving, born, peers⟩ := record
  simp only [moveOf, moves_putMove]
  split_ifs with empty
  · simp_all [TenantMove.isEmpty, TenantMove.default]
  · rfl

theorem moveOf_insert (record : TenantMove)
    : moveOf { registry with moves := registry.moves.insert tenant record } tenant = record := by
  simp [moveOf]

theorem born_eq_some {machines : List NodeId}
    : registry.born tenant = some machines
      ↔ (registry.moveOf tenant).born = machines ∧ machines ≠ [] := by
  cases held : registry.moves[tenant]? <;>
    simp [Registry.born, moveOf, held, TenantMove.default, Option.filter_eq_some_iff]

/-- The machines a tenant was born on stay with a record that keeps them. -/
theorem born_keep {machines : List NodeId} (held : registry.born tenant = some machines)
    (same : machines ≠ [] → (other.moveOf tenant).born = (registry.moveOf tenant).born)
    : other.born tenant = some machines := by
  obtain ⟨born, some⟩ := born_eq_some.mp held
  exact born_eq_some.mpr ⟨(same some).trans born, some⟩

section Commands

variable (ok : Sound codec registry) {fleetId : Nat} {who : TenantId}

include ok

theorem hosts_undropped (held : registry.hosts who) : who ∉ registry.dropped := by
  obtain ⟨hosted, found⟩ := Option.isSome_iff_exists.mp held
  exact (ok.tenants.hosts who hosted found).2.2.2

omit ok in
theorem stage_hosted (undropped : who ∉ registry.dropped) (held : registry.hosts who)
    : registry.stage who = (registry.moveOf who).stage := by
  rw [stage, if_neg undropped, if_pos held]

/-- Where a record puts a hosted tenant. -/
theorem stage_put {record : TenantMove} (held : registry.hosts who)
    (same : other.moveOf who = record) (hosted : other.hosted = registry.hosted)
    (dropped : other.dropped = registry.dropped)
    : other.stage who = record.stage := by
  rw [stage_hosted (dropped ▸ hosts_undropped ok held) (by rwa [hosts, hosted]), same]

omit ok in
theorem stage_unhosted (undropped : who ∉ registry.dropped)
    (unhosted : registry.hosted[who]? = none)
    : registry.stage who = .away ∨ ∃ destination, registry.stage who = .gone destination := by
  cases left : registry.moved[who]? <;> simp [stage, undropped, hosts, unhosted, left]

theorem hostTenant_turns {hosted : HostedTenant}
    : Turns registry (registry.hostTenant fleetId who hosted) tenant := by
  fun_cases hostTenant registry fleetId who hosted
  case case7 passed formed undropped unhosted granted booked =>
    have unhosted : registry.hosted[who]? = none := by simpa using unhosted
    have still := ok.tenants.unmoved unhosted
    refine turns_touch rfl (fun id apart => ⟨.rfl, by simp [apart], rfl, rfl⟩) ?_
      (stage_unhosted undropped unhosted) (by simp) (by simp [born, still])
      fun _ away _ => away ⟨_, rfl⟩
    simp only [stage, if_neg undropped, hosts, getElem?_insert, if_true, moveOf, still]
    rfl
  all_goals exact turns_same rfl

theorem dropTenant_turns : Turns registry (registry.dropTenant fleetId who) tenant := by
  fun_cases dropTenant registry fleetId who
  case case1 => exact turns_same rfl
  case case2 passed =>
    split_ifs with already
    · -- A tenant dropped before is not there to be erased.
      refine SameTenant.turns ?_ (by simp [RegistryEvent.tells])
      by_cases same : who = tenant
      · subst same
        have bare := ok.tenants.bare already
        exact ⟨by simp [already], by simp [bare], by simp [bare], by simp [bare]⟩
      · exact ⟨by simp [Ne.symm same], by simp [same], by simp [same], by simp [same]⟩
    · refine turns_touch rfl (fun id apart => ⟨by simp [apart.symm], by simp [apart],
        by simp [apart], by simp [apart]⟩) (by simp [stage]) ?_ (by simp)
        (by simp [RegistryEvent.uproots]) (by simp [hosts])
      grind [TenantStage.Meets, Registry.stage, TenantMove.stage]

theorem releaseTenant_turns {destination : Nat} {machines : List NodeId}
    : Turns registry (registry.releaseTenant fleetId who destination machines) tenant := by
  fun_cases releaseTenant registry fleetId who destination machines
  case case6 passed record formed known other idle =>
    have held : registry.hosts who := by simpa [hosts, Option.isSome_iff_ne_none] using known
    have undropped := hosts_undropped ok held
    refine turns_touch rfl (fun id apart => ⟨.rfl, rfl, by simp [apart], rfl⟩) ?_ ?_ (by simp) ?_
      fun parted _ => parted
    · exact stage_put ok held (moveOf_insert _) rfl rfl
    · refine (stage_hosted undropped held).trans ?_
      simp_all [TenantMove.stage, record]
    · intro recorded held
      refine .inl (born_keep held fun some => ?_)
      have := (born_eq_some.mp held).1
      simp_all [moveOf, record]
  all_goals exact turns_same rfl

omit ok in
theorem adoptTenant_turns {hosted : HostedTenant} {source : Nat} {machines : List NodeId}
    : Turns registry (registry.adoptTenant fleetId who hosted source machines) tenant := by
  fun_cases adoptTenant registry fleetId who hosted source machines
  case case6 passed formed undropped unhosted granted =>
    have unhosted : registry.hosted[who]? = none := by simpa using unhosted
    refine turns_touch rfl (fun id apart => ⟨.rfl, by simp [apart], by simp [apart],
      by simp [apart]⟩) ?_ (stage_unhosted undropped unhosted) (by simp)
      (by simp [RegistryEvent.uproots]) (by simp)
    simp [stage, undropped, hosts, moveOf, TenantMove.stage]
  all_goals exact turns_same rfl

theorem settleTenant_turns : Turns registry (registry.settleTenant fleetId who) tenant := by
  fun_cases settleTenant registry fleetId who
  case case4 passed known record found =>
    obtain ⟨held, arriving⟩ := Option.filter_eq_some_iff.mp found
    have hosts : registry.hosts who := by simpa [hosts, Option.isSome_iff_ne_none] using known
    have undropped := hosts_undropped ok hosts
    have same : registry.moveOf who = record := by simp [moveOf, held]
    obtain ⟨source, adopted⟩ := Option.isSome_iff_exists.mp arriving
    have stays : record.leaving = none := by
      by_contra leaves
      exact (ok.tenants.opens who record held).2.2.oneWay
        ⟨Option.isSome_iff_ne_none.mpr leaves, arriving⟩
    refine turns_touch rfl (fun id apart => ⟨.rfl, rfl, moves_putMove_of_ne apart, rfl⟩) ?_
      ⟨source, ?_⟩ ?_ (fun machines recorded => .inl (born_keep recorded fun _ => ?_))
      fun parted _ => parted
    · rw [stage_put ok hosts moveOf_putMove rfl rfl, TenantMove.stage, stays]
    · rw [stage_hosted undropped hosts, same, TenantMove.stage, stays, adopted]
    · simp [movePeers, held]
    · rw [moveOf_putMove, same]
  all_goals exact turns_same rfl

theorem movedTenant_turns {destination : Nat}
    : Turns registry (registry.movedTenant fleetId who destination) tenant := by
  fun_cases movedTenant registry fleetId who destination
  case case4 passed known leaves =>
    have leaves : (registry.moveOf who).leaving = some destination := not_not.mp leaves
    have held : registry.hosts who := by
      by_contra unhosted
      rw [moveOf, ok.tenants.unmoved (by simpa [hosts] using unhosted)] at leaves
      cases leaves
    have undropped := hosts_undropped ok held
    refine turns_touch rfl (fun id apart => ⟨.rfl, by simp [apart], by simp [apart],
      by simp [apart]⟩) (by simp [stage, undropped, hosts]) ?_ (by simp)
      (by simp [RegistryEvent.uproots]) (by simp [hosts])
    exact (stage_hosted undropped held).trans (by simp [TenantMove.stage, leaves])
  all_goals exact turns_same rfl

/-- Move peers come and go without a turn: the directions of the record stay. -/
theorem setMovePeers_turns {cell : Nat} {peers : List MovePeer}
    : Turns registry (registry.setMovePeers who cell peers) tenant := by
  fun_cases setMovePeers registry who cell peers
  case case3 passed known wanted =>
    have held : registry.hosts who := by simpa [hosts, Option.isSome_iff_ne_none] using known
    have undropped := hosts_undropped ok held
    have quiet : (if (registry.moveOf who).peers = wanted then RegistryEvent.unchanged
        else .movePeersSet who cell).tells = none := by
      split_ifs <;> rfl
    by_cases same : who = tenant
    · subst same
      refine ⟨?_, by simp [quiet], fun source told => ?_,
        fun machines recorded => .inl (born_keep recorded fun _ => by rw [moveOf_putMove]),
        fun parted _ => parted⟩
      · rw [TenantStage.next_apart _ (by simp [quiet]), stage_hosted undropped held]
        exact (stage_put ok held moveOf_putMove rfl rfl).trans rfl
      · dsimp only at told
        rw [told] at quiet
        cases quiet
    · exact SameTenant.turns ⟨.rfl, rfl, moves_putMove_of_ne same, rfl⟩ (by simp [quiet])
  all_goals exact turns_same rfl

end Commands

/-- Every record turns every tenant, by cases on the command it holds. -/
theorem fold_turns (ok : Sound codec registry) (order : registry.nextSeq ≤ seq) (record : Bytes)
    : Turns registry (registry.fold codec seq record) tenant := by
  have ok := advance_sound ok order
  have turns : ∀ result, Turns (registry.advance seq) result tenant → Turns registry result tenant :=
    fun result turns => { turns with }
  refine turns _ ?_
  simp only [fold]
  cases SystemCommand.decode codec record with
  | error reason => exact turns_same rfl
  | ok command =>
    have live := ok.capacity.live
    have still : SystemCommand.elsewhere command
        → Turns (registry.advance seq) ((registry.advance seq).act seq command) tenant :=
      fun elsewhere => ((act_change live command).sameTenant elsewhere).turns
        (by simp [tells_elsewhere live elsewhere])
    cases command with
    | hostTenant => exact hostTenant_turns ok
    | dropTenant => exact dropTenant_turns ok
    | releaseTenant => exact releaseTenant_turns ok
    | adoptTenant => exact adoptTenant_turns
    | settleTenant => exact settleTenant_turns ok
    | movePeers => exact setMovePeers_turns ok
    | movedTenant => exact movedTenant_turns ok
    | _ => exact still rfl

-- Histories

section Histories

variable {initial : List NodeId} {events : List RegistryEvent}
  (run : Run codec (new initial) events registry)

theorem restore_sameTenant {receiver restored : Registry} {coversUpTo : Nat}
    (ok : Sound codec registry)
    (done : receiver.restore codec coversUpTo (registry.checkpoint codec) = .ok restored)
    : SameTenant registry restored tenant := by
  obtain ⟨rfl, _⟩ := restore_checkpoint_eq ok done
  exact ⟨.rfl, rfl, rfl, rfl⟩

include run

/-- The registry holds every tenant at the stage its events tell, by induction on the history. -/
theorem Run.stage_told : registry.stage tenant = TenantStage.told tenant events := by
  induction run with
  | stay => simp [stage, new, hosts, TenantStage.told]
  | fold run seq record order ih =>
    rw [TenantStage.told_concat, ← ih]
    exact (fold_turns (run.sound (new_sound initial)) order record).stage
  | restore run receiver coversUpTo done ih =>
    rw [← ih, (restore_sameTenant (run.sound (new_sound initial)) done).stage]

/-- A tenant that did not return is not hosted where it moved out, by induction on the history. -/
theorem Run.parted_tenant (unreturned : TenantStage.Unreturned tenant events)
    : registry.hosts tenant → registry.moved[tenant]? = none := by
  induction run with
  | stay => simp [new]
  | @fold events registry run seq record order ih =>
    have turns : Turns registry _ tenant :=
      fold_turns (run.sound (new_sound initial)) order record
    refine turns.parted (ih unreturned.left) ?_
    rintro ⟨control, hosted⟩
    have met := turns.meets .here (by rw [hosted]; rfl)
    rw [hosted] at met
    rcases met with away | ⟨destination, gone⟩
    · grind [Registry.stage, TenantMove.stage]
    · rw [run.stage_told] at gone
      exact absurd gone (unreturned events control [] (by rw [hosted]) destination)
  | restore run receiver coversUpTo done ih =>
    have same : SameTenant _ _ tenant := restore_sameTenant (run.sound (new_sound initial)) done
    rw [hosts, same.hosted, same.moved]
    exact ih unreturned

omit run in
theorem Run.trans {first : Registry} {more : List RegistryEvent} {after : Registry}
    (run : Run codec first events registry) (next : Run codec registry more after)
    : Run codec first (events ++ more) after := by
  induction next with
  | stay => simpa using run
  | fold _ seq record order ih => exact List.append_assoc .. ▸ ih.fold seq record order
  | restore _ receiver coversUpTo done ih => exact ih.restore receiver coversUpTo done

/-- The machines a tenant was born on stay until an event uproots it, by induction on the later
history.
-/
theorem Run.born_stays {more : List RegistryEvent} {after : Registry} {machines : List NodeId}
    (next : Run codec registry more after) (recorded : registry.born tenant = some machines)
    (rooted : ∀ event ∈ more, ¬ event.uproots tenant)
    : after.born tenant = some machines := by
  induction next with
  | stay => exact recorded
  | @fold more middle next seq record order ih =>
    have turns : Turns middle _ tenant :=
      fold_turns ((run.trans next).sound (new_sound initial)) order record
    have held := ih fun event member => rooted event (List.mem_append_left _ member)
    exact (turns.born machines held).resolve_right (rooted _ (by simp))
  | restore next receiver coversUpTo done ih =>
    have same : SameTenant _ _ tenant :=
      restore_sameTenant ((run.trans next).sound (new_sound initial)) done
    rw [Registry.born, same.moves]
    exact ih rooted

end Histories

/-- The moves of a tenant in one cell are one state machine. In every history the registry holds a
tenant at the stage its events tell; a tenant leaves or arrives, never both, and moves or has move
peers while it is hosted and not dropped; one that moves out goes to the cell it was released to;
one that settles was adopted, and its event names the cell of its move peers; and the machines a
tenant was born on stay until it is adopted, moves out or is dropped. None is hosted and moved out
at once, unless it was hosted again without an adoption.
-/
theorem tenant_moves_one_machine {initial : List NodeId} {events : List RegistryEvent}
    (run : Run codec (new initial) events registry)
    : (∀ tenant, registry.stage tenant = TenantStage.told tenant events)
      ∧ (∀ tenant, registry.leaving tenant = none ∨ registry.arriving tenant = none)
      ∧ (∀ tenant, (registry.leaving tenant).isSome ∨ (registry.arriving tenant).isSome
          ∨ (registry.movePeers tenant).isSome
        → registry.hosts tenant ∧ tenant ∉ registry.dropped)
      ∧ (∀ tenant, TenantStage.Unreturned tenant events
        → registry.hosts tenant → registry.moved[tenant]? = none)
      ∧ (∀ seq record, registry.nextSeq ≤ seq → ∀ tenant,
          (∀ destination,
            (registry.fold codec seq record).2 = .tenantMovedOut tenant destination
              → TenantStage.told tenant events = .leaving destination)
          ∧ ∀ source, (registry.fold codec seq record).2 = .tenantSettled tenant source
            → (∃ adopted, TenantStage.told tenant events = .arriving adopted)
              ∧ source = ((registry.movePeers tenant).map MovePeers.cellId).getD 0)
      ∧ ∀ more after, Run codec registry more after → ∀ tenant machines,
        registry.born tenant = some machines → (∀ event ∈ more, ¬ event.uproots tenant)
        → after.born tenant = some machines := by
  have ok := run.sound (new_sound initial)
  refine ⟨fun tenant => run.stage_told, fun tenant => ?_, fun tenant moving => ?_,
    fun tenant => run.parted_tenant, fun seq record order tenant => ?_,
    fun more after next tenant machines => run.born_stays next⟩
  · have oneWay := (moveOf_fits ok tenant).oneWay
    rw [leaving_moveOf, arriving_moveOf] at oneWay
    simpa [Option.isSome_iff_ne_none, or_iff_not_imp_left] using oneWay
  · have held : registry.hosts tenant := by
      by_contra unhosted
      have still := ok.tenants.unmoved (by simpa [hosts] using unhosted)
      simp [leaving, arriving, movePeers, still] at moving
    exact ⟨held, hosts_undropped ok held⟩
  · have turns : Turns registry _ tenant := fold_turns ok order record
    rw [← run.stage_told]
    refine ⟨fun destination left => ?_, fun source settled => ⟨?_, turns.settles source settled⟩⟩
    · have met := turns.meets (.gone destination) (by rw [left]; rfl)
      rwa [left] at met
    · have met := turns.meets .here (by rw [settled]; rfl)
      rwa [settled] at met

/-- The histories of entries written from the start. -/
theorem run_written (codec : SystemCodec) (kinds : List Wire.Kind)
    : Run codec (new [1]) ((new [1]).foldKinds codec 0 kinds).2
        ((new [1]).foldKinds codec 0 kinds).1 := by
  have run : Run codec (new [1]) _ _ :=
    foldAll_run (new_sound [1]) .stay (written_inOrder codec kinds 0)
  rwa [foldAll_written] at run

/-- Hosted and released, a tenant is leaving, for the cell its event tells. -/
theorem tenant_moves_of_released
    : ((new [1]).foldKinds SystemCodec.counted 0 (rehosted.take 4)).1.stage 7 = .leaving 2
      ∧ TenantStage.told 7 ((new [1]).foldKinds SystemCodec.counted 0 (rehosted.take 4)).2
        = .leaving 2 :=
  have machine := tenant_moves_one_machine (run_written SystemCodec.counted (rehosted.take 4))
  ⟨(machine.1 7).trans rfl, rfl⟩

/-- A tenant is adopted and settles, without a record of the peers it moves with. -/
def adoptedAlone : List Wire.Kind :=
  rehosted.take 2 ++ [.adoptTenant 1 7 1 [] 1 2 [1], .settleTenant 1 7]

/-- The event that ends an adoption from one cell names no cell, and a tenant hosted again after it
moved out is hosted and moved out at once.
-/
theorem settled_names_no_cell
    : (∃ registry before, Run SystemCodec.counted (new [1])
          (before ++ [.tenantAdopted 7 1 2, .tenantSettled 7 0]) registry)
      ∧ ∃ registry events, Run SystemCodec.counted (new [1]) events registry
        ∧ registry.hosts 7 ∧ registry.moved[(7 : TenantId)]? = some 2 :=
  ⟨⟨_, [.joinedFleet 1 1, .granted (.footprint 7) [⟨1, 1, .acceptor, .journal ⟨7, 1⟩⟩]],
    run_written SystemCodec.counted adoptedAlone⟩,
    _, _, run_written SystemCodec.counted rehosted, by rfl, by rfl⟩

end Registry

end Paros
