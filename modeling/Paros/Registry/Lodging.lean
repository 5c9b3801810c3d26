import Paros.Library.Handover
import Paros.Registry.Invariant

/-! What a cell's registry records of one tenant, as a holder of a handover, and what each command
makes of it.
-/

namespace Paros

open Handover

/-- How a cell holds a hosted tenant with a move record. -/
def TenantMove.holding (record : TenantMove) : Holding Nat :=
  match record.leaving with
  | some destination => .leaving destination
  | none => .acting record.arriving.isNone

namespace Registry

-- What a registry says of a tenant

def hosts (registry : Registry) (tenant : TenantId) : Bool := (registry.hosted[tenant]?).isSome

/-- The cell a tenant leaves to, once it was released. -/
def leaving (registry : Registry) (tenant : TenantId) : Option Nat :=
  registry.moves[tenant]?.bind TenantMove.leaving

/-- The cell a tenant arrives from, until it settles. -/
def arriving (registry : Registry) (tenant : TenantId) : Option Nat :=
  registry.moves[tenant]?.bind TenantMove.arriving

def moving (registry : Registry) (tenant : TenantId) : Bool :=
  (registry.leaving tenant).isSome || (registry.arriving tenant).isSome

/-- The machines a tenant was born on, once it moved. -/
def born (registry : Registry) (tenant : TenantId) : Option (List NodeId) :=
  (registry.moves[tenant]?.map TenantMove.born).filter (!·.isEmpty)

def movePeers (registry : Registry) (tenant : TenantId) : Option MovePeers :=
  registry.moves[tenant]?.bind TenantMove.peers

/-- A cell that dropped a tenant never hosts it again; one that hosts it acts for it unless it
released it.
-/
def holding (registry : Registry) (tenant : TenantId) : Holding Nat :=
  if tenant ∈ registry.dropped then .gone
  else if registry.hosts tenant then
    match registry.leaving tenant with
    | some destination => .leaving destination
    | none => .acting (registry.arriving tenant).isNone
  else .free

/-- Only a hosted tenant has a move record, in one direction, and a hosted one was not dropped. -/
structure Lodges (registry : Registry) : Prop where
  live : registry.LiveSpent
  opens : ∀ tenant, (registry.moves[tenant]?).isSome → registry.hosts tenant
  present : ∀ tenant, registry.hosts tenant → tenant ∉ registry.dropped
  oneWay : ∀ tenant, registry.leaving tenant = none ∨ registry.arriving tenant = none

variable {registry other : Registry} {tenant : TenantId} {seq : Nat} {command : SystemCommand}
  {result : Registry × RegistryEvent}

/-- What a command makes of a cell's holding of a tenant, when it changes it. -/
inductive Effect (tenant : TenantId) : SystemCommand → Holding Nat → Holding Nat → Prop where
  | host {fleetId : Nat} {hosted : HostedTenant}
    : Effect tenant (.hostTenant fleetId tenant hosted) .free (.acting true)
  | release {fleetId destination : Nat} {born : List NodeId}
    : Effect tenant (.releaseTenant fleetId tenant destination born) (.acting true)
        (.leaving destination)
  | adopt {fleetId : Nat} {hosted : HostedTenant} {source : Nat} {born : List NodeId}
    : Effect tenant (.adoptTenant fleetId tenant hosted source born) .free (.acting false)
  | settle {fleetId : Nat}
    : Effect tenant (.settleTenant fleetId tenant) (.acting false) (.acting true)
  | moved {fleetId destination : Nat}
    : Effect tenant (.movedTenant fleetId tenant destination) (.leaving destination) .free
  | drop {fleetId : Nat} {before : Holding Nat}
    : Effect tenant (.dropTenant fleetId tenant) before .gone

-- Reading a holding

theorem holding_congr (dropped : tenant ∈ other.dropped ↔ tenant ∈ registry.dropped)
    (hosted : other.hosted[tenant]? = registry.hosted[tenant]?)
    (moves : other.moves[tenant]? = registry.moves[tenant]?)
    : other.holding tenant = registry.holding tenant := by
  simp [holding, hosts, leaving, arriving, dropped, hosted, moves]

theorem gone_iff : registry.holding tenant = .gone ↔ tenant ∈ registry.dropped := by
  rw [holding]
  split_ifs with dropped
  · simp [dropped]
  · split <;> simp [dropped]
  · simp [dropped]

section

variable (lodges : registry.Lodges)
include lodges

theorem Lodges.holding_hosted (hosted : registry.hosts tenant)
    : registry.holding tenant = match registry.leaving tenant with
      | some destination => .leaving destination
      | none => .acting (registry.arriving tenant).isNone := by
  rw [holding, if_neg (lodges.present tenant hosted), if_pos hosted]

theorem Lodges.holding_unhosted (unhosted : ¬registry.hosts tenant)
    : (registry.holding tenant = if tenant ∈ registry.dropped then .gone else .free)
      ∧ registry.moves[tenant]? = none := by
  refine ⟨by rw [holding, if_neg unhosted], ?_⟩
  cases found : registry.moves[tenant]? with
  | none => rfl
  | some record => exact absurd (lodges.opens tenant (by simp [found])) unhosted

theorem Lodges.holds_iff
    : (registry.holding tenant).Holds ↔ registry.hosts tenant := by
  by_cases hosted : registry.hosts tenant
  · rw [lodges.holding_hosted hosted]
    cases registry.leaving tenant <;> simp [hosted]
  · rw [(lodges.holding_unhosted hosted).1]
    split_ifs <;> simp [hosted]

theorem Lodges.acts_iff
    : (registry.holding tenant).Acts
      ↔ registry.hosts tenant ∧ registry.leaving tenant = none := by
  by_cases hosted : registry.hosts tenant
  · rw [lodges.holding_hosted hosted]
    cases registry.leaving tenant <;> simp [hosted]
  · rw [(lodges.holding_unhosted hosted).1]
    split_ifs <;> simp [hosted]

theorem Lodges.leaving_iff {destination : Nat}
    : registry.holding tenant = .leaving destination
      ↔ registry.leaving tenant = some destination := by
  by_cases hosted : registry.hosts tenant
  · rw [lodges.holding_hosted hosted]
    cases registry.leaving tenant <;> simp
  · obtain ⟨held, none⟩ := lodges.holding_unhosted hosted
    rw [held]
    split_ifs <;> simp [leaving, none]

theorem Lodges.settled_iff
    : registry.holding tenant = .acting true
      ↔ registry.hosts tenant ∧ registry.moving tenant = false := by
  by_cases hosted : registry.hosts tenant
  · rw [lodges.holding_hosted hosted]
    cases left : registry.leaving tenant <;> simp [hosted, moving, left]
  · rw [(lodges.holding_unhosted hosted).1]
    split_ifs <;> simp [hosted]

end

-- What a command changes

theorem moves_putMove {record : TenantMove}
    : (registry.putMove tenant record).moves[tenant]? = if record.isEmpty then none else some record := by
  simp only [putMove]
  split_ifs <;> simp

theorem moves_putMove_of_ne {id : TenantId} {record : TenantMove} (apart : id ≠ tenant)
    : (registry.putMove id record).moves[tenant]? = registry.moves[tenant]? := by
  simp only [putMove]
  split_ifs <;> simp [apart]

theorem leaving_putMove {record : TenantMove}
    : (registry.putMove tenant record).leaving tenant = record.leaving := by
  rw [leaving, moves_putMove]
  split_ifs with empty
  · simp_all [TenantMove.isEmpty]
  · rfl

theorem arriving_putMove {record : TenantMove}
    : (registry.putMove tenant record).arriving tenant = record.arriving := by
  rw [arriving, moves_putMove]
  split_ifs with empty
  · simp_all [TenantMove.isEmpty]
  · rfl

theorem leaving_moveOf : (registry.moveOf tenant).leaving = registry.leaving tenant := by
  rw [moveOf, leaving]
  cases registry.moves[tenant]? <;> rfl

theorem arriving_moveOf : (registry.moveOf tenant).arriving = registry.arriving tenant := by
  rw [moveOf, arriving]
  cases registry.moves[tenant]? <;> rfl

theorem LiveSpent.place {slot : Slot} (live : registry.LiveSpent)
    : (registry.place slot).LiveSpent := by
  intro id booking found
  simp only [Registry.place, OrderedMap.getElem?_insert, Finset.mem_insert] at found ⊢
  split_ifs at found with same
  · exact .inl same.symm
  · exact .inr (live id booking found)

theorem LiveSpent.books {slots : List Slot} (books : Books registry slots other)
    (live : registry.LiveSpent)
    : other.LiveSpent := by
  induction books with
  | nil => exact live
  | cons bookable books ih => exact ih live.place

/-- A change spends the id of every booking it makes. -/
theorem Change.live (change : Change seq registry command result) (live : registry.LiveSpent)
    : result.1.LiveSpent := by
  cases change with
  | retired =>
    intro id booking found
    rw [Std.ExtTreeMap.getElem?_filter', Option.filter_eq_some_iff] at found
    exact live id booking found.1
  | booked bookable => exact live.place
  | released =>
    intro id booking found
    exact live id booking (OrderedMap.of_getElem?_erase found).2
  | granted fresh keyed owned books =>
    have lives := LiveSpent.books books live
    exact lives
  | _ => exact live

/-- A command either leaves a tenant as the cell held it or has its effect on it. -/
def Keeps (command : SystemCommand) (registry other : Registry) : Prop :=
  other.Lodges
    ∧ ∀ tenant, other.holding tenant = registry.holding tenant
      ∨ Effect tenant command (registry.holding tenant) (other.holding tenant)

section

variable (lodges : registry.Lodges)
include lodges

/-- A change of something else than the tenants. -/
theorem Lodges.frame (live : other.LiveSpent)
    (hosted : other.hosted = registry.hosted) (moves : other.moves = registry.moves)
    (dropped : other.dropped = registry.dropped)
    : Keeps command registry other := by
  refine ⟨⟨live, ?_, ?_, ?_⟩, fun tenant => .inl (holding_congr ?_ ?_ ?_)⟩
  · simpa [hosts, hosted, moves] using lodges.opens
  · simpa [hosts, hosted, dropped] using lodges.present
  · simpa [leaving, arriving, moves] using lodges.oneWay
  · rw [dropped]
  · rw [hosted]
  · rw [moves]

/-- A change of one tenant. -/
theorem Lodges.touch (id : TenantId) (live : other.LiveSpent)
    (dropped : ∀ tenant, id ≠ tenant → (tenant ∈ other.dropped ↔ tenant ∈ registry.dropped))
    (hosted : ∀ tenant, id ≠ tenant → other.hosted[tenant]? = registry.hosted[tenant]?)
    (moves : ∀ tenant, id ≠ tenant → other.moves[tenant]? = registry.moves[tenant]?)
    (opens : (other.moves[id]?).isSome → other.hosts id)
    (present : other.hosts id → id ∉ other.dropped)
    (oneWay : other.leaving id = none ∨ other.arriving id = none)
    (effect : other.holding id = registry.holding id
      ∨ Effect id command (registry.holding id) (other.holding id))
    : Keeps command registry other := by
  refine ⟨⟨live, fun tenant => ?_, fun tenant => ?_, fun tenant => ?_⟩, fun tenant => ?_⟩
  all_goals by_cases same : id = tenant
  · exact same ▸ opens
  · simpa [hosts, hosted tenant same, moves tenant same] using lodges.opens tenant
  · exact same ▸ present
  · simpa [hosts, hosted tenant same, dropped tenant same] using lodges.present tenant
  · exact same ▸ oneWay
  · simpa [leaving, arriving, moves tenant same] using lodges.oneWay tenant
  · exact same ▸ effect
  · exact .inl (holding_congr (dropped tenant same) (hosted tenant same) (moves tenant same))

theorem Lodges.host (hosted : HostedTenant)
    (undropped : tenant ∉ registry.dropped) (fresh : registry.hosted[tenant]? = none) (fleetId : Nat)
    : Keeps (.hostTenant fleetId tenant hosted) registry
        { registry with hosted := registry.hosted.insert tenant hosted } := by
  have unhosted : ¬registry.hosts tenant := by simp [hosts, fresh]
  obtain ⟨free, none⟩ := lodges.holding_unhosted unhosted
  refine lodges.touch tenant lodges.live (by simp) (by simp +contextual) (by simp) (by simp [hosts])
    (fun _ => undropped) (by simp [leaving, none]) (.inr ?_)
  have acting : holding { registry with hosted := registry.hosted.insert tenant hosted } tenant
      = .acting true := by
    simp [holding, undropped, hosts, leaving, arriving, none]
  rw [free, if_neg undropped, acting]
  exact .host

theorem Lodges.drop (fleetId : Nat) (tenant : TenantId)
    : Keeps (.dropTenant fleetId tenant) registry
        { registry with
          hosted := registry.hosted.erase tenant
          moves := registry.moves.erase tenant
          moved := registry.moved.erase tenant
          dropped := insert tenant registry.dropped } := by
  refine lodges.touch tenant lodges.live (by simp +contextual [eq_comm]) (by simp +contextual)
    (by simp +contextual) (by simp) (by simp [hosts]) (by simp [leaving]) (.inr ?_)
  convert Effect.drop
  exact gone_iff.mpr (Finset.mem_insert_self _ _)

/-- A record put for a hosted tenant leaves the tenant where the record says. -/
theorem Lodges.put (record : TenantMove) (live : other.LiveSpent)
    (dropped : other.dropped = registry.dropped) (hosts' : other.hosts tenant)
    (hosted : ∀ id, tenant ≠ id → other.hosted[id]? = registry.hosted[id]?)
    (moves : ∀ id, tenant ≠ id → other.moves[id]? = registry.moves[id]?)
    (left : other.leaving tenant = record.leaving) (came : other.arriving tenant = record.arriving)
    (undropped : tenant ∉ registry.dropped)
    (oneWay : record.leaving = none ∨ record.arriving = none)
    (effect : record.holding = registry.holding tenant
      ∨ Effect tenant command (registry.holding tenant) record.holding)
    : Keeps command registry other := by
  have after : other.holding tenant = record.holding := by
    simp [holding, dropped, undropped, hosts', left, came, TenantMove.holding]
  exact lodges.touch tenant live (by simp [dropped]) hosted moves (fun _ => hosts')
    (fun _ => dropped ▸ undropped) (by rw [left, came]; exact oneWay) (after ▸ effect)

end

/-- Every change leaves a tenant as the cell held it, or has its command's effect on it. -/
theorem Change.keeps (change : Change seq registry command result) (lodges : registry.Lodges)
    : Keeps command registry result.1 := by
  have live := change.live lodges.live
  cases change with
  | granted fresh keyed owned books =>
    exact lodges.frame live (by rw [books.frame]) (by rw [books.frame]) (by rw [books.frame])
  | hosted ours control undropped fresh => exact lodges.host _ undropped fresh _
  | dropped => exact lodges.drop _ _
  | @tenantReleased fleetId tenant destination born ours set held idle =>
    rw [leaving_moveOf, arriving_moveOf] at idle
    have acting : registry.holding tenant = .acting true := by
      rw [lodges.holding_hosted held, idle.1, idle.2]
      rfl
    refine lodges.put { registry.moveOf tenant with leaving := some destination } live rfl held
      (by simp) (by simp +contextual) (by simp [leaving]) (by simp [arriving])
      (lodges.present tenant held) (.inr (arriving_moveOf.trans idle.2)) (.inr ?_)
    rw [acting]
    exact .release
  | @adopted fleetId tenant hosted source born ours control set undropped fresh =>
    refine lodges.put { registry.moveOf tenant with leaving := none, arriving := some source } live
      rfl (by simp [hosts]) (by simp +contextual) (by simp +contextual) (by simp [leaving])
      (by simp [arriving]) undropped (.inl rfl) (.inr ?_)
    rw [(lodges.holding_unhosted (by simp [hosts, fresh])).1, if_neg undropped]
    exact .adopt
  | @settled fleetId tenant record held arriving =>
    have hosted := lodges.opens tenant (by simp [held])
    have came : registry.arriving tenant = record.arriving := by simp [Registry.arriving, held]
    have left : registry.leaving tenant = record.leaving := by simp [Registry.leaving, held]
    have idle : record.leaving = none := by
      rcases lodges.oneWay tenant with none | none
      · exact left ▸ none
      · simp [came.symm.trans none] at arriving
    have unsettled : registry.holding tenant = .acting false := by
      rw [lodges.holding_hosted hosted, left, came, idle]
      simpa using arriving
    have settled : TenantMove.holding { record with arriving := none } = .acting true := by
      simp [TenantMove.holding, idle]
    refine lodges.put { record with arriving := none } live rfl hosted (fun _ _ => rfl)
      (fun _ apart => moves_putMove_of_ne apart) leaving_putMove arriving_putMove
      (lodges.present tenant hosted) (.inr rfl) (.inr ?_)
    rw [unsettled, settled]
    exact .settle
  | @peersSet tenant cell peers event set held =>
    refine lodges.put _ live rfl held (fun _ _ => rfl)
      (fun _ apart => moves_putMove_of_ne apart) leaving_putMove arriving_putMove
      (lodges.present tenant held) ?_ (.inl ?_)
    · simpa only [leaving_moveOf, arriving_moveOf] using lodges.oneWay tenant
    · rw [lodges.holding_hosted held, TenantMove.holding, leaving_moveOf, arriving_moveOf]
  | @movedOut fleetId tenant destination leaving =>
    rw [leaving_moveOf] at leaving
    have held := lodges.leaving_iff.mpr leaving
    have hosted : registry.hosts tenant := lodges.holds_iff.mp (by simp [held])
    have undropped := lodges.present tenant hosted
    refine lodges.touch tenant live (by simp) (by simp +contextual) (by simp +contextual)
      (by simp) (by simp [hosts]) (by simp [Registry.leaving]) (.inr ?_)
    have free : holding
        { registry with
          hosted := registry.hosted.erase tenant
          moves := registry.moves.erase tenant
          moved := registry.moved.insert tenant destination } tenant = .free := by
      simp [holding, undropped, hosts]
    rw [held, free]
    exact .moved
  | _ => exact lodges.frame live rfl rfl rfl

end Registry

end Paros
