import Paros.Coordinator.Footprint
import Paros.Fleet.Standing
import Paros.Registry.Lodging

/-! What a cell's coordinator writes for the tenants of its universe: the cell's step of a tenant's
creation and removal, and its side of a tenant's move.
-/

namespace Paros

-- Creation and removal

variable (directory : FleetDirectory)

variable (registry : Registry)

/-- The directory's fleet, when a registry is that of a cell of it. -/
def FleetDirectory.joinedBy (cellId : Nat)
    : Option Nat :=
  directory.fleet.bind fun fleet =>
    if registry.fleet.any fun joined => joined.fleetId = fleet.id ∧ joined.cellId = cellId then
      some fleet.id
    else none

/-- The machines a tenant is born on: those with an acceptor's slot of its control journal. -/
def bornOn (tenant : TenantId) (control : JournalId) : List NodeId :=
  let holders := registry.bookings.values.filter fun booking =>
    booking.role = .acceptor ∧ booking.target = .journal ⟨tenant, control⟩
  (holders.map Booking.node).eraseDups.insertionSort (· ≤ ·)

/-- The cell's step of a tenant's creation or removal: none once the cell dropped it. -/
def tenantStep (fleetId : Nat) (tenant : TenantId) (entry : TenantEntry)
    : Option SystemCommand :=
  if tenant ∈ registry.dropped then none
  else
    match entry.state with
    | .registering =>
      if registry.hosts tenant then none
      else
        match registry.footprint tenant with
        | none => footprintGrant registry tenant (some entry.control)
        | some grant =>
          let members := bornOn registry tenant entry.control
          -- A refused footprint asks nothing more: the operator marks the tenant.
          if grant.granted ∧ !members.isEmpty then
            some (.hostTenant fleetId tenant
              ⟨entry.control, entry.name, entry.survives, members⟩)
          else none
    | .removing => some (.dropTenant fleetId tenant)
    | _ => none

/-- The cell's steps of the tenants that the directory places in it. -/
def tenantSteps (cellId : Nat)
    : List SystemCommand :=
  match directory.joinedBy registry cellId with
  | none => []
  | some fleetId =>
    directory.tenants.toList.filterMap fun (tenant, entry) =>
      if entry.cellId ≠ cellId ∨ entry.kind ≠ .users then none
      else tenantStep registry fleetId tenant entry

-- Moves

/-- The other cells' registries that a round read, with the machines each was read through. -/
abbrev Others := OrderedMap Nat (Registry × Endpoint)

/-- The other side of each move that a cell takes part in. -/
def sides (own : Nat) : List Nat :=
  (directory.tenants.values.filterMap fun entry =>
    entry.movingTo.bind fun destination =>
      if entry.cellId = own then some destination
      else if destination = own then some entry.cellId
      else none).eraseDups

/-- The machines a cell is reached through: those of its entry, or, for the cell that hosts the
universe, those of the pointer a registry recorded.
-/
def FleetDirectory.reachEndpoint (cellId : Nat) (hosts : Option Endpoint)
    : Endpoint :=
  if !(directory.endpoint cellId).isEmpty ∨ directory.universeCell ≠ some cellId then
    directory.endpoint cellId
  else hosts.getD []

/-- Where a cell is read: its control journal, and the machines that serve it. -/
def reach (cellId : Nat)
    : Option (JournalIdentifier × Endpoint) :=
  (directory.cells[cellId]?).bind fun cell =>
    (directory.tenants[cell.controlTenant]?).bind fun tenant =>
      let journal : JournalIdentifier := ⟨cell.controlTenant, tenant.control⟩
      let endpoint := directory.reachEndpoint cellId (registry.pointer.map UniversePointer.hosts)
      if endpoint.isEmpty ∨ !journal.isSet then none else some (journal, endpoint)

/-- The machines of another cell that a tenant uses, in the order of their ids. -/
def peersOf (endpoint : Endpoint) (tenant : TenantId) (extra : List NodeId)
    : List MovePeer :=
  let booked := registry.bookings.values.filter (·.target.tenantOf = tenant)
  let nodes := (booked.map Booking.node ++ extra).eraseDups.insertionSort (· ≤ ·)
  nodes.filterMap fun id =>
    match registry.nodes[id]? with
    | some node => some ⟨id, node.addr, node.machineInterface⟩
    | none => (endpoint.find? (·.1 = id)).map fun (_, addr) => ⟨id, addr, []⟩

/-- The record of the other cell's machines, when others are recorded and there are some. -/
def changed (tenant : TenantId) (cellId : Nat) (peers : List MovePeer)
    : Option SystemCommand :=
  let held := ((registry.movePeers tenant).filter (·.cellId = cellId)).map MovePeers.peers
  if peers.isEmpty ∨ held = some peers then none else some (.movePeers tenant cellId peers)

/-- What the source of an open move writes. -/
def sourceStep (others : Others) (fleetId : Nat) (tenant : TenantId) (destination : Nat)
    : Option SystemCommand :=
  if registry.leaving tenant = some destination then
    (others[destination]?).bind fun (target, endpoint) =>
      changed registry tenant destination (peersOf target endpoint tenant [])
  else if (registry.leaving tenant).isNone ∧ !registry.moving tenant then
    let members := (registry.hosted[tenant]?.map HostedTenant.members).getD []
    some (.releaseTenant fleetId tenant destination ((registry.born tenant).getD members))
  else none

/-- What the target of an open move writes, once the source released the tenant to it. -/
def targetStep (own : Nat) (others : Others) (fleetId : Nat)
    (tenant : TenantId) (entry : TenantEntry)
    : Option SystemCommand :=
  (others[entry.cellId]?).bind fun (source, endpoint) =>
    if source.leaving tenant ≠ some own then none
    else
      (source.born tenant).bind fun born =>
        if registry.hosts tenant then
          changed registry tenant entry.cellId (peersOf source endpoint tenant born)
        else
          match registry.footprint tenant with
          | none => footprintGrant registry tenant none
          | some grant =>
            if grant.granted then
              some (.adoptTenant fleetId tenant ⟨entry.control, entry.name, entry.survives, born⟩
                entry.cellId born)
            else none

/-- The cell's step of a tenant's move. -/
def moveStep (own : Nat) (others : Others) (fleetId : Nat) (tenant : TenantId) (entry : TenantEntry)
    : Option SystemCommand :=
  if entry.kind ≠ .users ∨ tenant ∈ registry.dropped then none
  -- The source forgets the tenant after the flip, before it may adopt it again.
  else if entry.cellId ≠ own ∧ registry.leaving tenant = some entry.cellId then
    some (.movedTenant fleetId tenant entry.cellId)
  else
    match entry.movingTo with
    | none => none
    | some destination =>
      if entry.cellId = own ∧ registry.hosts tenant then
        sourceStep registry others fleetId tenant destination
      else if destination = own ∧ entry.state ≠ .removing then
        targetStep registry own others fleetId tenant entry
      else none

/-- Whether a removal overtook the move of a tenant that the directory does not place here. -/
def overtaken (own : Nat) (tenant : TenantId)
    : Bool :=
  registry.moving tenant && !(tenant ∈ registry.dropped : Bool)
    && (tenant ∈ directory.removed
      || directory.tenants[tenant]?.any fun entry => entry.state = .removing ∧ entry.cellId ≠ own)

/-- The cell's steps of every move that the directory holds. -/
def steps (own : Nat) (others : Others)
    : List SystemCommand :=
  match directory.joinedBy registry own with
  | none => []
  | some fleetId =>
    (directory.tenants.toList.filterMap fun (tenant, entry) =>
        moveStep registry own others fleetId tenant entry)
      ++ (registry.hosted.keys.filter (overtaken directory registry own)).map
        (.dropTenant fleetId)

-- What a step rests on

/-- What a command of a cell's coordinator rests on: what the cell read, and its own registry. -/
inductive Warrants (directory : FleetDirectory) (registry : Registry) (own : Nat) (others : Others)
    : SystemCommand → Prop where
  | grant {key : GrantKey} {tenant : TenantId} {slots : Option (List Slot)}
    : Warrants directory registry own others (.grantCapacity key tenant slots)
  | peers {tenant : TenantId} {cellId : Nat} {peers : List MovePeer}
    : Warrants directory registry own others (.movePeers tenant cellId peers)
  | host {fleet : Formed} {tenant : TenantId} {entry : TenantEntry} {hosted : HostedTenant}
    (formed : directory.fleet = some fleet) (held : directory.tenants[tenant]? = some entry)
    (user : entry.kind = .users) (here : entry.cellId = own)
    : Warrants directory registry own others (.hostTenant fleet.id tenant hosted)
  | release {fleetId : Nat} {tenant : TenantId} {entry : TenantEntry} {destination : Nat}
    {born : List NodeId} (held : directory.tenants[tenant]? = some entry)
    (user : entry.kind = .users) (here : entry.cellId = own)
    (moves : entry.movingTo = some destination)
    : Warrants directory registry own others (.releaseTenant fleetId tenant destination born)
  | adopt {fleet : Formed} {tenant : TenantId} {entry : TenantEntry} {hosted : HostedTenant}
    {source : Registry} {endpoint : Endpoint} {born : List NodeId}
    (formed : directory.fleet = some fleet) (held : directory.tenants[tenant]? = some entry)
    (user : entry.kind = .users) (moves : entry.movingTo = some own)
    (read : others[entry.cellId]? = some (source, endpoint))
    (released : source.leaving tenant = some own)
    : Warrants directory registry own others (.adoptTenant fleet.id tenant hosted entry.cellId born)
  | moved {fleetId : Nat} {tenant : TenantId} {entry : TenantEntry}
    (held : directory.tenants[tenant]? = some entry) (user : entry.kind = .users)
    (away : entry.cellId ≠ own)
    : Warrants directory registry own others (.movedTenant fleetId tenant entry.cellId)
  | drop {fleetId : Nat} {tenant : TenantId}
    (removing : (∃ entry, directory.tenants[tenant]? = some entry ∧ entry.state = .removing)
      ∨ (tenant ∈ directory.removed ∧ registry.hosts tenant))
    : Warrants directory registry own others (.dropTenant fleetId tenant)

section Warrants

variable {directory : FleetDirectory} {registry : Registry} {own cellId : Nat} {others : Others}
  {tenant : TenantId} {entry : TenantEntry} {command : SystemCommand} {fleet : Formed}
  {destination : Nat}

theorem joinedBy_eq_some {fleetId : Nat} (joined : directory.joinedBy registry cellId = some fleetId)
    : ∃ fleet, directory.fleet = some fleet ∧ fleet.id = fleetId := by
  rw [FleetDirectory.joinedBy, Option.bind_eq_some_iff] at joined
  obtain ⟨fleet, formed, named⟩ := joined
  split_ifs at named
  exact ⟨fleet, formed, Option.some.inj named⟩

theorem footprintGrant_warrants {control : Option JournalId}
    (granted : footprintGrant registry tenant control = some command)
    : Warrants directory registry own others command := by
  simp only [footprintGrant] at granted
  split at granted
  · cases granted
    exact .grant
  · split_ifs at granted
    cases granted
    exact .grant

theorem changed_warrants {peers : List MovePeer}
    (record : changed registry tenant cellId peers = some command)
    : Warrants directory registry own others command := by
  simp only [changed] at record
  split_ifs at record
  cases record
  exact .peers

theorem tenantStep_warrants (formed : directory.fleet = some fleet)
    (held : directory.tenants[tenant]? = some entry) (user : entry.kind = .users)
    (here : entry.cellId = own) (step : tenantStep registry fleet.id tenant entry = some command)
    : Warrants directory registry own others command := by
  revert step
  fun_cases tenantStep registry fleet.id tenant entry
  case case3 => exact footprintGrant_warrants
  case case4 =>
    rintro ⟨⟩
    exact .host formed held user here
  case case6 _ state =>
    rintro ⟨⟩
    exact .drop (.inl ⟨entry, held, state⟩)
  all_goals nofun

theorem tenantSteps_warrants (member : command ∈ tenantSteps directory registry own)
    : Warrants directory registry own others command := by
  rw [tenantSteps] at member
  cases joined : directory.joinedBy registry own with
  | none => simp [joined] at member
  | some fleetId =>
    obtain ⟨fleet, formed, rfl⟩ := joinedBy_eq_some joined
    simp only [joined, List.mem_filterMap] at member
    obtain ⟨⟨tenant, entry⟩, listed, step⟩ := member
    split_ifs at step with other
    obtain ⟨here, user⟩ := not_or.mp other
    exact tenantStep_warrants formed (OrderedMap.mem_toList.mp listed) (not_not.mp user)
      (not_not.mp here) step

theorem sourceStep_warrants (held : directory.tenants[tenant]? = some entry)
    (user : entry.kind = .users) (here : entry.cellId = own)
    (moves : entry.movingTo = some destination)
    (step : sourceStep registry others fleet.id tenant destination = some command)
    : Warrants directory registry own others command := by
  rw [sourceStep] at step
  split_ifs at step
  · obtain ⟨_, _, record⟩ := Option.bind_eq_some_iff.mp step
    exact changed_warrants record
  · cases step
    exact .release held user here moves

theorem targetStep_warrants (formed : directory.fleet = some fleet)
    (held : directory.tenants[tenant]? = some entry) (user : entry.kind = .users)
    (moves : entry.movingTo = some own)
    (step : targetStep registry own others fleet.id tenant entry = some command)
    : Warrants directory registry own others command := by
  obtain ⟨⟨source, endpoint⟩, read, step⟩ := Option.bind_eq_some_iff.mp step
  simp only at step
  split at step
  case isTrue => cases step
  case isFalse released =>
    obtain ⟨born, _, step⟩ := Option.bind_eq_some_iff.mp step
    split_ifs at step
    · exact changed_warrants step
    · cases granted : registry.footprint tenant with
      | none => exact footprintGrant_warrants (by simpa only [granted] using step)
      | some grant =>
        simp only [granted] at step
        split_ifs at step
        cases step
        exact .adopt formed held user moves read (not_not.mp released)

theorem moveStep_warrants (formed : directory.fleet = some fleet)
    (held : directory.tenants[tenant]? = some entry)
    (step : moveStep registry own others fleet.id tenant entry = some command)
    : Warrants directory registry own others command := by
  revert step
  fun_cases moveStep registry own others fleet.id tenant entry
  case case2 users away =>
    rintro ⟨⟩
    exact .moved held (not_not.mp (not_or.mp users).1) away.1
  case case4 users _ _ moves source =>
    exact sourceStep_warrants held (not_not.mp (not_or.mp users).1) source.1 moves
  case case5 users _ _ moves _ target =>
    exact targetStep_warrants formed held (not_not.mp (not_or.mp users).1) (target.1 ▸ moves)
  all_goals nofun

theorem steps_warrants (member : command ∈ steps directory registry own others)
    : Warrants directory registry own others command := by
  rw [steps] at member
  cases joined : directory.joinedBy registry own with
  | none => simp [joined] at member
  | some fleetId =>
    obtain ⟨fleet, formed, rfl⟩ := joinedBy_eq_some joined
    simp only [joined, List.mem_append, List.mem_filterMap, List.mem_map, List.mem_filter] at member
    rcases member with ⟨⟨tenant, entry⟩, listed, step⟩ | ⟨tenant, ⟨hosted, drops⟩, rfl⟩
    · exact moveStep_warrants formed (OrderedMap.mem_toList.mp listed) step
    · simp only [overtaken, Bool.and_eq_true, Bool.or_eq_true, decide_eq_true_eq,
        Option.any_eq_true] at drops
      obtain ⟨_, removed | ⟨entry, held, removing, _⟩⟩ := drops
      · rw [Std.ExtTreeMap.mem_keys, OrderedMap.mem_iff_getElem?] at hosted
        exact .drop (.inr ⟨removed, Option.isSome_iff_exists.mpr hosted⟩)
      · exact .drop (.inl ⟨entry, held, removing⟩)

end Warrants

end Paros
