import Paros.Registry.Reading

/-! What one command can change in a registry. Every case carries the checks the command made, so
that what holds of every registry is shown once for each case.
-/

namespace Paros

open OrderedMap

/-- A machine that keeps its roles, and that retires or comes back neither. -/
structure RegisteredNode.Keeps (before after : RegisteredNode) : Prop where
  retired : after.standing = .retired ↔ before.standing = .retired
  takes : ∀ role, before.nodeClass.takes role → after.nodeClass.takes role

theorem RegisteredNode.Keeps.refl (node : RegisteredNode) : node.Keeps node :=
  ⟨Iff.rfl, fun _ takes => takes⟩

namespace Registry

-- Cases of a change

/-- Every machine known before is known after, and keeps what it was. -/
def NodesKeep (before after : OrderedMap NodeId RegisteredNode) : Prop :=
  ∀ (id : NodeId) (node : RegisteredNode), before[id]? = some node
    → ∃ kept, after[id]? = some kept ∧ node.Keeps kept

/-- The checks a booking passes. -/
structure Bookable (registry : Registry) (slot : Slot) : Prop where
  fresh : slot.booking ∉ registry.spent
  placed : ∃ node, registry.nodes[slot.node]? = some node ∧ node.standing = .registered
    ∧ node.nodeClass.takes slot.role.roleClass
  alone : slot.target.isTenant = false → ∀ (id : Nat) (booking : Booking),
    registry.bookings[id]? = some booking → booking ≠ ⟨slot.node, slot.role, slot.target⟩

/-- Record a slot. -/
def place (registry : Registry) (slot : Slot) : Registry :=
  { registry with
    spent := insert slot.booking registry.spent
    bookings := registry.bookings.insert slot.booking ⟨slot.node, slot.role, slot.target⟩ }

/-- Slots recorded one after the other, each one bookable after those before it. -/
inductive Books : Registry → List Slot → Registry → Prop where
  | nil {registry : Registry} : Books registry [] registry
  | cons {registry after : Registry} {slot : Slot} {rest : List Slot}
    : Bookable registry slot → Books (registry.place slot) rest after
      → Books registry (slot :: rest) after

/-- A command of the cell's fleet about a tenant. -/
structure Ours (registry : Registry) (fleetId : Nat) (tenant : TenantId) : Prop where
  joined : ∃ fleet, registry.fleet = some fleet ∧ fleet.fleetId = fleetId
  set : tenant ≠ 0

inductive Change (seq : Nat) (registry : Registry)
    : SystemCommand → Registry × RegistryEvent → Prop where
  | kept {command : SystemCommand} {event : RegistryEvent} (silent : event.quiet)
    : Change seq registry command (registry, event)
  | machines {command : SystemCommand} {event : RegistryEvent}
    (nodes : OrderedMap NodeId RegisteredNode) (liveness : OrderedMap NodeId Liveness)
    (tagged : Finset Nat) (keeps : NodesKeep registry.nodes nodes) (silent : event.quiet)
    : Change seq registry command
      ({ registry with nodes := nodes, liveness := liveness, tagged := tagged }, event)
  | retired {id : NodeId} {node : RegisteredNode} (held : registry.nodes[id]? = some node)
    (draining : node.standing = .draining)
    : Change seq registry (.retireNode id)
      ({ registry with
          nodes := registry.nodes.insert id { node with standing := .retired }
          bookings := registry.bookings.filter fun _ booking => booking.node ≠ id
          liveness := registry.liveness.erase id
          maintenance := registry.maintenance.erase (.machine id) }, .retired id)
  | closed {scope : MaintenanceScope} {forMs : Nat}
    : Change seq registry (.maintenance scope forMs)
      ({ registry with maintenance := registry.maintenance.erase scope }, .maintenance scope forMs)
  | opened {scope : MaintenanceScope} {forMs : Nat} (lasting : forMs ≠ 0)
    : Change seq registry (.maintenance scope forMs)
      ({ registry with maintenance := registry.maintenance.insert scope ⟨forMs, seq⟩ },
        .maintenance scope forMs)
  | controlPlane {request : Nat} {mode : ControlPlaneMode}
    : Change seq registry (.setControlPlane request mode)
      ({ registry with
          controlPlane := some mode
          controlPlaneRequests := insert request registry.controlPlaneRequests },
        .controlPlaneSet mode)
  | balanceSet {request : Nat} {paused : Bool} {balance : BalanceState}
    (applied : registry.balance.set request paused = some balance)
    : Change seq registry (.setBalance request paused)
      ({ registry with balance := balance }, .balanceSet paused)
  | balanceStarted {booking : Nat} {journal : JournalIdentifier} {source destination : NodeId}
    {reason : BalanceReason} (running : registry.balance.paused = false)
    (idle : registry.balance.moving = none)
    (movable : registry.movable ⟨booking, journal, source, destination, reason, seq⟩)
    : Change seq registry (.balanceStarted booking journal source destination reason)
      ({ registry with
          balance := registry.balance.start ⟨booking, journal, source, destination, reason, seq⟩ },
        .balanceStarted booking)
  | balanceAbandoned {booking : Nat} {balance : BalanceState}
    (finished : registry.balance.finish booking .abandoned seq = some balance)
    : Change seq registry (.balanceAbandoned booking)
      ({ registry with balance := balance }, .balanceAbandoned booking)
  | booked {slot : Slot} (bookable : Bookable registry slot)
    : Change seq registry (.bookCapacity slot) (registry.place slot, .booked slot)
  | released {booking : Nat} {held : Booking} (live : registry.bookings[booking]? = some held)
    : Change seq registry (.releaseCapacity booking)
      ({ registry with
          bookings := registry.bookings.erase booking
          balance := (registry.balance.finish booking .done seq).getD registry.balance },
        .released booking held.node)
  | grantRefused {key : GrantKey} {tenant : TenantId} (fresh : registry.grants[key]? = none)
    (keyed : grantKeyed key tenant)
    : Change seq registry (.grantCapacity key tenant none)
      ({ registry with grants := registry.grants.insert key ⟨tenant, none⟩ }, .grantRefused key)
  | granted {key : GrantKey} {tenant : TenantId} {slots : List Slot} {after : Registry}
    (fresh : registry.grants[key]? = none) (keyed : grantKeyed key tenant)
    (owned : ∀ slot ∈ slots, slot.target.tenantOf = tenant) (books : Books registry slots after)
    : Change seq registry (.grantCapacity key tenant (some slots))
      ({ after with grants := after.grants.insert key ⟨tenant, some (slots.map Slot.booking)⟩ },
        .granted key slots)
  | joined {joined : FleetRegistration} {pointer : Option UniversePointer}
    (named : joined.fleetId ≠ 0 ∧ joined.cellId ≠ 0) (alone : registry.fleet = none)
    : Change seq registry (.joinFleet joined pointer)
      ({ registry with fleet := some joined, pointer := pointer },
        .joinedFleet joined.fleetId joined.cellId)
  | repointed {joined : FleetRegistration} {pointer : Option UniversePointer}
    (inFleet : registry.fleet.isSome)
    : Change seq registry (.joinFleet joined pointer)
      ({ registry with pointer := pointer }, .repointed joined.fleetId)
  | hosted {fleetId : Nat} {tenant : TenantId} {hosted : HostedTenant}
    (ours : Ours registry fleetId tenant) (control : hosted.control ≠ 0)
    (undropped : tenant ∉ registry.dropped) (fresh : registry.hosted[tenant]? = none)
    : Change seq registry (.hostTenant fleetId tenant hosted)
      ({ registry with hosted := registry.hosted.insert tenant hosted },
        .tenantHosted tenant hosted.control)
  | dropped {fleetId : Nat} {tenant : TenantId} {event : RegistryEvent}
    (ours : Ours registry fleetId tenant)
    (told : event = .tenantDropped tenant ∨ tenant ∈ registry.dropped ∧ event.quiet)
    : Change seq registry (.dropTenant fleetId tenant)
      ({ registry with
          hosted := registry.hosted.erase tenant
          moves := registry.moves.erase tenant
          moved := registry.moved.erase tenant
          dropped := insert tenant registry.dropped }, event)
  | tenantReleased {fleetId : Nat} {tenant : TenantId} {destination : Nat} {born : List NodeId}
    (ours : Ours registry fleetId tenant) (set : destination ≠ 0)
    (held : (registry.hosted[tenant]?).isSome)
    (idle : (registry.moveOf tenant).leaving = none ∧ (registry.moveOf tenant).arriving = none)
    : Change seq registry (.releaseTenant fleetId tenant destination born)
      ({ registry with
          moves := registry.moves.insert tenant
            { registry.moveOf tenant with
              leaving := some destination
              born := if (registry.moveOf tenant).born.isEmpty then born
                else (registry.moveOf tenant).born } },
        .tenantReleased tenant destination)
  | adopted {fleetId : Nat} {tenant : TenantId} {hosted : HostedTenant} {source : Nat}
    {born : List NodeId} (ours : Ours registry fleetId tenant) (control : hosted.control ≠ 0)
    (set : source ≠ 0) (undropped : tenant ∉ registry.dropped)
    (fresh : registry.hosted[tenant]? = none)
    : Change seq registry (.adoptTenant fleetId tenant hosted source born)
      ({ registry with
          hosted := registry.hosted.insert tenant hosted
          moved := registry.moved.erase tenant
          moves := registry.moves.insert tenant
            { registry.moveOf tenant with leaving := none, arriving := some source, born := born } },
        .tenantAdopted tenant hosted.control source)
  | settled {fleetId : Nat} {tenant : TenantId} {record : TenantMove}
    (held : registry.moves[tenant]? = some record) (arriving : record.arriving.isSome)
    : Change seq registry (.settleTenant fleetId tenant)
      (registry.putMove tenant { record with arriving := none },
        .tenantSettled tenant ((record.peers.map MovePeers.cellId).getD 0))
  | peersSet {tenant : TenantId} {cell : Nat} {peers : List MovePeer} {event : RegistryEvent}
    (set : cell ≠ 0) (held : (registry.hosted[tenant]?).isSome) (silent : event.quiet)
    : Change seq registry (.movePeers tenant cell peers)
      (registry.putMove tenant
        { registry.moveOf tenant with
          peers := if peers.isEmpty then none else some ⟨cell, peers⟩ }, event)
  | movedOut {fleetId : Nat} {tenant : TenantId} {destination : Nat}
    (leaving : (registry.moveOf tenant).leaving = some destination)
    : Change seq registry (.movedTenant fleetId tenant destination)
      ({ registry with
          hosted := registry.hosted.erase tenant
          moves := registry.moves.erase tenant
          moved := registry.moved.insert tenant destination },
        .tenantMovedOut tenant destination)

-- Machines

variable {seq : Nat} {registry : Registry}

variable {id : NodeId}

/-- Keeping a machine where it is, and adding one that was unknown, keeps the machines. -/
theorem NodesKeep.insert {nodes : OrderedMap NodeId RegisteredNode} {node : RegisteredNode}
    (keeps : ∀ held, nodes[id]? = some held → held.Keeps node)
    : NodesKeep nodes (nodes.insert id node) := by
  intro other held found
  rw [getElem?_insert]
  split_ifs with same
  · subst same
    exact ⟨node, rfl, keeps held found⟩
  · exact ⟨held, found, .refl held⟩

theorem NodesKeep.refl (nodes : OrderedMap NodeId RegisteredNode) : NodesKeep nodes nodes :=
  fun _ held found => ⟨held, found, .refl held⟩

variable {incarnation : Nat}

theorem register_change {addr : Text} {nodeClass : Class}
    {machineInterface : Bytes} {locality : Locality} {name : Text}
    : Change seq registry
      (.registerNode id addr nodeClass locality name incarnation machineInterface)
      (registry.register id addr nodeClass incarnation machineInterface locality name) := by
  simp only [register]
  split
  case h_1 node held =>
    split_ifs with retired changed
    · exact .kept rfl
    · exact .kept rfl
    all_goals
      refine .machines _ _ _ (.insert fun other found => ?_) rfl
      cases held.symm.trans found
      refine ⟨Iff.rfl, fun role takes => ?_⟩
      simp only [Class.takes, Bool.or_eq_true, beq_iff_eq, not_and_or, not_not] at changed takes ⊢
      rcases changed with rfl | rfl
      · exact takes
      · exact .inl rfl
  case h_2 unknown =>
    exact .machines _ _ _ (.insert fun other found => by rw [unknown] at found; cases found) rfl

variable {request : Nat}

theorem setTags_change {tags : UserTags}
    : Change seq registry (.setMachineTags request id tags) (registry.setTags request id tags) := by
  fun_cases setTags registry request id tags
  case case3 node held =>
    refine .machines _ _ _ (.insert fun other found => ?_) rfl
    cases (Option.filter_eq_some_iff.mp held).1.symm.trans found
    exact ⟨Iff.rfl, fun _ takes => takes⟩
  all_goals exact .kept rfl

theorem drain_change
    : Change seq registry (.drainNode id) (registry.drain id) := by
  simp only [drain]
  split
  case h_1 node held =>
    obtain ⟨known, standing⟩ := Option.filter_eq_some_iff.mp held
    refine .machines _ _ _ (.insert fun other found => ?_) rfl
    cases known.symm.trans found
    simp only [Bool.decide_and, Bool.and_eq_true, decide_eq_true_eq] at standing
    exact ⟨by simp [standing.1], fun _ takes => takes⟩
  case h_2 => exact .kept rfl

theorem retire_change
    : Change seq registry (.retireNode id) (registry.retire id) := by
  simp only [retire]
  split
  case h_1 node held =>
    obtain ⟨known, standing⟩ := Option.filter_eq_some_iff.mp held
    exact .retired known (by simpa using standing)
  case h_2 => exact .kept rfl

theorem admitted_change
    : Change seq registry (.machineAdmitted id) (registry.admitted id) := by
  fun_cases admitted registry id
  case case3 node held fresh =>
    refine .machines _ _ _ (.insert fun other found => ?_) rfl
    cases (Option.filter_eq_some_iff.mp held).1.symm.trans found
    exact ⟨Iff.rfl, fun _ takes => takes⟩
  all_goals exact .kept rfl

theorem down_change
    : Change seq registry (.machineDown id incarnation) (registry.down id incarnation) := by
  fun_cases down registry id incarnation
  case case4 => exact .machines _ _ _ (.refl _) rfl
  all_goals exact .kept rfl

theorem up_change
    : Change seq registry (.machineUp id incarnation) (registry.up id incarnation) := by
  simp only [up]
  split_ifs
  · exact .kept rfl
  · exact .kept rfl
  · refine .machines _ _ _ (fun other node found => ?_) rfl
    rw [Std.ExtTreeMap.getElem?_modify]
    split_ifs with same
    · cases compare_eq_iff_eq.mp same
      rw [found]
      exact ⟨_, rfl, Iff.rfl, fun _ takes => takes⟩
    · exact ⟨node, found, .refl node⟩

theorem judge_change {command : SystemCommand}
    {holds : Liveness → Bool} {judged : Liveness} {event : RegistryEvent}
    (silent : event.quiet)
    : Change seq registry command (registry.judge id incarnation holds judged event) := by
  fun_cases judge registry id incarnation holds judged event
  case case4 => exact .machines _ _ _ (.refl _) silent
  all_goals exact .kept rfl

theorem slow_change {judgement : Bool} {facts : SlowFacts}
    : Change seq registry (.machineSlow id incarnation judgement facts)
      (registry.slow id incarnation judgement) := by
  rw [slow]
  exact judge_change rfl

theorem space_change {low : Bool} {freeBytes : Nat}
    : Change seq registry (.machineSpace id incarnation low freeBytes)
      (registry.space id incarnation low) := by
  rw [space]
  exact judge_change rfl

theorem openMaintenance_change {scope : MaintenanceScope} {forMs : Nat}
    : Change seq registry (.maintenance scope forMs)
      (registry.openMaintenance seq scope forMs) := by
  fun_cases openMaintenance registry seq scope forMs
  case case2 => exact .closed
  case case4 known ended => exact .opened ended
  all_goals exact .kept rfl

-- The control plane and the balancer

theorem setControlPlane_change {mode : ControlPlaneMode}
    : Change seq registry (.setControlPlane request mode)
      (registry.setControlPlane request mode) := by
  fun_cases setControlPlane registry request mode
  case case4 => exact .controlPlane
  all_goals exact .kept rfl

theorem setBalance_change {paused : Bool}
    : Change seq registry (.setBalance request paused) (registry.setBalance request paused) := by
  fun_cases setBalance registry request paused
  case case2 balance applied => exact .balanceSet applied
  all_goals exact .kept rfl

variable {booking : Nat}

theorem startBalance_change {journal : JournalIdentifier}
    {source destination : NodeId} {reason : BalanceReason}
    : Change seq registry (.balanceStarted booking journal source destination reason)
      (registry.startBalance ⟨booking, journal, source, destination, reason, seq⟩) := by
  simp only [startBalance]
  split_ifs with refused
  · exact .kept rfl
  · simp only [not_or, Bool.not_eq_true, Option.isSome_eq_false_iff, Option.isNone_iff_eq_none,
      Bool.not_eq_false'] at refused
    exact .balanceStarted refused.1 refused.2.1 refused.2.2

theorem abandonBalance_change
    : Change seq registry (.balanceAbandoned booking) (registry.abandonBalance seq booking) := by
  simp only [abandonBalance]
  split
  case h_1 balance finished => exact .balanceAbandoned finished
  case h_2 => exact .kept rfl

-- Capacity

@[simp]
theorem anyBooking_iff {asked : Booking → Bool}
    : registry.anyBooking asked = true
      ↔ ∃ (id : Nat) (booking : Booking), registry.bookings[id]? = some booking
        ∧ asked booking := by
  simp only [anyBooking, List.any_eq_true, Prod.exists, mem_toList]

/-- A booking is recorded when it passes the checks, and is refused otherwise. -/
theorem book_cases (registry : Registry) (slot : Slot)
    : (Bookable registry slot ∧ registry.book slot = (registry.place slot, .booked slot))
      ∨ ∃ reason, registry.book slot = (registry, .refused reason) := by
  by_cases taken : slot.booking ∈ registry.spent
  · exact .inr ⟨_, by rw [book, if_pos taken]⟩
  · rw [book, if_neg taken]
    split
    case h_1 => exact .inr ⟨_, rfl⟩
    case h_2 node held =>
      obtain ⟨known, standing⟩ := Option.filter_eq_some_iff.mp held
      split_ifs with refused repeated
      · exact .inr ⟨_, rfl⟩
      · exact .inr ⟨_, rfl⟩
      · refine .inl ⟨⟨taken, ⟨node, known, by simpa using standing, by simpa using refused⟩, ?_⟩, rfl⟩
        intro role id booking live same
        subst same
        exact repeated ⟨by simpa using role, anyBooking_iff.mpr ⟨id, _, live, by simp⟩⟩

variable {slot : Slot}

theorem book_change
    : Change seq registry (.bookCapacity slot) (registry.book slot) := by
  rcases book_cases registry slot with ⟨bookable, same⟩ | ⟨reason, same⟩
  · exact same ▸ .booked bookable
  · exact same ▸ .kept rfl

theorem releaseCapacity_change
    : Change seq registry (.releaseCapacity booking) (registry.releaseCapacity seq booking) := by
  simp only [releaseCapacity]
  split
  case h_1 held live => exact .released live
  case h_2 => exact .kept rfl

/-- Taking back a slot that was just recorded gives the registry back. -/
theorem undo_place (fresh : slot.booking ∉ registry.spent)
    (free : registry.bookings[slot.booking]? = none)
    : (registry.place slot).undo slot.booking = registry := by
  have bookings : (registry.bookings.insert slot.booking ⟨slot.node, slot.role, slot.target⟩).erase
      slot.booking = registry.bookings := by
    ext1 id
    rw [getElem?_erase, getElem?_insert]
    split_ifs with same
    · rw [← same, free]
    · rfl
  simp only [undo, place, bookings, Finset.erase_insert fresh]

theorem undo_place_comm (other : slot.booking ≠ booking)
    : (registry.place slot).undo booking = (registry.undo booking).place slot := by
  have bookings : (registry.bookings.insert slot.booking ⟨slot.node, slot.role, slot.target⟩).erase
        booking
      = (registry.bookings.erase booking).insert slot.booking
          ⟨slot.node, slot.role, slot.target⟩ := by
    ext1 id
    simp only [getElem?_erase, getElem?_insert]
    split_ifs <;> simp_all
  simp only [undo, place, bookings, Finset.erase_insert_of_ne other]

theorem undo_all_place {booked : List Nat} (other : slot.booking ∉ booked)
    : booked.foldl undo (registry.place slot) = (booked.foldl undo registry).place slot := by
  induction booked generalizing registry with
  | nil => rfl
  | cons booking rest ih =>
    simp only [List.mem_cons, not_or] at other
    rw [List.foldl_cons, undo_place_comm other.1, ih other.2, List.foldl_cons]

/-- Every live booking's id is spent. -/
def LiveSpent (registry : Registry) : Prop :=
  ∀ (id : Nat) (booking : Booking), registry.bookings[id]? = some booking → id ∈ registry.spent

/-- A grant that is refused part way leaves the registry it started on. -/
theorem bookSlots_error {base : Registry} {booked : List Nat} {slots : List Slot}
    {refused : Registry × RegistryEvent} (live : LiveSpent base)
    (undone : booked.foldl undo registry = base) (spent : ∀ id ∈ booked, id ∈ registry.spent)
    (kept : base.spent ⊆ registry.spent)
    (error : registry.bookSlots booked slots = .error refused)
    : ∃ reason, refused = (base, .refused reason) := by
  induction slots generalizing registry booked with
  | nil => cases error
  | cons slot rest ih =>
    simp only [bookSlots] at error
    rcases book_cases registry slot with ⟨bookable, same⟩ | ⟨reason, same⟩
    · rw [same] at error
      have other : slot.booking ∉ booked := fun member => bookable.fresh (spent _ member)
      have fresh : slot.booking ∉ base.spent := fun member => bookable.fresh (kept member)
      have free : base.bookings[slot.booking]? = none := by
        by_contra held
        obtain ⟨booking, found⟩ := Option.ne_none_iff_exists'.mp held
        exact fresh (live _ _ found)
      refine ih ?_ ?_ ?_ error
      · rw [List.foldl_append, undo_all_place other, undone]
        exact undo_place fresh free
      · intro id member
        rcases List.mem_append.mp member with inside | last
        · exact Finset.mem_insert_of_mem (spent id inside)
        · rw [List.mem_singleton.mp last]
          exact Finset.mem_insert_self _ _
      · exact kept.trans (Finset.subset_insert _ _)
    · rw [same] at error
      cases error
      exact ⟨reason, by rw [undone]⟩

/-- A grant that is not refused records every slot. -/
theorem bookSlots_ok {booked ids : List Nat} {slots : List Slot} {after : Registry}
    (ok : registry.bookSlots booked slots = .ok (after, ids))
    : Books registry slots after ∧ ids = booked ++ slots.map Slot.booking := by
  induction slots generalizing registry booked with
  | nil =>
    cases ok
    exact ⟨.nil, by simp⟩
  | cons slot rest ih =>
    simp only [bookSlots] at ok
    rcases book_cases registry slot with ⟨bookable, same⟩ | ⟨reason, same⟩
    · rw [same] at ok
      obtain ⟨books, rfl⟩ := ih ok
      exact ⟨.cons bookable books, by simp⟩
    · rw [same] at ok
      cases ok

variable {tenant : TenantId}

theorem grant_change {key : GrantKey} {slots : Option (List Slot)} (live : LiveSpent registry)
    : Change seq registry (.grantCapacity key tenant slots) (registry.grant key tenant slots) := by
  fun_cases grant registry key tenant slots
  case case3 malformed recorded =>
    exact .grantRefused (by simpa using recorded) (by simpa using (not_or.mp malformed).2)
  case case5 slots foreign refused error =>
    obtain ⟨reason, rfl⟩ := bookSlots_error live rfl (by simp) (by simp) error
    exact .kept rfl
  case case6 malformed recorded slots foreign after booked ok =>
    obtain ⟨books, rfl⟩ := bookSlots_ok ok
    refine .granted (by simpa using recorded) (by simpa using (not_or.mp malformed).2)
      (fun slot member => ?_) books
    simp only [List.any_eq_true, not_or, not_exists, not_and, decide_eq_true_eq, not_not] at foreign
    exact foreign.2 slot member
  all_goals exact .kept rfl

-- The fleet and its tenants

theorem joinFleet_change {joined : FleetRegistration} {pointer : Option UniversePointer}
    : Change seq registry (.joinFleet joined pointer) (registry.joinFleet joined pointer) := by
  fun_cases joinFleet registry joined pointer
  case case3 named spoken alone => exact .joined (not_or.mp named) alone
  case case4 inFleet _ _ => exact .repointed (by simp [inFleet])
  all_goals exact .kept rfl

variable {fleetId : Nat}

/-- A command of the fleet that is looked at is of the cell's own fleet. -/
theorem moveFleet_eq_none (passed : registry.moveFleet fleetId tenant = none)
    : Ours registry fleetId tenant := by
  simp only [moveFleet] at passed
  split_ifs at passed with other unset
  simp only [Bool.not_eq_true', Bool.not_eq_false, Option.any_eq_true, decide_eq_true_eq]
    at other
  exact ⟨other, by simpa [TenantId.isSet] using unset⟩

theorem hostTenant_change {hosted : HostedTenant}
    : Change seq registry (.hostTenant fleetId tenant hosted)
      (registry.hostTenant fleetId tenant hosted) := by
  fun_cases hostTenant registry fleetId tenant hosted
  case case7 passed formed dropped held granted booked =>
    exact .hosted (moveFleet_eq_none passed)
      (by simpa [JournalId.isSet] using (not_or.mp formed).1) dropped (by simpa using held)
  all_goals exact .kept rfl

theorem dropTenant_change
    : Change seq registry (.dropTenant fleetId tenant) (registry.dropTenant fleetId tenant) := by
  simp only [dropTenant]
  split
  case h_1 => exact .kept rfl
  case h_2 passed =>
    refine .dropped (moveFleet_eq_none passed) ?_
    split_ifs with already
    · exact .inr ⟨already, rfl⟩
    · exact .inl rfl

theorem releaseTenant_change {destination : Nat} {born : List NodeId}
    : Change seq registry (.releaseTenant fleetId tenant destination born)
      (registry.releaseTenant fleetId tenant destination born) := by
  fun_cases releaseTenant registry fleetId tenant destination born
  case case6 passed record formed known other idle =>
    exact .tenantReleased (moveFleet_eq_none passed) (not_or.mp formed).1
      (by simpa [Option.isSome_iff_ne_none] using known) (by simpa [not_or] using idle)
  all_goals exact .kept rfl

theorem adoptTenant_change {hosted : HostedTenant} {source : Nat} {born : List NodeId}
    : Change seq registry (.adoptTenant fleetId tenant hosted source born)
      (registry.adoptTenant fleetId tenant hosted source born) := by
  fun_cases adoptTenant registry fleetId tenant hosted source born
  case case6 passed formed dropped held granted =>
    simp only [not_or] at formed
    exact .adopted (moveFleet_eq_none passed) (by simpa [JournalId.isSet] using formed.1) formed.2.1
      dropped (by simpa using held)
  all_goals exact .kept rfl

theorem settleTenant_change
    : Change seq registry (.settleTenant fleetId tenant)
      (registry.settleTenant fleetId tenant) := by
  fun_cases settleTenant registry fleetId tenant
  case case4 passed known record held =>
    obtain ⟨known, arriving⟩ := Option.filter_eq_some_iff.mp held
    exact .settled known arriving
  all_goals exact .kept rfl

theorem setMovePeers_change {cell : Nat} {peers : List MovePeer}
    : Change seq registry (.movePeers tenant cell peers)
      (registry.setMovePeers tenant cell peers) := by
  fun_cases setMovePeers registry tenant cell peers
  case case3 formed known wanted =>
    refine .peersSet (not_or.mp (not_or.mp formed).2).1 ?_ ?_
    · simpa [Option.isSome_iff_ne_none] using known
    · split_ifs <;> rfl
  all_goals exact .kept rfl

theorem movedTenant_change {destination : Nat}
    : Change seq registry (.movedTenant fleetId tenant destination)
      (registry.movedTenant fleetId tenant destination) := by
  fun_cases movedTenant registry fleetId tenant destination
  case case4 passed fresh staying => exact .movedOut (not_not.mp staying)
  all_goals exact .kept rfl

/-- Every command makes one of the changes. -/
theorem act_change (live : LiveSpent registry) (command : SystemCommand)
    : Change seq registry command (registry.act seq command) := by
  cases command with
  | registerNode => exact register_change
  | setMachineTags => exact setTags_change
  | setControlPlane => exact setControlPlane_change
  | setBalance => exact setBalance_change
  | balanceStarted => exact startBalance_change
  | balanceAbandoned => exact abandonBalance_change
  | drainNode => exact drain_change
  | retireNode => exact retire_change
  | bookCapacity => exact book_change
  | machineDown => exact down_change
  | machineUp => exact up_change
  | machineSlow => exact slow_change
  | machineSpace => exact space_change
  | machineAdmitted => exact admitted_change
  | maintenance => exact openMaintenance_change
  | releaseCapacity => exact releaseCapacity_change
  | joinFleet => exact joinFleet_change
  | hostTenant => exact hostTenant_change
  | dropTenant => exact dropTenant_change
  | grantCapacity => exact grant_change live
  | releaseTenant => exact releaseTenant_change
  | adoptTenant => exact adoptTenant_change
  | settleTenant => exact settleTenant_change
  | movePeers => exact setMovePeers_change
  | movedTenant => exact movedTenant_change

end Registry

end Paros
