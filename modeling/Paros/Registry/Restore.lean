import Paros.Registry.Invariant

/-! A registry written to a checkpoint and read back: every record is read as it was, and the only
rule a restore may refuse a reached registry for is that a tenant is hosted and moved out at once.
-/

namespace Paros

open OrderedMap

-- Records

@[simp]
theorem incarnation_read_back (incarnation : Nat)
    : incarnationFromHalves (incarnationHalves incarnation).1 (incarnationHalves incarnation).2
      = incarnation := by
  simp only [incarnationFromHalves, incarnationHalves]
  omega

theorem Role.parse_text (role : Role) : Role.parse role.text = .ok role := by
  cases role <;> rfl

theorem NodeStanding.fromWire_toWire (standing : NodeStanding)
    : fromWire standing.toWire = .ok standing := by
  cases standing <;> rfl

theorem Survives.fromWire_toWire (survives : Survives)
    : fromWire survives.toWire = .ok survives := by
  cases survives <;> rfl

theorem BalanceReason.parse_text (reason : BalanceReason) : parse reason.text = .ok reason := by
  cases reason <;> rfl

theorem nodeFromWire_nodeToWire (id : NodeId) (node : RegisteredNode)
    : nodeFromWire (nodeToWire (id, node)) = .ok (id, node) := by
  simp only [nodeFromWire, nodeToWire, node.tags_read_back, tagged]
  simp [NodeStanding.fromWire_toWire, bind, Except.bind, pure, Except.pure]

theorem bookingFromWire_bookingToWire {spent : Finset Nat} {id : Nat} {booking : Booking}
    (held : id ∈ spent) (named : booking.target.Named)
    : bookingFromWire spent (bookingToWire (id, booking)) = .ok (id, booking) := by
  simp only [BookingTarget.Named] at named
  simp [bookingFromWire, bookingToWire, Slot.toWire, Slot.fromWire, Role.parse_text, named, held,
    bind, Except.bind, pure, Except.pure]

theorem livenessFromWire_livenessToWire (id : NodeId) (held : Liveness)
    : livenessFromWire (livenessToWire (id, held)) = (id, held) := by
  simp [livenessFromWire, livenessToWire]

theorem hostedFromWire_hostedToWire {tenant : TenantId} {hosted : HostedTenant}
    (control : hosted.control ≠ 0)
    : hostedFromWire (hostedToWire (tenant, hosted)) = .ok (tenant, hosted) := by
  simp [hostedFromWire, hostedToWire, control, Survives.fromWire_toWire, bind, Except.bind, pure,
    Except.pure]

theorem setId_getD {id : Option Nat} (set : id ≠ some 0) : setId (id.getD 0) = id := by
  cases id <;> simp_all [setId]

/-- A move's peers are read back with their cell. -/
theorem movePeers_read_back {peers : Option MovePeers}
    (fit : ∀ held, peers = some held
      → held.cellId ≠ 0 ∧ held.peers ≠ [] ∧ MovePeer.Listed held.peers)
    : ∃ read, MovePeer.peersFromWire
          ((peers.map fun held => held.peers.map MovePeer.toWire).getD []) = .ok read
        ∧ movePeersFromWire ((peers.map MovePeers.cellId).getD 0) read = .ok peers := by
  cases peers with
  | none => exact ⟨[], by simp [MovePeer.peersFromWire, MovePeer.dedupById]; rfl, rfl⟩
  | some held =>
    obtain ⟨cell, nonempty, listed⟩ := fit held rfl
    obtain ⟨cellId, list⟩ := held
    refine ⟨list, listed, ?_⟩
    cases cellId with
    | zero => exact absurd rfl cell
    | succ cellId =>
      cases list with
      | nil => exact absurd rfl nonempty
      | cons peer rest => rfl

theorem moveFromWire_moveToWire {tenant : TenantId} {move : TenantMove} (set : tenant ≠ 0)
    (some : move.isEmpty = false) (fits : move.Fits)
    : moveFromWire (moveToWire (tenant, move)) = .ok (tenant, move) := by
  obtain ⟨read, listed, paired⟩ := movePeers_read_back fits.peers
  simp only [moveFromWire, moveToWire, set, if_false, listed, paired, setId_getD fits.leaving,
    setId_getD fits.arriving, bind, Except.bind, some, Bool.false_eq_true, false_or, fits.oneWay]
  rfl

theorem movedFromWire_movedToWire {tenant : TenantId} {destination : Nat} (set : tenant ≠ 0)
    (named : destination ≠ 0)
    : movedFromWire (movedToWire (tenant, destination)) = .ok (tenant, destination) := by
  simp [movedFromWire, movedToWire, set, named]

theorem maintenanceFromWire_maintenanceToWire {coversUpTo : Nat} {scope : MaintenanceScope}
    {window : MaintenanceWindow} (named : scope.Named) (lasting : window.forMs ≠ 0)
    (past : window.seq ≤ coversUpTo)
    : maintenanceFromWire coversUpTo (maintenanceToWire (scope, window)) = .ok (scope, window) := by
  simp only [MaintenanceScope.Named] at named
  simp [maintenanceFromWire, maintenanceToWire, lasting, not_lt.mpr past, named, bind, Except.bind,
    pure, Except.pure]

/-- A window that is read at all is read as it was. -/
theorem maintenanceFromWire_eq {coversUpTo : Nat}
    {scope : MaintenanceScope} {window : MaintenanceWindow}
    {got : MaintenanceScope × MaintenanceWindow} (named : scope.Named)
    (ok : maintenanceFromWire coversUpTo (maintenanceToWire (scope, window)) = .ok got)
    : got = (scope, window) ∧ window.seq ≤ coversUpTo := by
  simp only [MaintenanceScope.Named] at named
  simp only [maintenanceFromWire, maintenanceToWire, named, bind, Except.bind, pure,
    Except.pure] at ok
  split_ifs at ok with refused
  cases ok
  exact ⟨rfl, not_lt.mp (not_or.mp refused).2⟩

theorem grantFromWire_grantToWire {spent : Finset Nat} {key : GrantKey} {grant : Grant}
    (keyed : Registry.grantKeyed key grant.tenant)
    (booked : ∀ ids, grant.bookings = some ids → ∀ id ∈ ids, id ∈ spent)
    : grantFromWire spent (grantToWire (key, grant)) = .ok (key, grant) := by
  obtain ⟨tenant, bookings⟩ := grant
  have known : ∀ id ∈ bookings.getD [], id ∈ spent := by
    cases bookings with
    | none => simp
    | some ids => exact booked ids rfl
  have read : grantKeyFromWire (grantToWire (key, ⟨tenant, bookings⟩)) = .ok key := by
    cases key with
    | footprint owner =>
      simp only [Registry.grantKeyed, decide_eq_true_eq] at keyed
      cases keyed
      rfl
    | request request =>
      cases request with
      | zero => simp [Registry.grantKeyed] at keyed
      | succ request => rfl
  have held : grantToWire (key, ⟨tenant, bookings⟩)
      = { grantToWire (key, ⟨tenant, bookings⟩) with
          tenant := tenant, refused := bookings.isNone, bookings := bookings.getD [] } := by
    cases key <;> cases bookings <;> rfl
  rw [grantFromWire, read, held]
  cases bookings with
  | none => rfl
  | some ids => simpa [bind, Except.bind, pure, Except.pure] using known

-- The balancer's state

theorem BalanceMove.inFlight_read_back {moved : BalanceMove}
    (apart : moved.source ≠ moved.destination)
    : inFlightFromWire (moved.toWire none) = .ok moved := by
  simp [inFlightFromWire, fromWire, toWire, BalanceReason.parse_text, apart, bind, Except.bind,
    pure, Except.pure]

theorem EndedMove.read_back {record : EndedMove}
    (apart : record.moved.source ≠ record.moved.destination) (late : record.position ≠ 0)
    : fromWire (record.moved.toWire (some (record.outcome, record.position))) = .ok record := by
  obtain ⟨moved, outcome, position⟩ := record
  cases position with
  | zero => exact absurd rfl late
  | succ position =>
    cases outcome <;>
      simp [fromWire, BalanceMove.fromWire, BalanceMove.toWire, BalanceReason.parse_text, apart,
        bind, Except.bind, pure, Except.pure]

theorem Balanced.read_back {balance : BalanceState} {next : Nat} (ok : Balanced balance next)
    : (balance.toWire.mapM BalanceState.fromWire).map (fun read => read.getD .default)
      = .ok balance := by
  by_cases empty : balance.isEmpty = true
  · have same : balance = .default := by simpa [BalanceState.isEmpty] using empty
    rw [same]
    rfl
  · have moving : (balance.moving.map (·.toWire none)).mapM BalanceMove.inFlightFromWire
        = .ok balance.moving := by
      cases held : balance.moving with
      | none => rfl
      | some moved =>
        simp [BalanceMove.inFlight_read_back (ok.moving moved held).1, Option.mapM, Functor.map, Except.map]
    have ended : (balance.ended.map fun record =>
        record.moved.toWire (some (record.outcome, record.position))).mapM EndedMove.fromWire
          = .ok balance.ended :=
      List.mapM_map_ok fun record member =>
        EndedMove.read_back (ok.ended record member).1 (ok.ended record member).2
    have read : BalanceState.fromWire ⟨balance.paused, balance.requests.ascending,
        balance.moving.map (·.toWire none), balance.ended.map fun record =>
          record.moved.toWire (some (record.outcome, record.position))⟩ = .ok balance := by
      simp only [BalanceState.fromWire, moving, ended]
      simp [not_lt.mpr ok.few, bind, Except.bind, pure, Except.pure]
    simp only [BalanceState.toWire, empty]
    simp [Option.mapM, read, Functor.map, Except.map]

-- The whole registry

namespace Registry

variable {codec : SystemCodec} {registry receiver : Registry} {coversUpTo : Nat}

theorem fleetFromWire_read_back {fleet : Option FleetRegistration}
    (named : ∀ joined, fleet = some joined → joined.fleetId ≠ 0 ∧ joined.cellId ≠ 0)
    : fleetFromWire ((fleet.map FleetRegistration.fleetId).getD 0)
        ((fleet.map FleetRegistration.cellId).getD 0)
        ((fleet.map FleetRegistration.version).getD 0) = .ok fleet := by
  cases fleet with
  | none => rfl
  | some joined =>
    obtain ⟨fleetId, cellId, version⟩ := joined
    obtain ⟨fleetSet, cellSet⟩ := named _ rfl
    cases fleetId with
    | zero => exact absurd rfl fleetSet
    | succ fleetId =>
      cases cellId with
      | zero => exact absurd rfl cellSet
      | succ cellId => rfl

theorem controlPlane_read_back {mode : Option ControlPlaneMode}
    (narrow : ∀ held, mode = some held → held.failures ≤ ControlPlaneMode.maxFailures)
    : (mode.map fun held => (⟨held.isAuto, held.failures⟩ : Wire.ControlPlaneState)).mapM
        (fun plane => controlPlaneFromWire plane.auto plane.failures) = .ok mode := by
  cases mode with
  | none => rfl
  | some held =>
    have read : controlPlaneFromWire held.isAuto held.failures = .ok held := by
      rw [controlPlaneFromWire, if_neg (not_lt.mpr (narrow held rfl))]
      cases held <;> rfl
    simp [Option.mapM, read, Functor.map, Except.map]

theorem liveness_read_back (liveness : OrderedMap NodeId Liveness)
    : Std.ExtTreeMap.ofList ((liveness.toList.map livenessToWire).map livenessFromWire)
      = liveness := by
  have same : (liveness.toList.map livenessToWire).map livenessFromWire = liveness.toList := by
    rw [List.map_map]
    exact List.map_id'' (fun entry => livenessFromWire_livenessToWire entry.1 entry.2) _
  rw [same]
  exact OrderedMap.ofList_toList liveness

theorem tenantsStand_of_sound (ok : Sound codec registry)
    : tenantsStand registry.fleet registry.hosted registry.dropped = true := by
  simp only [tenantsStand, Bool.and_eq_true, Bool.or_eq_true, List.all_eq_true, decide_eq_true_eq,
    Finset.mem_ascending]
  refine ⟨⟨fun tenant member => ?_, fun tenant member => ?_⟩, ?_⟩
  · obtain ⟨held, found⟩ := mem_iff_getElem?.mp (Std.ExtTreeMap.mem_keys.mp member)
    obtain ⟨_, set, _, undropped⟩ := ok.tenants.hosts tenant held found
    exact ⟨by simpa [TenantId.isSet] using set, undropped⟩
  · simpa [TenantId.isSet] using (ok.tenants.drops tenant member).2
  · cases joined : registry.fleet with
    | some fleet => exact .inl rfl
    | none =>
      refine .inr ⟨?_, ?_⟩
      · refine Std.ExtTreeMap.isEmpty_iff.mpr (Std.ExtTreeMap.ext_getElem? fun tenant => ?_)
        rw [Std.ExtTreeMap.getElem?_empty]
        by_contra hosts
        obtain ⟨held, found⟩ := Option.ne_none_iff_exists'.mp hosts
        have inFleet := (ok.tenants.hosts tenant held found).1
        rw [joined] at inFleet
        cases inFleet
      · refine Finset.eq_empty_of_forall_notMem fun tenant member => ?_
        have inFleet := (ok.tenants.drops tenant member).1
        rw [joined] at inFleet
        cases inFleet

/-- What a restore makes of the checkpoint of a sound registry: it refuses tenants that are hosted
and moved out at once and a window recorded past the position it covers, and nothing else.
-/
theorem ofWire_stateToWire (ok : Sound codec registry)
    : receiver.ofWire codec coversUpTo registry.stateToWire
      = if movesStand registry.hosted registry.dropped registry.moves registry.moved then
          (readAll (maintenanceFromWire coversUpTo)
              (registry.maintenance.toList.map maintenanceToWire)).map fun maintenance =>
            { registry with
              nodes := registry.nodes ∪ receiver.seeded registry.nodes
              maintenance := maintenance
              nextSeq := coversUpTo + 1 }
        else .error "a registry state moves a tenant it cannot" := by
  have nodes : readAll nodeFromWire (registry.nodes.toList.map nodeToWire)
      = .ok registry.nodes :=
    readAll_toList fun id node _ => nodeFromWire_nodeToWire id node
  have bookings : readAll (bookingFromWire registry.spent)
      (registry.bookings.toList.map bookingToWire) = .ok registry.bookings :=
    readAll_toList fun id booking held =>
      bookingFromWire_bookingToWire (ok.capacity.live id booking held)
        (ok.capacity.named id booking held)
  have hosted : readAll hostedFromWire (registry.hosted.toList.map hostedToWire)
      = .ok registry.hosted :=
    readAll_toList fun tenant host held =>
      hostedFromWire_hostedToWire (ok.tenants.hosts tenant host held).2.2.1
  have moves : readAll moveFromWire (registry.moves.toList.map moveToWire)
      = .ok registry.moves := by
    refine readAll_toList fun tenant move held => ?_
    obtain ⟨hosts, some, fits⟩ := ok.tenants.opens tenant move held
    obtain ⟨host, found⟩ := Option.isSome_iff_exists.mp hosts
    exact moveFromWire_moveToWire (ok.tenants.hosts tenant host found).2.1 some fits
  have moved : readAll movedFromWire (registry.moved.toList.map movedToWire)
      = .ok registry.moved :=
    readAll_toList fun tenant destination held =>
      let ⟨set, named, _⟩ := ok.tenants.leaves tenant destination held
      movedFromWire_movedToWire set named
  have grants : readAll (grantFromWire registry.spent)
      (registry.grants.toList.map grantToWire) = .ok registry.grants :=
    readAll_toList fun key grant held =>
      grantFromWire_grantToWire (ok.capacity.grants key grant held).1
        (ok.capacity.grants key grant held).2
  have pointer := ok.fleeted.reads
  simp only [UniversePointer.Reads] at pointer
  have joined : ¬(registry.pointer.isSome ∧ registry.fleet.isNone) := by
    rintro ⟨points, alone⟩
    have joined := ok.fleeted.joined points
    simp_all
  obtain ⟨balance, balanceRead, balanced⟩ := Except.map_eq_ok_iff.mp ok.balanced.read_back
  simp only [ofWire, stateToWire, nodes, bookings, hosted, moves, moved, grants, pointer,
    Finset.ascending_toFinset, fleetFromWire_read_back ok.fleeted.named,
    controlPlane_read_back ok.narrow, liveness_read_back, tenantsStand_of_sound ok, balanceRead,
    bind, Except.bind, joined, if_false, balanced]
  cases movesStand registry.hosted registry.dropped registry.moves registry.moved with
  | false => rfl
  | true =>
    cases readAll (maintenanceFromWire coversUpTo)
      (registry.maintenance.toList.map maintenanceToWire) <;> rfl

/-- No tenant is hosted and moved out at once. -/
def Parted (registry : Registry) : Prop :=
  ∀ tenant : TenantId, (registry.hosted[tenant]?).isSome → registry.moved[tenant]? = none

theorem movesStand_iff (ok : Sound codec registry)
    : movesStand registry.hosted registry.dropped registry.moves registry.moved = true
      ↔ registry.Parted := by
  simp only [movesStand, Bool.and_eq_true, List.all_eq_true, decide_eq_true_eq,
    Std.ExtTreeMap.mem_keys, mem_iff_getElem?]
  constructor
  · rintro ⟨_, out⟩ tenant hosts
    by_contra leaves
    obtain ⟨destination, found⟩ := Option.ne_none_iff_exists'.mp leaves
    have unhosted := (out tenant ⟨destination, found⟩).1
    simp_all
  · intro parted
    refine ⟨?_, ?_⟩
    · rintro tenant ⟨move, found⟩
      exact (ok.tenants.opens tenant move found).1
    · rintro tenant ⟨destination, found⟩
      refine ⟨?_, (ok.tenants.leaves tenant destination found).2.2⟩
      by_contra hosts
      rw [parted tenant (by simpa [Option.isSome_iff_ne_none] using hosts)] at found
      cases found

/-- A restore that succeeds gives the registry back, with the members its receiver was created
with.
-/
theorem restore_checkpoint_eq {restored : Registry} (ok : Sound codec registry)
    (done : receiver.restore codec coversUpTo (registry.checkpoint codec) = .ok restored)
    : restored = { registry with
        nodes := registry.nodes ∪ receiver.seeded registry.nodes
        nextSeq := coversUpTo + 1 }
      ∧ Windows registry.maintenance (coversUpTo + 1) := by
  simp only [restore, checkpoint, codec.decodeState_encodeState, ofWire_stateToWire ok] at done
  split_ifs at done
  obtain ⟨maintenance, read, rfl⟩ := Except.map_eq_ok_iff.mp done
  have named : ∀ (scope : MaintenanceScope) (window : MaintenanceWindow),
      registry.maintenance[scope]? = some window → scope.Named :=
    fun scope window held => (ok.windows.held scope window held).1
  have same : maintenance = registry.maintenance :=
    OrderedMap.readAll_toList_eq (fun scope window held got taken =>
      (maintenanceFromWire_eq (named scope window held) taken).1) read
  refine ⟨by rw [same], ⟨fun scope window held => ?_⟩⟩
  obtain ⟨got, taken⟩ := OrderedMap.exists_of_readAll_toList read held
  have past := (maintenanceFromWire_eq (named scope window held) taken).2
  obtain ⟨named, lasting, _⟩ := ok.windows.held scope window held
  exact ⟨named, lasting, Nat.lt_succ_of_le past⟩

/-- Restored at its last position into a registry of the same members, a checkpoint gives back the
registry it was made of exactly when no tenant is hosted and moved out at once.
-/
theorem restore_checkpoint_iff (ok : Sound codec registry) (last : registry.nextSeq = coversUpTo + 1)
    (seeded : receiver.seeded registry.nodes = ∅)
    : receiver.restore codec coversUpTo (registry.checkpoint codec) = .ok registry
      ↔ registry.Parted := by
  have windows : readAll (maintenanceFromWire coversUpTo)
      (registry.maintenance.toList.map maintenanceToWire) = .ok registry.maintenance := by
    refine readAll_toList fun scope window held => ?_
    obtain ⟨named, lasting, past⟩ := ok.windows.held scope window held
    exact maintenanceFromWire_maintenanceToWire named lasting (by omega)
  rw [← movesStand_iff ok]
  simp only [restore, checkpoint, codec.decodeState_encodeState, ofWire_stateToWire ok, windows,
    seeded, OrderedMap.union_empty, ← last]
  split_ifs with stands
  · exact iff_of_true rfl stands
  · exact iff_of_false (by simp) stands

end Registry

end Paros
