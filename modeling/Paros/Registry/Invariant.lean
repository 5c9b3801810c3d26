import Paros.Registry.Change

/-! What holds of every registry: its bookings are of spent ids and on machines that take them,
its tenants, moves and windows are as a restore asks, and what it recorded once stays recorded.
-/

namespace Paros

open OrderedMap

-- Invariants

/-- Live bookings are of spent ids, on machines that are there and take them, and no two of them
are of one role instance. What a grant booked is spent.
-/
structure Capacity (nodes : OrderedMap NodeId RegisteredNode) (bookings : OrderedMap Nat Booking)
    (spent : Finset Nat) (grants : OrderedMap GrantKey Grant) : Prop where
  live : ∀ (id : Nat) (booking : Booking), bookings[id]? = some booking → id ∈ spent
  named : ∀ (id : Nat) (booking : Booking), bookings[id]? = some booking → booking.target.Named
  placed : ∀ (id : Nat) (booking : Booking), bookings[id]? = some booking
    → ∃ node, nodes[booking.node]? = some node ∧ node.standing ≠ .retired
      ∧ node.nodeClass.takes booking.role.roleClass
  apart : ∀ (id other : Nat) (booking : Booking), bookings[id]? = some booking
    → bookings[other]? = some booking → booking.target.isTenant = false → id = other
  grants : ∀ (key : GrantKey) (grant : Grant), grants[key]? = some grant
    → Registry.grantKeyed key grant.tenant ∧ ∀ ids, grant.bookings = some ids → ∀ id ∈ ids, id ∈ spent

/-- A move record that can be written down. -/
structure TenantMove.Fits (move : TenantMove) : Prop where
  oneWay : ¬(move.leaving.isSome ∧ move.arriving.isSome)
  leaving : move.leaving ≠ some 0
  arriving : move.arriving ≠ some 0
  peers : ∀ held, move.peers = some held
    → held.cellId ≠ 0 ∧ held.peers ≠ [] ∧ MovePeer.Listed held.peers

/-- Tenants are hosted, dropped and moved by a cell of a fleet only, a dropped tenant is neither
hosted nor moved, and only a hosted one has an open move.
-/
structure Tenants (fleet : Option FleetRegistration) (hosted : OrderedMap TenantId HostedTenant)
    (dropped : Finset TenantId) (moves : OrderedMap TenantId TenantMove)
    (moved : OrderedMap TenantId Nat) : Prop where
  hosts : ∀ (tenant : TenantId) (held : HostedTenant), hosted[tenant]? = some held
    → fleet.isSome ∧ tenant ≠ 0 ∧ held.control ≠ 0 ∧ tenant ∉ dropped
  drops : ∀ tenant ∈ dropped, fleet.isSome ∧ tenant ≠ 0
  opens : ∀ (tenant : TenantId) (move : TenantMove), moves[tenant]? = some move
    → (hosted[tenant]?).isSome ∧ move.isEmpty = false ∧ move.Fits
  leaves : ∀ (tenant : TenantId) (destination : Nat), moved[tenant]? = some destination
    → tenant ≠ 0 ∧ destination ≠ 0 ∧ tenant ∉ dropped

structure Windows (maintenance : OrderedMap MaintenanceScope MaintenanceWindow) (next : Nat)
    : Prop where
  held : ∀ (scope : MaintenanceScope) (window : MaintenanceWindow),
    maintenance[scope]? = some window → scope.Named ∧ window.forMs ≠ 0 ∧ window.seq < next

/-- Balance moves change machines; one in flight was recorded, so it does not end at the first
position.
-/
structure Balanced (balance : BalanceState) (next : Nat) : Prop where
  moving : ∀ moved, balance.moving = some moved → moved.source ≠ moved.destination ∧ 0 < next
  ended : ∀ record ∈ balance.ended,
    record.moved.source ≠ record.moved.destination ∧ record.position ≠ 0
  few : balance.ended.length ≤ endedKept

structure Fleeted (codec : SystemCodec) (fleet : Option FleetRegistration)
    (pointer : Option UniversePointer) : Prop where
  named : ∀ joined, fleet = some joined → joined.fleetId ≠ 0 ∧ joined.cellId ≠ 0
  reads : UniversePointer.Reads codec pointer
  joined : pointer.isSome → fleet.isSome

structure Registry.Sound (codec : SystemCodec) (registry : Registry) : Prop where
  capacity : Capacity registry.nodes registry.bookings registry.spent registry.grants
  fleeted : Fleeted codec registry.fleet registry.pointer
  tenants : Tenants registry.fleet registry.hosted registry.dropped registry.moves registry.moved
  windows : Windows registry.maintenance registry.nextSeq
  balanced : Balanced registry.balance registry.nextSeq
  narrow : ∀ mode, registry.controlPlane = some mode → mode.failures ≤ ControlPlaneMode.maxFailures

-- Capacity

namespace Capacity

variable {nodes after : OrderedMap NodeId RegisteredNode} {bookings kept : OrderedMap Nat Booking}
  {spent : Finset Nat} {grants : OrderedMap GrantKey Grant}

theorem keep (ok : Capacity nodes bookings spent grants) (keeps : Registry.NodesKeep nodes after)
    : Capacity after bookings spent grants := by
  refine { ok with placed := fun id booking held => ?_ }
  obtain ⟨node, known, standing, takes⟩ := ok.placed id booking held
  obtain ⟨node', known', stays⟩ := keeps _ node known
  exact ⟨node', known', fun retired => standing (stays.retired.mp retired), stays.takes _ takes⟩

/-- Fewer live bookings are as good. -/
theorem lessen (ok : Capacity nodes bookings spent grants)
    (fewer : ∀ (id : Nat) (booking : Booking), kept[id]? = some booking → bookings[id]? = some booking)
    : Capacity nodes kept spent grants where
  live id booking held := ok.live id booking (fewer _ _ held)
  named id booking held := ok.named id booking (fewer _ _ held)
  placed id booking held := ok.placed id booking (fewer _ _ held)
  apart id other booking held held' := ok.apart id other booking (fewer _ _ held) (fewer _ _ held')
  grants := ok.grants

theorem place {registry : Registry} {slot : Slot}
    (ok : Capacity registry.nodes registry.bookings registry.spent registry.grants)
    (bookable : registry.Bookable slot) (named : slot.target.Named)
    : Capacity (registry.place slot).nodes (registry.place slot).bookings
        (registry.place slot).spent (registry.place slot).grants where
  live := forall_insert (fun id booking held => Finset.mem_insert_of_mem (ok.live id booking held))
    (Finset.mem_insert_self _ _)
  named := forall_insert ok.named named
  placed :=
    let ⟨node, known, standing, takes⟩ := bookable.placed
    forall_insert ok.placed ⟨node, known, by simp [standing], takes⟩
  apart id other booking held held' role := by
    simp only [Registry.place, getElem?_insert] at held held'
    split_ifs at held held' with same same'
    · exact same.symm.trans same'
    · cases held
      exact (bookable.alone role other _ held' rfl).elim
    · cases held'
      exact (bookable.alone role id _ held rfl).elim
    · exact ok.apart id other booking held held' role
  grants key grant held :=
    ⟨(ok.grants key grant held).1, fun ids booked id member =>
      Finset.mem_insert_of_mem ((ok.grants key grant held).2 ids booked id member)⟩

/-- Retiring a machine takes its bookings with it. -/
theorem retire {id : NodeId} {node : RegisteredNode} (ok : Capacity nodes bookings spent grants)
    : Capacity (nodes.insert id { node with standing := .retired })
        (bookings.filter fun _ booking => booking.node ≠ id) spent grants := by
  have kept : ∀ (key : Nat) (booking : Booking),
      (bookings.filter fun _ booking => booking.node ≠ id)[key]? = some booking
        → bookings[key]? = some booking ∧ booking.node ≠ id := by
    intro key booking held
    rw [Std.ExtTreeMap.getElem?_filter', Option.filter_eq_some_iff] at held
    exact ⟨held.1, by simpa using held.2⟩
  refine { ok.lessen fun key booking held => (kept key booking held).1 with
    placed := fun key booking held => ?_ }
  obtain ⟨live, elsewhere⟩ := kept key booking held
  rw [getElem?_insert, if_neg elsewhere.symm]
  exact ok.placed key booking live

theorem grant {key : GrantKey} (made : Grant) (ok : Capacity nodes bookings spent grants)
    (keyed : Registry.grantKeyed key made.tenant)
    (booked : ∀ ids, made.bookings = some ids → ∀ id ∈ ids, id ∈ spent)
    : Capacity nodes bookings spent (grants.insert key made) :=
  { ok with grants := forall_insert ok.grants ⟨keyed, booked⟩ }

end Capacity

namespace Registry.Books

variable {registry after : Registry} {slots : List Slot}

/-- Recording slots changes the bookings and the spent ids only. -/
theorem frame (books : Books registry slots after)
    : after = { registry with bookings := after.bookings, spent := after.spent } := by
  induction books with
  | nil => rfl
  | cons bookable books ih => exact ih

theorem capacity (books : Books registry slots after)
    (ok : Capacity registry.nodes registry.bookings registry.spent registry.grants)
    (named : ∀ slot ∈ slots, slot.target.Named)
    : Capacity after.nodes after.bookings after.spent after.grants := by
  induction books with
  | nil => exact ok
  | cons bookable books ih =>
    exact ih (ok.place bookable (named _ List.mem_cons_self))
      fun slot member => named slot (List.mem_cons_of_mem _ member)

/-- The ids recorded are fresh, each once, and are spent by it. -/
theorem spends (books : Books registry slots after)
    : (slots.map Slot.booking).Nodup ∧ (∀ id ∈ slots.map Slot.booking, id ∉ registry.spent)
      ∧ ∀ id, id ∈ after.spent ↔ id ∈ registry.spent ∨ id ∈ slots.map Slot.booking := by
  induction books with
  | nil => simp
  | cons bookable books ih =>
    obtain ⟨nodup, fresh, spent⟩ := ih
    simp only [place, Finset.mem_insert, not_or] at fresh spent
    refine ⟨List.nodup_cons.mpr ⟨fun member => (fresh _ member).1 rfl, nodup⟩, ?_, ?_⟩
    · intro id member
      rcases List.mem_cons.mp member with rfl | inside
      · exact bookable.fresh
      · exact (fresh id inside).2
    · intro id
      rw [spent, List.map_cons, List.mem_cons]
      tauto

end Registry.Books

-- Tenants

theorem TenantMove.default_fits : TenantMove.default.Fits :=
  ⟨by simp [TenantMove.default], by simp [TenantMove.default], by simp [TenantMove.default],
    by simp [TenantMove.default]⟩

namespace Tenants

variable {fleet : Option FleetRegistration} {hosted : OrderedMap TenantId HostedTenant}
  {dropped : Finset TenantId} {moves : OrderedMap TenantId TenantMove}
  {moved : OrderedMap TenantId Nat} {tenant : TenantId}

theorem join {joined : FleetRegistration} (ok : Tenants none hosted dropped moves moved)
    : Tenants (some joined) hosted dropped moves moved where
  hosts _ _ held := ⟨rfl, (ok.hosts _ _ held).2⟩
  drops _ member := ⟨rfl, (ok.drops _ member).2⟩
  opens := ok.opens
  leaves := ok.leaves

variable (ok : Tenants fleet hosted dropped moves moved)
include ok

theorem host {held : HostedTenant}
    (joined : fleet.isSome) (set : tenant ≠ 0) (control : held.control ≠ 0)
    (undropped : tenant ∉ dropped)
    : Tenants fleet (hosted.insert tenant held) dropped moves moved := by
  refine { ok with
    hosts := forall_insert ok.hosts ⟨joined, set, control, undropped⟩
    opens := fun other move found => ?_ }
  obtain ⟨hosts, fits⟩ := ok.opens other move found
  rw [getElem?_insert]
  split_ifs
  · exact ⟨rfl, fits⟩
  · exact ⟨hosts, fits⟩

/-- An open move of a hosted tenant, recorded or changed. -/
theorem put {record : TenantMove}
    (hosts : (hosted[tenant]?).isSome) (some : record.isEmpty = false) (fits : record.Fits)
    : Tenants fleet hosted dropped (moves.insert tenant record) moved :=
  { ok with opens := forall_insert ok.opens ⟨hosts, some, fits⟩ }

theorem erase_move : Tenants fleet hosted dropped (moves.erase tenant) moved :=
  { ok with opens := forall_erase ok.opens }

theorem erase_moved : Tenants fleet hosted dropped moves (moved.erase tenant) :=
  { ok with leaves := forall_erase ok.leaves }

/-- A tenant goes, and its open move with it. -/
theorem remove
    : Tenants fleet (hosted.erase tenant) dropped (moves.erase tenant) moved := by
  refine { ok with hosts := forall_erase ok.hosts, opens := fun other move found => ?_ }
  rw [getElem?_erase] at found ⊢
  split_ifs at found ⊢
  exact ok.opens other move found

theorem drop (joined : fleet.isSome) (set : tenant ≠ 0)
    : Tenants fleet (hosted.erase tenant) (insert tenant dropped) (moves.erase tenant)
        (moved.erase tenant) where
  hosts other held found := by
    obtain ⟨same, found⟩ := of_getElem?_erase found
    obtain ⟨joined, set, control, undropped⟩ := ok.hosts other held found
    exact ⟨joined, set, control, by simp [undropped, Ne.symm same]⟩
  drops other member := by
    rcases Finset.mem_insert.mp member with rfl | inside
    · exact ⟨joined, set⟩
    · exact ok.drops other inside
  opens := ok.remove.opens
  leaves other destination found := by
    obtain ⟨same, found⟩ := of_getElem?_erase found
    obtain ⟨set, named, undropped⟩ := ok.leaves other destination found
    exact ⟨set, named, by simp [undropped, Ne.symm same]⟩

theorem move_out {destination : Nat}
    (set : tenant ≠ 0) (named : destination ≠ 0) (undropped : tenant ∉ dropped)
    : Tenants fleet hosted dropped moves (moved.insert tenant destination) :=
  { ok with leaves := forall_insert ok.leaves ⟨set, named, undropped⟩ }

theorem unmoved (unhosted : hosted[tenant]? = none) : moves[tenant]? = none := by
  by_contra opens
  obtain ⟨move, found⟩ := Option.ne_none_iff_exists'.mp opens
  simpa [unhosted] using (ok.opens tenant move found).1

/-- A dropped tenant is nowhere. -/
theorem bare (member : tenant ∈ dropped)
    : hosted[tenant]? = none ∧ moves[tenant]? = none ∧ moved[tenant]? = none := by
  have unhosted : hosted[tenant]? = none := by
    by_contra hosts
    obtain ⟨host, found⟩ := Option.ne_none_iff_exists'.mp hosts
    exact (ok.hosts tenant host found).2.2.2 member
  refine ⟨unhosted, ok.unmoved unhosted, ?_⟩
  by_contra leaves
  obtain ⟨destination, found⟩ := Option.ne_none_iff_exists'.mp leaves
  exact (ok.leaves tenant destination found).2.2 member

end Tenants

-- Windows and balance moves

namespace Windows

variable {maintenance : OrderedMap MaintenanceScope MaintenanceWindow} {next : Nat}
  {scope : MaintenanceScope}

theorem advance {later : Nat} (ok : Windows maintenance next) (le : next ≤ later)
    : Windows maintenance later where
  held scope window found :=
    let ⟨named, lasting, past⟩ := ok.held scope window found
    ⟨named, lasting, past.trans_le le⟩

theorem erase (ok : Windows maintenance next) : Windows (maintenance.erase scope) next where
  held := forall_erase ok.held

theorem insert {opened : MaintenanceWindow} (ok : Windows maintenance next) (named : scope.Named)
    (lasting : opened.forMs ≠ 0) (past : opened.seq < next)
    : Windows (maintenance.insert scope opened) next where
  held := forall_insert ok.held ⟨named, lasting, past⟩

end Windows

namespace Balanced

variable {balance : BalanceState} {next : Nat}

variable (ok : Balanced balance next)
include ok

theorem advance {later : Nat} (le : next ≤ later)
    : Balanced balance later :=
  { ok with moving := fun moved found => ⟨(ok.moving moved found).1, (ok.moving moved found).2.trans_le le⟩ }

theorem set {request : Nat} {paused : Bool} {after : BalanceState}
    (applied : balance.set request paused = some after)
    : Balanced after next := by
  simp only [BalanceState.set] at applied
  split_ifs at applied
  cases applied
  exact ⟨ok.moving, ok.ended, ok.few⟩

theorem start {moved : BalanceMove} (apart : moved.source ≠ moved.destination) (recorded : 0 < next)
    : Balanced (balance.start moved) next :=
  ⟨fun other found => by cases found; exact ⟨apart, recorded⟩, ok.ended, ok.few⟩

theorem finish {booking position : Nat} {outcome : BalanceOutcome} {after : BalanceState}
    (late : balance.moving.isSome → position ≠ 0)
    (finished : balance.finish booking outcome position = some after)
    : Balanced after next := by
  obtain ⟨moved, found, rfl⟩ := Option.map_eq_some_iff.mp finished
  have moving := (Option.filter_eq_some_iff.mp found).1
  refine ⟨by simp, fun record member => ?_, by simp only [List.length_drop, endedKept]; omega⟩
  rcases List.mem_append.mp (List.mem_of_mem_drop member) with inside | last
  · exact ok.ended record inside
  · cases List.mem_singleton.mp last
    exact ⟨(ok.moving moved moving).1, late (by simp [moving])⟩

end Balanced

-- One command

namespace Registry

variable {codec : SystemCodec} {seq : Nat} {registry : Registry} {command : SystemCommand}
  {result : Registry × RegistryEvent}

theorem moveOf_fits (ok : Sound codec registry) (tenant : TenantId)
    : (registry.moveOf tenant).Fits := by
  simp only [moveOf]
  cases held : registry.moves[tenant]? with
  | none => exact TenantMove.default_fits
  | some move => exact (ok.tenants.opens tenant move held).2.2

theorem Sound.putMove {tenant : TenantId} {record : TenantMove} (ok : Sound codec registry)
    (hosts : (registry.hosted[tenant]?).isSome) (fits : record.Fits)
    : Sound codec (registry.putMove tenant record) := by
  refine { ok with tenants := ?_ }
  simp only [Registry.putMove]
  split_ifs with empty
  · exact ok.tenants.erase_move
  · exact ok.tenants.put hosts (by simpa using empty) fits

/-- Every change keeps a registry sound. A balance move in flight ends past the first position. -/
theorem Change.sound (change : Change seq registry command result) (ok : Sound codec registry)
    (read : command.Read codec) (position : registry.nextSeq = seq + 1)
    (late : registry.balance.moving.isSome → seq ≠ 0)
    : Sound codec result.1 := by
  cases change with
  | kept => exact ok
  | machines nodes liveness tagged keeps => exact { ok with capacity := ok.capacity.keep keeps }
  | retired => exact { ok with capacity := ok.capacity.retire, windows := ok.windows.erase }
  | closed => exact { ok with windows := ok.windows.erase }
  | opened lasting =>
    exact { ok with windows := ok.windows.insert read lasting (by simp only; omega) }
  | controlPlane =>
    refine { ok with narrow := fun mode found => ?_ }
    cases found
    exact read
  | balanceSet applied => exact { ok with balanced := ok.balanced.set applied }
  | balanceStarted running idle may =>
    simp only [movable, Bool.and_eq_true, bne_iff_ne] at may
    exact { ok with balanced := ok.balanced.start may.2 (by omega) }
  | balanceAbandoned finished => exact { ok with balanced := ok.balanced.finish late finished }
  | booked bookable => exact { ok with capacity := ok.capacity.place bookable read }
  | @released booking held live =>
    have fewer : Capacity registry.nodes (registry.bookings.erase booking) registry.spent
        registry.grants := by
      refine ok.capacity.lessen fun id booking found => ?_
      rw [getElem?_erase] at found
      split_ifs at found
      exact found
    refine { ok with capacity := fewer, balanced := ?_ }
    cases finished : registry.balance.finish booking .done seq with
    | none => exact ok.balanced
    | some balance => exact ok.balanced.finish late finished
  | grantRefused fresh keyed =>
    exact { ok with capacity := ok.capacity.grant _ keyed fun ids booked => by cases booked }
  | @granted key tenant slots after fresh keyed owned books =>
    have spends := books.spends.2.2
    have capacity := (books.capacity ok.capacity (read slots rfl)).grant
      ⟨tenant, some (slots.map Slot.booking)⟩
      keyed fun ids booked id member => (spends id).mpr (.inr (Option.some.inj booked ▸ member))
    rw [books.frame] at capacity ⊢
    exact { ok with capacity := capacity }
  | joined named alone =>
    exact { ok with
      fleeted := ⟨fun other found => by cases found; exact named, read, fun _ => rfl⟩
      tenants := (alone ▸ ok.tenants).join }
  | repointed inFleet =>
    exact { ok with fleeted := ⟨ok.fleeted.named, read, fun _ => inFleet⟩ }
  | hosted ours control undropped fresh =>
    obtain ⟨⟨fleet, inFleet, _⟩, set⟩ := ours
    exact { ok with tenants := ok.tenants.host (by simp [inFleet]) set control undropped }
  | dropped ours =>
    obtain ⟨⟨fleet, inFleet, _⟩, set⟩ := ours
    exact { ok with tenants := ok.tenants.drop (by simp [inFleet]) set }
  | @tenantReleased fleetId tenant destination born ours set held idle =>
    have fits := moveOf_fits ok tenant
    refine { ok with tenants := ok.tenants.put held rfl ⟨?_, ?_, fits.arriving, fits.peers⟩ }
    · simp [idle.2]
    · simpa using set
  | @adopted fleetId tenant hosted source born ours control set undropped fresh =>
    obtain ⟨⟨fleet, inFleet, _⟩, named⟩ := ours
    have hosts := ok.tenants.host (by simp [inFleet]) named control undropped
    refine { ok with tenants := (hosts.put (by simp) rfl ?_).erase_moved }
    exact ⟨by simp, by simp, by simpa using set, (moveOf_fits ok tenant).peers⟩
  | @settled fleetId tenant record held arriving =>
    obtain ⟨hosts, _, fits⟩ := ok.tenants.opens tenant record held
    exact ok.putMove hosts ⟨by simp, fits.leaving, by simp, fits.peers⟩
  | @peersSet tenant cell peers event set held silent =>
    have fits := moveOf_fits ok tenant
    refine ok.putMove held ⟨fits.oneWay, fits.leaving, fits.arriving, fun wanted found => ?_⟩
    simp only at found
    split_ifs at found with none
    cases found
    exact ⟨set, by simpa using none, read⟩
  | @movedOut fleetId tenant destination leaving =>
    have fits := moveOf_fits ok tenant
    have named : destination ≠ 0 := fun unset => fits.leaving (unset ▸ leaving)
    have held : (registry.moves[tenant]?).isSome := by
      cases found : registry.moves[tenant]? with
      | none => simp [moveOf, found, TenantMove.default] at leaving
      | some move => rfl
    obtain ⟨move, found⟩ := Option.isSome_iff_exists.mp held
    obtain ⟨host, hosts⟩ := Option.isSome_iff_exists.mp (ok.tenants.opens tenant move found).1
    obtain ⟨_, set, _, undropped⟩ := ok.tenants.hosts tenant host hosts
    exact { ok with tenants := ok.tenants.remove.move_out set named undropped }

end Registry

end Paros
