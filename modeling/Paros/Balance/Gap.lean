import Paros.Coordinator.Footprint

/-! The gap the cell's balancer closes next: of roles first, else of busyness. A move for busyness
is judged by its two machines alone, which bounds the roles of the zone only if no third machine
is at an extreme.
-/

namespace Paros

namespace Balance

-- The widest gap

/-- A machine as the balancer compares it. -/
structure Machine extends Footprint.Machine where
  zone : Text
  busy : Nat
  deriving DecidableEq, Repr

/-- The bounds of a machine balance. -/
structure Bounds where
  spread : Nat
  busySpread : Nat
  deriving DecidableEq, Repr

/-- A gap between two machines of one zone, each with its roles and its busyness. -/
structure Gap where
  zone : Text
  reason : BalanceReason
  source : NodeId × Nat × Nat
  destination : NodeId × Nat × Nat
  deriving DecidableEq, Repr

/-- The last machine of the greatest key. -/
def maxByKey {κ : Type} [LinearOrder κ] (key : Machine → κ) (members : List Machine)
    : Option Machine :=
  members.reverse.argmax key

/-- The first machine of the least key. -/
def minByKey {κ : Type} [LinearOrder κ] (key : Machine → κ) (members : List Machine)
    : Option Machine :=
  members.argmin key

/-- The machines that store, stay and are up. -/
def staying (machines : List Machine) (stays : NodeId → Bool) : List Machine :=
  machines.filter fun machine => machine.nodeClass.stores && machine.up && stays machine.node

/-- The machines of each zone, in order. -/
def zones (machines : List Machine) : OrderedMap Text (List Machine) :=
  machines.foldl
    (fun zones machine =>
      zones.insert machine.zone ((zones[machine.zone]?).getD [] ++ [machine])) ∅

def gap (zone : Text) (reason : BalanceReason) (source destination : Machine) : Gap :=
  ⟨zone, reason, (source.node, source.booked, source.busy),
    (destination.node, destination.booked, destination.busy)⟩

/-- The widest gaps so far, with their widths. -/
structure Widest where
  roles : Option (Nat × Gap)
  busy : Option (Nat × Gap)

/-- Compare one zone's extremes with the widest gaps so far. The lowest id breaks a tie. -/
def widen (bounds : Bounds) (found : Widest) (members : Text × List Machine) : Option Widest := do
  let zone := members.1
  let most ← maxByKey (fun machine => toLex (machine.booked, OrderDual.toDual machine.node)) members.2
  let least ← minByKey (fun machine => toLex (machine.booked, machine.node)) members.2
  let width := most.booked - least.booked
  let roles :=
    if bounds.spread < width ∧ found.roles.all (·.1 < width) then
      some (width, gap zone .roles most least)
    else found.roles
  let busiest ← maxByKey
    (fun machine => toLex (machine.busy, toLex (machine.booked, OrderDual.toDual machine.node))) members.2
  let idlest ← minByKey
    (fun machine => toLex (machine.busy, toLex (machine.booked, machine.node))) members.2
  let steps := busiest.busy - idlest.busy
  -- The idle machine takes one role off the busy one, and may not end above it by more than the
  -- spread. No other machine is looked at.
  let keepsRoles := idlest.booked + 2 ≤ busiest.booked + bounds.spread
  let busy :=
    if bounds.busySpread ≤ steps ∧ keepsRoles ∧ found.busy.all (·.1 < steps) then
      some (steps, gap zone .busy busiest idlest)
    else found.busy
  return ⟨roles, busy⟩

def widestGap (machines : List Machine) (stays : NodeId → Bool) (bounds : Bounds) : Option Gap :=
  ((zones (staying machines stays)).toList.foldlM (widen bounds) ⟨none, none⟩).bind fun found =>
    (found.roles.map Prod.snd).or (found.busy.map Prod.snd)

-- Zones

variable {machines : List Machine} {stays : NodeId → Bool} {bounds : Bounds}

theorem getD_zones (machines : List Machine) (zone : Text)
    : ((zones machines)[zone]?).getD [] = machines.filter (·.zone = zone) := by
  unfold zones
  induction machines using List.reverseRecOn with
  | nil => simp
  | append_singleton machines machine ih =>
    rw [List.foldl_append, List.filter_append]
    simp only [List.foldl_cons, List.foldl_nil, OrderedMap.getElem?_insert]
    by_cases same : machine.zone = zone
    · subst same
      simp [ih]
    · simp [same, ih]

theorem mem_zones {members : List Machine} {machine : Machine} {zone : Text}
    (listed : (zone, members) ∈ (zones machines).toList)
    : machine ∈ members ↔ machine ∈ machines ∧ machine.zone = zone := by
  have held := OrderedMap.mem_toList.mp listed
  have same := getD_zones machines zone
  rw [held, Option.getD_some] at same
  simp [same]

theorem exists_zone {machine : Machine} (member : machine ∈ machines)
    : ∃ members, (machine.zone, members) ∈ (zones machines).toList := by
  have same := getD_zones machines machine.zone
  cases held : (zones machines)[machine.zone]? with
  | some members => exact ⟨members, OrderedMap.mem_toList.mpr held⟩
  | none =>
    rw [held, Option.getD_none] at same
    have inside : machine ∈ machines.filter (·.zone = machine.zone) := by simpa using member
    exact absurd inside (same ▸ List.not_mem_nil)

-- What one zone adds

/-- Any two machines of a zone are within the spread. -/
def Within (spread : Nat) (members : List Machine) : Prop :=
  ∀ more ∈ members, ∀ fewer ∈ members, more.booked ≤ fewer.booked + spread

/-- A gap of busyness in a zone, as its two machines were judged. -/
structure BusyGap (bounds : Bounds) (members : Text × List Machine) (found : Gap)
    (busiest idlest : Machine) : Prop where
  named : found = gap members.1 .busy busiest idlest
  source : busiest ∈ members.2
  destination : idlest ∈ members.2
  keepsRoles : idlest.booked + 2 ≤ busiest.booked + bounds.spread

theorem most_booked {most machine : Machine} {members : List Machine}
    (isMost : maxByKey (fun machine => toLex (machine.booked, OrderDual.toDual machine.node)) members
      = some most) (member : machine ∈ members)
    : machine.booked ≤ most.booked := by
  have above := List.le_of_mem_argmax (List.mem_reverse.mpr member) isMost
  exact (Prod.Lex.toLex_le_toLex.mp above).elim le_of_lt fun same => same.1.le

theorem least_booked {least machine : Machine} {members : List Machine}
    (isLeast : minByKey (fun machine => toLex (machine.booked, machine.node)) members = some least)
    (member : machine ∈ members)
    : least.booked ≤ machine.booked := by
  have below := List.le_of_mem_argmin member isLeast
  exact (Prod.Lex.toLex_le_toLex.mp below).elim le_of_lt fun same => same.1.le

theorem widen_spec {found next : Widest} {members : Text × List Machine}
    (widened : widen bounds found members = some next)
    : (next.roles = none → found.roles = none ∧ Within bounds.spread members.2)
      ∧ (∀ width named, next.roles = some (width, named) → found.roles = some (width, named)
        ∨ ∃ most ∈ members.2, ∃ least ∈ members.2, named = gap members.1 .roles most least
          ∧ least.booked + bounds.spread < most.booked)
      ∧ ∀ steps gap, next.busy = some (steps, gap) → found.busy = some (steps, gap)
        ∨ ∃ busiest idlest, BusyGap bounds members gap busiest idlest
          ∧ bounds.busySpread ≤ busiest.busy := by
  simp only [widen, Option.bind_eq_bind, Option.bind_eq_some_iff, Option.pure_def,
    Option.some.injEq] at widened
  obtain ⟨most, isMost, least, isLeast, busiest, isBusiest, idlest, isIdlest, rfl⟩ := widened
  refine ⟨fun none => ?_, fun width named roles => ?_, fun steps gap busy => ?_⟩
  · dsimp only at none
    split_ifs at none with wider
    refine ⟨none, fun more isMore fewer isFewer => ?_⟩
    have narrow : ¬ bounds.spread < most.booked - least.booked :=
      fun wide => wider ⟨wide, by rw [none]; rfl⟩
    have upper := most_booked isMost isMore
    have lower := least_booked isLeast isFewer
    omega
  · dsimp only at roles
    split_ifs at roles with wider
    · obtain ⟨-, rfl⟩ := Prod.mk.inj (Option.some.inj roles)
      exact .inr ⟨most, List.mem_reverse.mp (List.argmax_mem isMost), least, List.argmin_mem isLeast,
        rfl, by omega⟩
    · exact .inl roles
  · dsimp only at busy
    split_ifs at busy with wider
    · obtain ⟨-, rfl⟩ := Prod.mk.inj (Option.some.inj busy)
      exact .inr ⟨busiest, idlest, ⟨rfl, List.mem_reverse.mp (List.argmax_mem isBusiest),
        List.argmin_mem isIdlest, wider.2.1⟩, wider.1.trans (Nat.sub_le _ _)⟩
    · exact .inl busy

/-- What the widest gaps over some zones say of each, by induction over the zones. -/
theorem foldlM_widen {found final : Widest} {listed : List (Text × List Machine)}
    (widened : listed.foldlM (widen bounds) found = some final)
    : (final.roles = none → found.roles = none ∧ ∀ members ∈ listed, Within bounds.spread members.2)
      ∧ (∀ width named, final.roles = some (width, named) → found.roles = some (width, named)
        ∨ ∃ members ∈ listed, ∃ most ∈ members.2, ∃ least ∈ members.2,
          named = gap members.1 .roles most least ∧ least.booked + bounds.spread < most.booked)
      ∧ ∀ steps gap, final.busy = some (steps, gap) → found.busy = some (steps, gap)
        ∨ ∃ members ∈ listed, ∃ busiest idlest, BusyGap bounds members gap busiest idlest
          ∧ bounds.busySpread ≤ busiest.busy := by
  induction listed generalizing found with
  | nil =>
    rw [List.foldlM_nil, Option.pure_def, Option.some.injEq] at widened
    subst widened
    exact ⟨fun none => ⟨none, fun _ member => absurd member List.not_mem_nil⟩,
      fun _ _ roles => .inl roles, fun _ _ busy => .inl busy⟩
  | cons members rest ih =>
    rw [List.foldlM_cons, Option.bind_eq_bind, Option.bind_eq_some_iff] at widened
    obtain ⟨next, first, onward⟩ := widened
    obtain ⟨narrow, wide, busy⟩ := widen_spec first
    obtain ⟨narrows, wider, busier⟩ := ih onward
    refine ⟨fun none => ?_, fun width named isWide => ?_, fun steps gap isBusy => ?_⟩
    · obtain ⟨noRoles, within⟩ := narrows none
      obtain ⟨none, here⟩ := narrow noRoles
      exact ⟨none, List.forall_mem_cons.mpr ⟨here, within⟩⟩
    · rcases wider width named isWide with before | ⟨later, member, spans⟩
      · exact (wide width named before).imp_right fun spans => ⟨members, List.mem_cons_self, spans⟩
      · exact .inr ⟨later, List.mem_cons_of_mem _ member, spans⟩
    · rcases busier steps gap isBusy with before | ⟨later, member, judged⟩
      · exact (busy steps gap before).imp_right fun judged => ⟨members, List.mem_cons_self, judged⟩
      · exact .inr ⟨later, List.mem_cons_of_mem _ member, judged⟩

-- Moves for busyness

/-- Every zone's roles are within the spread. -/
def RolesWithin (spread : Nat) (stays : NodeId → Bool) (machines : List Machine) : Prop :=
  ∀ more ∈ staying machines stays, ∀ fewer ∈ staying machines stays, more.zone = fewer.zone
    → more.booked ≤ fewer.booked + spread

/-- One role goes from a gap's source to its destination. -/
def moveRole (found : Gap) (machine : Machine) : Machine :=
  if machine.node = found.source.1 then { machine with booked := machine.booked - 1 }
  else if machine.node = found.destination.1 then { machine with booked := machine.booked + 1 }
  else machine

/-- A gap of busyness is named only where every zone's roles are within the spread. -/
theorem widestGap_busy {found : Gap} (widest : widestGap machines stays bounds = some found)
    (busy : found.reason = .busy)
    : RolesWithin bounds.spread stays machines
      ∧ ∃ busiest ∈ staying machines stays, ∃ idlest ∈ staying machines stays,
        busiest.zone = found.zone ∧ idlest.zone = found.zone
        ∧ found = gap found.zone .busy busiest idlest
        ∧ idlest.booked + 2 ≤ busiest.booked + bounds.spread
        ∧ bounds.busySpread ≤ busiest.busy := by
  obtain ⟨final, widened, chosen⟩ := Option.bind_eq_some_iff.mp widest
  obtain ⟨narrow, wider, busier⟩ := foldlM_widen widened
  cases roles : final.roles with
  | some held =>
    rw [roles, Option.map_some, Option.some_or, Option.some.injEq] at chosen
    obtain before | ⟨_, _, _, _, _, _, named, _⟩ := wider held.1 held.2 roles
    · cases before
    · rw [← chosen, named] at busy
      cases busy
  | none =>
    rw [roles, Option.map_none, Option.none_or, Option.map_eq_some_iff] at chosen
    obtain ⟨⟨steps, gap⟩, isBusy, rfl⟩ := chosen
    obtain before | ⟨⟨zone, members⟩, listed, busiest, idlest, judged, idle⟩ :=
      busier steps gap isBusy
    · cases before
    · obtain ⟨-, within⟩ := narrow roles
      refine ⟨fun more isMore fewer isFewer same => ?_, busiest, ?_, idlest, ?_, ?_, ?_, ?_,
        judged.keepsRoles, idle⟩
      · obtain ⟨others, isZone⟩ := exists_zone isMore
        exact within _ isZone more ((mem_zones isZone).mpr ⟨isMore, rfl⟩) fewer
          ((mem_zones isZone).mpr ⟨isFewer, same.symm⟩)
      · exact ((mem_zones listed).mp judged.source).1
      · exact ((mem_zones listed).mp judged.destination).1
      · rw [judged.named]
        exact ((mem_zones listed).mp judged.source).2
      · rw [judged.named]
        exact ((mem_zones listed).mp judged.destination).2
      · have named := judged.named
        subst named
        rfl

/-- A gap is between two machines that store, stay and are up: of roles where the one holds more
than the spread above the other, of busyness where the one is busy enough.
-/
theorem widestGap_spans {found : Gap} (widest : widestGap machines stays bounds = some found)
    : ∃ source ∈ staying machines stays, ∃ destination ∈ staying machines stays,
      found.source.1 = source.node ∧ found.destination.1 = destination.node
      ∧ (destination.booked + bounds.spread < source.booked ∨ bounds.busySpread ≤ source.busy) := by
  cases reason : found.reason with
  | busy =>
    obtain ⟨-, busiest, isBusiest, idlest, isIdlest, -, -, named, -, idle⟩ :=
      widestGap_busy widest reason
    exact ⟨busiest, isBusiest, idlest, isIdlest, by rw [named]; rfl, by rw [named]; rfl, .inr idle⟩
  | roles =>
    obtain ⟨final, widened, chosen⟩ := Option.bind_eq_some_iff.mp widest
    obtain ⟨-, wider, busier⟩ := foldlM_widen widened
    rw [Option.or_eq_some_iff] at chosen
    rcases chosen with isRoles | ⟨-, isBusy⟩
    · obtain ⟨⟨width, named⟩, held, rfl⟩ := Option.map_eq_some_iff.mp isRoles
      obtain before | ⟨members, listed, most, isMost, least, isLeast, rfl, wide⟩ :=
        wider width named held
      · cases before
      · exact ⟨most, ((mem_zones listed).mp isMost).1, least, ((mem_zones listed).mp isLeast).1, rfl,
          rfl, .inl wide⟩
    · obtain ⟨⟨steps, named⟩, held, rfl⟩ := Option.map_eq_some_iff.mp isBusy
      obtain before | ⟨members, listed, busiest, idlest, judged, -⟩ := busier steps named held
      · cases before
      · rw [judged.named] at reason
        cases reason

theorem staying_moveRole (found : Gap)
    : staying (machines.map (moveRole found)) stays = (staying machines stays).map (moveRole found) := by
  have same : ∀ machine, (moveRole found machine).nodeClass = machine.nodeClass
      ∧ (moveRole found machine).up = machine.up ∧ (moveRole found machine).node = machine.node := by
    intro machine
    unfold moveRole
    split_ifs <;> exact ⟨rfl, rfl, rfl⟩
  rw [staying, staying, List.filter_map]
  refine congrArg _ (List.filter_congr fun machine _ => ?_)
  simp only [Function.comp_apply, same]

theorem zone_moveRole (found : Gap) (machine : Machine)
    : (moveRole found machine).zone = machine.zone := by
  unfold moveRole
  split_ifs <;> rfl

/-- The roles of a zone after a move, judged over the machines before it. -/
theorem rolesWithin_moveRole {found : Gap} {spread : Nat}
    : RolesWithin spread stays (machines.map (moveRole found))
      ↔ ∀ more ∈ staying machines stays, ∀ fewer ∈ staying machines stays, more.zone = fewer.zone
        → (moveRole found more).booked ≤ (moveRole found fewer).booked + spread := by
  simp only [RolesWithin, staying_moveRole, List.forall_mem_map, zone_moveRole]

/-- Before a move for busyness every zone's roles are within the spread. They still are after it
exactly where each third machine of the zone is within the spread of both: of the idle one with its
new role, and of the busy one without it.
-/
theorem busy_move_keeps_roles {found : Gap} (distinct : (machines.map (·.node)).Nodup)
    (widest : widestGap machines stays bounds = some found) (busy : found.reason = .busy)
    : RolesWithin bounds.spread stays machines
      ∧ (RolesWithin bounds.spread stays (machines.map (moveRole found))
        ↔ ∀ machine ∈ staying machines stays, machine.zone = found.zone
          → machine.node ≠ found.source.1 → machine.node ≠ found.destination.1
          → (found.destination.2.1 + 1 ≤ machine.booked + bounds.spread
              ∨ found.source.1 = found.destination.1)
            ∧ machine.booked ≤ found.source.2.1 - 1 + bounds.spread) := by
  obtain ⟨within, busiest, isBusiest, idlest, isIdlest, here, there, named, keeps, -⟩ :=
    widestGap_busy widest busy
  refine ⟨within, ?_⟩
  have same : ∀ {left right : Machine}, left ∈ staying machines stays
      → right ∈ staying machines stays → left.node = right.node → left = right := by
    intro left right isLeft isRight alike
    exact List.inj_on_of_nodup_map distinct (List.mem_of_mem_filter isLeft)
      (List.mem_of_mem_filter isRight) alike
  have source : found.source = (busiest.node, busiest.booked, busiest.busy) := by rw [named]; rfl
  have destination : found.destination = (idlest.node, idlest.booked, idlest.busy) := by
    rw [named]; rfl
  simp only [rolesWithin_moveRole, source, destination]
  have zoned := within busiest isBusiest idlest isIdlest (here.trans there.symm)
  -- What a machine hosts after the move.
  have moved : ∀ machine ∈ staying machines stays,
      machine = busiest ∧ (moveRole found machine).booked = busiest.booked - 1
      ∨ machine = idlest ∧ busiest.node ≠ idlest.node
        ∧ (moveRole found machine).booked = idlest.booked + 1
      ∨ machine.node ≠ busiest.node ∧ machine.node ≠ idlest.node
        ∧ (moveRole found machine).booked = machine.booked := by
    intro machine member
    rw [moveRole, source, destination]
    split_ifs with isSource isDestination
    · obtain rfl := same member isBusiest isSource
      exact .inl ⟨rfl, rfl⟩
    · obtain rfl := same member isIdlest isDestination
      exact .inr (.inl ⟨rfl, Ne.symm isSource, rfl⟩)
    · exact .inr (.inr ⟨isSource, isDestination, rfl⟩)
  constructor
  · intro after machine member zone notSource notDestination
    have idle := after idlest isIdlest machine member (there.trans zone.symm)
    have less := after machine member busiest isBusiest (zone.trans here.symm)
    grind
  · intro third more member fewer listed alike
    have before := within more member fewer listed alike
    rcases moved more member with ⟨rfl, less⟩ | ⟨rfl, apart, plus⟩ | ⟨notSource, notDestination, level⟩
    all_goals
      rcases moved fewer listed with
        ⟨rfl, less'⟩ | ⟨rfl, apart', plus'⟩ | ⟨notSource', notDestination', level'⟩
    case inr.inl.inr.inr =>
      have room := (third fewer listed (alike.symm.trans there) notSource' notDestination').1
      have := room.resolve_right apart
      omega
    case inr.inr.inl =>
      have := (third more member (alike.trans here) notSource notDestination).2
      omega
    all_goals omega

/-- Three machines of one zone at a spread of two: the busy and the idle one host five roles each,
a third one three.
-/
def threeMachines : List Machine :=
  [⟨⟨1, .all, 5, true⟩, [], 10⟩, ⟨⟨2, .all, 5, true⟩, [], 0⟩, ⟨⟨3, .all, 3, true⟩, [], 5⟩]

/-- The move for busyness leaves six roles beside three, and the next round names a gap of roles. -/
theorem busy_move_opens_roles_gap
    : ∃ found, widestGap threeMachines (fun _ => true) ⟨2, 5⟩ = some found ∧ found.reason = .busy
      ∧ ¬ RolesWithin 2 (fun _ => true) (threeMachines.map (moveRole found))
      ∧ ∃ next, widestGap (threeMachines.map (moveRole found)) (fun _ => true) ⟨2, 5⟩ = some next
        ∧ next.reason = .roles := by
  refine ⟨⟨[], .busy, (1, 5, 10), (2, 5, 0)⟩, by decide +kernel, rfl, fun within => ?_,
    ⟨[], .roles, (2, 6, 0), (3, 3, 5)⟩, by decide +kernel, rfl⟩
  have apart := within ⟨⟨2, .all, 6, true⟩, [], 0⟩ (by decide +kernel) ⟨⟨3, .all, 3, true⟩, [], 5⟩
    (by decide +kernel) rfl
  exact absurd apart (by decide)

/-- With one role more on the third machine the same move keeps the zone within the spread. -/
theorem busy_move_keeps_roles_of_four
    : ∃ machines found, widestGap machines (fun _ => true) ⟨2, 5⟩ = some found
      ∧ RolesWithin 2 (fun _ => true) (machines.map (moveRole found)) := by
  let machines : List Machine :=
    [⟨⟨1, .all, 5, true⟩, [], 10⟩, ⟨⟨2, .all, 5, true⟩, [], 0⟩, ⟨⟨3, .all, 4, true⟩, [], 5⟩]
  have widest : widestGap machines (fun _ => true) ⟨2, 5⟩
      = some ⟨[], .busy, (1, 5, 10), (2, 5, 0)⟩ := by
    decide +kernel
  exact ⟨machines, _, widest,
    (busy_move_keeps_roles (by decide +kernel) widest rfl).2.mpr (by decide +kernel)⟩

end Balance

end Paros
