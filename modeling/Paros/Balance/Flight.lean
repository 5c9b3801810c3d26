import Paros.Balance.Round

/-! The balance move in flight and the booking it names. A release ends the move of its booking;
the retirement of a machine takes the bookings away and leaves the move.
-/

namespace Paros

namespace Registry

variable {codec : SystemCodec} {seq : Nat} {registry : Registry} {command : SystemCommand}
  {result : Registry × RegistryEvent}

/-- The move in flight is of a live acceptor of its journal on the machine it leaves. -/
def Carried (balance : BalanceState) (bookings : OrderedMap Nat Booking) : Prop :=
  ∀ moved, balance.moving = some moved
    → bookings[moved.booking]? = some ⟨moved.source, .acceptor, .journal moved.journal⟩

theorem Carried.place {slot : Slot} (carried : Carried registry.balance registry.bookings)
    (live : registry.LiveSpent) (fresh : slot.booking ∉ registry.spent)
    : Carried registry.balance (registry.place slot).bookings := by
  intro moved moving
  have held := carried moved moving
  rw [Registry.place, OrderedMap.getElem?_insert, if_neg]
  · exact held
  · exact fun same => fresh (same ▸ live _ _ held)

theorem Carried.books {slots : List Slot} {after : Registry} (books : Books registry slots after)
    (carried : Carried registry.balance registry.bookings) (live : registry.LiveSpent)
    : Carried after.balance after.bookings := by
  induction books with
  | nil => exact carried
  | cons bookable books ih => exact ih (carried.place live bookable.fresh) live.place

/-- The move of a booking ends with its release, and any other move keeps its booking. -/
theorem Carried.release {booking : Nat} (carried : Carried registry.balance registry.bookings)
    : Carried ((registry.balance.finish booking .done seq).getD registry.balance)
        (registry.bookings.erase booking) := by
  intro moved moving
  cases finished : registry.balance.finish booking .done seq with
  | some balance =>
    obtain ⟨other, -, rfl⟩ := Option.map_eq_some_iff.mp finished
    rw [finished] at moving
    cases moving
  | none =>
    rw [finished, Option.getD_none] at moving
    rw [OrderedMap.getElem?_erase, if_neg]
    · exact carried moved moving
    · rintro rfl
      simp [BalanceState.finish, moving] at finished

/-- Every command but the retirement of its machine keeps the move in flight carried. -/
theorem Change.carried (change : Change seq registry command result) (live : registry.LiveSpent)
    (carried : Carried registry.balance registry.bookings)
    (stays : ∀ moved, registry.balance.moving = some moved
      → (registry.nodes[moved.source]?).any (·.standing = .draining)
      → command ≠ .retireNode moved.source)
    : Carried result.1.balance result.1.bookings := by
  cases change with
  | retired known draining =>
    intro moved moving
    rw [Std.ExtTreeMap.getElem?_filter', carried moved moving, Option.filter_some, if_pos]
    refine decide_eq_true fun same => stays moved moving ?_ (same ▸ rfl)
    simp [show moved.source = _ from same, known, draining]
  | balanceSet applied =>
    rw [BalanceState.set] at applied
    split_ifs at applied
    cases applied
    exact carried
  | balanceStarted _ _ judged =>
    intro moved started
    cases started
    simp only [movable, Bool.and_eq_true, Option.any_eq_true, decide_eq_true_eq] at judged
    obtain ⟨⟨⟨⟨⟨node, role, target⟩, held, rfl, rfl, rfl⟩, -⟩, -⟩, -⟩ := judged
    exact held
  | balanceAbandoned finished =>
    obtain ⟨moved, -, rfl⟩ := Option.map_eq_some_iff.mp finished
    rintro _ ⟨⟩
  | released => exact carried.release
  | booked bookable => exact carried.place live bookable.fresh
  | granted _ _ _ books =>
    have booked := carried.books books live
    exact booked
  | _ => exact carried

/-- A record that retires the machine the move in flight leaves: that machine drains. -/
def RetiresSource (codec : SystemCodec) (registry : Registry) (record : Bytes) : Prop :=
  ∃ moved, registry.balance.moving = some moved
    ∧ (registry.nodes[moved.source]?).any (·.standing = .draining)
    ∧ SystemCommand.decode codec record = .ok (.retireNode moved.source)

theorem fold_carried {record : Bytes} (ok : Sound codec registry)
    (carried : Carried registry.balance registry.bookings)
    (stays : ¬RetiresSource codec registry record)
    : Carried (registry.fold codec seq record).1.balance (registry.fold codec seq record).1.bookings := by
  rcases fold_cases ok seq record with refused | ⟨command, decoded, change⟩
  · rw [refused]
    exact carried
  · refine change.carried ok.capacity.live carried fun moved moving draining same => ?_
    exact stays ⟨moved, moving, draining, same ▸ decoded⟩

/-- Over every journal that never retires the machine a move in flight leaves, the move in flight is
of a live booking, on a machine that is not retired.
-/
theorem move_in_flight_booked (codec : SystemCodec) (initial : List NodeId)
    (records : List (Nat × Bytes)) (order : InOrder 0 records)
    (stays : ∀ before seq record after, records = before ++ (seq, record) :: after
      → ¬RetiresSource codec ((new initial).foldAll codec before).1 record)
    {moved : BalanceMove}
    (moving : ((new initial).foldAll codec records).1.balance.moving = some moved)
    : ((new initial).foldAll codec records).1.bookings[moved.booking]?
        = some ⟨moved.source, .acceptor, .journal moved.journal⟩
      ∧ ∃ node, ((new initial).foldAll codec records).1.nodes[moved.source]? = some node
        ∧ node.standing ≠ .retired := by
  have ok : Sound codec (new initial) := new_sound initial
  have carried : Carried ((new initial).foldAll codec records).1.balance
      ((new initial).foldAll codec records).1.bookings :=
    foldAll_keeps (fun registry => Carried registry.balance registry.bookings)
      (fun _ _ _ => fold_carried) ok nofun order stays
  have held := carried moved moving
  obtain ⟨node, known, standing, -⟩ :=
    ((foldAll_run ok .stay order).sound ok).capacity.placed _ _ held
  exact ⟨held, node, known, standing⟩

end Registry

-- A machine retired under a move

namespace Balance

/-- The crowded machine drains and retires while a journal moves off it. -/
def deserted : List Wire.Kind :=
  crowded ++ [.balanceStarted 2 7 2 1 2 "roles".toList, .drainNode 1, .retireNode 1]

/-- The move stays in flight without its booking, off a machine that is retired. -/
theorem retired_under_move
    : ∃ moved, (cellAfter deserted).balance.moving = some moved
      ∧ (cellAfter deserted).bookings[moved.booking]? = none
      ∧ ((cellAfter deserted).nodes[moved.source]?).any (·.standing = .retired) := by
  rw [cellAfter_eq]
  exact ⟨⟨2, ⟨7, 2⟩, 1, 2, .roles, 4⟩, by decide +kernel, by decide +kernel, by decide +kernel⟩

/-- An acceptor is booked on one of two machines and moves to the other. -/
def underWay : List Wire.Kind :=
  [.bookCapacity ⟨2, 1, 7, 2, "acceptor".toList, 0, false⟩,
    .balanceStarted 2 7 2 1 2 "roles".toList]

/-- The move is of a live booking. -/
theorem move_in_flight_booked_underWay
    : (cellAfter underWay).balance.moving = some ⟨2, ⟨7, 2⟩, 1, 2, .roles, 1⟩
      ∧ (cellAfter underWay).bookings[2]? = some ⟨1, .acceptor, .journal ⟨7, 2⟩⟩ := by
  have moving : (cellAfter underWay).balance.moving = some ⟨2, ⟨7, 2⟩, 1, 2, .roles, 1⟩ := by
    rw [cellAfter_eq]
    decide +kernel
  refine ⟨moving, (Registry.move_in_flight_booked SystemCodec.counted [1, 2] _
    (Registry.written_inOrder _ _ 0) ?_ moving).1⟩
  intro before seq record after split ⟨moved, _, _, retires⟩
  have member : (seq, record) ∈ Registry.written SystemCodec.counted 0 underWay := by simp [split]
  simp only [underWay, Registry.written, List.mem_cons, Prod.mk.injEq, List.not_mem_nil,
    or_false] at member
  rcases member with ⟨-, rfl⟩ | ⟨-, rfl⟩
  all_goals
    rw [SystemCommand.decode, SystemCodec.decodeEntry_encodeEntry] at retires
    cases Except.ok.inj retires

end Balance

end Paros
