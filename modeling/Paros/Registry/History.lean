import Paros.Registry.Restore

/-! Registries over whole histories of records, checkpoints and restores: what is recorded once
stays recorded, and no capacity is given twice.
-/

namespace Paros

open OrderedMap

namespace Registry

variable {codec : SystemCodec} {seq : Nat} {registry : Registry} {command : SystemCommand}
  {result : Registry × RegistryEvent}

-- Soundness of a fold

theorem new_sound (initial : List NodeId) : Sound codec (new initial) where
  capacity := ⟨by simp [new], by simp [new], by simp [new], by simp [new], by simp [new]⟩
  fleeted := ⟨by simp [new], rfl, by simp [new]⟩
  tenants := ⟨by simp [new], by simp [new], by simp [new], by simp [new]⟩
  windows := ⟨by simp [new]⟩
  balanced := ⟨by simp [new, BalanceState.default], by simp [new, BalanceState.default],
    by simp [new, BalanceState.default]⟩
  narrow := by simp [new]

/-- The registry that a record is folded on: its position is taken, whatever the record holds. -/
def advance (registry : Registry) (seq : Nat) : Registry := { registry with nextSeq := seq + 1 }

theorem advance_sound (ok : Sound codec registry) (order : registry.nextSeq ≤ seq)
    : Sound codec (registry.advance seq) :=
  { ok with
    windows := ok.windows.advance (Nat.le_succ_of_le order)
    balanced := ok.balanced.advance (Nat.le_succ_of_le order) }

/-- Folding a record makes a change of the command it holds, or of none. -/
theorem fold_cases (ok : Sound codec registry) (seq : Nat) (record : Bytes)
    : registry.fold codec seq record = (registry.advance seq, .refused .malformed)
      ∨ ∃ command, SystemCommand.decode codec record = .ok command
        ∧ Change seq (registry.advance seq) command (registry.fold codec seq record) := by
  have live : LiveSpent (registry.advance seq) := ok.capacity.live
  simp only [fold]
  cases decoded : SystemCommand.decode codec record with
  | error reason => exact .inl rfl
  | ok command => exact .inr ⟨command, rfl, act_change live command⟩

theorem fold_change (ok : Sound codec registry) (seq : Nat) (record : Bytes)
    : ∃ command, command.Read codec
        ∧ Change seq (registry.advance seq) command (registry.fold codec seq record) := by
  rcases fold_cases ok seq record with refused | ⟨command, decoded, change⟩
  · exact ⟨.drainNode 0, trivial, refused ▸ .kept rfl⟩
  · exact ⟨command, SystemCommand.decode_read decoded, change⟩

theorem fold_sound (ok : Sound codec registry) (order : registry.nextSeq ≤ seq) (record : Bytes)
    : Sound codec (registry.fold codec seq record).1 := by
  obtain ⟨command, read, change⟩ := fold_change ok seq record
  refine change.sound (advance_sound ok order) read rfl fun moving => ?_
  obtain ⟨moved, found⟩ := Option.isSome_iff_exists.mp moving
  have recorded := (ok.balanced.moving moved found).2
  omega

-- What stays

/-- What a later registry keeps of an earlier one: its machines, those that retired, its dropped
tenants and the outcomes of its grants.
-/
structure Later (before after : Registry) : Prop where
  known : ∀ id : NodeId, (before.nodes[id]?).isSome → (after.nodes[id]?).isSome
  retired : ∀ (id : NodeId) (node : RegisteredNode), before.nodes[id]? = some node
    → node.standing = .retired → ∃ kept, after.nodes[id]? = some kept ∧ kept.standing = .retired
  dropped : before.dropped ⊆ after.dropped
  grants : ∀ (key : GrantKey) (grant : Grant), before.grants[key]? = some grant
    → after.grants[key]? = some grant

namespace Later

variable {before middle after : Registry}

theorem refl (registry : Registry) : Later registry registry :=
  ⟨fun _ => id, fun _ node held retired => ⟨node, held, retired⟩, subset_rfl, fun _ _ => id⟩

theorem trans (first : Later before middle) (second : Later middle after) : Later before after where
  known id held := second.known id (first.known id held)
  retired id node held retired :=
    let ⟨kept, found, stays⟩ := first.retired id node held retired
    second.retired id kept found stays
  dropped := first.dropped.trans second.dropped
  grants key grant held := second.grants key grant (first.grants key grant held)

/-- The machines are kept, and nothing else that stays is changed. -/
theorem ofKeep {nodes : OrderedMap NodeId RegisteredNode} (keeps : NodesKeep before.nodes nodes)
    (same : after.nodes = nodes) (dropped : after.dropped = before.dropped)
    (grants : after.grants = before.grants)
    : Later before after := by
  subst same
  refine ⟨fun id held => ?_, fun id node held retired => ?_, dropped ▸ subset_rfl,
    fun _ _ => grants ▸ id⟩
  · obtain ⟨node, found⟩ := Option.isSome_iff_exists.mp held
    obtain ⟨kept, found, _⟩ := keeps id node found
    simp [found]
  · obtain ⟨kept, found, stays⟩ := keeps id node held
    exact ⟨kept, found, stays.retired.mpr retired⟩

end Later

theorem Change.later (change : Change seq registry command result) : Later registry result.1 := by
  have keep : ∀ {after : Registry}, after.nodes = registry.nodes → after.dropped = registry.dropped
      → after.grants = registry.grants → Later registry after :=
    fun nodes => .ofKeep (.refl _) nodes
  have recorded : ∀ {key : GrantKey} {made : Grant} {other : GrantKey} {held : Grant},
      registry.grants[key]? = none → registry.grants[other]? = some held
        → (registry.grants.insert key made)[other]? = some held :=
    fun fresh held => (getElem?_insert_fresh fresh).mpr (.inl held)
  cases change with
  | machines nodes liveness tagged keeps => exact .ofKeep keeps rfl rfl rfl
  | @retired id node held draining =>
    refine ⟨fun other known => ?_, fun other kept found retired => ?_, subset_rfl,
      fun _ _ held => held⟩
    · rw [getElem?_insert]
      split_ifs
      · rfl
      · exact known
    · rw [getElem?_insert]
      split_ifs
      · exact ⟨_, rfl, rfl⟩
      · exact ⟨kept, found, retired⟩
  | grantRefused fresh => exact { keep rfl rfl rfl with grants := fun _ _ => recorded fresh }
  | granted fresh keyed owned books =>
    rw [books.frame]
    exact { keep rfl rfl rfl with grants := fun _ _ => recorded fresh }
  | dropped => exact { keep rfl rfl rfl with dropped := Finset.subset_insert _ _ }
  | settled => exact keep rfl rfl rfl
  | peersSet => exact keep rfl rfl rfl
  | _ => exact keep rfl rfl rfl

-- What is settled

/-- The registry holds what a mark settles. -/
def Bears (registry : Registry) : Mark → Prop
  | .dropped tenant => tenant ∈ registry.dropped
  | .retired id => ∃ node, registry.nodes[id]? = some node ∧ node.standing = .retired
  | .granted key bookings => (registry.grants[key]?).map Grant.bookings = some bookings

theorem Later.bears {after : Registry} {mark : Mark} (later : Later registry after)
    (borne : registry.Bears mark)
    : after.Bears mark := by
  cases mark with
  | dropped => exact later.dropped borne
  | retired id =>
    obtain ⟨node, held, retired⟩ := borne
    exact later.retired id node held retired
  | granted key =>
    obtain ⟨grant, held, same⟩ := Option.map_eq_some_iff.mp borne
    exact Option.map_eq_some_iff.mpr ⟨grant, later.grants key grant held, same⟩

/-- A change settles what its event says. -/
theorem Change.bears (change : Change seq registry command result)
    : ∀ mark ∈ result.2.marks, result.1.Bears mark := by
  intro mark marked
  have loud {event : RegistryEvent} (silent : event.quiet) : mark ∉ event.marks := by
    simp [(RegistryEvent.quiet_iff.mp silent).2]
  cases change with
  | kept silent | machines _ _ _ _ silent | peersSet _ _ silent => exact absurd marked (loud silent)
  | dropped _ told =>
    rcases told with rfl | ⟨_, silent⟩
    · obtain rfl := List.mem_singleton.mp marked
      exact Finset.mem_insert_self _ _
    · exact absurd marked (loud silent)
  | retired =>
    obtain rfl := List.mem_singleton.mp marked
    exact ⟨_, Std.ExtTreeMap.getElem?_insert_self, rfl⟩
  | grantRefused | granted =>
    obtain rfl := List.mem_singleton.mp marked
    simp [Bears]
  | _ => cases marked

-- What is booked

/-- The slots some events booked. -/
def bookedSlots (events : List RegistryEvent) : List Slot := events.flatMap RegistryEvent.slots

/-- Bookings that are all of slots some events booked, each id once, and ids that are spent by
those events alone.
-/
structure Accounted (events : List RegistryEvent) (registry : Registry) : Prop where
  once : ((bookedSlots events).map Slot.booking).Nodup
  spent : ∀ id, id ∈ registry.spent ↔ id ∈ (bookedSlots events).map Slot.booking
  booked : ∀ (id : Nat) (booking : Booking), registry.bookings[id]? = some booking
    → ⟨id, booking.node, booking.role, booking.target⟩ ∈ bookedSlots events

/-- What one change spends and books: the slots of its event, whose ids were fresh. -/
structure Spends (before after : Registry) (slots : List Slot) : Prop where
  once : (slots.map Slot.booking).Nodup
  fresh : ∀ id ∈ slots.map Slot.booking, id ∉ before.spent
  spent : ∀ id, id ∈ after.spent ↔ id ∈ before.spent ∨ id ∈ slots.map Slot.booking
  booked : ∀ (id : Nat) (booking : Booking), after.bookings[id]? = some booking
    → before.bookings[id]? = some booking
      ∨ ⟨id, booking.node, booking.role, booking.target⟩ ∈ slots

/-- A change that books nothing spends nothing. -/
theorem Spends.silent {before after : Registry} {slots : List Slot} (none : slots = [])
    (spent : after.spent = before.spent)
    (fewer : ∀ (id : Nat) (booking : Booking), after.bookings[id]? = some booking
      → before.bookings[id]? = some booking)
    : Spends before after slots := by
  subst none
  exact ⟨by simp, by simp, by simp [spent], fun id booking held => .inl (fewer id booking held)⟩

theorem Books.accounts {after : Registry} {slots : List Slot} (books : Books registry slots after)
    : Spends registry after slots := by
  obtain ⟨once, fresh, spent⟩ := books.spends
  refine ⟨once, fresh, spent, ?_⟩
  induction books with
  | nil => exact fun _ _ held => .inl held
  | @cons registry after slot rest bookable books ih =>
    obtain ⟨once', fresh', spent'⟩ := books.spends
    intro id booking held
    rcases ih once' fresh' spent' id booking held with before | inside
    · rcases of_getElem?_insert before with ⟨rfl, rfl⟩ | ⟨_, before⟩
      · exact .inr List.mem_cons_self
      · exact .inl before
    · exact .inr (List.mem_cons_of_mem _ inside)

theorem Change.spends (change : Change seq registry command result)
    : Spends registry result.1 result.2.slots := by
  cases change with
  | kept silent => exact .silent (RegistryEvent.quiet_iff.mp silent).1 rfl fun _ _ held => held
  | machines _ _ _ _ silent =>
    exact .silent (RegistryEvent.quiet_iff.mp silent).1 rfl fun _ _ held => held
  | retired =>
    refine .silent rfl rfl fun id booking held => ?_
    rw [Std.ExtTreeMap.getElem?_filter', Option.filter_eq_some_iff] at held
    exact held.1
  | booked bookable => exact Books.accounts (.cons bookable .nil)
  | released => exact .silent rfl rfl fun id booking held => (of_getElem?_erase held).2
  | granted fresh keyed owned books =>
    exact { books.accounts with }
  | dropped _ told =>
    refine .silent ?_ rfl fun _ _ held => held
    rcases told with rfl | ⟨_, silent⟩
    · rfl
    · exact (RegistryEvent.quiet_iff.mp silent).1
  | peersSet _ _ silent =>
    exact .silent (RegistryEvent.quiet_iff.mp silent).1 rfl fun _ _ held => held
  | _ => exact .silent rfl rfl fun _ _ held => held

/-- An account grows by what one event booked. -/
theorem Accounted.step {events : List RegistryEvent} {after : Registry} {event : RegistryEvent}
    (account : Accounted events registry) (spends : Spends registry after event.slots)
    : Accounted (events ++ [event]) after := by
  have slots : bookedSlots (events ++ [event]) = bookedSlots events ++ event.slots := by
    simp [bookedSlots]
  refine ⟨?_, fun id => ?_, fun id booking held => ?_⟩
  · rw [slots, List.map_append]
    refine account.once.append spends.once fun id earlier now => ?_
    exact spends.fresh id now ((account.spent id).mpr earlier)
  · rw [slots, List.map_append, List.mem_append, spends.spent, account.spent]
  · rw [slots, List.mem_append]
    rcases spends.booked id booking held with before | now
    · exact .inl (account.booked id booking before)
    · exact .inr now

-- Histories

/-- The registries a registry comes to, with the events on the way: records are folded in position
order, and at any point its checkpoint may be restored, into any registry and at any position.
-/
inductive Run (codec : SystemCodec) (first : Registry) : List RegistryEvent → Registry → Prop where
  | stay : Run codec first [] first
  | fold {events : List RegistryEvent} {registry : Registry} (run : Run codec first events registry)
    (seq : Nat) (record : Bytes) (order : registry.nextSeq ≤ seq)
    : Run codec first (events ++ [(registry.fold codec seq record).2])
        (registry.fold codec seq record).1
  | restore {events : List RegistryEvent} {registry restored : Registry}
    (run : Run codec first events registry) (receiver : Registry) (coversUpTo : Nat)
    (done : receiver.restore codec coversUpTo (registry.checkpoint codec) = .ok restored)
    : Run codec first events restored

/-- A restore adds machines only. -/
theorem nodesKeep_seeded (receiver : Registry) (nodes : OrderedMap NodeId RegisteredNode)
    : NodesKeep nodes (nodes ∪ receiver.seeded nodes) := by
  intro id node held
  refine ⟨node, ?_, .refl node⟩
  have unseeded : (receiver.seeded nodes)[id]? = none := by
    rw [seeded, Std.ExtTreeMap.getElem?_filter']
    cases receiver.nodes[id]? <;> simp [held]
  rw [Std.ExtTreeMap.getElem?_union, unseeded, Option.none_or, held]

theorem restore_sound {receiver restored : Registry} {coversUpTo : Nat} (ok : Sound codec registry)
    (done : receiver.restore codec coversUpTo (registry.checkpoint codec) = .ok restored)
    : Sound codec restored := by
  obtain ⟨rfl, windows⟩ := restore_checkpoint_eq ok done
  exact { ok with
    capacity := ok.capacity.keep (nodesKeep_seeded receiver registry.nodes)
    windows := windows
    balanced := { ok.balanced with
      moving := fun moved held => ⟨(ok.balanced.moving moved held).1, Nat.succ_pos coversUpTo⟩ } }

theorem restore_later {receiver restored : Registry} {coversUpTo : Nat} (ok : Sound codec registry)
    (done : receiver.restore codec coversUpTo (registry.checkpoint codec) = .ok restored)
    : Later registry restored := by
  obtain ⟨rfl, _⟩ := restore_checkpoint_eq ok done
  exact .ofKeep (nodesKeep_seeded receiver registry.nodes) rfl rfl rfl

namespace Run

variable {first : Registry} {events : List RegistryEvent}

theorem sound (run : Run codec first events registry) (ok : Sound codec first)
    : Sound codec registry := by
  induction run with
  | stay => exact ok
  | fold run seq record order ih => exact fold_sound ih order record
  | restore run receiver coversUpTo done ih => exact restore_sound ih done

theorem later (run : Run codec first events registry) (ok : Sound codec first)
    : Later first registry := by
  induction run with
  | stay => exact .refl first
  | fold run seq record order ih =>
    obtain ⟨command, _, change⟩ := fold_change (run.sound ok) seq record
    exact ih.trans { change.later with }
  | restore run receiver coversUpTo done ih => exact ih.trans (restore_later (run.sound ok) done)

/-- Over a whole history, an id is booked once and is spent from then on. -/
theorem accounted {initial : List NodeId} (run : Run codec (new initial) events registry)
    : Accounted events registry := by
  induction run with
  | stay => exact ⟨by simp [bookedSlots], by simp [bookedSlots, new], by simp [new]⟩
  | fold run seq record order ih =>
    obtain ⟨command, _, change⟩ := fold_change (run.sound (new_sound initial)) seq record
    exact ih.step { change.spends with }
  | restore run receiver coversUpTo done ih =>
    obtain ⟨rfl, _⟩ := restore_checkpoint_eq (run.sound (new_sound initial)) done
    exact ⟨ih.once, ih.spent, ih.booked⟩

/-- What any event of a history settled is still so. -/
theorem bears {initial : List NodeId} (run : Run codec (new initial) events registry)
    : ∀ mark ∈ events.flatMap RegistryEvent.marks, registry.Bears mark := by
  induction run with
  | stay => simp
  | fold run seq record order ih =>
    obtain ⟨command, _, change⟩ := fold_change (run.sound (new_sound initial)) seq record
    intro mark marked
    rw [List.flatMap_append, List.mem_append, List.flatMap_singleton] at marked
    rcases marked with before | now
    · exact change.later.bears (ih mark before)
    · exact change.bears mark now
  | restore run receiver coversUpTo done ih =>
    exact fun mark marked => (restore_later (run.sound (new_sound initial)) done).bears (ih mark marked)

end Run

/-- Over every history of a registry, capacity is given once and never to the dead. Every live
booking is of a spent id, on a machine that is not retired and takes its role; an id is spent by
the one event that booked it; only a tenant's slots stack; a dropped tenant is not hosted, moving
or moved; what an event said of a dropped tenant, a retired machine or a grant is still so; and
these stay what they are in every later registry.
-/
theorem capacity_given_once {initial : List NodeId} {events : List RegistryEvent}
    (run : Run codec (new initial) events registry)
    : (∀ (id : Nat) (booking : Booking), registry.bookings[id]? = some booking
        → id ∈ registry.spent
          ∧ ⟨id, booking.node, booking.role, booking.target⟩ ∈ bookedSlots events
          ∧ ∃ node, registry.nodes[booking.node]? = some node ∧ node.standing ≠ .retired
            ∧ node.nodeClass.takes booking.role.roleClass)
      ∧ ((bookedSlots events).map Slot.booking).Nodup
      ∧ (∀ id, id ∈ registry.spent ↔ id ∈ (bookedSlots events).map Slot.booking)
      ∧ (∀ (id other : Nat) (booking : Booking), registry.bookings[id]? = some booking
        → registry.bookings[other]? = some booking → id = other ∨ booking.target.isTenant)
      ∧ (∀ tenant ∈ registry.dropped, registry.hosted[tenant]? = none
        ∧ registry.moves[tenant]? = none ∧ registry.moved[tenant]? = none)
      ∧ (∀ mark ∈ events.flatMap RegistryEvent.marks, registry.Bears mark)
      ∧ ∀ (more : List RegistryEvent) (after : Registry), Run codec registry more after
        → (∀ (id : NodeId) (node : RegisteredNode), registry.nodes[id]? = some node
            → node.standing = .retired
            → ∃ kept, after.nodes[id]? = some kept ∧ kept.standing = .retired)
          ∧ registry.dropped ⊆ after.dropped
          ∧ ∀ (key : GrantKey) (grant : Grant), registry.grants[key]? = some grant
            → after.grants[key]? = some grant := by
  have ok : Sound codec registry := run.sound (new_sound initial)
  have account := run.accounted
  refine ⟨fun id booking held => ?_, account.once, account.spent, fun id other booking held held' => ?_,
    fun tenant => ok.tenants.bare, run.bears, fun more after next => ?_⟩
  · exact ⟨ok.capacity.live id booking held, account.booked id booking held,
      ok.capacity.placed id booking held⟩
  · cases role : booking.target.isTenant with
    | true => exact .inr rfl
    | false => exact .inl (ok.capacity.apart id other booking held held' role)
  · have later := next.later ok
    exact ⟨later.retired, later.dropped, later.grants⟩

/-- A slot booked by a record is live, spent, and on a machine that takes it. -/
theorem capacity_given_once_booked
    : ∃ events registry, Run SystemCodec.counted (new [1]) events registry
        ∧ bookedSlots events = [⟨1, 1, .acceptor, .journal ⟨7, 1⟩⟩]
        ∧ registry.bookings[1]? = some ⟨1, .acceptor, .journal ⟨7, 1⟩⟩
        ∧ 1 ∈ registry.spent := by
  have folded : (new [1]).fold SystemCodec.counted 0
        (SystemCodec.counted.encodeEntry (.bookCapacity ⟨1, 1, 7, 1, "acceptor".toList, 0, false⟩))
      = ((new [1]).advance 0).book ⟨1, 1, .acceptor, .journal ⟨7, 1⟩⟩ := by
    simp only [fold, SystemCommand.decode, SystemCodec.decodeEntry_encodeEntry]
    rfl
  have run : Run SystemCodec.counted (new [1]) _ _ := Run.stay.fold 0
    (SystemCodec.counted.encodeEntry (.bookCapacity ⟨1, 1, 7, 1, "acceptor".toList, 0, false⟩)) le_rfl
  rw [folded] at run
  exact ⟨_, _, run, rfl, rfl, ((capacity_given_once run).1 1 _ rfl).1⟩

end Registry

end Paros
