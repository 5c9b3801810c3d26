import Paros.Balance.Gap
import Paros.Registry.Lodging
import Paros.Registry.Reread

/-! One balance round: the move that is chosen, its record in the registry, and the move path that
carries it out. The three look at a booking's tenant differently: only the move path asks that the
cell hosts it.
-/

namespace Paros

/-- Journals are ordered by tenant, then by number. -/
instance : LinearOrder JournalIdentifier :=
  LinearOrder.lift' (fun journal => toLex (journal.tenant, journal.journal)) fun left right same => by
    obtain ⟨tenant, journal⟩ := Prod.mk.inj (toLex_inj.mp same)
    cases left
    cases right
    exact JournalIdentifier.mk.injEq .. ▸ ⟨tenant, journal⟩

-- Turns

/-- The key whose turn follows: the first above the last one, else the first. -/
def Turn.next {κ : Type} [LinearOrder κ] (keys : Finset κ) (last : Option κ) : Option κ :=
  ((keys.sort (· ≤ ·)).find? fun key => last.any (· < key)).or (keys.sort (· ≤ ·)).head?

/-- Every key has its turn, after the key before it. -/
theorem Turn.exists_next {κ : Type} [LinearOrder κ] {keys : Finset κ} {key : κ} (member : key ∈ keys)
    : ∃ last, next keys last = some key := by
  obtain ⟨before, after, split⟩ := List.append_of_mem ((Finset.mem_sort (· ≤ ·)).mpr member)
  have sorted : (before ++ key :: after).Pairwise (· < ·) := split ▸ (Finset.sortedLT_sort keys).pairwise
  cases before using List.reverseRecOn with
  | nil =>
    have none : ∀ keys : List κ, keys.find? (fun key => (none : Option κ).any (· < key)) = none :=
      fun keys => List.find?_eq_none.mpr nofun
    exact ⟨Option.none, by rw [next, none, split]; rfl⟩
  | append_singleton before last =>
    refine ⟨some last, ?_⟩
    rw [List.append_assoc, List.singleton_append, List.pairwise_append, List.pairwise_cons] at sorted
    obtain ⟨-, ⟨above, -⟩, below⟩ := sorted
    have skipped : before.find? (fun other => (some last).any (· < other)) = none :=
      List.find?_eq_none.mpr fun other earlier => by
        simpa using (below other earlier last List.mem_cons_self).le
    rw [next, split, List.append_assoc, List.find?_append, skipped, List.singleton_append]
    simp [above key List.mem_cons_self]

namespace Balance

-- A round

structure Rebalance where
  journal : JournalIdentifier
  booking : Nat
  source : NodeId
  destination : NodeId
  reason : BalanceReason
  deriving DecidableEq, Repr

inductive Repair where
  | draining (node : NodeId)
  | unwell (node : NodeId)
  | stranded (node : NodeId)
  deriving DecidableEq, Repr

inductive Judgement where
  | moving (moved : BalanceMove)
  | paused
  | repairing (repair : Repair)
  | stuck (gap : Gap)
  | unbalanced (gap : Gap)
  | balanced
  deriving DecidableEq, Repr

inductive Step where
  | idle
  | start (rebalance : Rebalance)
  | moving (rebalance : Rebalance)
  | abandon (booking : Nat)
  deriving DecidableEq, Repr

/-- The machines of a registry as placement sees them, each with its busyness. -/
def machines (registry : Registry) (nodes : List NodeId) (busy : NodeId → Nat) : List Machine :=
  (Footprint.machines registry nodes).map fun machine =>
    ⟨machine, ((registry.nodes[machine.node]?).map (·.locality.zone)).getD [], busy machine.node⟩

section Round

variable (registry : Registry) (stays : NodeId → Bool)

def repairing : Option Repair :=
  ((registry.nodes.toList.find? fun (_, node) => node.standing = .draining).map (.draining ·.1)).or
    (((registry.nodes.toList.find? fun (id, node) =>
        node.standing = .registered && 0 < node.registrations && registry.serves id
          && (!(registry.livenessOf id).up || (registry.livenessOf id).slow || !stays id)).map
      (.unwell ·.1)).or
    ((registry.bookings.toList.find? fun (_, booking) => !stays booking.node).map (.stranded ·.2.node)))

/-- Whether the journal of a move has another acceptor on a machine that leaves. -/
def journalLeaves (moved : BalanceMove) : Bool :=
  registry.bookings.toList.any fun (id, booking) =>
    id ≠ moved.booking && booking.role = .acceptor && booking.target = .journal moved.journal
      && !stays booking.node

/-- The move a booking on a gap's loaded machine makes: of an acceptor of a journal with no role on
the light machine, whose tenant is not dropped or moving and whose control journal it is not.
-/
def offer (gap : Gap) (entry : Nat × Booking) : Option Rebalance :=
  match entry.2.target with
  | .journal journal =>
    if entry.2.node = gap.source.1 ∧ entry.2.role = .acceptor
        ∧ journal.tenant ∉ registry.dropped ∧ registry.moving journal.tenant = false
        ∧ (registry.hosted[journal.tenant]?).all (·.control ≠ journal.journal)
        ∧ (registry.anyBooking fun other =>
            other.node = gap.destination.1 && other.target = .journal journal) = false then
      some ⟨journal, entry.1, gap.source.1, gap.destination.1, gap.reason⟩
    else none
  | _ => none

def choose (gap : Gap) : Option Rebalance := registry.bookings.toList.findSome? (offer registry gap)

def judge (machines : List Machine) (bounds : Bounds) : Judgement :=
  match registry.balance.moving with
  | some moved => .moving moved
  | none =>
    if registry.balance.paused then .paused
    else
      match repairing registry stays with
      | some repair => .repairing repair
      | none =>
        match widestGap machines stays bounds with
        | none => .balanced
        | some gap => if (choose registry gap).isSome then .unbalanced gap else .stuck gap

/-- A move that runs longer is given up. -/
def abandonRounds : Nat := 64

/-- The balancer of one term: for how many rounds a gap held, the move in flight with the rounds it
ran, and the last move it started.
-/
structure Balancer where
  bounds : Bounds
  rounds : Nat
  held : Nat
  moving : Option (Nat × Nat)
  started : Option Nat
  deriving DecidableEq

namespace Balancer

variable (balancer : Balancer)

/-- A round with a move in flight: it is handed on, or given up once its destination or another
member of its journal leaves, and at last once it ran too long.
-/
def carry (moved : BalanceMove) : Balancer × Step :=
  let ran := ((balancer.moving.filter (·.1 = moved.booking)).map (·.2 + 1)).getD 0
  if !stays moved.destination || journalLeaves registry stays moved || abandonRounds ≤ ran then
    ({ balancer with held := 0, moving := none }, .abandon moved.booking)
  else
    ({ balancer with held := 0, moving := some (moved.booking, ran) },
      .moving ⟨moved.journal, moved.booking, moved.source, moved.destination, moved.reason⟩)

/-- One round. A gap that held long enough starts the move that is chosen; that there is none is an
assertion failure of the source.
-/
def round (machines : List Machine) : Option (Balancer × Step) :=
  match judge registry stays machines balancer.bounds with
  | .moving moved => some (balancer.carry registry stays moved)
  | .unbalanced gap =>
    if balancer.held + 1 < balancer.rounds then
      some ({ balancer with held := balancer.held + 1, moving := none }, .idle)
    else
      (choose registry gap).map fun chosen =>
        ({ balancer with held := 0, moving := none, started := some chosen.booking }, .start chosen)
  | _ => some ({ balancer with held := 0, moving := none }, .idle)

end Balancer

end Round

-- The move path

structure Leaving where
  gone : Finset NodeId
  held : Finset NodeId
  rebalance : Option Rebalance

namespace Leaving

variable (registry : Registry) (leaving : Leaving)

def rebalances (booking : Nat) : Bool := leaving.rebalance.any (·.booking = booking)

/-- Whether a slot on a machine stays where it is. -/
def stays (node : NodeId) : Bool :=
  registry.nodes[node]?.any (·.standing = .registered)
    && !(registry.contains node && (registry.livenessOf node).slow && node ∉ leaving.held)
    && node ∉ leaving.gone

/-- The journal of a hosted tenant that a booking has to move, other than its control journal. -/
def moves (entry : Nat × Booking) : Option JournalIdentifier :=
  match entry.2.target with
  | .journal journal =>
    if entry.2.role = .acceptor
        ∧ (leaving.stays registry entry.2.node = false ∨ leaving.rebalances entry.1)
        ∧ (registry.hosted[journal.tenant]?).any (·.control ≠ journal.journal)
        ∧ journal.tenant ∉ registry.dropped ∧ registry.moving journal.tenant = false then
      some journal
    else none
  | _ => none

/-- The journals a move may take. -/
def journals : Finset JournalIdentifier :=
  (registry.bookings.toList.filterMap (leaving.moves registry)).toFinset

/-- The next journal to move, with its acceptor slots. -/
def nextMove (last : Option JournalIdentifier) : Option (JournalIdentifier × List (Nat × Booking)) :=
  (Turn.next (leaving.journals registry) last).map fun journal =>
    (journal, registry.bookings.toList.filter fun (_, booking) =>
      booking.role = .acceptor && booking.target = .journal journal)

end Leaving

-- What a round starts

variable {registry : Registry} {stays : NodeId → Bool}

theorem judge_unbalanced {machines : List Machine} {bounds : Bounds} {gap : Gap}
    (judged : judge registry stays machines bounds = .unbalanced gap)
    : registry.balance.moving = none ∧ registry.balance.paused = false
      ∧ widestGap machines stays bounds = some gap := by
  revert judged
  fun_cases judge registry stays machines bounds
  case case5 idle paused _ _ widest _ =>
    rintro ⟨⟩
    exact ⟨idle, Bool.eq_false_iff.mpr paused, widest⟩
  all_goals nofun

variable {chosen : Rebalance}

/-- What an offered move asks of its booking. -/
theorem offer_spec {gap : Gap} {entry : Nat × Booking}
    (offered : offer registry gap entry = some chosen)
    : entry = (chosen.booking, ⟨chosen.source, .acceptor, .journal chosen.journal⟩)
      ∧ chosen.source = gap.source.1 ∧ chosen.destination = gap.destination.1
      ∧ chosen.journal.tenant ∉ registry.dropped ∧ registry.moving chosen.journal.tenant = false
      ∧ (registry.hosted[chosen.journal.tenant]?).all (·.control ≠ chosen.journal.journal)
      ∧ (registry.anyBooking fun other =>
          other.node = chosen.destination && other.target = .journal chosen.journal) = false := by
  obtain ⟨booking, node, role, target⟩ := entry
  rw [offer] at offered
  split at offered
  case h_1 journal same =>
    split_ifs at offered with passes
    cases offered
    obtain ⟨source, isAcceptor, rest⟩ := passes
    dsimp only at same source isAcceptor
    exact ⟨by rw [source, isAcceptor, same], rfl, rfl, rest⟩
  case h_2 => cases offered

variable {balancer next : Balancer}

/-- A started move was offered by a live booking, on a cell whose balancer runs and moves nothing,
over the widest gap.
-/
theorem Balancer.round_start {machines : List Machine}
    (started : balancer.round registry stays machines = some (next, .start chosen))
    : registry.balance.moving = none ∧ registry.balance.paused = false
      ∧ ∃ gap entry, widestGap machines stays balancer.bounds = some gap
        ∧ entry ∈ registry.bookings.toList ∧ offer registry gap entry = some chosen := by
  revert started
  fun_cases balancer.round registry stays machines
  case case1 =>
    rw [carry]
    split_ifs <;> nofun
  case case3 gap judged _ =>
    intro started
    obtain ⟨idle, running, widest⟩ := judge_unbalanced judged
    obtain ⟨_, chose, same⟩ := Option.map_eq_some_iff.mp started
    cases same
    obtain ⟨entry, member, offered⟩ := List.exists_of_findSome?_eq_some chose
    exact ⟨idle, running, gap, entry, widest, member, offered⟩
  all_goals nofun

variable {busy : NodeId → Nat} {nodes : List NodeId}

/-- A machine of the placement serves the cell and stays registered. -/
theorem serves_of_mem_machines {machine : Machine} (member : machine ∈ machines registry nodes busy)
    : (registry.nodes[machine.node]?).any (·.standing = .registered) ∧ registry.serves machine.node := by
  obtain ⟨placed, listed, rfl⟩ := List.mem_map.mp member
  obtain ⟨id, -, found⟩ := List.mem_filterMap.mp listed
  obtain ⟨held, known, kept⟩ := Option.bind_eq_some_iff.mp found
  split_ifs at kept with offered
  cases kept
  exact ⟨by simp [known, offered.1], offered.2.2⟩

/-- The registry takes every move a round starts. -/
theorem movable_of_round
    (started : balancer.round registry stays (machines registry nodes busy) = some (next, .start chosen))
    (seq : Nat)
    : registry.movable ⟨chosen.booking, chosen.journal, chosen.source, chosen.destination,
        chosen.reason, seq⟩ := by
  obtain ⟨-, -, gap, entry, widest, member, offered⟩ := Balancer.round_start started
  obtain ⟨rfl, -, destination, -, -, -, untaken⟩ := offer_spec offered
  obtain ⟨-, -, light, isLight, -, named, -⟩ := widestGap_spans widest
  have serving := serves_of_mem_machines (List.mem_of_mem_filter isLight)
  rw [← named, ← destination] at serving
  have live := OrderedMap.mem_toList.mp member
  have apart : chosen.source ≠ chosen.destination := by
    intro same
    refine absurd untaken (Bool.not_eq_false _ ▸ Registry.anyBooking_iff.mpr ⟨_, _, live, ?_⟩)
    simp [same]
  simp [Registry.movable, live, untaken, serving, apart]

/-- The registry once a move was recorded. -/
def afterStart (registry : Registry) (chosen : Rebalance) (seq : Nat) : Registry :=
  { registry.advance seq with
    balance := registry.balance.start
      ⟨chosen.booking, chosen.journal, chosen.source, chosen.destination, chosen.reason, seq⟩ }

theorem fold_started {codec : SystemCodec} {seq : Nat} {record : Bytes}
    (started : balancer.round registry stays (machines registry nodes busy) = some (next, .start chosen))
    (recorded : SystemCommand.decode codec record = .ok (.balanceStarted chosen.booking chosen.journal
      chosen.source chosen.destination chosen.reason))
    : registry.fold codec seq record
      = (afterStart registry chosen seq, .balanceStarted chosen.booking) := by
  obtain ⟨idle, running, -⟩ := Balancer.round_start started
  have movable : (registry.advance seq).movable _ := movable_of_round started seq
  simp only [Registry.fold, recorded, Registry.act]
  rw [Registry.startBalance, if_neg]
  · rfl
  · rintro (paused | moving | refused)
    · exact absurd paused (Bool.eq_false_iff.mp running)
    · simp [idle] at moving
    · exact absurd (Bool.not_eq_true' _ ▸ refused) (Bool.not_eq_false _ ▸ movable)

namespace Leaving

variable {leaving : Leaving} {entry : Nat × Booking} {journal : JournalIdentifier}

theorem mem_journals (leaving : Leaving) (member : entry ∈ registry.bookings.toList)
    (moves : leaving.moves registry entry = some journal)
    : journal ∈ leaving.journals registry :=
  List.mem_toFinset.mpr (List.mem_filterMap.mpr ⟨entry, member, moves⟩)

/-- Only journals of hosted tenants move. -/
theorem hosts_of_mem_journals (leaving : Leaving) (taken : journal ∈ leaving.journals registry)
    : registry.hosts journal.tenant := by
  obtain ⟨entry, -, moves⟩ := List.mem_filterMap.mp (List.mem_toFinset.mp taken)
  rw [Leaving.moves] at moves
  split at moves
  case h_1 =>
    split_ifs at moves with passes
    cases moves
    obtain ⟨host, hosted, -⟩ := (Option.any_eq_true ..).mp passes.2.2.1
    exact Option.isSome_iff_exists.mpr ⟨host, hosted⟩
  case h_2 => cases moves

end Leaving

/-- A move that a round starts is accepted when it is recorded, and the move path takes it exactly
when the cell hosts its tenant.
-/
theorem started_move_taken_iff
    (started : balancer.round registry stays (machines registry nodes busy) = some (next, .start chosen))
    (codec : SystemCodec) (seq : Nat) {record : Bytes}
    (recorded : SystemCommand.decode codec record = .ok (.balanceStarted chosen.booking chosen.journal
      chosen.source chosen.destination chosen.reason))
    : (registry.fold codec seq record).2 = .balanceStarted chosen.booking
      ∧ ∀ leaving : Leaving, leaving.rebalance = some chosen
        → (chosen.journal ∈ leaving.journals (registry.fold codec seq record).1
            ↔ registry.hosts chosen.journal.tenant)
          ∧ (registry.hosts chosen.journal.tenant
            → ∃ last slots, leaving.nextMove (registry.fold codec seq record).1 last
              = some (chosen.journal, slots)) := by
  obtain ⟨-, -, gap, entry, -, member, offered⟩ := Balancer.round_start started
  obtain ⟨rfl, -, -, undropped, settled, ordinary, -⟩ := offer_spec offered
  rw [fold_started started recorded]
  refine ⟨rfl, fun leaving moves => ?_⟩
  have taken : chosen.journal ∈ leaving.journals (afterStart registry chosen seq)
      ↔ registry.hosts chosen.journal.tenant := by
    refine ⟨leaving.hosts_of_mem_journals, fun hosts => leaving.mem_journals member ?_⟩
    obtain ⟨host, hosted⟩ := Option.isSome_iff_exists.mp hosts
    have others : (registry.hosted[chosen.journal.tenant]?).any (·.control ≠ chosen.journal.journal) := by
      simpa [hosted] using ordinary
    exact if_pos ⟨rfl, .inr (by simp [Leaving.rebalances, moves]), others, undropped, settled⟩
  refine ⟨taken, fun hosts => ?_⟩
  obtain ⟨last, turn⟩ := Turn.exists_next (taken.mpr hosts)
  exact ⟨last, _, by rw [Leaving.nextMove, turn, Option.map_some]⟩

-- A tenant that is not hosted

/-- Two machines register, and one of them takes the acceptors of two journals. -/
def crowded : List Wire.Kind :=
  [.registerNode 1 [] [] [⟨ReservedKey.roles, "storage".toList⟩] 0 0 [],
    .registerNode 2 [] [] [⟨ReservedKey.roles, "storage".toList⟩] 0 0 [],
    .bookCapacity ⟨2, 1, 7, 2, "acceptor".toList, 0, false⟩,
    .bookCapacity ⟨3, 1, 7, 3, "acceptor".toList, 0, false⟩]

/-- A tenant of the cell with a control journal and two more journals on one machine. -/
def lodged : List Wire.Kind := Registry.rehosted.take 3

/-- The registry that entries lead a cell of two machines to. -/
noncomputable def cellAfter (kinds : List Wire.Kind) : Registry :=
  ((Registry.new [1, 2]).foldAll SystemCodec.counted (Registry.written SystemCodec.counted 0 kinds)).1

theorem cellAfter_eq (kinds : List Wire.Kind)
    : cellAfter kinds = ((Registry.new [1, 2]).foldKinds SystemCodec.counted 0 kinds).1 := by
  rw [cellAfter, Registry.foldAll_written]

def oneRound : Balancer := ⟨⟨1, 5⟩, 1, 0, none, none⟩

theorem oneRound_crowded
    : oneRound.round (cellAfter crowded) (fun _ => true)
        (machines (cellAfter crowded) [1, 2] fun _ => 0)
      = some (⟨⟨1, 5⟩, 1, 0, none, some 2⟩, .start ⟨⟨7, 2⟩, 2, 1, 2, .roles⟩) := by
  rw [cellAfter_eq]
  decide +kernel

/-- The balancer takes a journal of a tenant the cell does not host: the move is recorded, and the
move path never takes it.
-/
theorem unhosted_move_stuck
    : ∃ next chosen, oneRound.round (cellAfter crowded) (fun _ => true)
        (machines (cellAfter crowded) [1, 2] fun _ => 0) = some (next, .start chosen)
      ∧ ∀ seq record, SystemCommand.decode SystemCodec.counted record = .ok (.balanceStarted
            chosen.booking chosen.journal chosen.source chosen.destination chosen.reason)
        → ((cellAfter crowded).fold SystemCodec.counted seq record).2 = .balanceStarted chosen.booking
          ∧ ∀ (leaving : Leaving) last, leaving.nextMove
            ((cellAfter crowded).fold SystemCodec.counted seq record).1 last = none := by
  refine ⟨_, _, oneRound_crowded, fun seq record recorded => ?_⟩
  rw [fold_started oneRound_crowded recorded]
  refine ⟨rfl, fun leaving last => ?_⟩
  have none : leaving.journals (afterStart (cellAfter crowded) ⟨⟨7, 2⟩, 2, 1, 2, .roles⟩ seq) = ∅ := by
    refine Finset.eq_empty_of_forall_notMem fun journal taken => ?_
    have hosts : (cellAfter crowded).hosts journal.tenant := leaving.hosts_of_mem_journals taken
    have empty : (cellAfter crowded).hosted.isEmpty := by
      rw [cellAfter_eq]
      decide +kernel
    simp [Registry.hosts, Std.ExtTreeMap.isEmpty_iff.mp empty] at hosts
  rw [Leaving.nextMove, none]
  simp [Turn.next]

/-- Once its tenant is hosted, the same journal moves. -/
theorem started_move_taken_hosted
    : ∃ next chosen record, oneRound.round (cellAfter (crowded ++ lodged)) (fun _ => true)
        (machines (cellAfter (crowded ++ lodged)) [1, 2] fun _ => 0) = some (next, .start chosen)
      ∧ ∀ leaving : Leaving, leaving.rebalance = some chosen
        → ∃ last slots, leaving.nextMove
          ((cellAfter (crowded ++ lodged)).fold SystemCodec.counted 7 record).1 last
            = some (chosen.journal, slots) := by
  have started : oneRound.round (cellAfter (crowded ++ lodged)) (fun _ => true)
      (machines (cellAfter (crowded ++ lodged)) [1, 2] fun _ => 0)
      = some (⟨⟨1, 5⟩, 1, 0, none, some 2⟩, .start ⟨⟨7, 2⟩, 2, 1, 2, .roles⟩) := by
    rw [cellAfter_eq]
    decide +kernel
  have hosts : (cellAfter (crowded ++ lodged)).hosts 7 := by
    rw [cellAfter_eq]
    decide +kernel
  refine ⟨_, _, SystemCodec.counted.encodeEntry (.balanceStarted 2 7 2 1 2 "roles".toList), started,
    fun leaving moves => ?_⟩
  have recorded : SystemCommand.decode SystemCodec.counted
      (SystemCodec.counted.encodeEntry (.balanceStarted 2 7 2 1 2 "roles".toList))
      = .ok (.balanceStarted 2 ⟨7, 2⟩ 1 2 .roles) := by
    rw [SystemCommand.decode, SystemCodec.decodeEntry_encodeEntry]
    rfl
  exact ((started_move_taken_iff started _ 7 recorded).2 leaving moves).2 hosts

end Balance

end Paros
