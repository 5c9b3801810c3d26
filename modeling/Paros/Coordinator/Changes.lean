import Paros.Balance.Round
import Paros.Membership.ZoneRule
import Paros.Tenant.Control

/-! How a journal changes machines or its mode: the configuration a step composes, and the placement
it records in the tenant's control journal once it ends the change.
-/

namespace Paros

-- Composed configurations

namespace Placement

/-- The failure domain of a machine in a zone, if the zone can be a label. -/
def domain (zone : Text) : Option FailureDomain :=
  if short : zone ≠ [] ∧ zone.utf8Length ≤ maxFailureDomainBytes then
    some ⟨[], zone, by simp [Text.utf8Length], short.2⟩
  else none

/-- A member with the domain of its machine. -/
def label (machines : List Balance.Machine) (node : NodeId) : Option (NodeId × FailureDomain) :=
  ((machines.find? fun machine => machine.node = node).bind fun machine => domain machine.zone).map
    fun held => (node, held)

/-- The configuration of some members, labelled when every member has a zone. -/
def zoned (members : List NodeId) (machines : List Balance.Machine) (system : QuorumSystem)
    : Option JournalConfig :=
  match members.mapM (label machines) with
  | some (first :: rest) => JournalConfig.zoned (first :: rest) system
  | _ => JournalConfig.new members system

end Placement

-- The leader's answer

/-- What the leader of a journal says of the configuration in force. -/
structure InspectReply where
  members : List NodeId
  system : WireQuorumSystem
  proxies : Nat
  replicas : Nat
  gcWatermark : Option Ballot
  configBallot : Option Ballot

namespace InspectReply

variable (reply : InspectReply)

def countsInForce : Option RoleCounts := roleCounts reply.proxies reply.replicas

/-- Whether the leader's floor reached the configuration in force. -/
def atOrAbove : Bool :=
  match reply.gcWatermark, reply.configBallot with
  | some watermark, some ballot => ballot ≤ watermark
  | some _, none => true
  | none, _ => false

/-- The configuration in force as a move records it: its members, system and counts. -/
def inForce : Option JournalConfig := do
  let system ← (QuorumSystem.fromProto reply.system).toOption
  guard (reply.members ≠ [] ∧ system.admits reply.members.length)
  let counts ← reply.countsInForce
  let config ← JournalConfig.new reply.members system
  return config.withCounts counts

end InspectReply

-- Moves

/-- How a step that ends no change answers; a term that may write no more answers nothing. -/
inductive ChangeStep where
  | waiting
  | booked
  | reconfigured (config : JournalConfig)
  | over
  | asserted
  deriving DecidableEq

/-- What became of a write to the tenant's control journal. -/
inductive Landed where
  | landed
  | fenced
  | failed
  deriving DecidableEq, Repr

/-- What the calls of a step came to: its bookings, its reconfiguration, its two records of a
placement and its releases.
-/
structure Answers where
  books : Bool
  starts : Bool
  shrunk : Landed
  placed : Landed
  releases : Bool

def Desired.quorumSystem (desired : Desired) : QuorumSystem :=
  if desired.durability.partitions = 1 then .majority
  else .grid (2 * desired.durability.surviveMachines + 1) desired.durability.partitions
    (desired.durability.surviveMachines + 1)

/-- The acceptors a journal is placed on, in a cell of some storage machines. -/
def placedCount (desired : Desired) (storage : Nat) : Nat :=
  let wanted := (2 * desired.durability.surviveMachines + 1) * desired.durability.partitions
  if desired.durability.partitions = 1 then min wanted storage else wanted

/-- The machines a move keeps: the members that stay, then the booked spares. -/
def moveTarget (members : List NodeId) (staying : List (Nat × Booking)) (size : Nat) : List NodeId :=
  let ids := (staying.map fun slot => slot.2.node).toFinset
  let kept := members.filter (· ∈ ids)
  let spares := (ids.ascending.filter (· ∉ members)).take (size - kept.length)
  (kept ++ spares).toFinset.ascending

section Steps

variable (control : TenantControl) (id : JournalId)

/-- Record a placement, if the write lands. -/
def recordPlaced (config : JournalConfig) : Landed → Except ChangeStep TenantControl
  | .landed => .ok (control.place id config).1
  | .fenced => .error .over
  | .failed => .error .waiting

variable (registry : Registry) (tenant : TenantId) (reply : InspectReply) (answers : Answers)

/-- Record the configuration in force, unless the control journal holds it. -/
def recordInForce : Except ChangeStep TenantControl :=
  if (registry.hosted[tenant]?).isNone then .error .waiting
  else
    match reply.inForce with
    | none => .error .waiting
    | some config =>
      if (control.journals[id]?).map TenantJournal.placed = some config then .ok control
      else recordPlaced control id config answers.placed

/-- Record what a move shrank a journal to. -/
def recordShrunk (composed : JournalConfig) : Except ChangeStep TenantControl :=
  if !reply.atOrAbove then .error .waiting
  else if (registry.hosted[tenant]?).isNone then .error .waiting
  else recordPlaced control id composed answers.shrunk

/-- The slots are released, or the term is over. -/
def released : Except ChangeStep TenantControl :=
  if answers.releases then .ok control else .error .over

/-- The last step of a move. -/
def Moves.finish : Except ChangeStep TenantControl :=
  if !reply.atOrAbove then .error .waiting
  else (recordInForce control id registry tenant reply answers).bind (released · answers)

variable (machines : List Balance.Machine) (cell : Nat)

/-- The configuration a move composes for the machines that stay. -/
def Moves.compose (target : List NodeId) : Option JournalConfig := do
  let system ← (QuorumSystem.fromProto reply.system).toOption
  let counts ← reply.countsInForce
  let config ← Placement.zoned target machines system
  return (config.withCell cell).withCounts counts

/-- One step of a journal's move, from its leader's answer on. It ends the move where it returns the
tenant's control journal.
-/
def Moves.step (leaving : Balance.Leaving) (slots : List (Nat × Booking)) (storage : Nat)
    : Except ChangeStep TenantControl :=
  match control.live? id, QuorumSystem.fromProto reply.system with
  | some journal, .ok system =>
    let staying := slots.filter fun slot =>
      leaving.stays registry slot.2.node && !leaving.rebalances slot.1
    let size := reply.members.length
    let kept := max (placedCount journal.desired storage) 1 ≤ staying.length
      && system.admits staying.length
    if staying.length < size && !kept then .error (if answers.books then .booked else .waiting)
    else
      let members := reply.members.insertionSort (· ≤ ·)
      let target := moveTarget members staying size
      if !system.admits target.length then .error .asserted
      else if reply.countsInForce.isNone then .error .waiting
      else
        match Moves.compose reply machines cell target with
        | none => .error .asserted
        | some composed =>
          if members ≠ target then .error (if answers.starts then .reconfigured composed else .waiting)
          else if staying.length < journal.placed.members.length then
            (recordShrunk control id registry tenant reply answers composed).bind
              (Moves.finish · id registry tenant reply answers)
          else Moves.finish control id registry tenant reply answers
  | _, _ => .error .waiting

-- Mode changes

/-- The proxy leaders and replicas that a registry books for a journal. -/
def bookedCounts (journal : JournalIdentifier) : RoleCounts :=
  let booked := fun role => min (registry.bookings.values.filter fun booking =>
    booking.role = role && booking.target = .journal journal).length maxRoleCount
  ⟨(booked .proxyLeader, booked .replica), min_le_right _ _, min_le_right _ _⟩

/-- One step of a journal's mode change, from its leader's answer on. -/
def Modes.step (slots : List (Nat × Booking)) : Except ChangeStep TenantControl :=
  match control.live? id, QuorumSystem.fromProto reply.system with
  | some journal, .ok system =>
    let count := placedCount journal.desired machines.length
    let counts := bookedCounts registry ⟨tenant, id⟩
    let members := reply.members.insertionSort (· ≤ ·)
    if slots.length < count then .error (if answers.books then .booked else .waiting)
    else if ¬(members.length = count ∧ system = journal.desired.quorumSystem
        ∧ members.all (· ∈ slots.map fun slot => slot.2.node)
        ∧ (reply.proxies, reply.replicas) = counts.1) then
      -- The mode is not in force: a step that asks the leader for it ends nothing.
      .error .waiting
    else
      match Placement.zoned members machines system with
      | none => .error .asserted
      | some config =>
        let composed := (config.withCell cell).withCounts counts
        let leaves := slots.any fun slot => slot.2.node ∉ composed.members
        if leaves && !reply.atOrAbove then .error .waiting
        else if journal.placed = composed then released control answers
        else (recordPlaced control id composed answers.placed).bind (released · answers)
  | _, _ => .error .waiting

end Steps

-- What a finished change recorded

namespace Placement

theorem label_fst {machines : List Balance.Machine} {members : List NodeId}
    {pairs : List (NodeId × FailureDomain)} (labelled : members.mapM (label machines) = some pairs)
    : pairs.map Prod.fst = members := by
  induction members generalizing pairs with
  | nil =>
    cases labelled
    rfl
  | cons node rest ih =>
    simp only [List.mapM_cons, bind, pure, Option.bind_eq_some_iff] at labelled
    obtain ⟨first, labels, others, more, made⟩ := labelled
    obtain ⟨domain, -, rfl⟩ := Option.map_eq_some_iff.mp labels
    cases made
    rw [List.map_cons, ih more]

/-- A composed configuration is of the members it is asked for, each once, and owned by no cell. -/
theorem zoned_spec {members : List NodeId} {machines : List Balance.Machine} {system : QuorumSystem}
    {config : JournalConfig} (made : zoned members machines system = some config)
    : config.members = members.toFinset.ascending ∧ config.quorumSystem = system := by
  rw [zoned] at made
  split at made
  case h_1 first rest labelled =>
    obtain ⟨listed, same⟩ := JournalConfig.zoned_spec made
    refine ⟨(ascending_of_sorted config.sorted).symm.trans (congrArg _ (Finset.ext fun node => ?_)),
      same⟩
    rw [List.mem_toFinset, List.mem_toFinset, listed, label_fst labelled]
  case h_2 =>
    obtain ⟨members, system, _⟩ := JournalConfig.build_spec made
    exact ⟨members, system⟩

end Placement

theorem InspectReply.countsInForce_spec {reply : InspectReply}
    {counts : RoleCounts} (few : reply.countsInForce = some counts)
    : counts.1 = (reply.proxies, reply.replicas) := by
  simp only [countsInForce, roleCounts] at few
  split_ifs at few
  cases few
  rfl

/-- The configuration in force carries neither labels nor an owning cell. -/
theorem InspectReply.inForce_spec {reply : InspectReply} {config : JournalConfig}
    (made : reply.inForce = some config)
    : config.members = reply.members.toFinset.ascending
      ∧ (QuorumSystem.fromProto reply.system).toOption = some config.quorumSystem
      ∧ (config.proxies, config.replicas) = (reply.proxies, reply.replicas)
      ∧ config.domains = [] ∧ config.cell = 0 := by
  simp only [inForce, bind, Option.bind_eq_some_iff, pure, Option.some.injEq] at made
  obtain ⟨system, read, _, _, counts, few, config, built, rfl⟩ := made
  obtain ⟨members, rfl, unlabelled, free⟩ := JournalConfig.build_spec built
  exact ⟨members, read, countsInForce_spec few, unlabelled, free⟩

section Records

variable {control after : TenantControl} {id : JournalId} {config composed : JournalConfig}
  {journal : TenantJournal} {registry : Registry} {tenant : TenantId} {reply : InspectReply}
  {answers : Answers} {machines : List Balance.Machine} {cell : Nat}

theorem Moves.compose_spec {target : List NodeId}
    (made : Moves.compose reply machines cell target = some composed)
    : composed.members = target.toFinset.ascending
      ∧ (QuorumSystem.fromProto reply.system).toOption = some composed.quorumSystem
      ∧ (composed.proxies, composed.replicas) = (reply.proxies, reply.replicas)
      ∧ composed.cell = cell := by
  simp only [compose, bind, Option.bind_eq_some_iff, pure, Option.some.injEq] at made
  obtain ⟨system, read, counts, few, config, built, rfl⟩ := made
  obtain ⟨members, same⟩ := Placement.zoned_spec built
  exact ⟨members, same ▸ read, InspectReply.countsInForce_spec few, rfl⟩

/-- A step that ended a change took no branch that ends none. -/
theorem ite_eq_right_of_error {refused : Prop} [Decidable refused] {step : ChangeStep}
    {rest : Except ChangeStep TenantControl}
    (ended : (if refused then .error step else rest) = .ok after)
    : ¬refused ∧ rest = .ok after := by
  split_ifs at ended with taken
  exact ⟨taken, ended⟩

/-- A placement that landed is the one the control journal holds, and its journal lives on. -/
theorem recordPlaced_live {write : Landed} (live : control.live? id = some journal)
    (recorded : recordPlaced control id config write = .ok after)
    : after.live? id = some { journal with placed := config } := by
  have lives := (Option.filter_eq_some_iff.mp live).2
  cases write <;> cases recorded
  rw [TenantControl.place]
  split
  case h_1 none => cases none.symm.trans live
  case h_2 held found =>
    cases found.symm.trans live
    exact Option.filter_eq_some_iff.mpr ⟨by simp [TenantControl.putJournal], lives⟩

theorem placed_of_live (live : control.live? id = some journal)
    : (control.journals[id]?).map TenantJournal.placed = some journal.placed := by
  rw [(Option.filter_eq_some_iff.mp live).1]
  rfl

theorem released_eq (done : released control answers = .ok after) : after = control := by
  simp only [released] at done
  split_ifs at done
  cases done
  rfl

/-- A finished move recorded the configuration in force. -/
theorem Moves.finish_placed (live : control.live? id = some journal)
    (ended : Moves.finish control id registry tenant reply answers = .ok after)
    : ∃ recorded, reply.inForce = some recorded
      ∧ (after.journals[id]?).map TenantJournal.placed = some recorded := by
  simp only [finish] at ended
  split_ifs at ended
  obtain ⟨middle, kept, done⟩ := Except.bind_eq_ok_iff.mp ended
  cases released_eq done
  simp only [recordInForce] at kept
  split_ifs at kept
  split at kept
  case h_1 => cases kept
  case h_2 recorded made =>
    refine ⟨recorded, made, ?_⟩
    split_ifs at kept with held
    · cases kept
      exact held
    · exact placed_of_live (recordPlaced_live live kept)

/-- A move that ends records the configuration in force, of the members it composed for. -/
theorem Moves.step_records {leaving : Balance.Leaving} {slots : List (Nat × Booking)} {storage : Nat}
    (ended : Moves.step control id registry tenant reply answers machines cell leaving slots storage
      = .ok after)
    : ∃ composed recorded,
      Moves.compose reply machines cell (reply.members.insertionSort (· ≤ ·)) = some composed
      ∧ reply.inForce = some recorded
      ∧ (after.journals[id]?).map TenantJournal.placed = some recorded := by
  simp only [Moves.step] at ended
  split at ended
  case h_1 journal system live read =>
    iterate 3 replace ended := (ite_eq_right_of_error ended).2
    split at ended
    case h_1 => cases ended
    case h_2 composed made =>
      obtain ⟨same, ended⟩ := ite_eq_right_of_error ended
      split_ifs at ended with shrinks
      · obtain ⟨middle, kept, done⟩ := Except.bind_eq_ok_iff.mp ended
        simp only [recordShrunk] at kept
        split_ifs at kept
        obtain ⟨recorded, found⟩ := Moves.finish_placed (recordPlaced_live live kept) done
        exact ⟨composed, recorded, not_not.mp same ▸ made, found⟩
      · obtain ⟨recorded, found⟩ := Moves.finish_placed live ended
        exact ⟨composed, recorded, not_not.mp same ▸ made, found⟩
  case h_2 => cases ended

end Records

/-- What a finished change records, of what it composed. A mode change records the configuration it
composed. A move records that one's members, quorum system and counts, and the whole of it exactly
when it has no labels and no owning cell.
-/
theorem finished_change_records (control : TenantControl) (id : JournalId) (registry : Registry)
    (tenant : TenantId) (reply : InspectReply) (answers : Answers) (machines : List Balance.Machine)
    (cell : Nat) (leaving : Balance.Leaving) (slots : List (Nat × Booking)) (storage : Nat)
    (after : TenantControl)
    : (Modes.step control id registry tenant reply answers machines cell slots = .ok after
        → ∃ system config, QuorumSystem.fromProto reply.system = .ok system
          ∧ Placement.zoned (reply.members.insertionSort (· ≤ ·)) machines system = some config
          ∧ (after.journals[id]?).map TenantJournal.placed
            = some ((config.withCell cell).withCounts (bookedCounts registry ⟨tenant, id⟩)))
      ∧ (Moves.step control id registry tenant reply answers machines cell leaving slots storage
          = .ok after
        → ∃ composed recorded,
          Moves.compose reply machines cell (reply.members.insertionSort (· ≤ ·)) = some composed
          ∧ (after.journals[id]?).map TenantJournal.placed = some recorded
          ∧ recorded.members = composed.members ∧ recorded.quorumSystem = composed.quorumSystem
          ∧ (recorded.proxies, recorded.replicas) = (composed.proxies, composed.replicas)
          ∧ (recorded = composed ↔ composed.domains = [] ∧ cell = 0)) := by
  refine ⟨fun ended => ?_, fun ended => ?_⟩
  · simp only [Modes.step] at ended
    split at ended
    case h_1 journal system live read =>
      split_ifs at ended
      split at ended
      case h_1 => cases ended
      case h_2 config made =>
        refine ⟨system, config, read, made, ?_⟩
        split_ifs at ended with early same
        · cases released_eq ended
          rw [placed_of_live live, same]
        · obtain ⟨middle, kept, done⟩ := Except.bind_eq_ok_iff.mp ended
          cases released_eq done
          exact placed_of_live (recordPlaced_live live kept)
    case h_2 => cases ended
  · obtain ⟨composed, recorded, made, kept, placed⟩ := Moves.step_records ended
    obtain ⟨members, system, counts, owner⟩ := Moves.compose_spec made
    obtain ⟨members', system', counts', unlabelled, free⟩ := InspectReply.inForce_spec kept
    have listed : recorded.members = composed.members := by
      rw [members, members', List.toFinset_eq_of_perm _ _ (List.perm_insertionSort _ _)]
    have system : recorded.quorumSystem = composed.quorumSystem :=
      Option.some.inj (system'.symm.trans system)
    have counts : (recorded.proxies, recorded.replicas) = (composed.proxies, composed.replicas) :=
      counts'.trans counts.symm
    refine ⟨composed, recorded, made, placed, listed, system, counts, fun same => ?_, fun bare => ?_⟩
    · exact ⟨same ▸ unlabelled, by rw [← owner, ← same, free]⟩
    · obtain ⟨⟨_, _, _, _⟩, _, _, _, _, _, _⟩ := recorded
      obtain ⟨⟨_, _, _, _⟩, _, _, _, _, _, _⟩ := composed
      simp_all

theorem exists_ok {result : Except ChangeStep TenantControl} (ended : result.toOption.isSome)
    : ∃ after, result = .ok after := by
  cases result with
  | error step => cases ended
  | ok after => exact ⟨after, rfl⟩

/-- Tenant 7 with journal 2, on machine 1 alone. -/
def loneJournal : TenantControl :=
  (TenantControl.new 7 1 (by decide) (by decide)).putJournal 2
    { name := [], writer := .single, desired := ⟨⟨0, 1, by decide, by decide⟩, 0, 0, 0, by decide⟩
      config := ⟨.sole 1, [], 1, 0, 0, .inl rfl, none_few⟩
      placed := ⟨.sole 1, [], 1, 0, 0, .inl rfl, none_few⟩
      deletedAt := none, tags := .none, store := .ordered }

/-- What its leader answers: the journal is in force on machine 1. -/
def loneReply : InspectReply := ⟨[1], ⟨0, 0, 0, 0, 0⟩, 0, 0, some ⟨1, 1⟩, some ⟨1, 1⟩⟩

def loneMachine : List Balance.Machine := [⟨⟨1, .storage, 0, true⟩, [], 0⟩]

/-- A slot is left on machine 2. -/
def loneSlots : List (Nat × Booking) :=
  [(1, ⟨1, .acceptor, .journal ⟨7, 2⟩⟩), (2, ⟨2, .acceptor, .journal ⟨7, 2⟩⟩)]

/-- The cell that hosts the tenant. -/
noncomputable def loneCell : Registry :=
  ((Registry.new [1, 2]).foldKinds SystemCodec.counted 0 (Registry.rehosted.take 3)).1

/-- The move off machine 2, in a cell. -/
noncomputable def loneMove (cell : Nat) : Except ChangeStep TenantControl :=
  Moves.step loneJournal 2 loneCell 7 loneReply ⟨true, true, .landed, .landed, true⟩ loneMachine cell
    ⟨{2}, ∅, none⟩ loneSlots 1

/-- A move of cell 1 composes a configuration that the cell owns, and records one of no cell. -/
theorem finished_move_drops_cell
    : ∃ after composed recorded, loneMove 1 = .ok after
      ∧ Moves.compose loneReply loneMachine 1 [1] = some composed
      ∧ (after.journals[(2 : JournalId)]?).map TenantJournal.placed = some recorded
      ∧ composed.cell = 1 ∧ recorded.cell = 0 := by
  obtain ⟨after, ended⟩ := exists_ok (show (loneMove 1).toOption.isSome by decide +kernel)
  obtain ⟨composed, recorded, made, kept, placed⟩ := Moves.step_records ended
  exact ⟨after, composed, recorded, ended, made, placed, (Moves.compose_spec made).2.2.2,
    (InspectReply.inForce_spec kept).2.2.2.2⟩

/-- A mode change in cell 2 records that cell, and a move where no cell owns the journal records
what it composed.
-/
theorem finished_change_records_lone
    : (∃ after config, Modes.step loneJournal 2 loneCell 7 loneReply
          ⟨true, true, .landed, .landed, true⟩ loneMachine 2 loneSlots = .ok after
        ∧ (after.journals[(2 : JournalId)]?).map TenantJournal.placed = some config
        ∧ config.cell = 2)
      ∧ ∃ after composed, loneMove 0 = .ok after
        ∧ Moves.compose loneReply loneMachine 0 [1] = some composed
        ∧ (after.journals[(2 : JournalId)]?).map TenantJournal.placed = some composed := by
  constructor
  · obtain ⟨after, ended⟩ := exists_ok (show (Modes.step loneJournal 2 loneCell 7 loneReply
      ⟨true, true, .landed, .landed, true⟩ loneMachine 2 loneSlots).toOption.isSome by decide +kernel)
    obtain ⟨_, config, _, _, placed⟩ :=
      (finished_change_records _ _ _ _ _ _ _ _ ⟨∅, ∅, none⟩ _ 0 _).1 ended
    exact ⟨after, _, ended, placed, rfl⟩
  · obtain ⟨after, ended⟩ := exists_ok (show (loneMove 0).toOption.isSome by decide +kernel)
    obtain ⟨composed, recorded, made, placed, _, _, _, whole⟩ :=
      (finished_change_records _ _ _ _ _ _ _ _ _ _ _ _).2 ended
    have bare : (Moves.compose loneReply loneMachine 0 [1]).all (·.domains = []) := by decide +kernel
    rw [show Moves.compose loneReply loneMachine 0 [1] = _ from made, Option.all_some,
      decide_eq_true_eq] at bare
    exact ⟨after, composed, ended, made, whole.mpr ⟨bare, rfl⟩ ▸ placed⟩

end Paros
