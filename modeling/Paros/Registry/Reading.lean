import Paros.Registry.Checkpoint

/-! What reading a command, or a record of a checkpoint, checks of its values, and that a written
value is read back as it was.
-/

namespace Paros

open OrderedMap

-- What decoded values satisfy

/-- A scope that its wire form can name. -/
def MaintenanceScope.Named (scope : MaintenanceScope) : Prop :=
  MaintenanceScope.fromWire scope.toWire.1 scope.toWire.2 = .ok scope

/-- A target that its wire form gives back: a set's number is one of a set. -/
def BookingTarget.Named (target : BookingTarget) : Prop :=
  fromWire target.toWire.1 target.toWire.2.1 target.toWire.2.2.1 target.toWire.2.2.2 = .ok target

/-- Peers that their wire form gives back. -/
def MovePeer.Listed (peers : List MovePeer) : Prop :=
  MovePeer.peersFromWire (peers.map MovePeer.toWire) = .ok peers

/-- A pointer, or none, that its wire form gives back. -/
def UniversePointer.Reads (codec : SystemCodec) (pointer : Option UniversePointer) : Prop :=
  UniversePointer.fromWire codec (toWire pointer).1 (toWire pointer).2.1 (toWire pointer).2.2
    = .ok pointer

/-- What reading a command checks of its values. -/
def SystemCommand.Read (codec : SystemCodec) : SystemCommand → Prop
  | .bookCapacity slot => slot.target.Named
  | .grantCapacity _ _ slots => ∀ booked, slots = some booked → ∀ slot ∈ booked, slot.target.Named
  | .maintenance scope _ => scope.Named
  | .setControlPlane _ mode => mode.failures ≤ ControlPlaneMode.maxFailures
  | .joinFleet _ pointer => UniversePointer.Reads codec pointer
  | .movePeers _ _ peers => MovePeer.Listed peers
  | _ => True

theorem BookingTarget.fromWire_named {owner journalId number : Nat} {tenantLevel : Bool}
    {target : BookingTarget} (read : fromWire owner journalId number tenantLevel = .ok target)
    : target.Named := by
  simp only [fromWire] at read
  split_ifs at read
  · cases read
    rfl
  · split at read <;> cases read
    · simp [Named, fromWire, toWire]
    case _ number unset =>
      simp [Named, fromWire, toWire]

theorem Slot.fromWire_named {book : Wire.BookCapacity} {slot : Slot} (read : fromWire book = .ok slot)
    : slot.target.Named := by
  obtain ⟨role, _, rest⟩ := Except.bind_eq_ok_iff.mp read
  obtain ⟨target, named, same⟩ := Except.bind_eq_ok_iff.mp rest
  cases same
  exact BookingTarget.fromWire_named named

theorem MaintenanceScope.fromWire_named {node : Nat} {zone : Text} {scope : MaintenanceScope}
    (read : fromWire node zone = .ok scope)
    : scope.Named := by
  rcases node with _ | id <;> rcases zone with _ | ⟨char, name⟩ <;> cases read <;> rfl

theorem controlPlaneFromWire_failures {auto : Bool} {failures : Nat} {mode : ControlPlaneMode}
    (read : controlPlaneFromWire auto failures = .ok mode)
    : mode.failures ≤ ControlPlaneMode.maxFailures := by
  simp only [controlPlaneFromWire] at read
  split_ifs at read with wide kind <;> cases read
  · exact not_lt.mp wide
  · exact not_lt.mp wide

theorem UniversePointer.hostFromWire_reads {codec : SystemCodec} {host : Wire.UniverseHost}
    {read : Nat × Text} (ok : hostFromWire codec host = .ok read)
    : hostFromWire codec ⟨read.1, read.2⟩ = .ok read := by
  simp only [hostFromWire] at ok
  split at ok
  · cases ok
  case _ addr parsed =>
    split_ifs at ok with unset
    cases ok
    simp [hostFromWire, codec.parseAddress_canonical _ _ parsed, unset]

theorem UniversePointer.fromWire_reads {codec : SystemCodec} {tenant journal : Nat}
    {hosts : List Wire.UniverseHost} {pointer : Option UniversePointer}
    (ok : fromWire codec tenant journal hosts = .ok pointer)
    : Reads codec pointer := by
  simp only [fromWire] at ok
  split_ifs at ok with unset bad
  · cases ok
    rfl
  · cases all : hosts.mapM (hostFromWire codec) with
    | error reason => simp [all, Except.map] at ok
    | ok read =>
      simp only [all, Except.map, Except.ok.injEq] at ok
      subst ok
      have again := List.mapM_reread (fun entry => ⟨entry.1, entry.2⟩)
        (fun _ _ => hostFromWire_reads) all
      have count := (List.mapM_eq_ok_iff.mp all).length_eq
      have some : read ≠ [] := by
        rintro rfl
        simp_all
      simp only [not_or, Bool.not_eq_true, Bool.not_eq_false'] at bad
      simp only [Reads, toWire, fromWire, again]
      simp_all [JournalIdentifier.isSet, TenantId.isSet, JournalId.isSet, Except.map]

-- Move peers

namespace MovePeer

theorem fromWire_toWire {item : Wire.MovePeer} {peer : MovePeer} (ok : fromWire item = .ok peer)
    : fromWire peer.toWire = .ok peer := by
  simp only [fromWire] at ok
  split_ifs at ok with bad
  cases ok
  simp [toWire, fromWire, bad]

theorem dedupAfter_sublist (last : MovePeer) (peers : List MovePeer)
    : (dedupAfter last peers).Sublist peers := by
  induction peers generalizing last with
  | nil => exact List.nil_sublist _
  | cons peer rest ih =>
    simp only [dedupAfter]
    split_ifs with same
    · exact (ih last).cons peer
    · exact (ih peer).cons_cons peer

theorem dedupById_sublist (peers : List MovePeer) : (dedupById peers).Sublist peers := by
  cases peers with
  | nil => exact List.nil_sublist _
  | cons peer rest => exact (dedupAfter_sublist peer rest).cons_cons peer

/-- What is read is sorted and names no machine twice, so reading it again changes nothing. -/
theorem peersFromWire_listed {written : List Wire.MovePeer} {peers : List MovePeer}
    (ok : peersFromWire written = .ok peers)
    : Listed peers := by
  cases all : written.mapM fromWire with
  | error reason => simp [peersFromWire, all, bind, Except.bind] at ok
  | ok read =>
    simp only [peersFromWire, all, bind, Except.bind, pure, Except.pure] at ok
    split_ifs at ok with repeated
    simp only [ne_eq, not_not] at repeated
    have unchanged := (dedupById_sublist _).eq_of_length repeated
    cases ok
    rw [unchanged]
    have sorted : read.mergeSort.mergeSort = read.mergeSort :=
      List.mergeSort_of_pairwise (List.pairwise_mergeSort (by simpa using fun _ _ _ => le_trans)
        (by simpa using le_total) read)
    have again : (read.mergeSort.map toWire).mapM fromWire = .ok read.mergeSort := by
      refine List.mapM_map_ok fun peer member => ?_
      obtain ⟨item, ok⟩ := List.exists_of_mapM_ok all (List.mem_mergeSort.mp member)
      exact fromWire_toWire ok
    simp [Listed, peersFromWire, again, sorted, unchanged, bind, Except.bind, pure, Except.pure]

end MovePeer

namespace SystemCommand

variable {codec : SystemCodec} {command : SystemCommand}

theorem registerFromWire_read {id : Nat} {addr name : Text} {tags : List WireTag} {high low : Nat}
    {machineInterface : Bytes}
    (ok : registerFromWire id addr name tags high low machineInterface = .ok command)
    : command.Read codec := by
  obtain ⟨⟨held, locality, user⟩, _, ok⟩ := Except.bind_eq_ok_iff.mp ok
  simp only [pure, Except.pure, bind, Except.bind] at ok
  split_ifs at ok
  cases ok
  trivial

theorem grantFromWire_read {request tenant : Nat} {footprint refused : Bool}
    {bookings : List Wire.BookCapacity}
    (ok : grantFromWire request tenant footprint refused bookings = .ok command)
    : command.Read codec := by
  simp only [grantFromWire, pure, Except.pure, bind, Except.bind] at ok
  split_ifs at ok
  all_goals
    first
      | cases ok; exact fun booked none => by cases none
      | cases all : bookings.mapM Slot.fromWire with
        | error reason => simp [all] at ok
        | ok slots =>
          rw [all] at ok
          cases ok
          intro booked same slot member
          cases same
          obtain ⟨book, read⟩ := List.exists_of_mapM_ok all member
          exact Slot.fromWire_named read

/-- A command that was read passed the checks of its values. -/
theorem decode_read {record : Bytes} (ok : decode codec record = .ok command)
    : command.Read codec := by
  simp only [decode] at ok
  split at ok
  · cases ok
  · cases ok
  case _ kind _ =>
    cases kind <;> simp only [fromWire] at ok
    case registerNode => exact registerFromWire_read ok
    case grantCapacity => exact grantFromWire_read ok
    case bookCapacity =>
      obtain ⟨slot, read, rfl⟩ := Except.map_eq_ok_iff.mp ok
      exact Slot.fromWire_named read
    case maintenance =>
      obtain ⟨scope, read, rfl⟩ := Except.map_eq_ok_iff.mp ok
      exact MaintenanceScope.fromWire_named read
    case setControlPlane =>
      obtain ⟨mode, read, rfl⟩ := Except.map_eq_ok_iff.mp ok
      exact controlPlaneFromWire_failures read
    case joinFleet =>
      obtain ⟨pointer, read, rfl⟩ := Except.map_eq_ok_iff.mp ok
      exact UniversePointer.fromWire_reads read
    case movePeers =>
      obtain ⟨peers, read, rfl⟩ := Except.map_eq_ok_iff.mp ok
      exact MovePeer.peersFromWire_listed read
    all_goals
      first
        | cases ok; trivial
        | obtain ⟨_, _, rfl⟩ := Except.map_eq_ok_iff.mp ok; trivial

end SystemCommand

-- Tags

theorem Tag.fromWire_toWire (tag : Tag) : Tag.fromWire ⟨tag.key, tag.value⟩ = .ok tag := by
  rw [Tag.fromWire]
  split
  case h_1 reason bad => cases tag.keyed.symm.trans bad
  case h_2 =>
    split
    case h_1 reason bad => cases tag.valued.symm.trans bad
    case h_2 => rfl

namespace Tags

@[simp]
theorem getElem?_restrict (tags : Tags) (keep : Text → Bool) (key : Text)
    : (tags.restrict keep).entries[key]? = if keep key then tags.entries[key]? else none :=
  getElem?_filterKeys keep

/-- The tags of a set, in key order. -/
def list (tags : Tags) : List Tag :=
  tags.entries.toList.attach.map fun entry =>
    ⟨entry.1.1, entry.1.2, (tags.checked _ _ (mem_toList.mp entry.2)).1,
      (tags.checked _ _ (mem_toList.mp entry.2)).2⟩

theorem list_map {α : Type} (tags : Tags) (view : Text → Text → α)
    : tags.list.map (fun tag => view tag.key tag.value)
      = tags.entries.toList.map fun entry => view entry.1 entry.2 := by
  simp only [list, List.map_map, Function.comp_def]
  exact List.attach_map_val (f := fun entry : Text × Text => view entry.1 entry.2)

/-- Tags of distinct keys are collected, each of them and what was there before. -/
theorem collect_ok {tags : Tags} {more : List Tag}
    (fresh : ∀ tag ∈ more, tags.entries[tag.key]? = none) (distinct : (more.map Tag.key).Nodup)
    : ∃ all, collect tags more = .ok all ∧ ∀ key value, all.entries[key]? = some value
        ↔ tags.entries[key]? = some value ∨ ∃ tag ∈ more, tag.key = key ∧ tag.value = value := by
  induction more generalizing tags with
  | nil => exact ⟨tags, rfl, by simp⟩
  | cons tag rest ih =>
    obtain ⟨unnamed, distinct⟩ := List.nodup_cons.mp distinct
    have missing := fresh tag List.mem_cons_self
    have added : ∀ key value, (tags.insert tag).entries[key]? = some value
        ↔ tags.entries[key]? = some value ∨ (key = tag.key ∧ value = tag.value) :=
      fun key value => getElem?_insert_fresh missing
    have next : ∀ other ∈ rest, (tags.insert tag).entries[other.key]? = none := by
      intro other member
      have apart : tag.key ≠ other.key := fun same =>
        unnamed (same ▸ List.mem_map_of_mem member)
      rw [insert, getElem?_insert, if_neg apart]
      exact fresh other (List.mem_cons_of_mem _ member)
    obtain ⟨all, collected, lookup⟩ := ih next distinct
    refine ⟨all, by rw [collect, missing]; exact collected, fun key value => ?_⟩
    rw [lookup, added, or_assoc, List.exists_mem_cons_iff, @eq_comm _ key, @eq_comm _ value]

theorem fromWire_toWire (tags : Tags) : fromWire tags.toWire = .ok tags := by
  have written : tags.toWire = tags.list.map fun tag => ⟨tag.key, tag.value⟩ :=
    (tags.list_map WireTag.mk).symm
  have distinct : (tags.list.map Tag.key).Nodup := by
    rw [tags.list_map fun key _ => key]
    exact (Std.ExtTreeMap.map_fst_toList_eq_keys (t := tags.entries)) ▸ Std.ExtTreeMap.nodup_keys
  have none : ∀ tag ∈ tags.list, empty.entries[tag.key]? = none := by simp [empty]
  obtain ⟨all, collected, lookup⟩ := collect_ok none distinct
  rw [fromWire, written, List.mapM_map_ok fun tag _ => tag.fromWire_toWire, Except.bind, collected]
  refine congrArg Except.ok (Tags.ext (Std.ExtTreeMap.ext_getElem? fun key => ?_))
  refine Option.ext fun value => (lookup key value).trans ?_
  have listed : (key, value) ∈ tags.list.map (fun tag => (tag.key, tag.value))
      ↔ tags.entries[key]? = some value := by
    rw [tags.list_map Prod.mk, List.map_id', mem_toList]
  simpa [empty] using listed

end Tags

theorem UserTags.ofTags_tags (user : UserTags) : UserTags.ofTags user.tags = .ok user := by
  rw [ofTags]
  split
  case h_1 key value found =>
    have reserved := List.find?_some found
    rw [user.user key value (mem_toList.mp (List.mem_of_find?_eq_some found))] at reserved
    cases reserved
  case h_2 => rw [dif_pos user.few]

theorem Class.parse_text (held : Class) : Class.parse held.text = some held := by
  cases held <;> rfl

/-- What a machine's tags hold: its class, its zone and its rack under their reserved keys, and
its user tags.
-/
theorem RegisteredNode.allTags_getElem? (node : RegisteredNode) (key : Text)
    : node.allTags.entries[key]?
      = if key = ReservedKey.roles then some node.nodeClass.text
        else if key = ReservedKey.zone ∧ node.locality.zone ≠ [] then some node.locality.zone
        else if key = ReservedKey.rack ∧ node.locality.rack ≠ [] then some node.locality.rack
        else node.tags.tags.entries[key]? := by
  have apart : ReservedKey.roles ≠ ReservedKey.zone ∧ ReservedKey.roles ≠ ReservedKey.rack
      ∧ ReservedKey.zone ≠ ReservedKey.rack := by decide
  by_cases zone : node.locality.zone = [] <;> by_cases rack : node.locality.rack = [] <;>
    simp only [allTags, Tags.withAll, machineTags, zone, rack, List.isEmpty_nil, if_true, ne_eq,
      not_true, not_false_eq_true, and_true, and_false, if_false, List.isEmpty_iff,
      List.foldl_cons, List.foldl_nil,
      List.cons_append, List.nil_append, List.append_nil, Tags.insert, getElem?_insert,
      @eq_comm _ key]
  all_goals grind

/-- A user's tags hold nothing under a reserved key. -/
theorem UserTags.getElem?_reserved (user : UserTags) {key : Text} (reserved : isReserved key = true)
    : user.tags.entries[key]? = Option.none := by
  cases held : user.tags.entries[key]? with
  | none => rfl
  | some value =>
    rw [user.user key value held] at reserved
    cases reserved

namespace RegisteredNode

variable (node : RegisteredNode)
include node

theorem allTags_user
    : node.allTags.restrict (fun key => !isReserved key) = node.tags.tags := by
  refine Tags.ext ?_
  ext1 key
  rw [Tags.getElem?_restrict]
  cases reserved : isReserved key with
  | true => simp [node.tags.getElem?_reserved reserved]
  | false =>
    have apart : key ≠ ReservedKey.roles ∧ key ≠ ReservedKey.zone ∧ key ≠ ReservedKey.rack := by
      refine ⟨?_, ?_, ?_⟩ <;> rintro rfl <;> cases reserved
    rw [allTags_getElem?]
    simp [apart]

theorem allTags_label_zone
    : (node.allTags.restrict isReserved).label ReservedKey.zone = node.locality.zone := by
  have reserved : isReserved ReservedKey.zone = true := rfl
  have apart : ReservedKey.zone ≠ ReservedKey.roles ∧ ReservedKey.zone ≠ ReservedKey.rack := by
    decide
  rw [Tags.label, Tags.getElem?_restrict, if_pos reserved, allTags_getElem?]
  by_cases zone : node.locality.zone = []
  · simp [apart, zone, node.tags.getElem?_reserved reserved]
  · simp [apart, zone]

theorem allTags_label_rack
    : (node.allTags.restrict isReserved).label ReservedKey.rack = node.locality.rack := by
  have reserved : isReserved ReservedKey.rack = true := rfl
  have apart : ReservedKey.rack ≠ ReservedKey.roles ∧ ReservedKey.rack ≠ ReservedKey.zone := by
    decide
  rw [Tags.label, Tags.getElem?_restrict, if_pos reserved, allTags_getElem?]
  by_cases rack : node.locality.rack = []
  · simp [apart, rack, node.tags.getElem?_reserved reserved]
  · simp [apart, rack]

/-- A machine carries no reserved key but those of its class and its place. -/
theorem allTags_others
    : ((node.allTags.restrict isReserved).restrict fun key =>
        !([ReservedKey.roles, ReservedKey.oldClass, ReservedKey.zone, ReservedKey.rack].contains
          key)).entries = ∅ := by
  ext1 key
  simp only [Tags.getElem?_restrict, Std.ExtTreeMap.getElem?_empty]
  split_ifs with other reserved
  · simp only [List.contains_cons, List.contains_nil, Bool.or_false, Bool.not_eq_true',
      Bool.or_eq_false_iff, beq_eq_false_iff_ne] at other
    rw [allTags_getElem?]
    simp [other.1, other.2.2.1, other.2.2.2, node.tags.getElem?_reserved reserved]
  · rfl
  · rfl

theorem parseMachineTags_allTags
    : parseMachineTags node.allTags = .ok (node.nodeClass, node.locality, node.tags) := by
  have roles : (node.allTags.restrict isReserved).entries[ReservedKey.roles]?
      = some node.nodeClass.text := by
    have reserved : isReserved ReservedKey.roles = true := rfl
    rw [Tags.getElem?_restrict, if_pos reserved, allTags_getElem?, if_pos rfl]
  have place : (⟨(node.allTags.restrict isReserved).label ReservedKey.zone,
        (node.allTags.restrict isReserved).label ReservedKey.rack, Tags.label_checked _ _,
        Tags.label_checked _ _⟩ : Locality) = node.locality :=
    Locality.ext node.allTags_label_zone node.allTags_label_rack
  simp only [parseMachineTags, node.allTags_user, node.tags.ofTags_tags, bind, Except.bind, roles,
    node.allTags_others, place]
  have none : (∅ : OrderedMap Text Text).keys = [] := rfl
  simp [pure, Except.pure, Class.parse_text, none]

theorem tags_read_back
    : (Tags.fromWire node.allTags.toWire).bind parseMachineTags
      = .ok (node.nodeClass, node.locality, node.tags) := by
  rw [Tags.fromWire_toWire]
  exact node.parseMachineTags_allTags

end RegisteredNode

end Paros
