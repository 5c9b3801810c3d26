import Paros.Membership.AcceptorConfig
import Paros.Registry.Tags

/-! A journal's configuration as its tenant records it: the acceptors with their failure domains,
the cell that owns the journal, and the counts of its proxy leaders and replicas.
-/

namespace Paros

namespace Wire

structure FailureDomain where
  region : Text
  az : Text
  deriving Countable, DecidableEq

structure AcceptorConfig where
  members : List Nat
  quorumSystem : Int
  phase1Quorum : Nat
  phase2Quorum : Nat
  rows : Nat
  cols : Nat
  domains : List FailureDomain
  cellId : Nat
  proxies : Nat
  replicas : Nat
  deriving Countable

end Wire

-- Quorum systems

/-- The five fields that carry a quorum system. A full-column grid leaves its acks at zero. -/
structure WireQuorumSystem where
  quorumSystem : Int
  phase1Quorum : Nat
  phase2Quorum : Nat
  rows : Nat
  cols : Nat

namespace QuorumSystem

def toProto : QuorumSystem → WireQuorumSystem
  | majority => ⟨0, 0, 0, 0, 0⟩
  | flexible q1 q2 => ⟨1, q1, q2, 0, 0⟩
  | grid rows cols acks => ⟨2, 0, if acks = rows then 0 else acks, rows, cols⟩

def fromProto (wire : WireQuorumSystem) : Except String QuorumSystem :=
  if wire.quorumSystem = 0 then .ok .majority
  else if wire.quorumSystem = 1 then .ok (.flexible wire.phase1Quorum wire.phase2Quorum)
  else if wire.quorumSystem = 2 then
    .ok (.grid wire.rows wire.cols
      (if wire.phase2Quorum = 0 then wire.rows else wire.phase2Quorum))
  else .error "unknown quorum system"

theorem fromProto_toProto {system : QuorumSystem} {members : Nat} (admitted : system.admits members)
    : fromProto system.toProto = .ok system := by
  cases system with
  | majority => rfl
  | flexible q1 q2 => rfl
  | grid rows cols acks =>
    have asked : acks ≠ 0 := by
      simp only [admits, Bool.and_eq_true, decide_eq_true_eq] at admitted
      omega
    by_cases whole : acks = rows <;> simp [fromProto, toProto, whole, asked]

end QuorumSystem

-- Failure domains

def maxFailureDomainBytes : Nat := 64

/-- A region and a zone, with short names. -/
structure FailureDomain where
  region : Text
  az : Text
  short : region.utf8Length ≤ maxFailureDomainBytes ∧ az.utf8Length ≤ maxFailureDomainBytes
  deriving DecidableEq

namespace FailureDomain

instance : Inhabited FailureDomain := ⟨[], [], by decide⟩

def toProto (domain : FailureDomain) : Wire.FailureDomain := ⟨domain.region, domain.az⟩

def fromProto (domain : Wire.FailureDomain) : Except String FailureDomain :=
  if short : domain.region.utf8Length ≤ maxFailureDomainBytes
      ∧ domain.az.utf8Length ≤ maxFailureDomainBytes then
    .ok ⟨domain.region, domain.az, short⟩
  else .error "failure domain name too long"

theorem fromProto_toProto (domain : FailureDomain) : fromProto domain.toProto = .ok domain :=
  dif_pos domain.short

end FailureDomain

/-- The failure domains of the members read so far. -/
abbrev Labels := OrderedMap NodeId FailureDomain

def labelMember (labels : Labels) : NodeId × Wire.FailureDomain → Except String Labels
  | (member, domain) => do
    let domain ← FailureDomain.fromProto domain
    if (labels[member]?).any (· ≠ domain) then throw "a member carries two failure domains"
    return labels.insert member domain

def zonedMembers (members : List NodeId) (domains : List Wire.FailureDomain)
    : Except String (Option Labels) :=
  if domains.isEmpty then .ok none
  else if domains.length ≠ members.length then
    .error "failure domains do not label every member"
  else ((members.zip domains).foldlM labelMember ∅).map some

/-- Members with one label each are read back with those labels. -/
theorem labelMember_read_back (pairs : List (NodeId × FailureDomain))
    (apart : (pairs.map Prod.fst).Nodup)
    : ∃ labels, (pairs.map fun pair => (pair.1, pair.2.toProto)).foldlM labelMember ∅ = .ok labels
        ∧ ∀ pair ∈ pairs, labels[pair.1]? = some pair.2 := by
  -- The labels so far are those of the pairs that were read.
  obtain ⟨labels, read, _, held⟩ := List.foldlM_map_ok labelMember
    (fun pair : NodeId × FailureDomain => (pair.1, pair.2.toProto)) pairs ∅
    (fun done labels => (∀ member : NodeId, member ∉ done.map Prod.fst → labels[member]? = none)
      ∧ ∀ pair ∈ done, labels[pair.1]? = some pair.2)
    ⟨by simp, by simp⟩ (by
      rintro done ⟨member, domain⟩ rest labels whole ⟨fresh, held⟩
      have other : member ∉ done.map Prod.fst := by
        rw [whole, List.map_append, List.map_cons] at apart
        exact fun there => (List.nodup_append.mp apart).2.2 member there member (by simp) rfl
      refine ⟨labels.insert member domain, ?_, fun late => ?_, fun pair => ?_⟩
      · simp [labelMember, FailureDomain.fromProto_toProto, fresh member other, bind, Except.bind,
          pure, Except.pure]
      · intro outside
        simp only [List.map_append, List.map_cons, List.map_nil, List.mem_append, List.mem_singleton,
          not_or] at outside
        rw [OrderedMap.getElem?_insert, if_neg (Ne.symm outside.2)]
        exact fresh late outside.1
      · intro there
        rw [OrderedMap.getElem?_insert]
        rcases List.mem_append.mp there with earlier | last
        · rw [if_neg]
          · exact held pair earlier
          · rintro rfl
            exact other (List.mem_map_of_mem earlier)
        · rw [List.mem_singleton.mp last, if_pos rfl])
  exact ⟨labels, read, held⟩

-- Configurations

/-- The most instances of one role that a configuration or a tenant may ask for. -/
def maxRoleCount : Nat := 64

theorem none_few : 0 ≤ maxRoleCount ∧ 0 ≤ maxRoleCount := by decide

/-- An acceptor configuration with all that it binds to a ballot. The domains label every member or
none.
-/
structure JournalConfig extends AcceptorConfig where
  domains : List FailureDomain
  cell : Nat
  proxies : Nat
  replicas : Nat
  labelled : domains = [] ∨ domains.length = members.length
  few : proxies ≤ maxRoleCount ∧ replicas ≤ maxRoleCount
  deriving DecidableEq

/-- The counts of a configuration's proxy leaders and replicas. -/
abbrev RoleCounts := { counts : Nat × Nat // counts.1 ≤ maxRoleCount ∧ counts.2 ≤ maxRoleCount }

def roleCounts (proxies replicas : Nat) : Option RoleCounts :=
  if few : proxies ≤ maxRoleCount ∧ replicas ≤ maxRoleCount then some ⟨(proxies, replicas), few⟩
  else none

theorem ascending_sorted (members : Finset ℕ) : members.ascending.Pairwise (· < ·) :=
  List.pairwise_lt_range.filter _

namespace JournalConfig

/-- Assemble a configuration. A failed assertion of the source gives no result; what it asserts of
the quorums' sizes and intersection, the quorum system admits only with them.
-/
def build (members : List NodeId) (domains : List FailureDomain) (system : QuorumSystem)
    : Option JournalConfig :=
  if formed : members.Pairwise (· < ·) ∧ system.admits members.length
      ∧ (domains = [] ∨ domains.length = members.length) then
    some ⟨⟨members, system, formed.1, formed.2.1⟩, domains, 0, 0, 0, formed.2.2, none_few⟩
  else none

/-- The configuration of some members in any order. -/
def new (members : List NodeId) (system : QuorumSystem) : Option JournalConfig :=
  build members.toFinset.ascending [] system

/-- The configuration of labelled members in any order. A member named twice has one domain; domains
are short by their type.
-/
def zoned (members : List (NodeId × FailureDomain)) (system : QuorumSystem) : Option JournalConfig :=
  let sorted := members.insertionSort (·.1 ≤ ·.1)
  let listed := sorted.destutter (·.1 ≠ ·.1)
  if sorted.IsChain fun first second : NodeId × _ => first.1 = second.1 → first.2 = second.2 then
    build (listed.map Prod.fst) (listed.map Prod.snd) system
  else none

def withCell (config : JournalConfig) (cell : Nat) : JournalConfig := { config with cell := cell }

def withCounts (config : JournalConfig) (counts : RoleCounts) : JournalConfig :=
  { config with proxies := counts.1.1, replicas := counts.1.2, few := counts.2 }

variable {members : List NodeId} {domains : List FailureDomain} {system : QuorumSystem}
  {config : JournalConfig}

theorem build_spec (done : build members domains system = some config)
    : config.members = members ∧ config.quorumSystem = system ∧ config.domains = domains
      ∧ config.cell = 0 := by
  unfold build at done
  split_ifs at done
  exact Option.some.inj done ▸ ⟨rfl, rfl, rfl, rfl⟩

/-- Deduplicating keeps every member, by induction over the sorted list. -/
theorem mem_destutter {pairs : List (NodeId × FailureDomain)} {node : NodeId}
    : node ∈ (pairs.destutter (·.1 ≠ ·.1)).map Prod.fst ↔ node ∈ pairs.map Prod.fst := by
  cases pairs with
  | nil => simp
  | cons first rest =>
    rw [List.destutter_cons']
    induction rest generalizing first with
    | nil => simp
    | cons second rest ih =>
      rw [List.destutter']
      split_ifs with other
      · rw [List.map_cons, List.mem_cons, ih]
        simp
      · rw [ih]
        simp [not_not.mp other]

/-- A labelled configuration is of the members and the system it is asked for. -/
theorem zoned_spec {pairs : List (NodeId × FailureDomain)} (done : zoned pairs system = some config)
    : (∀ node, node ∈ config.members ↔ node ∈ pairs.map Prod.fst) ∧ config.quorumSystem = system := by
  unfold zoned at done
  extract_lets sorted listed at done
  split_ifs at done
  obtain ⟨members, same, _⟩ := build_spec done
  refine ⟨fun node => ?_, same⟩
  rw [members, mem_destutter]
  exact ((List.perm_insertionSort _ _).map Prod.fst).mem_iff

end JournalConfig

def configToProto (config : JournalConfig) : Wire.AcceptorConfig :=
  let system := config.quorumSystem.toProto
  { members := config.members
    quorumSystem := system.quorumSystem
    phase1Quorum := system.phase1Quorum
    phase2Quorum := system.phase2Quorum
    rows := system.rows
    cols := system.cols
    domains := config.domains.map FailureDomain.toProto
    cellId := config.cell
    proxies := config.proxies
    replicas := config.replicas }

/-- The labels in the order of the members. -/
def labelsOf (members : List NodeId) : Option Labels → List FailureDomain
  | none => []
  | some labels => members.map fun member => (labels[member]?).getD default

theorem labelsOf_labelled (members : List NodeId) (labels : Option Labels)
    : labelsOf members labels = [] ∨ (labelsOf members labels).length = members.length := by
  cases labels with
  | none => exact .inl rfl
  | some labels => exact .inr (List.length_map _)

/-- The configuration of the written members, sorted and each named once. -/
def configFromProto : Option Wire.AcceptorConfig → Except String (Option JournalConfig)
  | none => .ok none
  | some config => do
    let system ← QuorumSystem.fromProto
      ⟨config.quorumSystem, config.phase1Quorum, config.phase2Quorum, config.rows, config.cols⟩
    if config.members.isEmpty then throw "empty acceptor configuration"
    let zoned ← zonedMembers config.members config.domains
    if few : config.proxies ≤ maxRoleCount ∧ config.replicas ≤ maxRoleCount then
      let members := config.members.toFinset.ascending
      if admitted : system.admits members.length then
        return some ⟨⟨members, system, ascending_sorted _, admitted⟩, labelsOf members zoned,
          config.cellId, config.proxies, config.replicas, labelsOf_labelled _ _, few⟩
      else throw "acceptor configuration does not admit its quorum system"
    else throw "a role count is at most 64"

theorem ascending_of_sorted {members : List ℕ} (sorted : members.Pairwise (· < ·))
    : members.toFinset.ascending = members := by
  have distinct : ∀ {listed : List ℕ}, listed.Pairwise (· < ·) → listed.Nodup :=
    fun pairwise => pairwise.imp fun less => less.ne
  have same : members.toFinset.ascending.Perm members :=
    (List.perm_ext_iff_of_nodup (distinct (ascending_sorted _)) (distinct sorted)).mpr (by simp)
  exact same.eq_of_pairwise (fun _ _ _ _ less more => absurd more (lt_asymm less))
    (ascending_sorted _) sorted

/-- A configuration's members and labels are read back. -/
theorem zonedMembers_read_back (config : JournalConfig)
    : ∃ zoned, zonedMembers config.members (config.domains.map FailureDomain.toProto) = .ok zoned
        ∧ labelsOf config.members zoned = config.domains := by
  cases listed : config.domains with
  | nil => exact ⟨none, rfl, rfl⟩
  | cons domain rest =>
    have long : config.domains.length = config.members.length :=
      config.labelled.resolve_left (by simp [listed])
    obtain ⟨labels, read, held⟩ := labelMember_read_back (config.members.zip config.domains) (by
      rw [List.map_fst_zip long.ge]
      exact config.members_nodup)
    rw [← listed]
    refine ⟨some labels, ?_, List.ext_getElem (by simp [labelsOf, long]) fun index left right => ?_⟩
    · rw [zonedMembers, if_neg (by simp [listed]), if_neg (by simp [long]), List.zip_map_right]
      exact congrArg (Except.map some) read
    · have bound : index < (config.members.zip config.domains).length := by
        simp only [List.length_zip, long, min_self]
        exact long ▸ right
      have pair := held _ (List.getElem_mem bound)
      rw [List.getElem_zip] at pair
      simp only [labelsOf, List.getElem_map, pair, Option.getD_some]

theorem configFromProto_toProto (config : JournalConfig)
    : configFromProto (some (configToProto config)) = .ok (some config) := by
  obtain ⟨zoned, read, labels⟩ := zonedMembers_read_back config
  have members := ascending_of_sorted config.sorted
  have inhabited : config.members ≠ [] := by
    intro empty
    have admitted := config.admitted
    cases system : config.quorumSystem <;>
      simp [system, empty, QuorumSystem.admits] at admitted
    omega
  simp only [configFromProto, configToProto, QuorumSystem.fromProto_toProto config.admitted, read,
    bind, Except.bind, members, labels, dif_pos config.few, dif_pos config.admitted, pure,
    Except.pure]
  rw [if_neg (by simpa using inhabited)]

end Paros
