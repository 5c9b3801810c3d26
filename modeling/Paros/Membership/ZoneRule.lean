import Paros.Tenant.Config

/-! Configurations whose members carry failure domains, and the rule over them: the loss of any one
domain leaves both quorums, and no domain holds a Phase-2 quorum alone.
-/

namespace Paros

/-- Domains are ordered by region, then by zone. -/
instance : LinearOrder FailureDomain :=
  LinearOrder.lift' (fun domain => toLex (domain.region, domain.az)) fun left right same => by
    obtain ⟨region, az⟩ := Prod.mk.inj (toLex_inj.mp same)
    cases left
    cases right
    exact FailureDomain.mk.injEq .. ▸ ⟨region, az⟩

-- The rule

inductive ZoneRule where
  | unlabeled
  | holds
  | losesQuorum (domain : FailureDomain)
  | commitsAlone (domain : FailureDomain)
  deriving DecidableEq

namespace JournalConfig

variable (config : JournalConfig)

/-- The members whose domain passes a test. -/
def membersWhere (test : FailureDomain → Bool) : Finset NodeId :=
  (((config.members.zip config.domains).filter fun pair => test pair.2).map Prod.fst).toFinset

def inside (domain : FailureDomain) : Finset NodeId := config.membersWhere (· = domain)

def outside (domain : FailureDomain) : Finset NodeId := config.membersWhere (· ≠ domain)

/-- What is wrong with a domain, if anything is. -/
def judgeDomain (domain : FailureDomain) : Option ZoneRule :=
  if !(config.hasPhase1Quorum (config.outside domain)
      && config.hasPhase2Quorum (config.outside domain)) then
    some (.losesQuorum domain)
  else if config.hasPhase2Quorum (config.inside domain) then some (.commitsAlone domain)
  else none

/-- The first verdict over the distinct domains in order. -/
def zoneRule : ZoneRule :=
  if config.domains = [] then .unlabeled
  else ((config.domains.toFinset.sort (· ≤ ·)).findSome? config.judgeDomain).getD .holds

variable {config}

-- More voters are a quorum too

theorem columnVotes_mono {members : List Nat} {cols column : Nat} {fewer more : Finset Nat}
    (within : fewer ⊆ more)
    : columnVotes members cols column fewer ≤ columnVotes members cols column more :=
  List.countP_mono_left fun node _ voted => by
    simp only [decide_eq_true_eq] at voted ⊢
    exact within voted

theorem counted_mono {members : List Nat} {fewer more : Finset Nat} (within : fewer ⊆ more)
    : counted members fewer ≤ counted members more :=
  Finset.card_le_card (Finset.filter_subset_filter _ within)

theorem hasPhase1Quorum_mono {fewer more : Finset NodeId} (within : fewer ⊆ more)
    (quorum : config.hasPhase1Quorum fewer)
    : config.hasPhase1Quorum more := by
  unfold AcceptorConfig.hasPhase1Quorum AcceptorConfig.hasPhase1QuorumIn at quorum ⊢
  cases system : config.quorumSystem <;> rw [system] at quorum
    <;> simp only [QuorumSystem.isPhase1QuorumIn, isMajority, Bool.and_eq_true, List.all_eq_true,
      decide_eq_true_eq] at quorum ⊢
  case grid =>
    exact ⟨quorum.1, fun column inside => (quorum.2 column inside).trans (columnVotes_mono within)⟩
  all_goals exact quorum.trans (counted_mono within)

theorem hasPhase2Quorum_mono {fewer more : Finset NodeId} (within : fewer ⊆ more)
    (quorum : config.hasPhase2Quorum fewer)
    : config.hasPhase2Quorum more := by
  unfold AcceptorConfig.hasPhase2Quorum AcceptorConfig.hasPhase2QuorumIn at quorum ⊢
  cases system : config.quorumSystem <;> rw [system] at quorum
    <;> simp only [QuorumSystem.isPhase2QuorumIn, isMajority, List.any_eq_true, decide_eq_true_eq]
      at quorum ⊢
  case grid =>
    obtain ⟨column, inside, enough⟩ := quorum
    exact ⟨column, inside, enough.trans (columnVotes_mono within)⟩
  all_goals exact quorum.trans (counted_mono within)

/-- The law one domain is judged by. -/
def Sound (config : JournalConfig) (domain : FailureDomain) : Prop :=
  (∃ quorum ⊆ config.outside domain, config.hasPhase1Quorum quorum)
  ∧ (∃ quorum ⊆ config.outside domain, config.hasPhase2Quorum quorum)
  ∧ ¬ ∃ quorum ⊆ config.inside domain, config.hasPhase2Quorum quorum

theorem judgeDomain_eq_none {domain : FailureDomain}
    : config.judgeDomain domain = none ↔ config.Sound domain := by
  have largest1 : (∃ quorum ⊆ config.outside domain, config.hasPhase1Quorum quorum)
      ↔ config.hasPhase1Quorum (config.outside domain) :=
    ⟨fun ⟨_, within, quorum⟩ => hasPhase1Quorum_mono within quorum, fun whole => ⟨_, subset_rfl, whole⟩⟩
  have largest2 : ∀ members : Finset NodeId, (∃ quorum ⊆ members, config.hasPhase2Quorum quorum)
      ↔ config.hasPhase2Quorum members :=
    fun members => ⟨fun ⟨_, within, quorum⟩ => hasPhase2Quorum_mono within quorum,
      fun whole => ⟨_, subset_rfl, whole⟩⟩
  rw [Sound, largest1, largest2, largest2, judgeDomain]
  split_ifs with loses alone
  · simp only [false_iff]
    rintro ⟨phase1, phase2, -⟩
    simp [phase1, phase2] at loses
  · simp [alone]
  · simpa [alone, and_assoc] using loses

end JournalConfig

-- Orders of members

/-- A pair is followed by pairs of higher members, or of its own member and domain. -/
def Agrees (left right : NodeId × FailureDomain) : Prop :=
  left.1 ≤ right.1 ∧ (left.1 = right.1 → left.2 = right.2)

instance Agrees.trans : Trans Agrees Agrees Agrees where
  trans {first second third} early late := by
    refine ⟨early.1.trans late.1, fun same => ?_⟩
    have middle : first.1 = second.1 := le_antisymm early.1 (same ▸ late.1)
    exact (early.2 middle).trans (late.2 (middle.symm.trans same))

/-- Sorted pairs agree next to each other only if they agree throughout. -/
theorem agree_iff {pairs : List (NodeId × FailureDomain)}
    (sorted : pairs.Pairwise fun left right => left.1 ≤ right.1)
    : pairs.IsChain (fun left right => left.1 = right.1 → left.2 = right.2)
      ↔ ∀ left ∈ pairs, ∀ right ∈ pairs, left.1 = right.1 → left.2 = right.2 := by
  constructor
  · intro agree
    have chained : pairs.IsChain Agrees := by
      induction pairs with
      | nil => exact .nil
      | cons first rest ih =>
        obtain ⟨above, later⟩ := List.pairwise_cons.mp sorted
        cases rest with
        | nil => exact .singleton _
        | cons second rest =>
          obtain ⟨same, agree⟩ := List.isChain_cons_cons.mp agree
          exact .cons_cons ⟨above second List.mem_cons_self, same⟩ (ih later agree)
    have symm : Std.Symm fun left right : NodeId × FailureDomain => left.1 = right.1 → left.2 = right.2 :=
      ⟨fun _ _ agrees same => (agrees same.symm).symm⟩
    exact (chained.pairwise.imp And.right).forall_of_forall fun _ _ _ => rfl
  · intro throughout
    exact (List.pairwise_of_forall_mem_list throughout).isChain

/-- The order of the members makes no difference to the configuration. -/
theorem JournalConfig.zoned_perm {members others : List (NodeId × FailureDomain)}
    (reordered : members.Perm others) (system : QuorumSystem)
    : zoned members system = zoned others system := by
  have sorts : ∀ pairs : List (NodeId × FailureDomain),
      (pairs.insertionSort (·.1 ≤ ·.1)).Pairwise (fun left right => left.1 ≤ right.1)
        ∧ (pairs.insertionSort (·.1 ≤ ·.1)).Perm pairs :=
    fun pairs => ⟨List.pairwise_insertionSort _ pairs, List.perm_insertionSort _ pairs⟩
  obtain ⟨sorted, same⟩ := sorts members
  obtain ⟨sorted', same'⟩ := sorts others
  have alike : (members.insertionSort (·.1 ≤ ·.1)).Perm (others.insertionSort (·.1 ≤ ·.1)) :=
    same.trans (reordered.trans same'.symm)
  have agree := agree_iff sorted
  have agree' := agree_iff sorted'
  simp only [alike.mem_iff] at agree
  unfold zoned
  by_cases throughout : ∀ left ∈ others.insertionSort (·.1 ≤ ·.1),
      ∀ right ∈ others.insertionSort (·.1 ≤ ·.1), left.1 = right.1 → left.2 = right.2
  · have equal : members.insertionSort (·.1 ≤ ·.1) = others.insertionSort (·.1 ≤ ·.1) := by
      refine List.Perm.eq_of_pairwise (fun left right isLeft isRight below above => ?_) sorted sorted'
        alike
      have member := le_antisymm below above
      exact Prod.ext member (throughout left (alike.mem_iff.mp isLeft) right isRight member)
    rw [equal]
  · simp only [mt agree.mp throughout, mt agree'.mp throughout, if_false]

/-- The rule holds exactly where there are labels, the loss of any domain leaves both quorums and no
domain commits alone, in whatever order the members and their domains are given.
-/
theorem zoneRule_holds_iff (config : JournalConfig)
    : (config.zoneRule = .holds ↔ config.domains ≠ [] ∧ ∀ domain ∈ config.domains,
        (∃ quorum ⊆ config.outside domain, config.hasPhase1Quorum quorum)
        ∧ (∃ quorum ⊆ config.outside domain, config.hasPhase2Quorum quorum)
        ∧ ¬ ∃ quorum ⊆ config.inside domain, config.hasPhase2Quorum quorum)
      ∧ ∀ members others system, members.Perm others
        → (JournalConfig.zoned members system).map JournalConfig.zoneRule
          = (JournalConfig.zoned others system).map JournalConfig.zoneRule := by
  refine ⟨?_, fun members others system reordered => by
    rw [JournalConfig.zoned_perm reordered system]⟩
  have sound : (∀ domain ∈ config.domains, config.Sound domain)
      ↔ (config.domains.toFinset.sort (· ≤ ·)).findSome? config.judgeDomain = none := by
    rw [List.findSome?_eq_none_iff]
    simp only [Finset.mem_sort, List.mem_toFinset, JournalConfig.judgeDomain_eq_none]
  refine Iff.trans ?_ (and_congr_right' sound.symm)
  rw [JournalConfig.zoneRule]
  split_ifs with plain
  · simp [plain]
  · cases found : (config.domains.toFinset.sort (· ≤ ·)).findSome? config.judgeDomain with
    | none => simp [plain]
    | some verdict =>
      obtain ⟨domain, -, judged⟩ := List.exists_of_findSome?_eq_some found
      simp only [Option.getD_some, reduceCtorEq, and_false, iff_false]
      rw [JournalConfig.judgeDomain] at judged
      split_ifs at judged <;> exact Option.some.inj judged ▸ nofun

end Paros
