import Paros.Library.MapFold
import Paros.Proposer.Model

/-! What the proposer's tallies hold after each of their operations. -/

namespace Paros

open OrderedMap

variable {V : Type}

-- Tallies

/-- The higher of a report and what is held, if anything. -/
def higher (report : Ballot × V) : Option (Ballot × V) → Ballot × V
  | some held => if report.1 ≤ held.1 then held else report
  | none => report

theorem higher_spec (report : Ballot × V) (held : Option (Ballot × V))
    : (∀ kept, held = some kept → kept.1 ≤ (higher report held).1)
      ∧ report.1 ≤ (higher report held).1
      ∧ (held = some (higher report held) ∨ higher report held = report) := by
  cases held with
  | none => simp [higher]
  | some held =>
    rw [higher]
    split_ifs with keeps
    · simp [keeps]
    · simp [(not_le.mp keeps).le]

theorem getElem?_mergeReport {tally : SlotMap (Ballot × V)} {slot place : Nat} {report : Ballot × V}
    : (mergeReport tally slot report.1 report.2)[place]?
      = if slot = place then some (higher report tally[slot]?) else tally[place]? := by
  unfold mergeReport
  split
  next held known present =>
    rw [present, higher]
    split_ifs with keeps same
    · rw [← same, present]
    · rfl
    all_goals simp_all [getElem?_insert]
  next absent => rw [absent, getElem?_insert, higher]

/-- What merging a page of reports leaves: the highest ballot of each slot, and nothing new. -/
theorem getElem?_mergeReports {tally reports : SlotMap (Ballot × V)} {slot : Nat}
    : (∀ {held}, tally[slot]? = some held
        → ∃ merged, (mergeReports tally reports)[slot]? = some merged ∧ held.1 ≤ merged.1)
      ∧ (∀ {held}, reports[slot]? = some held
        → ∃ merged, (mergeReports tally reports)[slot]? = some merged ∧ held.1 ≤ merged.1)
      ∧ ∀ {merged}, (mergeReports tally reports)[slot]? = some merged
        → tally[slot]? = some merged ∨ reports[slot]? = some merged := by
  have folded : (mergeReports tally reports)[slot]?
      = (reports[slot]?).elim tally[slot]? fun report => some (higher report tally[slot]?) :=
    foldl_view (fun slot (tally : SlotMap (Ballot × V)) => tally[slot]?)
      (fun _ report held => some (higher report held))
      (fun _ _ _ => by rw [getElem?_mergeReport, if_pos rfl])
      (fun _ _ _ _ apart => by rw [getElem?_mergeReport, if_neg apart.symm]) reports tally slot
  rw [folded]
  cases reports[slot]? with
  | none => exact ⟨fun held => ⟨_, held, le_rfl⟩, by simp, Or.inl⟩
  | some report =>
    obtain ⟨above, atLeast, origin⟩ := higher_spec report tally[slot]?
    refine ⟨fun held => ⟨_, rfl, above _ held⟩, ?_, ?_⟩
    · rintro _ ⟨rfl⟩
      exact ⟨_, rfl, atLeast⟩
    · rintro _ ⟨rfl⟩
      exact origin.imp_right fun same => congrArg some same.symm

namespace FaultyReports

theorem reporters_insertReport {reports : FaultyReports} {slot place : Nat} {node : NodeId}
    {ballot : Ballot}
    : (reports.insertReport slot node ballot).reporters place
      = if slot = place then (reports.reporters slot).insert node ballot
        else reports.reporters place := by
  unfold insertReport reporters
  rw [getElem?_insert]
  split_ifs <;> rfl

/-- Folding a node's damaged reports overwrites its own entries at their slots, and no other. -/
theorem reporters_insertReports {reports : FaultyReports} {node : NodeId}
    {faulty : SlotMap Ballot} {slot : Nat}
    : (∀ {ballot}, faulty[slot]? = some ballot
        → ((reports.insertReports node faulty).reporters slot)[node]? = some ballot)
      ∧ ∀ {other}, (node = other → faulty[slot]? = none)
        → ((reports.insertReports node faulty).reporters slot)[other]?
          = (reports.reporters slot)[other]? := by
  have folded : (reports.insertReports node faulty).reporters slot
      = (faulty[slot]?).elim (reports.reporters slot) ((reports.reporters slot).insert node) :=
    foldl_view (fun slot (reports : FaultyReports) => reports.reporters slot)
      (fun _ ballot held => held.insert node ballot)
      (fun _ _ _ => by rw [reporters_insertReport, if_pos rfl])
      (fun _ _ _ _ apart => by rw [reporters_insertReport, if_neg apart.symm]) faulty reports slot
  rw [folded]
  refine ⟨fun damaged => by simp [damaged], fun apart => ?_⟩
  cases damaged : faulty[slot]? with
  | none => rfl
  | some ballot =>
    refine (getElem?_insert ..).trans (if_neg fun same => ?_)
    rw [apart same] at damaged
    cases damaged

end FaultyReports

namespace RepairProbe

/-- What a probe keeps of the slots it does not forget. -/
theorem of_keepSlots {probe kept : RepairProbe V} {keep : Nat → Bool}
    (filtered : probe.keepSlots keep = some kept)
    : kept.promises = probe.promises ∧ kept.prior = probe.prior
      ∧ (∀ slot, slot ∈ kept.blocked ↔ slot ∈ probe.blocked ∧ keep slot)
      ∧ ∀ slot, keep slot → kept.bestHave[slot]? = probe.bestHave[slot]?
        ∧ kept.faultyReports[slot]? = probe.faultyReports[slot]? := by
  simp only [keepSlots] at filtered
  split_ifs at filtered
  obtain rfl := Option.some.inj filtered
  refine ⟨rfl, rfl, fun slot => Finset.mem_filter, fun slot stays => ?_⟩
  simp only [getElem?_filterKeys, stays, if_true, and_self]

end RepairProbe

end Paros
