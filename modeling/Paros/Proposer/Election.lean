import Paros.Acceptor
import Paros.Membership.AcceptorConfig

/-! Phase 1 of a campaign: paged promises are tallied until a Phase-1 quorum of every prior
configuration has answered in full. A slot that some acceptor reports damaged is decided only
when enough answers rule the damaged records out; else a repair probe stays open for it.
-/

namespace Paros

/-- The most entries one promise page may carry (the source's `PROMISE_BATCH`). -/
def promiseBatch : Nat := 64

variable {V : Type}

/-- Who has answered at a ballot, and where the others' next page starts. -/
structure PromiseTally where
  ballot : Ballot
  fromSlot : Nat
  answered : Finset NodeId
  promiseNext : OrderedMap NodeId Nat

inductive PromiseFold where
  | ignored
  | next (slot : Nat)
  | answered
  deriving DecidableEq

def promisePageShapeValid (expected : Nat) (accepted : SlotMap (Ballot × V))
    (faulty : SlotMap Ballot) (fromSlot : Nat) (nextFromSlot : Option Nat)
    : Bool :=
  let length := accepted.size + faulty.size
  fromSlot == expected
    && length ≤ promiseBatch
    && accepted.keys.all (fromSlot ≤ ·)
    && faulty.keys.all (fun slot => fromSlot ≤ slot && (accepted[slot]?).isNone)
    && nextFromSlot.all fun next =>
      0 < length && fromSlot < next
        && (OrderedMap.lastKey? accepted).all (· < next)
        && (OrderedMap.lastKey? faulty).all (· < next)

namespace PromiseTally

def expected (tally : PromiseTally) (node : NodeId) : Nat :=
  (tally.promiseNext[node]?).getD tally.fromSlot

def accepts (tally : PromiseTally) (node : NodeId) (ballot : Ballot) (fromSlot : Nat)
    (accepted : SlotMap (Ballot × V)) (faulty : SlotMap Ballot) (nextFromSlot : Option Nat)
    : Bool :=
  tally.ballot == ballot && node ∉ tally.answered
    && promisePageShapeValid (tally.expected node) accepted faulty fromSlot nextFromSlot

def closePage (tally : PromiseTally) (node : NodeId) (nextFromSlot : Option Nat)
    : PromiseTally × PromiseFold :=
  match nextFromSlot with
  | some next => ({ tally with promiseNext := tally.promiseNext.insert node next }, .next next)
  | none =>
    ({ tally with
        promiseNext := tally.promiseNext.erase node
        answered := insert node tally.answered },
      .answered)

end PromiseTally

/-- The answered nodes whose damaged record, if any, lies at or below the threshold. -/
def qualifyingAnswers (answered : Finset NodeId) (reporters : OrderedMap NodeId Ballot)
    (threshold : Option Ballot)
    : Finset NodeId :=
  answered.filter fun node =>
    (reporters[node]?).all fun ballot => threshold.any (ballot ≤ ·)

def memberUnion (configs : List AcceptorConfig) : List NodeId :=
  (configs.flatMap AcceptorConfig.members).dedup.insertionSort (· ≤ ·)

def slotDecidable (prior : List AcceptorConfig) (answered : Finset NodeId)
    (reporters : OrderedMap NodeId Ballot) (threshold : Option Ballot)
    : Bool :=
  prior.all fun config =>
    config.hasPhase1Quorum (qualifyingAnswers answered reporters threshold)

/-- Keep the report of the highest ballot for a slot. -/
def mergeReport (tally : SlotMap (Ballot × V)) (slot : Nat) (ballot : Ballot) (value : V)
    : SlotMap (Ballot × V) :=
  match tally[slot]? with
  | some (held, _) => if ballot ≤ held then tally else tally.insert slot (ballot, value)
  | none => tally.insert slot (ballot, value)

def mergeReports (tally : SlotMap (Ballot × V)) (reports : SlotMap (Ballot × V))
    : SlotMap (Ballot × V) :=
  reports.toList.foldl
    (fun tally (slot, ballot, value) => mergeReport tally slot ballot value) tally

/-- Which nodes reported a slot's record damaged, at which ballot. -/
abbrev FaultyReports := SlotMap (OrderedMap NodeId Ballot)

namespace FaultyReports

def reporters (reports : FaultyReports) (slot : Nat) : OrderedMap NodeId Ballot :=
  (reports[slot]?).getD ∅

def insertReport (reports : FaultyReports) (slot : Nat) (node : NodeId) (ballot : Ballot)
    : FaultyReports :=
  reports.insert slot ((reports.reporters slot).insert node ballot)

def insertReports (reports : FaultyReports) (node : NodeId) (faulty : SlotMap Ballot)
    : FaultyReports :=
  faulty.toList.foldl (fun reports (slot, ballot) => reports.insertReport slot node ballot) reports

end FaultyReports

structure Election (V : Type) where
  promises : PromiseTally
  config : AcceptorConfig
  prior : List AcceptorConfig
  recovered : SlotMap (Ballot × V)
  faultyReports : FaultyReports

/-- A leader's open question about the slots Phase 1 could not decide. -/
structure RepairProbe (V : Type) where
  promises : PromiseTally
  prior : List AcceptorConfig
  faultyReports : FaultyReports
  bestHave : SlotMap (Ballot × V)
  blocked : Finset Nat
  elapsed : Nat

structure ProbeDecision (V : Type) where
  slot : Nat
  command : Option V

structure Phase1Outcome (V : Type) where
  ballot : Ballot
  config : AcceptorConfig
  prior : List AcceptorConfig
  promisedBy : Finset NodeId
  recovered : SlotMap (Ballot × V)
  blocked : Finset Nat
  highestReported : Option Nat

namespace Election

variable (election : Election V)

def covered : Bool :=
  election.prior.all fun config => config.hasPhase1Quorum election.promises.answered

def targets (me : NodeId) : List NodeId :=
  (memberUnion (election.prior ++ [election.config])).filter (· ≠ me)

/-- The first slot past everything reported so far. -/
def keepAliveFrom : Nat :=
  match [OrderedMap.lastKey? election.recovered,
      OrderedMap.lastKey? election.faultyReports].reduceOption.max? with
  | some slot => slot + 1
  | none => election.promises.fromSlot

def paging : Bool := !election.promises.promiseNext.isEmpty

def involves (node : NodeId) : Bool :=
  election.config.contains node || election.prior.any (·.contains node)

/-- Open Phase 1; a candidate that is an acceptor itself is its own first answer. -/
def openPhase1 (me : Option NodeId) (ballot : Ballot) (config : AcceptorConfig)
    (prior : List AcceptorConfig) (fromSlot : Nat) (ownRecords : SlotMap (Ballot × V))
    (ownFaulty : SlotMap Ballot)
    : Election V where
  promises := { ballot, fromSlot, answered := me.toFinset, promiseNext := ∅ }
  config := config
  prior := prior
  recovered := OrderedMap.startingAt fromSlot ownRecords
  faultyReports := me.elim ∅ fun me =>
    FaultyReports.insertReports ∅ me (OrderedMap.startingAt fromSlot ownFaulty)

def foldPromise (node : NodeId) (ballot : Ballot) (fromSlot : Nat)
    (accepted : SlotMap (Ballot × V)) (faulty : SlotMap Ballot) (nextFromSlot : Option Nat)
    : Election V × PromiseFold :=
  if !election.involves node then (election, .ignored)
  else if !election.promises.accepts node ballot fromSlot accepted faulty nextFromSlot then
    (election, .ignored)
  else
    let (promises, fold) := election.promises.closePage node nextFromSlot
    ({ election with
        recovered := mergeReports election.recovered accepted
        faultyReports := election.faultyReports.insertReports node faulty
        promises := promises },
      fold)

/-- The slots with a damaged report that the answers do not decide, known chosen ones apart. -/
def blockedSlots (isChosen : Nat → Bool) : Finset Nat :=
  (election.faultyReports.keys.filter fun slot =>
    !isChosen slot
      && !slotDecidable election.prior election.promises.answered
        (election.faultyReports.reporters slot) ((election.recovered[slot]?).map Prod.fst)).toFinset

def closePhase1 (isChosen : Nat → Bool)
    : Phase1Outcome V × Option (RepairProbe V) :=
  let blocked := election.blockedSlots isChosen
  let probe : RepairProbe V := {
    promises := { election.promises with promiseNext := ∅ }
    prior := election.prior
    faultyReports := election.faultyReports.filter fun slot _ => slot ∈ blocked
    bestHave := election.recovered.filter fun slot _ => slot ∈ blocked
    blocked := blocked
    elapsed := 0
  }
  ({
    ballot := election.promises.ballot
    config := election.config
    prior := election.prior
    promisedBy := election.promises.answered
    recovered := election.recovered
    blocked := blocked
    highestReported := [OrderedMap.lastKey? election.recovered,
      OrderedMap.lastKey? election.faultyReports].reduceOption.max?
  }, if blocked.Nonempty then some probe else none)

end Election

namespace RepairProbe

variable (probe : RepairProbe V)

def requery (me : NodeId) : List NodeId :=
  (memberUnion probe.prior).filter fun node => node ≠ me && node ∉ probe.promises.answered

def foldPromise (node : NodeId) (ballot : Ballot) (fromSlot : Nat)
    (accepted : SlotMap (Ballot × V)) (faulty : SlotMap Ballot) (nextFromSlot : Option Nat)
    : RepairProbe V × PromiseFold :=
  if !probe.prior.any (·.contains node) then (probe, .ignored)
  else if !probe.promises.accepts node ballot fromSlot accepted faulty nextFromSlot then
    (probe, .ignored)
  else
    let (promises, fold) := probe.promises.closePage node nextFromSlot
    ({ probe with
        bestHave := mergeReports probe.bestHave (accepted.filter fun slot _ => slot ∈ probe.blocked)
        faultyReports := probe.faultyReports.insertReports node
          (faulty.filter fun slot _ => slot ∈ probe.blocked)
        promises := promises },
      fold)

def decidable (slot : Nat) : Bool :=
  slotDecidable probe.prior probe.promises.answered (probe.faultyReports.reporters slot)
    ((probe.bestHave[slot]?).map Prod.fst)

/-- Forget the slots that are not to be kept; a probe with none blocked is closed. -/
def keepSlots (keep : Nat → Bool) : Option (RepairProbe V) :=
  let blocked := probe.blocked.filter fun slot => keep slot
  if blocked.Nonempty then
    some { probe with
      blocked := blocked
      bestHave := probe.bestHave.filter fun slot _ => keep slot
      faultyReports := probe.faultyReports.filter fun slot _ => keep slot }
  else none

/-- Decide the slots that the answers held now decide, in slot order. -/
def resolve : Option (RepairProbe V) × List (ProbeDecision V) :=
  let decided := probe.blocked.filter fun slot => probe.decidable slot
  (probe.keepSlots fun slot => slot ∉ decided,
    decided.ascending.map fun slot => ⟨slot, (probe.bestHave[slot]?).map Prod.snd⟩)

def resolvedElsewhere (slot : Nat) : Option (RepairProbe V) :=
  if slot ∈ probe.blocked then probe.keepSlots (· ≠ slot) else some probe

def retainFrom (first : Nat) : Option (RepairProbe V) :=
  probe.keepSlots (first ≤ ·)

end RepairProbe

end Paros
