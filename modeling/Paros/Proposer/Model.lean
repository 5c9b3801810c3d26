import Paros.Proposer.Election

/-! The proposer of one node: its election or repair probe, its open Phase-2 rounds, the recovery
of an inherited suffix, the next free slot and the leader's standing with its quorum. Rounds
delegated to a proxy are not modelled: the deployments here have none.
-/

namespace Paros

variable {V : Type}

/-- A Phase-2 round in flight. -/
structure Round (V : Type) where
  ballot : Ballot
  command : V
  acceptedBy : Finset NodeId
  column : Option Nat
  resends : Nat
  moves : Nat

structure PendingAccept (V : Type) where
  slot : Nat
  ballot : Ballot
  command : V
  column : Option Nat

structure Rounds (V : Type) where
  bySlot : SlotMap (Round V)
  resendCursor : Option Nat

namespace Rounds

def empty : Rounds V := ⟨∅, none⟩

variable (rounds : Rounds V)

def close (slot : Nat) : Rounds V :=
  { rounds with bySlot := rounds.bySlot.erase slot }

def retainFrom (first : Nat) : Rounds V :=
  { rounds with bySlot := OrderedMap.startingAt first rounds.bySlot }

def isOpenAt (slot : Nat) (ballot : Ballot) : Bool :=
  (rounds.bySlot[slot]?).any fun round => round.ballot == ballot

def openRound (slot : Nat) (ballot : Ballot) (command : V)
    (ownVote : Option NodeId) (column : Option Nat)
    : Rounds V :=
  { rounds with
    bySlot := rounds.bySlot.insert slot
      ⟨ballot, command, ownVote.toFinset, column, 0, 0⟩ }

/-- Send a round to another column: votes counted in the old one are dropped. -/
def moveTo (slot : Nat) (column : Option Nat) (ownVote : Option NodeId)
    : Option (Rounds V) :=
  match rounds.bySlot[slot]? with
  | none => none
  | some round =>
    if round.column = column then none
    else some { rounds with
      bySlot := rounds.bySlot.insert slot { round with
        column := column, acceptedBy := ownVote.toFinset, resends := 0
        moves := round.moves + 1 } }

/-- Count a vote of an acceptor the round was addressed to. -/
def foldAcceptedIn (config : AcceptorConfig) (node : NodeId) (ballot : Ballot) (slot : Nat)
    : Option (Rounds V) :=
  match rounds.bySlot[slot]? with
  | none => none
  | some round =>
    if config.isPhase2Addressee node round.column && round.ballot == ballot then
      some { rounds with
        bySlot := rounds.bySlot.insert slot
          { round with acceptedBy := insert node round.acceptedBy } }
    else none

/-- The round's proposal, once a Phase-2 quorum accepted it. -/
def decided (slot : Nat) (config : AcceptorConfig) : Option (Ballot × V) :=
  (rounds.bySlot[slot]?).bind fun round =>
    if config.hasPhase2QuorumIn round.acceptedBy round.column then
      some (round.ballot, round.command)
    else none

/-- The next open rounds in slot order from the cursor, wrapping around. -/
def resendPage (limit : Nat) : Rounds V × List (PendingAccept V) :=
  let start := rounds.resendCursor.getD 0
  let above := (OrderedMap.startingAt start rounds.bySlot).toList.take limit
  let below := (OrderedMap.before start rounds.bySlot).toList.take (limit - above.length)
  let page := (above ++ below).map fun (slot, round) =>
    (⟨slot, round.ballot, round.command, round.column⟩ : PendingAccept V)
  ({
    bySlot := rounds.bySlot.map fun slot round =>
      if page.any (·.slot == slot) then { round with resends := round.resends + 1 } else round
    resendCursor := page.getLast?.map (·.slot + 1)
  }, page)

end Rounds

inductive RecoveryPolicy where
  | phase1Backed
  | inherited
  deriving DecidableEq

/-- The suffix a new leader still has to close, from `cursor` up to `stop`. -/
structure Recovery (V : Type) where
  recovered : SlotMap V
  blocked : Finset Nat
  cursor : Nat
  stop : Nat
  policy : RecoveryPolicy

inductive RecoveryStep (V : Type) where
  | recovered (command : V)
  | fill
  | undescribed

def Recovery.next (recovery : Recovery V) : Option (Recovery V × Nat × RecoveryStep V) :=
  if recovery.stop ≤ recovery.cursor then none
  else
    let slot := recovery.cursor
    let step : RecoveryStep V :=
      match recovery.recovered[slot]? with
      | some command => .recovered command
      | none =>
        match recovery.policy with
        | .phase1Backed => .fill
        | .inherited => .undescribed
    some ({ recovery with cursor := slot + 1, recovered := recovery.recovered.erase slot },
      slot, step)

def Recovery.remaining (recovery : Recovery V) : Nat := recovery.stop - recovery.cursor

/-- Who acknowledged the leader since its quorum check last passed. -/
structure Authority where
  fence : Option Nat
  quorumAckedBy : Finset NodeId
  quorumElapsed : Nat

namespace Authority

def none : Authority := ⟨Option.none, ∅, 0⟩

def renew (authority : Authority) (ownVote : Option NodeId) : Authority :=
  { authority with quorumAckedBy := ownVote.toFinset, quorumElapsed := 0 }

def credit (authority : Authority) (node : NodeId) : Authority :=
  { authority with quorumAckedBy := insert node authority.quorumAckedBy }

def holds (authority : Authority) (config : AcceptorConfig) : Bool :=
  config.hasPhase2Quorum authority.quorumAckedBy

end Authority

structure Proposer (V : Type) where
  election : Option (Election V)
  probe : Option (RepairProbe V)
  rounds : Rounds V
  recovery : Option (Recovery V)
  nextSlot : Nat
  authority : Authority

namespace Proposer

def new (nextSlot : Nat) : Proposer V := ⟨none, none, .empty, none, nextSlot, .none⟩

variable (proposer : Proposer V)

/-- Drop everything a leadership or candidacy holds; the next slot stays. -/
def abandon : Proposer V := .new proposer.nextSlot

def retainRoundsFrom (first : Nat) : Proposer V :=
  { proposer with rounds := proposer.rounds.retainFrom first }

def probeResolvedElsewhere (slot : Nat) : Proposer V :=
  { proposer with probe := proposer.probe.bind (·.resolvedElsewhere slot) }

def probeRetainFrom (first : Nat) : Proposer V :=
  { proposer with probe := proposer.probe.bind (·.retainFrom first) }

def phase1Won (promise : Ballot) : Bool :=
  proposer.election.any fun election => election.covered && promise ≤ election.promises.ballot

def recoveryBlocked (slot : Nat) : Bool :=
  proposer.recovery.any fun recovery => slot ∈ recovery.blocked

def recoveryRemaining : Nat :=
  (proposer.recovery.map Recovery.remaining).getD 0

def closeDrainedRecovery : Proposer V :=
  if proposer.recoveryRemaining = 0 then { proposer with recovery := none } else proposer

def openAuthority (fence : Option Nat) (ownVote : Option NodeId)
    : Proposer V :=
  { proposer with authority := (⟨fence, ∅, 0⟩ : Authority).renew ownVote }

/-- Whether a refusal at a ballot concerns this proposer's campaign or an open round. -/
def supersedes (ballot : Ballot) (slot : Nat) : Bool :=
  proposer.election.any (fun election => election.promises.ballot == ballot)
    || proposer.rounds.isOpenAt slot ballot

end Proposer

end Paros
