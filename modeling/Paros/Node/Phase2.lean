import Paros.Node.State

/-! Learning chosen commands, compaction, and Phase 2: rounds, votes and proposals. -/

namespace Paros

namespace Node

variable (node : Node)

-- Learning

def serveQuorumReads : Node :=
  let reads := node.quorumReads.serve node.replica.covers
  { node with
    quorumReads := reads.1
    pendingReadStates := node.pendingReadStates ++ reads.2 }

/-- Drop the chosen prefix up to a slot, as far as the journal fold allows. -/
def compact (upTo : Nat) : Node :=
  match node.replica.compactionTarget with
  | none => node
  | some target =>
    let first := max (min upTo target + 1) node.acceptor.firstSlot
    if first ≤ node.acceptor.firstSlot then node
    else
      let truncated := node.replica.truncate first
      { node with
        replica := truncated.1
        acceptor := node.acceptor.dropPrefix first
        proposer := node.proposer.retainRoundsFrom first }.queueWrites
          [.truncate first truncated.2]

/-- The ballot of the slot's record, where it carries the command. -/
def recordBallot (slot : Nat) (command : Command) : Option Ballot :=
  (node.acceptor.records[slot]?).bind fun (ballot, recorded) =>
    if recorded = command then some ballot else none

/-- Apply the next page of chosen slots. -/
def applyChosen : Node :=
  let advanced := node.replica.advance node.recordBallot
  { node with replica := advanced.1 }.queueWrites (advanced.2.1.map .setChosenIndex)

/-- The compaction that applying the next page makes due. -/
def dueCompaction : Option Nat := (node.replica.advance node.recordBallot).2.2

def compactDue (due : Option Nat) : Node :=
  let compacted :=
    match due with
    | some upTo => node.compact upTo
    | none => node
  { compacted with replica := compacted.replica.assertCompacted }

def advanceChosenIndex : Node :=
  (node.applyChosen.compactDue node.dueCompaction).serveQuorumReads

/-- Raise the promise to a chosen command's ballot; a campaign below it ends. -/
def raiseTo (ballot : Ballot) : Node :=
  if node.acceptor.promised < ballot then
    let promised := node.setPromise ballot
    if promised.role = .candidate then promised.becomeFollower none else promised
  else node

/-- Record a chosen command, unless the slot's record already carries it at such a ballot. -/
def recordChosen (slot : Nat) (command : Command) (ballot : Ballot) : Node :=
  if node.acceptor.carries slot ballot command then node
  else node.recordAccepted slot ballot command

def learnChosen (slot : Nat) (command : Command) : Node :=
  { node with
    replica := node.replica.learn slot command
    proposer := node.proposer.probeResolvedElsewhere slot }

/-- Learn a chosen command and make its record durable. -/
def markChosen (slot : Nat) (command : Command) (ballot : Ballot) : Node :=
  if slot < node.acceptor.firstSlot then node
  else if node.replica.isChosen slot then node.advanceChosenIndex
  else
    (((node.raiseTo ballot).recordChosen slot command ballot).learnChosen slot
      command).advanceChosenIndex

def closeRound (slot : Nat) : Node :=
  { node with proposer := { node.proposer with rounds := node.proposer.rounds.close slot } }

def onCommit (ballot : Ballot) (slot : Nat) (command : Command) : Node :=
  let heard := if node.ballot ≤ ballot then { node with electionElapsed := 0 } else node
  let learned := heard.markChosen slot command ballot
  if learned.proposer.rounds.isOpenAt slot ballot then learned.closeRound slot else learned

-- Rounds

def sendAccept (slot : Nat) (ballot : Ballot) (command : Command) (column : Option Nat) : Node :=
  node.push (.acceptorsOf node.acceptors column) (.accept node.me node.me ballot slot command none)

/-- A leader votes for its own proposal, unless its promise has passed its ballot. -/
def recordOwnRound (slot : Nat) (ballot : Ballot) (command : Command) : Node :=
  if ballot < node.acceptor.promised then node
  else (node.setPromise ballot).recordAccepted slot ballot command

def ownVote (recorded : Bool) (column : Option Nat) : Option NodeId :=
  if recorded && node.acceptors.isPhase2Addressee node.me column then some node.me else none

/-- Commit a round that a Phase-2 quorum accepted. -/
def tryDecide (slot : Nat) : Node :=
  match node.proposer.rounds.decided slot node.acceptors with
  | none => node
  | some (ballot, command) =>
    ((node.markChosen slot command ballot).broadcast
      (.commit node.me ballot slot command)).closeRound slot

def startAcceptRoundIn (slot : Nat) (command : Command) (column : Option Nat) : Node :=
  let ballot := node.ballot
  let recorded : Bool := node.acceptor.promised ≤ ballot
  let voted := node.recordOwnRound slot ballot command
  let opened := { voted with
    proposer := { voted.proposer with
      rounds := voted.proposer.rounds.openRound slot ballot command
        (voted.ownVote recorded column) column } }
  (opened.sendAccept slot ballot command column).tryDecide slot

def startAcceptRound (slot : Nat) (command : Command) : Node :=
  node.startAcceptRoundIn slot command (node.acceptors.columnOf slot)

def onAccepted (sender : NodeId) (ballot : Ballot) (slot : Nat) : Node :=
  match node.proposer.rounds.foldAcceptedIn node.acceptors sender ballot slot with
  | none => node
  | some rounds =>
    let counted := { node with proposer := { node.proposer with rounds := rounds } }
    let credited :=
      if counted.role = .leader ∧ ballot = counted.ballot then
        { counted with proposer := { counted.proposer with
          authority := counted.proposer.authority.credit sender } }
      else counted
    credited.tryDecide slot

/-- Send an open round to another column of the grid. -/
def moveRoundTo (slot column : Nat) : Node × Bool :=
  match node.proposer.rounds.bySlot[slot]? with
  | none => (node, false)
  | some round =>
    if round.column = some column || node.replica.isChosen slot then (node, false)
    else
      let recorded : Bool := node.acceptor.promised ≤ round.ballot
      let voted := node.recordOwnRound slot round.ballot round.command
      match voted.proposer.rounds.moveTo slot (some column)
          (voted.ownVote recorded (some column)) with
      | none => (voted, false)
      | some rounds =>
        let moved := { voted with proposer := { voted.proposer with rounds := rounds } }
        ((moved.sendAccept slot round.ballot round.command (some column)).tryDecide slot, true)

-- Proposals

def openProposal (column : Option Nat) (command : Command) : Node × ProposeResult :=
  let slot := node.proposer.nextSlot
  let allocated := { node with proposer := { node.proposer with nextSlot := slot + 1 } }
  (allocated.startAcceptRoundIn slot command (column.or (node.acceptors.columnOf slot)),
    .accepted slot)

def proposeCommand (column : Option Nat) (command : Command) : Node × ProposeResult :=
  if node.role ≠ .leader then (node, .notLeader node.leader)
  else if node.ballot < node.acceptor.promised then (node, .notLeader none)
  else node.openProposal column command

def proposeIn (entry : Entry) (column : Option Nat) : Node × ProposeResult :=
  node.proposeCommand column (.write entry)

def proposeControl (control : Control) : Node × ProposeResult :=
  node.proposeCommand none (.control control)

/-- Fill free slots with noops until the next slot has passed a watermark. -/
def fillSteps (watermark : Nat) : Nat → Node → Node
  | 0, node => node
  | steps + 1, node =>
    if node.proposer.nextSlot ≤ watermark then
      fillSteps watermark steps (node.openProposal none .noop).1
    else node

/-- A settled leader proposes noops up to a vote watermark it has not reached, so that the read
that reported it can be served.
-/
def fillToWatermark (watermark : Option Nat) : Node :=
  match watermark with
  | none => node
  | some watermark =>
    if node.role ≠ .leader || !node.leadershipSettled || node.ballot < node.acceptor.promised
        || watermark < node.proposer.nextSlot then
      node
    else node.fillSteps watermark (watermark + 1 - node.proposer.nextSlot)

end Node

end Paros
