import Paros.Acceptor
import Paros.Journal.State

/-! The replica: the chosen commands a node has learned, the contiguous prefix it has folded
into the journal, and the prefix drops of a truncation and of a jump to a peer's trim point.
-/

namespace Paros

open OrderedMap

structure Replica where
  chosen : SlotMap Command
  chosenIndex : Option Nat
  advancePending : Bool
  floor : Nat
  base : JournalState
  folded : Nat
  state : JournalState
  history : SlotMap JournalState
  outcomes : SlotMap Outcome
  positions : SlotMap Nat
  truncateDue : Bool
  compactionDue : Bool
  committed : List (Nat × Ballot × Command × Outcome)
  mode : WriterMode
  applyPage : Nat

/-- The most slots one batch applies (the source's `APPLY_BATCH`). -/
def applyBatch : Nat := 64

namespace Replica

variable (replica : Replica)

def firstUnchosen : Nat := replica.chosenIndex.elim 0 (· + 1)

def isChosen (slot : Nat) : Bool := (replica.chosen[slot]?).isSome

/-- Whether the fold has passed an index. -/
def covers : Option Nat → Bool
  | none => true
  | some index => index < replica.folded

/-- The slot the fold waits for, below the chosen index. -/
def foldHole : Option Nat :=
  if replica.folded < replica.firstUnchosen then some replica.folded else none

/-- The write indexed at a position, while its slot is retained. -/
def acceptedAt (seq : Nat) : Option Entry :=
  (replica.positions[seq]?).bind fun slot => (replica.chosen[slot]?).bind Command.asEntry

/-- The journal state after every slot below `slot`. -/
def stateAt (slot : Nat) : JournalState :=
  match lastBefore slot replica.history with
  | some (_, state) => state
  | none => replica.base

/-- The slot whose write holds a position; the floor when that write was dropped. -/
def slotHolding (position : Nat) : Nat :=
  if replica.state.nextSeq ≤ position then
    replica.folded
  else
    match lastBefore (position + 1) replica.positions with
    | some (_, slot) => max slot replica.floor
    | none => replica.floor

/-- The record slots that the retries folded from `first` on were judged against. -/
def neededSlots (first : Nat) : List Nat :=
  (OrderedMap.before replica.folded (startingAt first replica.chosen)).toList.filterMap
    fun (slot, command) =>
      if replica.mode = .multi then none else
        command.asEntry.bind fun entry =>
          let judged := replica.stateAt slot
          if judged.firstSeq ≤ entry.seq ∧ entry.seq < judged.nextSeq then
            some (replica.slotHolding entry.seq)
          else none

/-- The source's loop of `compaction_target`: lower `first` to the lowest needed slot until
nothing below it is needed. Every round lowers it, so `first` rounds are enough.
-/
def lowerToNeeded (replica : Replica) : Nat → Nat → Nat
  | 0, first => first
  | rounds + 1, first =>
    let needed := ((replica.neededSlots first).min?).getD first
    if first ≤ needed then first else replica.lowerToNeeded rounds needed

/-- The first slot a decided truncation has to keep. -/
def compactionFloor : Nat :=
  let first := replica.slotHolding replica.state.firstSeq
  replica.lowerToNeeded first first

/-- The highest slot a decided truncation lets this replica drop. -/
def compactionTarget : Option Nat :=
  match replica.compactionFloor with
  | 0 => none
  | slot + 1 => some slot

/-- Fold one chosen command into the journal. -/
def foldOne (slot : Nat) (command : Command) : Replica × Outcome :=
  let (state, outcome) := replica.state.apply replica.mode command replica.acceptedAt
  ({ replica with
      state := state
      positions :=
        match outcome, command with
        | .accepted seq _, .write _ => replica.positions.insert seq slot
        | _, _ => replica.positions
      truncateDue :=
        match outcome with
        | .trimmed _ => true
        | _ => replica.truncateDue
      history :=
        if state ≠ replica.state then replica.history.insert slot state else replica.history
      outcomes :=
        if outcome ≠ .noop then replica.outcomes.insert slot outcome else replica.outcomes
      folded := slot + 1 },
    outcome)

/-- Fold on while the next slot below the chosen index is held, for at most `steps` slots. -/
def refoldSteps : Nat → Replica → Replica
  | 0, replica => replica
  | steps + 1, replica =>
    if replica.folded < replica.firstUnchosen then
      match replica.chosen[replica.folded]? with
      | some command => refoldSteps steps (replica.foldOne replica.folded command).1
      | none => replica
    else replica

def refold : Replica :=
  replica.refoldSteps (replica.firstUnchosen - replica.folded)

/-- Boot from the durable records at or below the chosen index and the sealed base. -/
def fromBoot (mode : WriterMode) (chosenIndex : Option Nat) (floor : Nat)
    (sealedAt : JournalState) (records : SlotMap (Ballot × Command))
    : Replica :=
  let chosen : SlotMap Command :=
    (records.filter fun slot _ => chosenIndex.any (slot ≤ ·)).map fun _ record => record.2
  let replica : Replica := {
    chosen := chosen
    chosenIndex := chosenIndex
    advancePending := false
    floor := floor
    base := sealedAt
    folded := floor
    state := sealedAt
    history := ∅
    outcomes := ∅
    positions := ∅
    truncateDue := false
    compactionDue := false
    committed := []
    mode := mode
    applyPage := applyBatch
  }
  { replica.refold with truncateDue := false }

def setApplyPage (page : Nat) : Replica := { replica with applyPage := page }

def clearCommitted : Replica := { replica with committed := [] }

def learn (slot : Nat) (command : Command) : Replica :=
  let next := { replica with chosen := replica.chosen.insert slot command }
  if slot = replica.folded ∧ slot < replica.firstUnchosen then next.refold else next

/-- Apply chosen slots from the first unchosen one on, for at most `slots` of them. Each one's
chosen index is a durable write. A slot whose record does not carry the command stops the walk
(the source panics there).
-/
def walk (recordBallot : Nat → Command → Option Ballot)
    : Nat → Replica → List Nat → Replica × List Nat
  | 0, replica, written => (replica, written)
  | slots + 1, replica, written =>
    let next := replica.firstUnchosen
    match replica.chosen[next]? with
    | none => (replica, written)
    | some command =>
      match recordBallot next command with
      | none => (replica, written)
      | some ballot =>
        let (folded, outcome) :=
          { replica with chosenIndex := some next }.foldOne next command
        let applied :=
          { folded with committed := folded.committed ++ [(next, ballot, command, outcome)] }
        walk recordBallot slots applied (written ++ [next])

/-- Advance the chosen index over the contiguous chosen slots, one apply page at most. Returns
the chosen indexes to write and the slot to compact to when a truncation was folded.
-/
def advance (recordBallot : Nat → Command → Option Ballot)
    : Replica × List Nat × Option Nat :=
  let refolded := replica.refold
  let (walked, written) :=
    if refolded.folded = refolded.firstUnchosen then
      walk recordBallot refolded.applyPage refolded []
    else (refolded, [])
  let next := { walked with
    advancePending := walked.isChosen walked.firstUnchosen
    compactionDue := walked.truncateDue
    truncateDue := false }
  (next, written, if next.compactionDue then next.compactionTarget else none)

/-- Take note that the due compaction was made (the source also asserts its result here). -/
def assertCompacted : Replica := { replica with compactionDue := false }

def dropPrefix (first : Nat) (base : JournalState) : Replica :=
  { replica with
    base := base
    floor := first
    chosen := startingAt first replica.chosen
    history := startingAt first replica.history
    outcomes := startingAt first replica.outcomes
    positions := replica.positions.filter fun _ slot => first ≤ slot }

/-- Whether `truncate first` passes every assertion of the source. -/
def truncatable (first : Nat) : Bool :=
  replica.compactionTarget.any (first ≤ · + 1)
    && (replica.stateAt first).nextSeq ≤ replica.state.firstSeq
    && replica.floor ≤ first && first ≤ replica.folded

/-- Drop everything below `first` and return the journal state there. -/
def truncate (first : Nat) : Replica × JournalState :=
  let base := replica.stateAt first
  let dropped := replica.dropPrefix first base
  ({ dropped with advancePending := dropped.isChosen dropped.firstUnchosen }, base)

/-- Move the chosen index to the slot below a trim point: everything there is chosen. -/
def coverBoundary (point : Nat) : Replica :=
  if replica.chosenIndex.all (· < point - 1) then
    { replica with chosenIndex := some (point - 1) }
  else replica

/-- Jump below a peer's trim point: everything below it is chosen, and the peer's sealed state
is taken where the own fold has not reached the point.
-/
def trimTo (point : Nat) (sealedAt : JournalState)
    : Replica × JournalState :=
  let raised := replica.coverBoundary point
  let (jumped, base) : Replica × JournalState :=
    if point ≤ raised.folded then (raised, raised.stateAt point)
    else
      ({ raised with
          history := ∅, outcomes := ∅, positions := ∅, state := sealedAt, folded := point },
        sealedAt)
  let refolded := (jumped.dropPrefix point base).refold
  ({ refolded with advancePending := refolded.isChosen refolded.firstUnchosen }, base)

end Replica

end Paros
