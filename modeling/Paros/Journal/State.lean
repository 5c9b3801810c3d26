import Paros.Types

/-! Journal commands and the sequencing state machine that judges them. A verdict reads the
state and, for a retry of an accepted write, the write first accepted at that position.
-/

namespace Paros

/-- One record's bytes. -/
abbrev Value := List UInt8

/-- A writer's identity; the zero identity is unset. -/
abbrev LeaderUuid := Nat

def LeaderUuid.isSet (leader : LeaderUuid) : Bool := leader != 0

/-- A client's write: its records land at `seq`, `seq + 1`, and so on. -/
structure Entry where
  leader : LeaderUuid
  seq : Nat
  records : List Value
  deriving DecidableEq, Repr

def Entry.count (entry : Entry) : Nat := entry.records.length

inductive Control where
  | truncate (leader : LeaderUuid) (upTo : Nat)
  | setLeader (new : LeaderUuid) (old : Option LeaderUuid)
  | noop
  deriving DecidableEq, Repr

inductive Command where
  | write (entry : Entry)
  | control (control : Control)
  deriving DecidableEq, Repr

namespace Command

def noop : Command := .control .noop

def asEntry : Command → Option Entry
  | write entry => some entry
  | control _ => none

end Command

inductive WriterMode where
  | single
  | multi
  deriving DecidableEq, Repr

structure JournalState where
  leader : Option LeaderUuid
  term : Nat
  nextSeq : Nat
  firstSeq : Nat
  deriving DecidableEq, Repr

structure JournalView where
  leader : Option LeaderUuid
  nextSeq : Nat
  firstSeq : Nat
  deriving DecidableEq, Repr

inductive Outcome where
  | accepted (seq : Nat) (count : Nat)
  | duplicate (seq : Nat) (count : Nat)
  | refused (view : JournalView)
  | truncated (view : JournalView)
  | leader (view : JournalView)
  | leaderRefused (view : JournalView)
  | trimmed (view : JournalView)
  | truncateRefused (view : JournalView)
  | wrongMode (view : JournalView)
  | noop
  deriving DecidableEq, Repr

namespace JournalState

/-- An empty journal. -/
def initial : JournalState := ⟨none, 0, 0, 0⟩

variable (state : JournalState)

def view : JournalView := ⟨state.leader, state.nextSeq, state.firstSeq⟩

def isCurrent (leader : LeaderUuid) : Bool := state.leader == some leader

/-- The positions the next accepted write takes. -/
def append (entry : Entry) : JournalState × Outcome :=
  ({ state with nextSeq := state.nextSeq + entry.count }, .accepted state.nextSeq entry.count)

def applyWrite (entry : Entry) (acceptedAt : Nat → Option Entry)
    : JournalState × Outcome :=
  if entry.seq < state.firstSeq then
    (state, .truncated state.view)
  else if entry.seq < state.nextSeq then
    if acceptedAt entry.seq = some entry then
      (state, .duplicate entry.seq entry.count)
    else
      (state, .refused state.view)
  else if !state.isCurrent entry.leader || entry.seq != state.nextSeq || entry.records.isEmpty then
    (state, .refused state.view)
  else
    state.append entry

def applyAppend (entry : Entry) : JournalState × Outcome :=
  if entry.records.isEmpty then (state, .refused state.view) else state.append entry

def applySetLeader (new : LeaderUuid) (old : Option LeaderUuid)
    : JournalState × Outcome :=
  if old != state.leader || !new.isSet || some new == state.leader then
    (state, .leaderRefused state.view)
  else
    let next := { state with term := state.term + 1, leader := some new }
    (next, .leader next.view)

def trim (upTo : Nat) : JournalState × Outcome :=
  let next := { state with firstSeq := max state.firstSeq (min upTo state.nextSeq) }
  (next, .trimmed next.view)

def applyTruncate (leader : LeaderUuid) (upTo : Nat)
    : JournalState × Outcome :=
  if !state.isCurrent leader then (state, .truncateRefused state.view) else state.trim upTo

/-- The verdict on one chosen command, by the journal's writer mode. -/
def apply (mode : WriterMode) (state : JournalState) (command : Command)
    (acceptedAt : Nat → Option Entry)
    : JournalState × Outcome :=
  match mode, command with
  | _, .control .noop => (state, .noop)
  | .single, .write entry =>
    if !entry.leader.isSet then (state, .wrongMode state.view)
    else state.applyWrite entry acceptedAt
  | .single, .control (.truncate leader upTo) =>
    if !leader.isSet then (state, .wrongMode state.view) else state.applyTruncate leader upTo
  | .single, .control (.setLeader new old) => state.applySetLeader new old
  | .multi, .write entry =>
    if !entry.leader.isSet then state.applyAppend entry else (state, .wrongMode state.view)
  | .multi, .control (.truncate leader upTo) =>
    if !leader.isSet then state.trim upTo else (state, .wrongMode state.view)
  | .multi, .control (.setLeader _ _) => (state, .wrongMode state.view)

end JournalState

end Paros
