import Paros.Library.OrderedMap
import Paros.Types

/-! The acceptor: a durable promise and the accepted records of the retained slots, some of which
may have been read back damaged (their ballot known, their value lost). Operations return the
writes that make them durable. The source's repair counter and record-ballot ceiling, which only
feed metrics and assertions, are left out.
-/

namespace Paros

open OrderedMap

/-- A map from slots (or positions) to values. -/
abbrev SlotMap (α : Type) := OrderedMap Nat α

inductive AcceptorWrite (V : Type) where
  | setPromise (ballot : Ballot)
  | appendAccepted (slot : Nat) (ballot : Ballot) (value : V)

inductive PrepareOutcome where
  | belowFloor
  | refused
  | promised (raised : Bool)
  deriving DecidableEq

inductive AcceptOutcome where
  | belowFloor
  | refused
  | admitted
  deriving DecidableEq

/-- One page of a promise: the readable and the damaged records it reports, and where the next
page starts.
-/
structure PromisePage (V : Type) where
  accepted : SlotMap (Ballot × V)
  faulty : SlotMap Ballot
  nextFromSlot : Option Nat

structure Acceptor (V : Type) where
  promised : Ballot
  records : SlotMap (Ballot × V)
  faulty : SlotMap Ballot
  firstSlot : Nat

namespace Acceptor

variable {V : Type}

variable (acceptor : Acceptor V)

/-- The highest slot this acceptor ever voted in, as far as it still knows: a record, a damaged
record, or the slot below the floor.
-/
def voteWatermark : Option Nat :=
  let truncated := if acceptor.firstSlot = 0 then none else some (acceptor.firstSlot - 1)
  [OrderedMap.lastKey? acceptor.records, OrderedMap.lastKey? acceptor.faulty,
    truncated].reduceOption.max?

def setPromise (acceptor : Acceptor V) (ballot : Ballot)
    : Acceptor V × List (AcceptorWrite V) :=
  if acceptor.promised = ballot then (acceptor, [])
  else ({ acceptor with promised := ballot }, [.setPromise ballot])

def prepare (ballot : Ballot) (fromSlot : Nat)
    : Acceptor V × List (AcceptorWrite V) × PrepareOutcome :=
  if fromSlot < acceptor.firstSlot then (acceptor, [], .belowFloor)
  else if ballot < acceptor.promised then (acceptor, [], .refused)
  else if acceptor.promised < ballot then
    let (raised, writes) := acceptor.setPromise ballot
    (raised, writes, .promised true)
  else (acceptor, [], .promised false)

/-- Where a page that stopped before these entries goes on. -/
def nextPageSlot : List (Nat × (Ballot × V)) → List (Nat × Ballot) → Option Nat
  | [], [] => none
  | (slot, _) :: _, [] => some slot
  | [], (slot, _) :: _ => some slot
  | (readable, _) :: _, (rotted, _) :: _ => some (min readable rotted)

/-- The source's page loop: take the lower of the two next entries until the page is full. -/
def fillPage : Nat → List (Nat × (Ballot × V)) → List (Nat × Ballot) → PromisePage V
    → PromisePage V
  | 0, readable, rotted, page => { page with nextFromSlot := nextPageSlot readable rotted }
  | _ + 1, [], [], page => { page with nextFromSlot := none }
  | room + 1, (slot, record) :: readable, [], page =>
    fillPage room readable [] { page with accepted := page.accepted.insert slot record }
  | room + 1, [], (slot, ballot) :: rotted, page =>
    fillPage room [] rotted { page with faulty := page.faulty.insert slot ballot }
  | room + 1, (slot, record) :: readable, (damaged, ballot) :: rotted, page =>
    if slot < damaged then
      fillPage room readable ((damaged, ballot) :: rotted)
        { page with accepted := page.accepted.insert slot record }
    else
      fillPage room ((slot, record) :: readable) rotted
        { page with faulty := page.faulty.insert damaged ballot }

def promisePage (fromSlot limit : Nat) : PromisePage V :=
  fillPage limit (startingAt fromSlot acceptor.records).toList
    (startingAt fromSlot acceptor.faulty).toList ⟨∅, ∅, none⟩

def admitAccept (ballot : Ballot) (slot : Nat) : AcceptOutcome :=
  if slot < acceptor.firstSlot then .belowFloor
  else if ballot < acceptor.promised then .refused
  else .admitted

/-- Record an accepted value; a damaged record at the slot is replaced by it. -/
def recordAccepted (slot : Nat) (ballot : Ballot) (value : V)
    : Acceptor V × List (AcceptorWrite V) :=
  ({ acceptor with
      faulty := acceptor.faulty.erase slot
      records := acceptor.records.insert slot (ballot, value) },
    [.appendAccepted slot ballot value])

/-- The slot's readable record carries a chosen value, at its ballot or a higher one. -/
def carries [DecidableEq V] (slot : Nat) (ballot : Ballot) (value : V) : Bool :=
  (acceptor.records[slot]?).any fun (held, recorded) => recorded == value && ballot ≤ held

/-- Write the held record again, after a scrub found its durable copy damaged. -/
def rewrite (slot : Nat) : List (AcceptorWrite V) :=
  match acceptor.records[slot]? with
  | some (ballot, value) => [.appendAccepted slot ballot value]
  | none => []

/-- Raise the retention floor of both windows. -/
def dropPrefix (first : Nat) : Acceptor V :=
  { acceptor with
    records := startingAt first acceptor.records
    faulty := startingAt first acceptor.faulty
    firstSlot := first }

theorem setPromise_fst {ballot : Ballot}
    : (acceptor.setPromise ballot).1 = { acceptor with promised := ballot } := by
  unfold setPromise
  split_ifs with same
  · rw [← same]
  · rfl

end Acceptor

end Paros
