import Paros.Replica.Model

/-! A node's durable image: the writes of its persisted batches, applied in order. A boot may
read back some of the accepted records damaged.
-/

namespace Paros

inductive WriteOp where
  | acceptor (write : AcceptorWrite Command)
  | setChosenIndex (slot : Nat)
  | truncate (first : Nat) (sealedAt : JournalState)
  | trimmedTo (point : Nat) (state : JournalState)

structure MemStorage where
  promised : Ballot
  chosenIndex : Option Nat
  accepted : SlotMap (Ballot × Command)
  firstSlot : Nat
  sealedAt : JournalState

namespace MemStorage

def new : MemStorage := ⟨.zero, none, ∅, 0, .initial⟩

def raiseFloor (storage : MemStorage) (first : Nat) : MemStorage :=
  let floor := max storage.firstSlot first
  { storage with
    accepted := OrderedMap.startingAt floor storage.accepted
    firstSlot := floor }

def applyOne (storage : MemStorage) : WriteOp → MemStorage
  | .acceptor (.setPromise ballot) => { storage with promised := ballot }
  | .acceptor (.appendAccepted slot ballot command) =>
    { storage with accepted := storage.accepted.insert slot (ballot, command) }
  | .setChosenIndex slot => { storage with chosenIndex := some slot }
  | .truncate first sealedAt => { storage with sealedAt := sealedAt }.raiseFloor first
  | .trimmedTo point state =>
    let covered :=
      if storage.chosenIndex.all (· < point - 1) then some (point - 1)
      else storage.chosenIndex
    { storage with sealedAt := state, chosenIndex := covered }.raiseFloor point

/-- The image of the persisted writes. -/
def replay (writes : List WriteOp) : MemStorage := writes.foldl applyOne new

/-- The retained records that are read back whole, given which slots' records are damaged. -/
def readable (storage : MemStorage) (faulty : Finset Nat) : SlotMap (Ballot × Command) :=
  storage.accepted.filter fun slot _ => storage.firstSlot ≤ slot && slot ∉ faulty

/-- The retained records that are read back damaged: only their ballots are known. -/
def damaged (storage : MemStorage) (faulty : Finset Nat) : SlotMap Ballot :=
  (storage.accepted.filter fun slot _ => storage.firstSlot ≤ slot && slot ∈ faulty).map
    fun _ record => record.1

end MemStorage

end Paros
