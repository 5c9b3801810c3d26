import Paros.Protocol.Act
import Paros.Protocol.Image

/-! What a node's acts do to its acceptor, its replica and the writes it queues. -/

namespace Paros

open Node (Input)

namespace Core

-- The acts on storage

/-- The same acceptor, replica and queued writes. -/
structure SameStorage (left right : Core) : Prop where
  acceptor : left.acceptor = right.acceptor
  replica : left.replica = right.replica
  writes : left.writes = right.writes

/-- What an act may do to a node's storage. -/
inductive Writes (input : Input) (core : Core) : Core → Prop
  | still : Writes input core core
  | promise {ballot} (raises : core.acceptor.promised < ballot)
    : Writes input core (core.promise ballot)
  | record {slot ballot command} (promised : ballot ≤ core.acceptor.promised)
    : Writes input core (core.record slot ballot command)
  | rewrite {slot : Nat} {ballot : Ballot} {command : Command}
    (held : core.acceptor.records[slot]? = some (ballot, command))
    : Writes input core (core.queue [.acceptor (.appendAccepted slot ballot command)])
  | learn {slot : Nat} {ballot : Ballot} {command : Command}
    (held : core.acceptor.records[slot]? = some (ballot, command))
    (retained : core.acceptor.firstSlot ≤ slot) (unknown : core.replica.isChosen slot = false)
    : Writes input core (core.learn slot command).walk
  | walk : Writes input core core.walk
  | compact {upTo : Nat} (asked : input = .compact upTo) : Writes input core (core.compact upTo)
  | trim {sender point state} (told : input = .deliver (.trimmedTo sender point state))
    (raises : core.acceptor.firstSlot < point)
    : Writes input core (core.jump point state).walk

variable {input : Input} {core next : Core}

theorem Act.writes (act : Act input core next)
    : ∃ stored, Writes input core stored ∧ next.SameStorage stored := by
  cases act with
  | promise raises => exact ⟨_, .promise raises, rfl, rfl, rfl⟩
  | accept asked promised retained => exact ⟨_, .record promised.ge, rfl, rfl, rfl⟩
  | recordKnown known retained promised => exact ⟨_, .record promised, rfl, rfl, rfl⟩
  | rewrite held => exact ⟨_, .rewrite held, rfl, rfl, rfl⟩
  | learn known held covers retained unknown =>
    exact ⟨_, .learn held retained unknown, rfl, rfl, rfl⟩
  | walk => exact ⟨_, .walk, rfl, rfl, rfl⟩
  | compact asked => exact ⟨_, .compact asked, rfl, rfl, rfl⟩
  | trim told raises => exact ⟨_, .trim told raises, rfl, rfl, rfl⟩
  | campaign abovePromise aboveBallot standing =>
    exact ⟨_, .promise (Ballot.lt_of_round_lt abovePromise), rfl, rfl, rfl⟩
  | propose audience voted entitled votes own skips =>
    cases voted with
    | true => exact ⟨_, .record (own rfl).ge, rfl, rfl, rfl⟩
    | false => exact ⟨_, .still, rfl, rfl, rfl⟩
  | win own isOpen stands covered promised closed idle =>
    refine ⟨_, .still, ?_⟩
    split <;> exact ⟨rfl, rfl, rfl⟩
  | install own told vacant promised fresh unlearned named idle =>
    refine ⟨_, .still, ?_⟩
    split <;> exact ⟨rfl, rfl, rfl⟩
  | _ => exact ⟨_, .still, rfl, rfl, rfl⟩

end Core

end Paros
