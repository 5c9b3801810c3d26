import Paros.Matchmaking
import Paros.Replica.Model

/-! What nodes and matchmakers send each other. Command fingerprints, which the receiver only
asserts, and proxies are left out.
-/

namespace Paros

/-- Whom a message is for. `learners` is every node of the pool. -/
inductive Audience where
  | node (recipient : NodeId)
  | acceptorsOf (config : AcceptorConfig) (column : Option Nat)
  | learners

inductive Message where
  | prepare (replyTo : NodeId) (ballot : Ballot) (fromSlot : Nat) (config : Option AcceptorConfig)
  | promise (sender : NodeId) (ballot : Ballot) (fromSlot : Nat)
    (accepted : SlotMap (Ballot × Command)) (faulty : SlotMap Ballot) (nextFromSlot : Option Nat)
  | accept (replyTo : NodeId) (leader : NodeId) (ballot : Ballot) (slot : Nat)
    (command : Command) (config : Option AcceptorConfig)
  | accepted (sender : NodeId) (ballot : Ballot) (slot : Nat)
  | nack (sender : NodeId) (ballot : Ballot) (slot : Nat)
  | commit (sender : NodeId) (ballot : Ballot) (slot : Nat) (command : Command)
  | catchUpRequest (sender : NodeId) (fromSlot : Nat)
  | catchUpResponse (sender : NodeId) (entries : SlotMap (Ballot × Command))
  | trimmedTo (sender : NodeId) (point : Nat) (state : JournalState)
  | relinquish (sender : NodeId) (recipient : NodeId) (ballot : Ballot) (fromSlot nextSlot : Nat)
    (decided : SlotMap (Ballot × Command)) (pending : SlotMap Command)
    (config : Option AcceptorConfig) (prior : List AcceptorConfig)
  | heartbeat (sender : NodeId) (ballot : Ballot) (commit : Option Nat)
    (config : Option AcceptorConfig) (fence : Option Nat)
  | heartbeatAck (sender : NodeId) (ballot : Ballot) (chosen : Option Nat)
  | preRead (replyTo : NodeId) (ctx : Ctx)
  | preReadAck (sender : NodeId) (ctx : Ctx) (watermark : Option Nat) (configSince : Option Ballot)

end Paros
