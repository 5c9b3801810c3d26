import Paros.Checkpoint.Folder
import Paros.Registry.Tags
import Paros.Types

/-! What the cell control journal records: nodes, bookings, grants, hosted tenants, tenant moves,
balance moves and maintenance windows, and the commands and verdicts of its fold. The source's
unsigned integers are naturals: none of them is added to, but for counts and positions.
-/

namespace Paros

-- Identifiers

abbrev TenantId := Nat

/-- Whether an id names anything: zero does not. -/
def TenantId.isSet (tenant : TenantId) : Bool := tenant != 0

def JournalId.isSet (journal : JournalId) : Bool := journal != 0

structure JournalIdentifier where
  tenant : TenantId
  journal : JournalId
  deriving DecidableEq, Repr

def JournalIdentifier.isSet (identifier : JournalIdentifier) : Bool :=
  identifier.tenant.isSet && identifier.journal.isSet

-- Roles and bookings

inductive Role where
  | acceptor
  | replica
  | matchmaker
  | frontend
  | resolver
  | proxyLeader
  | batcher
  | unbatcher
  | coordinator
  deriving DecidableEq, Repr

namespace Role

def all : List Role :=
  [acceptor, replica, matchmaker, frontend, resolver, proxyLeader, batcher, unbatcher, coordinator]

def text : Role → Text
  | acceptor => "acceptor".toList
  | replica => "replica".toList
  | matchmaker => "matchmaker".toList
  | frontend => "frontend".toList
  | resolver => "resolver".toList
  | proxyLeader => "proxy_leader".toList
  | batcher => "batcher".toList
  | unbatcher => "unbatcher".toList
  | coordinator => "coordinator".toList

/-- The class of the machines that run it: the roles with a durable store are `storage`. -/
def roleClass : Role → Class
  | acceptor | replica | matchmaker => .storage
  | frontend | resolver | proxyLeader | batcher | unbatcher | coordinator => .stateless

def parse (text : Text) : Except String Role :=
  match all.find? (·.text == text) with
  | some role => .ok role
  | none => .error "a role is one of the placement's roles"

end Role

inductive BookingTarget where
  | journal (journal : JournalIdentifier)
  | set (tenant : TenantId) (set : Nat)
  | tenant (tenant : TenantId)
  deriving DecidableEq, Repr

namespace BookingTarget

def tenantOf : BookingTarget → TenantId
  | journal identifier => identifier.tenant
  | set owner _ | tenant owner => owner

def isTenant : BookingTarget → Bool
  | tenant _ => true
  | _ => false

end BookingTarget

structure Booking where
  node : NodeId
  role : Role
  target : BookingTarget
  deriving DecidableEq, Repr

structure Slot where
  booking : Nat
  node : NodeId
  role : Role
  target : BookingTarget
  deriving DecidableEq, Repr

inductive GrantKey where
  | footprint (tenant : TenantId)
  | request (request : Nat)
  deriving DecidableEq, Repr

namespace GrantKey

def key : GrantKey → ℕ ⊕ₗ ℕ
  | footprint tenant => toLex (.inl tenant)
  | request number => toLex (.inr number)

theorem key_injective : Function.Injective key := by
  rintro (_ | _) (_ | _) same <;> simp_all [key]

instance : LinearOrder GrantKey := LinearOrder.lift' key key_injective

instance transOrd : Std.TransOrd GrantKey := inferInstance

end GrantKey

structure Grant where
  tenant : TenantId
  bookings : Option (List Nat)
  deriving DecidableEq, Repr

def Grant.granted (grant : Grant) : Bool := grant.bookings.isSome

-- Nodes

inductive NodeStanding where
  | registered
  | draining
  | retired
  deriving DecidableEq, Repr

structure RegisteredNode where
  addr : Text
  locality : Locality
  name : Text
  nodeClass : Class
  standing : NodeStanding
  registrations : Nat
  incarnation : Nat
  machineInterface : Bytes
  admitted : Bool
  tags : UserTags

namespace RegisteredNode

/-- An initial member: a registered storage node that serves the cell, with no registration. -/
def initial : RegisteredNode where
  addr := []
  locality := .default
  name := []
  nodeClass := .storage
  standing := .registered
  registrations := 0
  incarnation := 0
  machineInterface := []
  admitted := true
  tags := .none

def allTags (node : RegisteredNode) : Tags :=
  node.tags.tags.withAll (machineTags node.nodeClass node.locality)

end RegisteredNode

structure Liveness where
  incarnation : Nat
  up : Bool
  slow : Bool
  lowSpace : Bool
  deriving DecidableEq, Repr

inductive MaintenanceScope where
  | machine (id : NodeId)
  | zone (zone : Text)
  deriving DecidableEq, Repr

namespace MaintenanceScope

def key : MaintenanceScope → ℕ ⊕ₗ Text
  | machine id => toLex (.inl id)
  | zone name => toLex (.inr name)

theorem key_injective : Function.Injective key := by
  rintro (_ | _) (_ | _) same <;> simp_all [key]

instance : LinearOrder MaintenanceScope := LinearOrder.lift' key key_injective

instance transOrd : Std.TransOrd MaintenanceScope := inferInstance

end MaintenanceScope

structure MaintenanceWindow where
  forMs : Nat
  seq : Nat
  deriving DecidableEq, Repr

-- Tenants

inductive Survives where
  | az
  | region
  deriving DecidableEq, Repr

structure HostedTenant where
  control : JournalId
  name : Bytes
  survives : Survives
  members : List NodeId
  deriving DecidableEq, Repr

/-- Where the universe directory is; the addresses are in their canonical form. -/
structure UniversePointer where
  directory : JournalIdentifier
  hosts : List (Nat × Text)
  deriving DecidableEq, Repr

structure FleetRegistration where
  fleetId : Nat
  cellId : Nat
  version : Nat
  deriving DecidableEq, Repr

/-- The newest metadata version a fleet registration may name. -/
def metadataVersion : Nat := 6

structure MovePeer where
  id : NodeId
  addr : Text
  machineInterface : Bytes
  deriving DecidableEq, Repr

namespace MovePeer

/-- The order of the source's `sort`: by id, then address, then interface. -/
def key (peer : MovePeer) : ℕ ×ₗ (Text ×ₗ List ℕ) :=
  toLex (peer.id, toLex (peer.addr, peer.machineInterface.map UInt8.toNat))

theorem key_injective : Function.Injective key := by
  rintro ⟨_, _, left⟩ ⟨_, _, right⟩ same
  have bytes : Function.Injective (List.map UInt8.toNat) :=
    List.map_injective_iff.mpr fun _ _ => UInt8.toNat_inj.mp
  simpa [key, bytes.eq_iff] using same

instance : LinearOrder MovePeer := LinearOrder.lift' key key_injective

end MovePeer

structure MovePeers where
  cellId : Nat
  peers : List MovePeer
  deriving DecidableEq, Repr

structure TenantMove where
  leaving : Option Nat
  arriving : Option Nat
  born : List NodeId
  peers : Option MovePeers
  deriving DecidableEq, Repr

namespace TenantMove

def default : TenantMove := ⟨none, none, [], none⟩

/-- Whether a record holds nothing: its tenant takes part in no move. -/
def isEmpty (move : TenantMove) : Bool :=
  move.leaving.isNone && move.arriving.isNone && move.born.isEmpty && move.peers.isNone

end TenantMove

-- The balancer and the control plane

inductive BalanceReason where
  | roles
  | busy
  deriving DecidableEq, Repr

structure BalanceMove where
  booking : Nat
  journal : JournalIdentifier
  source : NodeId
  destination : NodeId
  reason : BalanceReason
  started : Nat
  deriving DecidableEq, Repr

inductive BalanceOutcome where
  | done
  | abandoned
  deriving DecidableEq, Repr

structure EndedMove where
  moved : BalanceMove
  outcome : BalanceOutcome
  position : Nat
  deriving DecidableEq, Repr

structure BalanceState where
  paused : Bool
  requests : Finset Nat
  moving : Option BalanceMove
  ended : List EndedMove
  deriving DecidableEq

/-- How many ended moves are kept. -/
def endedKept : Nat := 8

namespace BalanceState

def default : BalanceState := ⟨false, ∅, none, []⟩

variable (balance : BalanceState)

def isEmpty : Bool := balance = default

/-- Apply a request once: nothing for one applied before. -/
def set (request : Nat) (paused : Bool) : Option BalanceState :=
  if request ∈ balance.requests then none
  else some { balance with requests := insert request balance.requests, paused := paused }

def start (moved : BalanceMove) : BalanceState :=
  { balance with moving := some moved }

/-- End the move of a booking: nothing when none of it is in flight. The oldest ended moves are
dropped.
-/
def finish (booking : Nat) (outcome : BalanceOutcome) (position : Nat)
    : Option BalanceState :=
  (balance.moving.filter (·.booking = booking)).map fun moved =>
    let ended := balance.ended ++ [⟨moved, outcome, position⟩]
    { balance with moving := none, ended := ended.drop (ended.length - endedKept) }

end BalanceState

inductive ControlPlaneMode where
  | auto (target : Nat)
  | manual (failures : Nat)
  deriving DecidableEq, Repr

namespace ControlPlaneMode

/-- The largest number of failures a control plane takes. -/
def maxFailures : Nat := 3

def isAuto : ControlPlaneMode → Bool
  | auto _ => true
  | manual _ => false

def failures : ControlPlaneMode → Nat
  | auto target => target
  | manual held => held

/-- The acceptors a number of failures needs. -/
def acceptors (failures : Nat) : Nat := 2 * failures + 1

end ControlPlaneMode

end Paros
