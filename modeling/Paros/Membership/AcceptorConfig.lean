import Paros.Library.Voting
import Paros.Membership.QuorumSystem

/-! Acceptor configurations and matchmaker sets. Both carry their well-formedness, so a quorum
question is only ever asked of a membership whose quorums intersect.
-/

namespace Paros

/-- The acceptors of a ballot: strictly increasing members that admit the quorum system. -/
structure AcceptorConfig where
  members : List NodeId
  quorumSystem : QuorumSystem
  sorted : members.Pairwise (· < ·)
  admitted : quorumSystem.admits members.length
  deriving DecidableEq

namespace AcceptorConfig

def sole (node : NodeId) : AcceptorConfig :=
  ⟨[node], .majority, List.pairwise_singleton _ _, show QuorumSystem.majority.admits 1 by decide⟩

def trio : AcceptorConfig := ⟨[0, 1, 2], .majority, by decide, by decide⟩

variable (config : AcceptorConfig)

variable (voters : Finset NodeId)

def hasPhase1QuorumIn (row : Option Nat) : Bool :=
  config.quorumSystem.isPhase1QuorumIn config.members voters row

def hasPhase1Quorum : Bool := config.hasPhase1QuorumIn voters none

def hasPhase2QuorumIn (column : Option Nat) : Bool :=
  config.quorumSystem.isPhase2QuorumIn config.members voters column

def hasPhase2Quorum : Bool := config.hasPhase2QuorumIn voters none

def readRow (ctx : Ctx) (chosen : Option Nat) : Option Nat :=
  config.quorumSystem.readRow ctx chosen

def isPhase1Addressee (node : NodeId) (row : Option Nat) : Bool :=
  config.quorumSystem.isPhase1Addressee config.members node row

def phase1Addressees (row : Option Nat) : List NodeId :=
  config.quorumSystem.phase1Addressees config.members row

def columnOf (slot : Nat) : Option Nat := config.quorumSystem.columnOf slot

def isPhase2Addressee (node : NodeId) (column : Option Nat) : Bool :=
  config.quorumSystem.isPhase2Addressee config.members node column

def contains (node : NodeId) : Bool := node ∈ config.members

def isDrawnFrom (pool : List NodeId) : Bool := config.members.all (· ∈ pool)

theorem members_nodup : config.members.Nodup :=
  config.sorted.imp fun less => less.ne

/-- The quorum families of the configurations, as sets of nodes: a set is a quorum when it
holds the members among some voters that count as one, in whatever row or column.
-/
def quorums : Voting.Quorums NodeId AcceptorConfig where
  phase1 config nodes := ∃ voters row, config.hasPhase1QuorumIn voters row
    ∧ ∀ node ∈ config.members, node ∈ voters → node ∈ nodes
  phase2 config nodes := ∃ voters column, config.hasPhase2QuorumIn voters column
    ∧ ∀ node ∈ config.members, node ∈ voters → node ∈ nodes
  meet := by
    rintro config first second ⟨voters, row, phase1, inFirst⟩ ⟨others, column, phase2, inSecond⟩
    obtain ⟨node, member, left, right⟩ :=
      QuorumSystem.quorums_meet config.members_nodup config.admitted phase1 phase2
    exact ⟨node, inFirst node member left, inSecond node member right⟩
  inhabited := by
    rintro config second ⟨voters, column, phase2, inSecond⟩
    obtain ⟨node, member, voted⟩ :=
      QuorumSystem.phase2_inhabited config.members_nodup config.admitted phase2
    exact ⟨node, inSecond node member voted⟩

end AcceptorConfig

/-- One generation of matchmakers: strictly increasing and not empty. -/
structure MatchmakerSet where
  generation : Nat
  members : List MatchmakerId
  sorted : members.Pairwise (· < ·)
  inhabited : members ≠ []
  deriving DecidableEq

namespace MatchmakerSet

variable (set : MatchmakerSet)

def quorumSize : Nat := majorityOf set.members.length

def hasQuorum (voters : Finset MatchmakerId) : Bool := isMajority set.members voters

def remaining (voters : Finset MatchmakerId) : Nat := set.quorumSize - voters.card

def unanswered (voters : Finset MatchmakerId) : List MatchmakerId :=
  set.members.filter (· ∉ voters)

def contains (matchmaker : MatchmakerId) : Bool := matchmaker ∈ set.members

end MatchmakerSet

end Paros
