import Paros.Library.OrderedMap
import Paros.Membership.AcceptorConfig

/-! Quorum reads: a read collects the vote watermarks of a Phase-1 quorum and is served once the
fold covers the highest of them.
-/

namespace Paros

/-- The configuration a read asks, the ballot that registered it, and the fence of the leader
that won it.
-/
structure ReadBasis where
  config : AcceptorConfig
  since : Ballot
  fence : Option Nat

inductive PreReadFold where
  | ignored
  | counted
  | superseded
  deriving DecidableEq

structure QuorumRead where
  ctx : Ctx
  row : Option Nat
  config : AcceptorConfig
  configSince : Ballot
  fence : Option Nat
  watermarks : OrderedMap NodeId (Option Nat)
  createdTick : Nat
  /-- The confirmed index, once a quorum has answered. -/
  confirmed : Option (Option Nat)

structure ReadState where
  ctx : Ctx
  index : Option Nat
  deriving DecidableEq

namespace QuorumRead

/-- The higher of two slots, where none lies below every slot. -/
def maxSlot : Option Nat → Option Nat → Option Nat
  | some left, some right => some (max left right)
  | some left, none => some left
  | none, right => right

def maxWatermark (read : QuorumRead) : Option Nat :=
  (read.watermarks.toList.map Prod.snd).foldl maxSlot none

def answered (read : QuorumRead) : Finset NodeId := read.watermarks.keys.toFinset

/-- Confirm a read whose quorum has answered. -/
def confirm (read : QuorumRead) : QuorumRead :=
  match read.confirmed with
  | some _ => read
  | none =>
    if read.config.hasPhase1QuorumIn read.answered read.row then
      { read with confirmed := some read.maxWatermark }
    else read

/-- The index a confirmed read waits for. -/
def target (read : QuorumRead) : Option (Option Nat) :=
  read.confirmed.map fun index => maxSlot index read.fence

end QuorumRead

/-- The open reads, oldest first. -/
abbrev QuorumReads := List QuorumRead

namespace QuorumReads

def openRead (reads : QuorumReads) (ctx : Ctx) (row : Option Nat) (basis : ReadBasis)
    (createdTick : Nat) (own : Option (NodeId × Option Nat))
    : QuorumReads × List NodeId :=
  let watermarks : OrderedMap NodeId (Option Nat) :=
    match own with
    | some (me, watermark) => (∅ : OrderedMap NodeId (Option Nat)).insert me watermark
    | none => ∅
  let addressees := (basis.config.phase1Addressees row).filter fun node =>
    own.map Prod.fst ≠ some node
  (reads ++ [{
    ctx := ctx
    row := row
    config := basis.config
    configSince := basis.since
    fence := basis.fence
    watermarks := watermarks
    createdTick := createdTick
    confirmed := none
  }], addressees)

/-- Count an answer for the first open read with this token. An answer from a member that knows
a newer configuration abandons the read.
-/
def fold (reads : QuorumReads) (ctx : Ctx) (node : NodeId) (watermark : Option Nat)
    (configSince : Option Ballot)
    : QuorumReads × PreReadFold :=
  match reads with
  | [] => ([], .ignored)
  | read :: rest =>
    if read.ctx ≠ ctx then
      let (folded, result) := fold rest ctx node watermark configSince
      (read :: folded, result)
    else if !read.config.isPhase1Addressee node read.row then (reads, .ignored)
    else if configSince.any (read.configSince < ·) then (rest, .superseded)
    else if read.confirmed.isSome || (read.watermarks[node]?).isSome then (reads, .ignored)
    else
      ({ read with watermarks := read.watermarks.insert node watermark } :: rest, .counted)

def abandonSuperseded (reads : QuorumReads) (configSince : Ballot) : QuorumReads :=
  reads.filter fun read => configSince ≤ read.configSince

/-- Serve the confirmed reads whose index is covered; keep the others. -/
def serve (reads : QuorumReads) (covered : Option Nat → Bool) : QuorumReads × List ReadState :=
  let confirmed := reads.map QuorumRead.confirm
  (confirmed.filter fun read => !read.target.any covered,
    confirmed.filterMap fun read =>
      (read.target.filter covered).map fun index => ⟨read.ctx, index⟩)

def expire (reads : QuorumReads) (now ttl : Nat) : QuorumReads :=
  reads.filter fun read => now - read.createdTick ≤ ttl

end QuorumReads

end Paros
