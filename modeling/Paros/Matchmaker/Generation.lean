import Paros.Decree.Model
import Paros.Matchmaker.Model

/-! The matchmaker's half of a generation's handover: freezing and reporting, holding a proposed
successor's reconstruction, voting in the decree that chooses the successor, and activating it.
-/

namespace Paros

namespace Matchmaker

variable (matchmaker : Matchmaker)

/-- Say what this matchmaker knows, so that a stale reconfigurer adopts it. -/
def refusal : ReconfigureReply :=
  .refused matchmaker.id matchmaker.set matchmaker.phase matchmaker.hardState.successor

def servesHandoverOf (generation : Nat) : Bool :=
  matchmaker.set.generation = generation
    && (matchmaker.phase = .active || matchmaker.phase = .stopped)

-- The freeze

/-- Stop registering; the set served becomes durable with the phase. -/
def freeze : Matchmaker :=
  { matchmaker with
    hardState := { matchmaker.hardState with
      generation := matchmaker.set.generation
      members := matchmaker.set.members
      phase := .stopped } }.refreshSet.stageScalars

/-- A journal's registry as it is reported. -/
def journalRegistry (journal : JournalId) : JournalRegistry :=
  ⟨matchmaker.gcWatermark journal, matchmaker.registry journal, matchmaker.effective journal⟩

/-- The journals above a cursor that hold anything, in order. -/
def frozenAbove (after : Option JournalId) : List (JournalId × JournalRegistry) :=
  ((matchmaker.registries.keys.filter (pastCursor after)).map fun journal =>
      (journal, matchmaker.journalRegistry journal)).filter fun (_, registry) => !registry.isBlank

/-- The first of them, and the last journal listed where there are more. -/
def frozenPage (after : Option JournalId) (limit : Nat)
    : OrderedMap JournalId JournalRegistry × Option JournalId :=
  let listed := (matchmaker.frozenAbove after).take limit
  (Std.ExtTreeMap.ofList listed,
    if ((matchmaker.frozenAbove after).drop limit).isEmpty then none
    else listed.getLast?.map Prod.fst)

def onStop (generation : Nat) (after : Option JournalId) : Matchmaker × ReconfigureReply :=
  if !matchmaker.servesHandoverOf generation then (matchmaker, matchmaker.refusal)
  else
    let frozen := if matchmaker.phase = .active then matchmaker.freeze else matchmaker
    let (registries, next) := frozen.frozenPage after frozen.pageSize
    (frozen,
      .stopped matchmaker.id generation after next registries frozen.hardState.successor
        frozen.hardState.decree.promised)

-- Pending bootstraps

/-- The bootstrap held for a proposed set. -/
def pendingFor (set : MatchmakerSet) : Option PendingBootstrap :=
  matchmaker.hardState.pending.find? (·.set = set)

/-- Whether a proposal is refused whole: it leaves this matchmaker out, does not move it forward,
or competes with a successor already recorded here.
-/
def refusesBootstrap (set : MatchmakerSet) : Bool :=
  !set.contains matchmaker.id
    || decide (set.generation ≤ matchmaker.set.generation)
    || matchmaker.hardState.successor.any fun successor =>
      decide (set.generation ≤ successor.generation) && decide (set ≠ successor)

/-- Whether a page moves what is held: it is well formed, what is held is not whole, and the page
starts over or goes on after the last journal held.
-/
def fits (page : BootstrapPage) : Bool :=
  let held := matchmaker.pendingFor page.set
  page.isWellFormed
    && !(held.any (·.complete))
    && (page.after.isNone || held.any (·.held = page.after))

/-- What is held once a fitting page was taken. -/
def extended (page : BootstrapPage) : PendingBootstrap where
  set := page.set
  registries :=
    match page.after, matchmaker.pendingFor page.set with
    | some _, some held => held.registries.insertMany page.registries.toList
    | _, _ => page.registries
  complete := page.last

def takePage (page : BootstrapPage) : Matchmaker :=
  if matchmaker.fits page then
    { matchmaker with
      hardState := { matchmaker.hardState with
        pending := (matchmaker.extended page).hold matchmaker.hardState.pending } }.stageScalars
  else matchmaker

def onBootstrap (page : BootstrapPage) : Matchmaker × ReconfigureReply :=
  if matchmaker.refusesBootstrap page.set then (matchmaker, matchmaker.refusal)
  else
    let next := matchmaker.takePage page
    let held := next.pendingFor page.set
    (next,
      .bootstrapped matchmaker.id page.set (held.bind PendingBootstrap.held)
        (held.any (·.complete)))

-- The successor decree

/-- The decree's acceptor, rebuilt from the durable record. -/
def decreeAcceptor : Acceptor (List MatchmakerId) where
  promised := matchmaker.hardState.decree.promised
  records := votePage matchmaker.hardState.decree.vote
  faulty := ∅
  firstSlot := decreeSlot

def storeDecree (acceptor : Acceptor (List MatchmakerId))
    (writes : List (AcceptorWrite (List MatchmakerId)))
    : Matchmaker :=
  if writes.isEmpty then matchmaker
  else
    { matchmaker with
      hardState := { matchmaker.hardState with
        decree := ⟨acceptor.promised, acceptor.records[decreeSlot]?⟩ } }.stageScalars

def onDecreePrepare (generation : Nat) (ballot : Ballot) : Matchmaker × ReconfigureReply :=
  if !matchmaker.servesHandoverOf generation then (matchmaker, matchmaker.refusal)
  else
    let (acceptor, writes, outcome) := matchmaker.decreeAcceptor.prepare ballot decreeSlot
    match outcome with
    | .promised _ =>
      (matchmaker.storeDecree acceptor writes,
        .promised matchmaker.id generation ballot acceptor.records[decreeSlot]?)
    | _ => (matchmaker, .nacked matchmaker.id generation ballot acceptor.promised)

def onDecreeAccept (generation : Nat) (ballot : Ballot) (members : List MatchmakerId)
    : Matchmaker × ReconfigureReply :=
  if !matchmaker.servesHandoverOf generation then (matchmaker, matchmaker.refusal)
  else
    let acceptor := matchmaker.decreeAcceptor
    match acceptor.admitAccept ballot decreeSlot with
    | .admitted =>
      let (raised, promise) := acceptor.setPromise ballot
      let (voted, record) := raised.recordAccepted decreeSlot ballot (normalized members)
      (matchmaker.storeDecree voted (promise ++ record),
        .accepted matchmaker.id generation ballot)
    | _ => (matchmaker, .nacked matchmaker.id generation ballot acceptor.promised)

-- The chosen successor

/-- What a decided generation leaves of the pending bootstraps. -/
def settledPending (successor : MatchmakerSet) : List PendingBootstrap :=
  matchmaker.hardState.pending.filter fun bootstrap =>
    decide (successor.generation < bootstrap.set.generation) || decide (bootstrap.set = successor)

/-- Drop the bootstraps a decided generation has settled, and say whether there were any. -/
def pruneSettledPending (successor : MatchmakerSet) : Matchmaker × Bool :=
  ({ matchmaker with
      hardState := { matchmaker.hardState with pending := matchmaker.settledPending successor } },
    decide ((matchmaker.settledPending successor).length ≠ matchmaker.hardState.pending.length))

/-- A journal's scalars once its reconstruction is installed: the higher watermark and the newer
effective configuration.
-/
def installScalars (held : JournalScalars) (reconstructed : JournalRegistry) : JournalScalars where
  gcWatermark := max reconstructed.gcWatermark held.gcWatermark
  effective :=
    match reconstructed.effective with
    | some (ballot, config) => Paros.raiseEffective held.effective ballot config
    | none => held.effective

/-- Install one journal of a reconstruction: its scalars, and its records above the watermark. -/
def installJournal (installed : OrderedMap JournalId JournalScalars × Ledgers)
    (reconstructed : JournalId × JournalRegistry)
    : OrderedMap JournalId JournalScalars × Ledgers :=
  let (journals, ledgers) := installed
  let (journal, registry) := reconstructed
  let scalars := installScalars ((journals[journal]?).getD .blank) registry
  let kept := OrderedMap.startingAt scalars.gcWatermark registry.history
  (journals.insert journal scalars,
    if kept.isEmpty then ledgers else ledgers.insert journal kept)

/-- Serve the successor with these journals and records, in one write. -/
def serve (successor : MatchmakerSet) (journals : OrderedMap JournalId JournalScalars)
    (ledgers : Ledgers)
    : Matchmaker :=
  let scalars : MatchmakerHardState := {
    generation := successor.generation
    members := successor.members
    phase := .active
    successor := none
    decree := .blank
    pending := (matchmaker.hardState.pending.eraseP fun pending =>
        decide (pending.set = successor) && pending.complete).filter
      fun pending => successor.generation < pending.set.generation
    journals := journals }
  let serving : Matchmaker := { matchmaker with
    hardState := scalars
    registries := journals.map fun journal held =>
      ⟨(ledgers[journal]?).getD ∅, held.gcWatermark⟩
    pendingWrites := matchmaker.pendingWrites ++ [.installRegistry scalars ledgers] }
  serving.refreshSet

/-- Serve the successor from its reconstruction. A journal it does not name keeps its scalars and
no record.
-/
def install (successor : MatchmakerSet) (bootstrap : PendingBootstrap) : Matchmaker :=
  let installed :=
    bootstrap.registries.toList.foldl installJournal (matchmaker.hardState.journals, ∅)
  matchmaker.serve successor installed.1 installed.2

/-- Only a whole bootstrap of exactly the chosen set activates. -/
def activate (successor : MatchmakerSet) : Matchmaker × Bool :=
  if !successor.contains matchmaker.id
      || decide (successor.generation ≤ matchmaker.set.generation) then
    (matchmaker, false)
  else
    match matchmaker.hardState.pending.find? fun pending =>
        decide (pending.set = successor) && pending.complete with
    | none => (matchmaker, false)
    | some bootstrap => (matchmaker.install successor bootstrap, true)

/-- Record the chain link, freezing first if that had not happened, and settle the losers. -/
def recordSuccessor (successor : MatchmakerSet) : Matchmaker :=
  let recorded :=
    if matchmaker.hardState.successor.isNone then
      let frozen := if matchmaker.phase = .active then matchmaker.freeze else matchmaker
      { frozen with hardState := { frozen.hardState with successor := some successor } }
    else matchmaker
  let (pruned, dropped) := recorded.pruneSettledPending successor
  if matchmaker.hardState.successor.isNone || dropped then pruned.stageScalars else pruned

/-- A member of the succeeded generation: record the successor, then activate it if it may. A
second, different successor is refused.
-/
def learnAsMember (generation : Nat) (successor : MatchmakerSet) : Matchmaker × ReconfigureReply :=
  if matchmaker.hardState.successor.any (· ≠ successor) then (matchmaker, matchmaker.refusal)
  else
    let (next, activated) := (matchmaker.recordSuccessor successor).activate successor
    (next, .learned matchmaker.id generation activated next.set.generation)

/-- A spare, or one frozen further back: only an activation applies, but the decision settles the
losing bootstraps either way.
-/
def learnAsSpare (generation : Nat) (successor : MatchmakerSet) : Matchmaker × ReconfigureReply :=
  let (pruned, dropped) := matchmaker.pruneSettledPending successor
  let (next, activated) := pruned.activate successor
  if activated then (next, .learned matchmaker.id generation true next.set.generation)
  else
    let settled := if dropped then next.stageScalars else next
    (settled, settled.refusal)

def onChosen (generation : Nat) (successor : MatchmakerSet) : Matchmaker × ReconfigureReply :=
  if successor.generation ≠ generation + 1 then (matchmaker, matchmaker.refusal)
  else if matchmaker.set = successor then
    -- A repeated notification, answered as the first one was.
    (matchmaker, .learned matchmaker.id generation false matchmaker.set.generation)
  else if matchmaker.servesHandoverOf generation then matchmaker.learnAsMember generation successor
  else if decide (matchmaker.set.generation < successor.generation)
      || matchmaker.phase = .inactive || matchmaker.phase = .fresh then
    matchmaker.learnAsSpare generation successor
  else (matchmaker, matchmaker.refusal)

def answerReconfigure : ReconfigureRequest → Matchmaker × ReconfigureReply
  | .stop _ generation after => matchmaker.onStop generation after
  | .bootstrap _ page => matchmaker.onBootstrap page
  | .decreePrepare _ generation ballot => matchmaker.onDecreePrepare generation ballot
  | .decreeAccept _ generation ballot members =>
    matchmaker.onDecreeAccept generation ballot members
  | .chosen _ generation successor => matchmaker.onChosen generation successor

def stepReconfigure (request : ReconfigureRequest) : Matchmaker :=
  let (next, reply) := matchmaker.answerReconfigure request
  { next with pendingReconfigureReplies := next.pendingReconfigureReplies ++ [reply] }

end Matchmaker

end Paros
