import Paros.Matchmaker.State

/-! The matchmaker: a ledger of which configuration was registered at which ballot, per journal,
answered one page at a time. Each request stages its writes and its reply; a driver persists the
writes before the replies leave.
-/

namespace Paros

-- The handover's messages

inductive ReconfigureRequest where
  | stop (sender : NodeId) (generation : Nat) (after : Option JournalId)
  | bootstrap (sender : NodeId) (page : BootstrapPage)
  | decreePrepare (sender : NodeId) (generation : Nat) (ballot : Ballot)
  | decreeAccept (sender : NodeId) (generation : Nat) (ballot : Ballot)
    (members : List MatchmakerId)
  | chosen (sender : NodeId) (generation : Nat) (successor : MatchmakerSet)

inductive ReconfigureReply where
  | stopped (matchmaker : MatchmakerId) (generation : Nat) (after next : Option JournalId)
    (registries : OrderedMap JournalId JournalRegistry) (successor : Option MatchmakerSet)
    (decreePromised : Ballot)
  | bootstrapped (matchmaker : MatchmakerId) (set : MatchmakerSet) (held : Option JournalId)
    (complete : Bool)
  | promised (matchmaker : MatchmakerId) (generation : Nat) (ballot : Ballot)
    (vote : Option (Ballot × List MatchmakerId))
  | accepted (matchmaker : MatchmakerId) (generation : Nat) (ballot : Ballot)
  | nacked (matchmaker : MatchmakerId) (generation : Nat) (ballot promised : Ballot)
  | learned (matchmaker : MatchmakerId) (generation : Nat) (activated : Bool)
    (standing : Nat)
  | refused (matchmaker : MatchmakerId) (current : MatchmakerSet) (phase : MatchmakerPhase)
    (successor : Option MatchmakerSet)

-- Pages of a registry

/-- The backward walk over a window: the records kept, and the configurations seen so far. A belief
whose configuration a later record repeats is left out.
-/
def keepUnrepeated (record : Ballot × Registration)
    (walked : List (Ballot × Registration) × List AcceptorConfig)
    : List (Ballot × Registration) × List AcceptorConfig :=
  if record.2.config ∈ walked.2 then
    (if record.2.kind = .reconfiguration then record :: walked.1 else walked.1, walked.2)
  else (record :: walked.1, record.2.config :: walked.2)

def unrepeated (window : List (Ballot × Registration)) : List (Ballot × Registration) :=
  (window.foldr keepUnrepeated ([], [])).1

/-- The first records kept of a window, and the ballot of the next one. -/
def historyPage (window : List (Ballot × Registration)) (limit : Nat)
    : BallotMap Registration × Option Ballot :=
  (Std.ExtTreeMap.ofList ((unrepeated window).take limit),
    ((unrepeated window).drop limit).head?.map Prod.fst)

/-- A map with a floor under it. -/
structure RetainedWindow (κ α : Type) [LinearOrder κ] where
  entries : OrderedMap κ α
  floor : κ

/-- Raise the floor; what lies below it goes. -/
def RetainedWindow.raiseFloor {κ α : Type} [LinearOrder κ] (window : RetainedWindow κ α) (floor : κ)
    : RetainedWindow κ α :=
  ⟨OrderedMap.startingAt floor window.entries, floor⟩

-- The matchmaker

/-- How much one page may carry. -/
abbrev PageSize := { size : Nat // 0 < size ∧ size ≤ registryPage }

structure MatchmakerConfig where
  id : MatchmakerId
  bootstrap : List MatchmakerId
  deriving DecidableEq

/-- What came of a request to raise a watermark. -/
inductive GcOutcome where
  | raised
  | unchanged
  | refused
  deriving DecidableEq

structure Matchmaker where
  config : MatchmakerConfig
  hardState : MatchmakerHardState
  set : MatchmakerSet
  registries : OrderedMap JournalId (RetainedWindow Ballot Registration)
  pendingWrites : List MatchmakerWriteOp
  pendingReplies : List MatchReply
  pendingReconfigureReplies : List ReconfigureReply
  pageSize : PageSize

namespace Matchmaker

/-- The records a walk over the store's ballots reads back, journal by journal: a ledger without a
record is not seen.
-/
def readLedgers (storage : MemRegistry) : Ledgers :=
  storage.registry.filter fun _ ledger => !ledger.isEmpty

/-- A window for every journal that has scalars or records, each at its watermark. -/
def bootWindows (scalars : MatchmakerHardState) (ledgers : Ledgers)
    : OrderedMap JournalId (RetainedWindow Ballot Registration) :=
  ledgers.toList.foldl
    (fun windows (journal, ledger) =>
      windows.insert journal ⟨ledger, scalars.gcWatermark journal⟩)
    (scalars.journals.map fun _ scalars => ⟨∅, scalars.gcWatermark⟩)

/-- Boot from a store. A deployment that bootstraps no matchmaker, and a generation without
members, are assertion failures of the source.
-/
def new (config : MatchmakerConfig) (storage : MemRegistry) (pageSize : PageSize)
    : Option Matchmaker :=
  let bootstrap := normalized config.bootstrap
  if bootstrap = [] then none
  else
    (storage.hardState.resolvedSet bootstrap).map fun set => {
      config := ⟨config.id, bootstrap⟩
      hardState := storage.hardState
      set := set
      registries := bootWindows storage.hardState (readLedgers storage)
      pendingWrites := []
      pendingReplies := []
      pendingReconfigureReplies := []
      pageSize := pageSize }

variable (matchmaker : Matchmaker)

def id : MatchmakerId := matchmaker.config.id

variable (journal : JournalId)

/-- A journal's records. -/
def registry : BallotMap Registration :=
  (matchmaker.registries[journal]?).elim ∅ RetainedWindow.entries

def gcWatermark (journal : JournalId) : Ballot := matchmaker.hardState.gcWatermark journal

def effective (journal : JournalId) : Option (Ballot × AcceptorConfig) :=
  matchmaker.hardState.effective journal

/-- A journal's window, or a new one at its watermark. -/
def window : RetainedWindow Ballot Registration :=
  (matchmaker.registries[journal]?).getD ⟨∅, matchmaker.gcWatermark journal⟩

def highest : Option Ballot := OrderedMap.lastKey? (matchmaker.registry journal)

def phase : MatchmakerPhase :=
  matchmaker.hardState.resolvedPhase matchmaker.id matchmaker.config.bootstrap

/-- Materialize the set the scalars describe. -/
def refreshSet : Matchmaker :=
  match matchmaker.hardState.resolvedSet matchmaker.config.bootstrap with
  | some set => { matchmaker with set := set }
  | none => matchmaker

def stageScalars : Matchmaker :=
  { matchmaker with
    pendingWrites := matchmaker.pendingWrites ++ [.setScalars matchmaker.hardState] }

-- Whom it serves

/-- Why a request of a generation is not served, if it is not. A stopped matchmaker still tells a
proposer that is behind where the chain goes on.
-/
def judgeGeneration (generation : Nat) : Option MatchRefusal :=
  let current := matchmaker.set
  match matchmaker.phase with
  | .active => if current.generation = generation then none else some (.generation current)
  | .stopped =>
    if current.generation = generation then some (.stopped matchmaker.hardState.successor)
    else
      match matchmaker.hardState.successor with
      | some successor =>
        if generation < current.generation + 1 then some (.stopped (some successor))
        else some .inactive
      | none =>
        if generation < current.generation then some (.generation current)
        else some .inactive
  | .inactive | .fresh => some .inactive

-- Registrations

/-- A journal's records from one ballot up to another. -/
def windowBelow (fromBallot ballot : Ballot) : List (Ballot × Registration) :=
  (OrderedMap.before ballot
    (OrderedMap.startingAt fromBallot (matchmaker.registry journal))).toList

/-- Answer with the page of a registry that starts at a cursor, or at the watermark if that has
passed the cursor. The source's range panics on a cursor above the ballot, which no candidate
sends; here such a page is empty.
-/
def page (cursor : Option Ballot) (ballot : Ballot) : RegisteredPage :=
  let watermark := matchmaker.gcWatermark journal
  let fromBallot := max (cursor.getD watermark) watermark
  let (history, next) :=
    historyPage (matchmaker.windowBelow journal fromBallot ballot) matchmaker.pageSize
  { fromBallot := fromBallot
    history := history
    nextFromBallot := next
    gcWatermark := watermark
    effective := matchmaker.effective journal }

/-- Whether a registration changes the effective configuration. -/
def raises (ballot : Ballot) (registration : Registration) : Bool :=
  registration.kind = .reconfiguration
    && (matchmaker.effective journal).all fun (newest, _) => newest < ballot

/-- Raise the effective configuration, and stage the scalars if that changed it. -/
def raiseEffective (ballot : Ballot) (registration : Registration)
    : Matchmaker :=
  if matchmaker.raises journal ballot registration then
    { matchmaker with
      hardState := matchmaker.hardState.updateJournal journal fun held =>
        { held with effective := some (ballot, registration.config) } }.stageScalars
  else matchmaker

/-- Record a first registration. The scalars it raises are staged before the record. -/
def enroll (ballot : Ballot) (registration : Registration) : Matchmaker :=
  let window := matchmaker.window journal
  let recorded := { matchmaker with
    registries := matchmaker.registries.insert journal
      { window with entries := window.entries.insert ballot registration } }
  let raised := recorded.raiseEffective journal ballot registration
  { raised with
    pendingWrites := raised.pendingWrites ++ [.register journal ballot registration] }

/-- Register a configuration at a ballot, or answer again what was registered there. The page is
read before the registration, so it never shows the request's own configuration.
-/
def register (ballot : Ballot) (registration : Registration)
    (generation : Nat) (cursor : Option Ballot)
    : Matchmaker × MatchOutcome :=
  match matchmaker.judgeGeneration generation with
  | some refusal => (matchmaker, .refused refusal)
  | none =>
    if ballot < matchmaker.gcWatermark journal then
      (matchmaker, .refused (.belowWatermark (matchmaker.gcWatermark journal)))
    else
      match (matchmaker.highest journal).filter (ballot ≤ ·) with
      | some highest =>
        if (matchmaker.registry journal)[ballot]? = some registration then
          (matchmaker, .registered (matchmaker.page journal cursor ballot))
        else (matchmaker, .refused (.stale highest))
      | none =>
        (matchmaker.enroll journal ballot registration,
          .registered (matchmaker.page journal cursor ballot))

/-- A probe reads the effective configuration and leaves everything as it is. -/
def probeOutcome (generation : Nat) : MatchOutcome :=
  match matchmaker.judgeGeneration generation with
  | some refusal => .refused refusal
  | none => .probed (matchmaker.effective journal)

/-- Queue the answer to a request. -/
def reply (request : MatchRequest) (outcome : MatchOutcome) : Matchmaker :=
  { matchmaker with
    pendingReplies := matchmaker.pendingReplies ++ [{
      matchmaker := matchmaker.id
      journal := request.journal
      recipient := request.sender
      ballot := request.ballot
      generation := request.generation
      outcome := outcome }] }

def step (request : MatchRequest) : Matchmaker :=
  match request.purpose with
  | .probe => matchmaker.reply request (matchmaker.probeOutcome request.journal request.generation)
  | .register kind =>
    let (next, outcome) := matchmaker.register request.journal request.ballot
      ⟨request.config, kind⟩ request.generation request.fromBallot
    next.reply request outcome

-- Garbage collection

/-- Raise one journal's floor and its watermark. -/
def raiseWatermark (watermark : Ballot) : Matchmaker :=
  { matchmaker with
    registries := matchmaker.registries.insert journal
      ((matchmaker.window journal).raiseFloor watermark)
    hardState := matchmaker.hardState.updateJournal journal fun held =>
      { held with gcWatermark := watermark }
    pendingWrites := matchmaker.pendingWrites ++ [.setGcWatermark journal watermark] }

def advanceGcWatermark (generation : Nat) (watermark : Ballot)
    : Matchmaker × GcOutcome :=
  if (matchmaker.judgeGeneration generation).isSome then (matchmaker, .refused)
  else if watermark ≤ matchmaker.gcWatermark journal then (matchmaker, .unchanged)
  else (matchmaker.raiseWatermark journal watermark, .raised)

-- Batches

/-- The batch was persisted and its replies left. -/
def advance : Matchmaker :=
  { matchmaker with pendingWrites := [], pendingReplies := [], pendingReconfigureReplies := [] }

end Matchmaker

end Paros
