import Paros.Node.State
import Paros.Store.Encoding

/-! A node's durable store: the accepted records as entries at their slots, the scalars in the
metainfo. Writes are staged in memory; a sync commits them.
-/

namespace Paros

open CommitJournal (Batch Commit pack)

/-- The kind of an accepted record's identity. -/
def acceptedKind : Nat := 1

/-- How far the chosen index may run ahead of the durable one (the source's `CHOSEN_INDEX_LAG`). -/
def chosenIndexLag : Nat := 64

structure NodeMeta where
  formatted : Option Config
  promise : Ballot
  chosenIndex : Option Nat
  sealedAt : JournalState

def NodeMeta.default : NodeMeta := ⟨none, .zero, none, .initial⟩

/-- The formats of the store's records. -/
structure NodeCodec where
  command : Postcard Command
  metainfo : Postcard NodeMeta

deriving instance Countable for Ballot, Entry, Control, Command, WriterMode, JournalState

deriving instance Countable for QuorumSystem, AcceptorConfig, MatchmakerSet, Config, NodeMeta

/-- Formats that write a value's number in unary. -/
noncomputable def NodeCodec.counted : NodeCodec := ⟨.counted _, .counted _⟩

/-- The store. `journal` tells whether its journal is on disk. -/
structure JournalStorage where
  journal : Bool
  metainfo : NodeMeta
  durableMeta : NodeMeta
  metaDirty : Bool
  promiseRaised : Bool
  chosenIndex : Option Nat
  first : Nat
  accepted : SlotMap (Ballot × Command)
  faulty : SlotMap Ballot
  staged : SlotMap (Ballot × Bytes)
  stagedFloor : Option Nat
  damaged : Finset Nat

namespace JournalStorage

def new : JournalStorage where
  journal := false
  metainfo := .default
  durableMeta := .default
  metaDirty := false
  promiseRaised := false
  chosenIndex := none
  first := 0
  accepted := ∅
  faulty := ∅
  staged := ∅
  stagedFloor := none
  damaged := ∅

-- Booting

/-- Read back one entry. A damaged one is reported at its ballot. -/
def readEntry (codec : NodeCodec) (store : JournalStorage)
    : Nat × StoreEntry → Except StorageError JournalStorage
  | (slot, entry) =>
    let ballot := (idBallot entry.id).1
    match entry.damage with
    | none =>
      match decode codec.command entry.payload with
      | some command =>
        .ok { store with accepted := store.accepted.insert slot (ballot, command) }
      | none => .error (undecodable (.accepted slot))
    | some _ => .ok { store with faulty := store.faulty.insert slot ballot }

/-- Everything below the floor is chosen. -/
def coverFloor (store : JournalStorage) : JournalStorage :=
  if 0 < store.first ∧ store.chosenIndex.all (· < store.first - 1) then
    { store with chosenIndex := some (store.first - 1) }
  else store

def load (codec : NodeCodec) : StoreDrive → Except StorageError JournalStorage
  | none => .ok new
  | some disk =>
    match decode codec.metainfo disk.metainfo with
    | none => .error (undecodable .promise)
    | some metainfo =>
      let opened := { new with
        journal := true
        metainfo := metainfo
        durableMeta := metainfo
        first := disk.floor
        chosenIndex := metainfo.chosenIndex }
      (disk.entries.toList.foldlM (readEntry codec) opened).map coverFloor

-- Staging

variable (store : JournalStorage)

def format (config : Config) : JournalStorage :=
  { store with metainfo := { store.metainfo with formatted := some config }, metaDirty := true }

def persistBallot (ballot : Ballot) : JournalStorage :=
  if store.metainfo.promise < ballot then
    { store with
      metainfo := { store.metainfo with promise := ballot }
      metaDirty := true
      promiseRaised := true }
  else store

/-- A record that is held already is not written again, unless its durable copy is damaged. -/
def appendAccepted (codec : NodeCodec) (slot : Nat) (ballot : Ballot) (command : Command)
    : JournalStorage :=
  if slot ∉ store.damaged ∧ store.accepted[slot]? = some (ballot, command) then store
  else
    { store with
      damaged := store.damaged.erase slot
      staged := store.staged.insert slot (ballot, encode codec.command command)
      faulty := store.faulty.erase slot
      accepted := store.accepted.insert slot (ballot, command) }

def setChosenIndex (slot : Nat) : JournalStorage := { store with chosenIndex := some slot }

/-- Seal a state at a floor, unless the floor is above it already. -/
def sealAt (first : Nat) (state : JournalState) : JournalStorage :=
  if store.first ≤ first then
    { store with metainfo := { store.metainfo with sealedAt := state }, metaDirty := true }
  else store

def raiseFloor (first : Nat) : JournalStorage :=
  let floor := max store.first first
  { store with
    first := floor
    accepted := OrderedMap.startingAt floor store.accepted
    faulty := OrderedMap.startingAt floor store.faulty
    damaged := store.damaged.filter (floor ≤ ·) }

/-- The next sync writes the floor. -/
def stageFloor (first : Nat) : JournalStorage :=
  { store with
    stagedFloor := some (store.stagedFloor.elim first (max · first))
    metaDirty := true }

def truncate (first : Nat) (sealedAt : JournalState) : JournalStorage :=
  ((store.sealAt first sealedAt).raiseFloor first).stageFloor first

def trimmedTo (point : Nat) (state : JournalState) : JournalStorage :=
  let sealed := store.sealAt point state
  let covered :=
    if sealed.chosenIndex.all (· < point - 1) then { sealed with chosenIndex := some (point - 1) }
    else sealed
  (covered.raiseFloor point).stageFloor point

/-- One write of a persisted batch. -/
def stage (codec : NodeCodec) : WriteOp → JournalStorage
  | .acceptor (.setPromise ballot) => store.persistBallot ballot
  | .acceptor (.appendAccepted slot ballot command) => store.appendAccepted codec slot ballot command
  | .setChosenIndex slot => store.setChosenIndex slot
  | .truncate first sealedAt => store.truncate first sealedAt
  | .trimmedTo point state => store.trimmedTo point state

/-- A scrub found the durable copy of a held record damaged. -/
def markDamaged (slot : Nat) : JournalStorage :=
  if (store.accepted[slot]?).isSome then { store with damaged := insert slot store.damaged }
  else store

-- Syncing

/-- The metainfo that may land ahead of the staged entries. -/
def earlyMeta : NodeMeta :=
  { store.durableMeta with
    formatted := store.metainfo.formatted
    promise := store.metainfo.promise }

def chosenLags : Bool :=
  store.chosenIndex.any fun live =>
    chosenIndexLag ≤ live + 1 - store.durableMeta.chosenIndex.elim 0 (· + 1)

/-- A sync under way: the store and the commits made so far. -/
structure Flush where
  store : JournalStorage
  commits : List StoreCommit

/-- Commit a batch. The first commit creates the journal. -/
def Flush.commit (codec : NodeCodec) (flush : Flush) (batch : StoreBatch) : Flush :=
  if flush.store.journal then { flush with commits := flush.commits ++ [.batch batch] }
  else
    let early := flush.store.earlyMeta
    { store := { flush.store with journal := true, durableMeta := early }
      commits := flush.commits ++ [.create (encode codec.metainfo early), .batch batch] }

/-- A batch of the metainfo alone. -/
def metaBatch (codec : NodeCodec) (metainfo : NodeMeta) : StoreBatch :=
  { (Batch.empty : StoreBatch) with metainfo := some (encode codec.metainfo metainfo) }

/-- A raised promise is committed alone, ahead of the entries accepted under it. -/
def Flush.commitPromise (codec : NodeCodec) (flush : Flush) : Flush :=
  let early := flush.store.earlyMeta
  let committed := flush.commit codec (metaBatch codec early)
  { committed with store := { committed.store with durableMeta := early } }

/-- The last commit: the open batch with the floor and the metainfo. -/
def Flush.commitLast (codec : NodeCodec) (flush : Flush) (batch : StoreBatch) (floor : Option Nat)
    : Flush :=
  if flush.store.metaDirty then
    let committed := flush.commit codec { batch with
      floor := floor
      metainfo := some (encode codec.metainfo flush.store.metainfo) }
    { committed with store := { committed.store with durableMeta := committed.store.metainfo } }
  else if floor.isSome || !batch.isEmpty then flush.commit codec { batch with floor := floor }
  else flush

/-- The staged entries that the staged floor leaves standing, as they are written. -/
def standing : OrderedMap Nat (EntryId × Bytes) :=
  (store.staged.filter fun slot _ => store.stagedFloor.all (· ≤ slot)).map
    fun _ (ballot, payload) => (ballotId ballot acceptedKind, payload)

/-- The store once a flush has taken what is staged. -/
def taken : JournalStorage :=
  { store with
    stagedFloor := none
    staged := ∅
    metainfo :=
      if store.metaDirty then { store.metainfo with chosenIndex := store.chosenIndex }
      else store.metainfo }

/-- Commit what is staged: a raised promise, the entries in batches that fit the journal, then the
floor and the metainfo. `split` commits the last entries apart from the metainfo.
-/
def flush (codec : NodeCodec) (fits : StoreBatch → Bytes → Bool) (split : Bool) : Flush :=
  let entries := store.standing
  let (closed, last) := pack fits entries.toList .empty
  let promised : Flush :=
    if store.metaDirty && store.promiseRaised && !entries.isEmpty then
      Flush.commitPromise codec ⟨store.taken, []⟩
    else ⟨store.taken, []⟩
  let packed := closed.foldl (Flush.commit codec) promised
  let synced :=
    if store.metaDirty && !entries.isEmpty && split then
      (packed.commit codec last).commitLast codec .empty store.stagedFloor
    else packed.commitLast codec last store.stagedFloor
  { synced with store := { synced.store with metaDirty := false, promiseRaised := false } }

/-- A chosen index that runs far ahead is a reason to write the metainfo. -/
def noteLag : JournalStorage :=
  if store.chosenLags then { store with metaDirty := true } else store

def sync (codec : NodeCodec) (fits : StoreBatch → Bytes → Bool) (split : Bool) : Flush :=
  let store := store.noteLag
  if !store.metaDirty && store.staged.isEmpty then ⟨store, []⟩ else store.flush codec fits split

end JournalStorage

end Paros
