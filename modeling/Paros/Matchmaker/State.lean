import Paros.Matchmaking

/-! A matchmaker's durable state: the generation it stands at, the pending bootstraps of a proposed
successor, the scalars persisted whole, and the store that its writes are applied to.
-/

namespace Paros

-- Matchmaker sets

/-- The members in increasing order, each once. -/
def normalized (members : List MatchmakerId) : List MatchmakerId :=
  members.dedup.insertionSort (· ≤ ·)

theorem normalized_sorted (members : List MatchmakerId)
    : (normalized members).Pairwise (· < ·) := by
  have ordered : (normalized members).Pairwise (· ≤ ·) := List.pairwise_insertionSort (· ≤ ·) _
  have distinct : (normalized members).Nodup :=
    (List.perm_insertionSort (· ≤ ·) _).nodup_iff.mpr (List.nodup_dedup members)
  exact (ordered.and distinct).imp fun both => lt_of_le_of_ne both.1 both.2

theorem mem_normalized {members : List MatchmakerId} {member : MatchmakerId}
    : member ∈ normalized members ↔ member ∈ members := by
  rw [normalized, (List.perm_insertionSort (· ≤ ·) _).mem_iff, List.mem_dedup]

theorem normalized_eq_nil {members : List MatchmakerId}
    : normalized members = [] ↔ members = [] := by
  simp only [List.eq_nil_iff_forall_not_mem, mem_normalized]

theorem normalized_of_sorted {members : List MatchmakerId} (sorted : members.Pairwise (· < ·))
    : normalized members = members := by
  have distinct : members.Nodup := sorted.imp fun less => less.ne
  rw [normalized, distinct.dedup]
  exact List.Pairwise.insertionSort_eq (sorted.imp fun less => less.le)

/-- The one constructor of a set; naming no matchmaker is refused. -/
def MatchmakerSet.new (generation : Nat) (members : List MatchmakerId) : Option MatchmakerSet :=
  if named : normalized members = [] then none
  else some ⟨generation, normalized members, normalized_sorted members, named⟩

/-- A set is made again from its own members. -/
theorem MatchmakerSet.new_members (set : MatchmakerSet)
    : MatchmakerSet.new set.generation set.members = some set := by
  have named : normalized set.members ≠ [] := mt normalized_eq_nil.mp set.inhabited
  rw [MatchmakerSet.new, dif_neg named]
  simp only [normalized_of_sorted set.sorted]

-- Durable state

/-- The acceptor record of the decree that chooses a generation's successor. -/
structure DecreeRecord where
  promised : Ballot
  vote : Option (Ballot × List MatchmakerId)
  deriving DecidableEq

def DecreeRecord.blank : DecreeRecord := ⟨.zero, none⟩

inductive MatchmakerPhase where
  | fresh
  | inactive
  | active
  | stopped
  deriving DecidableEq

/-- One journal's registry as a frozen matchmaker reports it. -/
structure JournalRegistry where
  gcWatermark : Ballot
  history : BallotMap Registration
  effective : Option (Ballot × AcceptorConfig)

namespace JournalRegistry

def isBlank (registry : JournalRegistry) : Bool :=
  registry.gcWatermark == .zero && registry.history.isEmpty && registry.effective.isNone

end JournalRegistry

/-- Whether a journal lies above a cursor. -/
def pastCursor (after : Option JournalId) (journal : JournalId) : Bool := after.all (· < journal)

/-- One page of a proposed successor's reconstruction. -/
structure BootstrapPage where
  set : MatchmakerSet
  after : Option JournalId
  registries : OrderedMap JournalId JournalRegistry
  last : Bool

def BootstrapPage.isWellFormed (page : BootstrapPage) : Bool :=
  page.registries.size ≤ registryPage
    && page.registries.keys.all (pastCursor page.after)
    && page.registries.toList.all (fun (_, registry) => !registry.isBlank)
    && (page.last || !page.registries.isEmpty)

/-- A proposed successor's reconstruction, as far as it is held. -/
structure PendingBootstrap where
  set : MatchmakerSet
  registries : OrderedMap JournalId JournalRegistry
  complete : Bool

namespace PendingBootstrap

/-- The last journal held. -/
def held (bootstrap : PendingBootstrap) : Option JournalId :=
  OrderedMap.lastKey? bootstrap.registries

/-- Hold a bootstrap in the place of the one for its set, or behind the others. -/
def hold (bootstrap : PendingBootstrap) : List PendingBootstrap → List PendingBootstrap
  | [] => [bootstrap]
  | other :: rest =>
    if other.set = bootstrap.set then bootstrap :: rest else other :: bootstrap.hold rest

end PendingBootstrap

/-- What is durable of a journal besides its records. -/
structure JournalScalars where
  gcWatermark : Ballot
  effective : Option (Ballot × AcceptorConfig)
  deriving DecidableEq

def JournalScalars.blank : JournalScalars := ⟨.zero, none⟩

structure MatchmakerHardState where
  generation : Nat
  members : List MatchmakerId
  phase : MatchmakerPhase
  successor : Option MatchmakerSet
  decree : DecreeRecord
  pending : List PendingBootstrap
  journals : OrderedMap JournalId JournalScalars

namespace MatchmakerHardState

/-- The state of a store nothing was ever written to. -/
def blank : MatchmakerHardState := ⟨0, [], .fresh, none, .blank, [], ∅⟩

variable (scalars : MatchmakerHardState)

def journal (journal : JournalId) : JournalScalars := (scalars.journals[journal]?).getD .blank

def gcWatermark (journal : JournalId) : Ballot := (scalars.journal journal).gcWatermark

def effective (journal : JournalId) : Option (Ballot × AcceptorConfig) :=
  (scalars.journal journal).effective

/-- Change one journal's scalars, created blank at the first change. -/
def updateJournal (journal : JournalId) (change : JournalScalars → JournalScalars)
    : MatchmakerHardState :=
  { scalars with
    journals := scalars.journals.insert journal (change (scalars.journal journal)) }

/-- Generation zero serves the bootstrap until it is frozen. -/
def resolvedSet (bootstrap : List MatchmakerId) : Option MatchmakerSet :=
  if scalars.generation = 0 ∧ scalars.members = [] then MatchmakerSet.new 0 bootstrap
  else MatchmakerSet.new scalars.generation scalars.members

/-- A fresh store is a bootstrap member or a spare. -/
def resolvedPhase (id : MatchmakerId) (bootstrap : List MatchmakerId) : MatchmakerPhase :=
  match scalars.phase with
  | .fresh => if id ∈ bootstrap then .active else .inactive
  | phase => phase

end MatchmakerHardState

-- The store

/-- The records of every journal. -/
abbrev Ledgers := OrderedMap JournalId (BallotMap Registration)

inductive MatchmakerWriteOp where
  | register (journal : JournalId) (ballot : Ballot) (registration : Registration)
  | setGcWatermark (journal : JournalId) (watermark : Ballot)
  | setScalars (scalars : MatchmakerHardState)
  | installRegistry (scalars : MatchmakerHardState) (registrations : Ledgers)

structure MemRegistry where
  hardState : MatchmakerHardState
  registry : Ledgers

namespace MemRegistry

/-- A store nothing was ever written to. -/
def blank : MemRegistry := ⟨.blank, ∅⟩

variable (store : MemRegistry)

/-- The records of a journal. -/
def ledger (journal : JournalId) : BallotMap Registration := (store.registry[journal]?).getD ∅

/-- Drop a journal's records below a watermark, and the journal with its last one. -/
def collect (journal : JournalId) (watermark : Ballot) : MemRegistry :=
  match store.registry[journal]? with
  | none => store
  | some ledger =>
    let kept := OrderedMap.startingAt watermark ledger
    { store with
      registry :=
        if kept.isEmpty then store.registry.erase journal else store.registry.insert journal kept }

/-- Keep the higher of the written watermark and the one held. -/
def keepWatermark (scalars : MatchmakerHardState) (held : JournalId × JournalScalars)
    : MatchmakerHardState :=
  scalars.updateJournal held.1 fun written =>
    { written with gcWatermark := max written.gcWatermark held.2.gcWatermark }

/-- Apply one write. The source asserts that a registration lands at or above its journal's
watermark; the store takes whatever it is given.
-/
def apply : MatchmakerWriteOp → MemRegistry
  | .register journal ballot registration =>
    { store with
      registry := store.registry.insert journal
        ((store.ledger journal).insert ballot registration) }
  | .setGcWatermark journal watermark =>
    if store.hardState.gcWatermark journal < watermark then
      { store with
        hardState := store.hardState.updateJournal journal fun held =>
          { held with gcWatermark := watermark } }.collect journal watermark
    else store
  | .setScalars scalars =>
    let merged := store.hardState.journals.toList.foldl keepWatermark scalars
    merged.journals.toList.foldl (fun store held => store.collect held.1 held.2.gcWatermark)
      { store with hardState := merged }
  | .installRegistry scalars registrations =>
    { hardState := scalars
      registry := registrations.filterMap fun journal ledger =>
        let kept := OrderedMap.startingAt (scalars.gcWatermark journal) ledger
        if kept.isEmpty then none else some kept }

/-- Apply a batch of writes in order. -/
def applyAll (writes : List MatchmakerWriteOp) : MemRegistry := writes.foldl apply store

end MemRegistry

end Paros
