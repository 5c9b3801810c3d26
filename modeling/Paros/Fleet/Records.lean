import Paros.Fleet.Buckets

/-! What the fleet directory records: its cells and its tenants, with the reserved tags that name
their kinds, and the refusals of its fold.
-/

namespace Paros

-- Reserved tags

namespace ReservedKey

def kind : Text := "paros/kind".toList

def role : Text := "paros/role".toList

def movable : Text := "paros/movable".toList

def region : Text := "paros/region".toList

def regions : Text := "paros/regions".toList

def witness : Text := "paros/witness".toList

end ReservedKey

namespace Tags

/-- The reserved tags and the user tags. -/
def split (tags : Tags) : Except TagError (Tags × UserTags) :=
  (UserTags.ofTags (tags.restrict fun key => !isReserved key)).map fun user =>
    (tags.restrict isReserved, user)

def without (tags : Tags) (keys : List Text) : Tags := tags.restrict fun key => !keys.contains key

/-- What was read of reserved tags, unless a key is left that their entity does not carry. -/
def finish {α : Type} (rest : Tags) (read : α) : Except TagError α :=
  match rest.entries.keys.head? with
  | some key => .error (.unknownReserved key)
  | none => .ok read

end Tags

-- Kinds of tenants

inductive Movable where
  | movable
  | pinned
  deriving DecidableEq, Repr

namespace Movable

def text : Movable → Text
  | movable => "true".toList
  | pinned => "false".toList

def tag (held : Movable) : Tag := ⟨ReservedKey.movable, held.text, rfl, by cases held <;> rfl⟩

/-- Read from reserved tags, with those that are left. -/
def take (held : Tags) : Except TagError (Movable × Tags) :=
  let rest := held.without [ReservedKey.movable]
  let read := held.entries[ReservedKey.movable]?
  if read = some movable.text then .ok (movable, rest)
  else if read = some pinned.text then .ok (pinned, rest)
  else .error (.unknownReserved ReservedKey.movable)

end Movable

inductive TenantKind where
  | universe
  | cell
  | users
  deriving DecidableEq, Repr

namespace TenantKind

def isInternal (kind : TenantKind) : Bool := kind ≠ users

def text : TenantKind → Text
  | .universe => "universe".toList
  | cell => "cell".toList
  | users => "users".toList

def internalText : Text := "internal".toList

/-- The movability a kind imposes. -/
def forced : TenantKind → Option Movable
  | cell => some .pinned
  | .universe | users => none

def tags : TenantKind → List Tag
  | users => [⟨ReservedKey.kind, text users, rfl, rfl⟩]
  | .universe => [⟨ReservedKey.kind, internalText, rfl, rfl⟩, ⟨ReservedKey.role, text .universe, rfl, rfl⟩]
  | cell => [⟨ReservedKey.kind, internalText, rfl, rfl⟩, ⟨ReservedKey.role, text cell, rfl, rfl⟩]

/-- Read from reserved tags, with those that are left. -/
def take (held : Tags) : Except TagError (TenantKind × Tags) :=
  let rest := held.without [ReservedKey.kind, ReservedKey.role]
  let kind := held.entries[ReservedKey.kind]?
  let role := held.entries[ReservedKey.role]?
  if kind = some (text users) ∧ role = none then .ok (users, rest)
  else if kind = some internalText ∧ role = some (text .universe) then .ok (.universe, rest)
  else if kind = some internalText ∧ role = some (text cell) then .ok (cell, rest)
  else if role.isSome then .error (.unknownReserved ReservedKey.role)
  else .error (.unknownReserved ReservedKey.kind)

end TenantKind

-- Cells

def joinRegions (regions : List Text) : Text := ['+'].intercalate regions

/-- A cell's kind, with labels that tags may hold. The regions are those of their joined label. -/
inductive CellKind where
  | regional (region : Text) (labelled : checkValue region = .ok ())
  | multiRegion (regions : List Text) (witness : Text)
    (labelled : checkValue (joinRegions regions) = .ok ())
    (apart : (joinRegions regions).splitOn '+' = regions)
    (witnessed : checkValue witness = .ok ())
  deriving DecidableEq

namespace CellKind

def regionalText : Text := "regional".toList

def multiRegionText : Text := "multi-region".toList

/-- The reserved tags of a kind: an empty region is no tag. -/
def tags : CellKind → List Tag
  | regional region labelled =>
    ⟨ReservedKey.kind, regionalText, rfl, rfl⟩
      :: if region.isEmpty then [] else [⟨ReservedKey.region, region, rfl, labelled⟩]
  | multiRegion regions witness labelled _ witnessed =>
    [⟨ReservedKey.kind, multiRegionText, rfl, rfl⟩,
      ⟨ReservedKey.regions, joinRegions regions, rfl, labelled⟩,
      ⟨ReservedKey.witness, witness, rfl, witnessed⟩]

/-- Read from a cell's reserved tags. -/
def fromTags (held : Tags) : Except TagError CellKind :=
  match held.entries[ReservedKey.kind]? with
  | none => .error (.unknownReserved ReservedKey.kind)
  | some kind =>
    if kind = regionalText then
      (held.without [ReservedKey.kind, ReservedKey.region]).finish
        (.regional (held.label ReservedKey.region) (held.label_checked _))
    else if kind = multiRegionText then
      match joined : held.entries[ReservedKey.regions]? with
      | none => .error (.unknownReserved ReservedKey.regions)
      | some regions =>
        match named : held.entries[ReservedKey.witness]? with
        | none => .error (.unknownReserved ReservedKey.witness)
        | some witness =>
          have whole : joinRegions (regions.splitOn '+') = regions :=
            List.intercalate_splitOn '+'
          (held.without
              [ReservedKey.kind, ReservedKey.regions, ReservedKey.witness]).finish
            (.multiRegion (regions.splitOn '+') witness
              (whole.symm ▸ (held.checked _ _ joined).2) (whole.symm ▸ rfl)
              (held.checked _ _ named).2)
    else .error (.unknownReserved ReservedKey.kind)

end CellKind

inductive CellState where
  | registering
  | ready
  | removing
  | restoring
  deriving DecidableEq, Repr

namespace CellState

def toWire : CellState → Nat
  | registering => 0
  | ready => 1
  | removing => 2
  | restoring => 3

def fromWire : Nat → Option CellState
  | 0 => some registering
  | 1 => some ready
  | 2 => some removing
  | 3 => some restoring
  | _ => none

/-- Whether a cell in a state may be marked another. -/
def mayBecome (held : CellState) : CellState → Bool
  | registering => false
  | ready => held = registering || held = restoring
  | restoring => held = ready
  | removing => true

end CellState

structure CellEntry where
  state : CellState
  version : Nat
  controlTenant : TenantId
  kind : CellKind
  tags : UserTags

def CellEntry.allTags (cell : CellEntry) : Tags := cell.tags.tags.withAll cell.kind.tags

-- Tenants

inductive TenantState where
  | registering
  | ready
  | removing
  | updatingConfiguration
  | error
  deriving DecidableEq, Repr

namespace TenantState

def toWire : TenantState → Nat
  | registering => 0
  | ready => 1
  | removing => 2
  | updatingConfiguration => 3
  | error => 5

def fromWire : Nat → Option TenantState
  | 0 => some registering
  | 1 => some ready
  | 2 => some removing
  | 3 => some updatingConfiguration
  | 5 => some error
  | _ => none

/-- Whether a tenant in a state may be marked another. -/
def mayBecome (held : TenantState) : TenantState → Bool
  | registering => false
  | removing => true
  | ready => held = registering || held = updatingConfiguration
  | updatingConfiguration => held = ready
  | error => held ≠ removing

end TenantState

/-- A tenant's entry. The universe's tenant lives in cell zero until its first cell is added. -/
structure TenantEntry where
  name : Bytes
  cellId : Nat
  control : JournalId
  state : TenantState
  configSeq : Nat
  kind : TenantKind
  movable : Movable
  survives : Survives
  tags : UserTags
  placement : Placement
  movingTo : Option Nat

namespace TenantEntry

def allTags (tenant : TenantEntry) : Tags :=
  tenant.tags.tags.withAll (tenant.kind.tags ++ [tenant.movable.tag])

def mayMove (tenant : TenantEntry) : Bool := tenant.movable = .movable

/-- The kind, the movability and the user tags of a checkpointed entry. -/
def fromTags (tags : Tags) : Except TagError (TenantKind × Movable × UserTags) := do
  let (held, user) ← tags.split
  let (kind, held) ← TenantKind.take held
  let (mobility, held) ← Movable.take held
  let read ← held.finish (kind, mobility, user)
  if kind.forced.any (· ≠ mobility) then throw (.unknownReserved ReservedKey.movable)
  return read

end TenantEntry

-- Root keys and refusals

structure RootKeyEntry where
  keyId : Nat
  label : Text
  publicKey : Text
  deriving DecidableEq, Repr

/-- Why a fleet entry changed nothing. -/
inductive FleetDirectoryRefusal where
  | malformed
  | unknownVersion (version : Nat)
  | noFleet
  | otherFleet (fleetId : Nat)
  | cellTombstoned (cellId : Nat)
  | cellNotEmpty (cellId : Nat) (tenant : TenantId)
  | unknownCell (cellId : Nat)
  | otherCellTenant (cellId : Nat)
  | cellNameTaken (holder : Nat)
  | cellTransition (held asked : CellState)
  | cellNotReady (cellId : Nat)
  | tenantIdTaken (tenant : TenantId)
  | nameRefused
  | nameTaken (holder : TenantId)
  | unknownTenant (tenant : TenantId)
  | internal (tenant : TenantId)
  | notMovable (tenant : TenantId)
  | notMoving (tenant : TenantId)
  | tenantTransition (held asked : TenantState)
  | rootKeyTaken (keyId : Nat) (label : Text)
  | unknownRootKey (label : Text)
  | lastRootKey (label : Text)
  | bucketElsewhere (bucket cellId : Nat)
  | bucketNotEmpty (bucket : Nat) (tenant : TenantId)
  | cellHoldsBuckets (cellId buckets : Nat)
  deriving DecidableEq, Repr

end Paros
