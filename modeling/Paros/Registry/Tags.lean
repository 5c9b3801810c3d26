import Paros.Library.OrderedMap

/-! Key and value tags, and the reserved ones that name a machine's roles and place. Texts are
lists of characters.
-/

namespace Paros

abbrev Text := List Char

instance Text.transCmp : Std.TransCmp (LinearOrder.toOrd : Ord Text).compare := inferInstance

/-- A text's length in UTF-8 bytes. -/
def Text.utf8Length (text : Text) : Nat := (text.map Char.utf8Size).sum

-- Tags

def reservedPrefix : Text := "paros/".toList

def maxTags : Nat := 32

def maxKeyBytes : Nat := 63

def maxValueBytes : Nat := 255

namespace ReservedKey

def roles : Text := "paros/roles".toList

/-- The old key of the roles: read, never written. -/
def oldClass : Text := "paros/class".toList

def zone : Text := "paros/zone".toList

def rack : Text := "paros/rack".toList

end ReservedKey

inductive TagError where
  | emptyKey
  | keyTooLong
  | badKey
  | valueTooLong
  | badValue
  | duplicate (key : Text)
  | tooMany
  | reserved (key : Text)
  | unknownReserved (key : Text)
  deriving DecidableEq

def isKeyChar (char : Char) : Bool :=
  ('a' ≤ char && char ≤ 'z') || ('0' ≤ char && char ≤ '9') || char == '-' || char == '_'

/-- The control characters of the source's `char::is_control`. -/
def isControl (char : Char) : Bool :=
  char.toNat < 0x20 || (0x7F ≤ char.toNat && char.toNat ≤ 0x9F)

def checkHalf (half : Text) : Except TagError Unit :=
  if half.isEmpty then .error .emptyKey
  else if !half.all isKeyChar then .error .badKey
  else .ok ()

/-- A key is `[prefix/]name`, both halves of a few characters. -/
def checkKey (key : Text) : Except TagError Unit :=
  if maxKeyBytes < key.utf8Length then .error .keyTooLong
  else
    let halves := key.splitOn '/'
    if 2 < halves.length then .error .badKey
    else halves.forM checkHalf

def checkValue (value : Text) : Except TagError Unit :=
  if maxValueBytes < value.utf8Length then .error .valueTooLong
  else if value.any fun char => isControl char || char == ',' then .error .badValue
  else .ok ()

def isReserved (key : Text) : Bool := reservedPrefix.isPrefixOf key

instance countableChar : Countable Char :=
  Function.Injective.countable fun _ _ => Char.toNat_inj.mp

/-- A tag on the wire. -/
structure WireTag where
  key : Text
  value : Text
  deriving DecidableEq, Countable

/-- A checked tag. -/
structure Tag where
  key : Text
  value : Text
  keyed : checkKey key = .ok ()
  valued : checkValue value = .ok ()

def Tag.fromWire (tag : WireTag) : Except TagError Tag :=
  match keyed : checkKey tag.key with
  | .error reason => .error reason
  | .ok () =>
    match valued : checkValue tag.value with
    | .error reason => .error reason
    | .ok () => .ok ⟨tag.key, tag.value, keyed, valued⟩

/-- An entity's tags, each key once. -/
structure Tags where
  entries : OrderedMap Text Text
  checked : ∀ key value, entries[key]? = some value
    → checkKey key = .ok () ∧ checkValue value = .ok ()

namespace Tags

@[ext]
theorem ext {left right : Tags} (same : left.entries = right.entries) : left = right := by
  cases left
  cases right
  cases same
  rfl

def empty : Tags := ⟨∅, by simp⟩

/-- Add a tag, in place of one of its key. -/
def insert (tags : Tags) (tag : Tag) : Tags where
  entries := tags.entries.insert tag.key tag.value
  checked := OrderedMap.forall_insert tags.checked ⟨tag.keyed, tag.valued⟩

/-- The set of some tags, unless a key is named twice. -/
def collect : Tags → List Tag → Except TagError Tags
  | tags, [] => .ok tags
  | tags, tag :: rest =>
    if (tags.entries[tag.key]?).isSome then .error (.duplicate tag.key)
    else collect (tags.insert tag) rest

def toWire (tags : Tags) : List WireTag :=
  tags.entries.toList.map fun (key, value) => ⟨key, value⟩

def fromWire (tags : List WireTag) : Except TagError Tags :=
  (tags.mapM Tag.fromWire).bind (collect empty)

/-- The tags with some more (the source asserts that no key is shared). -/
def withAll (tags : Tags) (more : List Tag) : Tags := more.foldl insert tags

def restrict (tags : Tags) (keep : Text → Bool) : Tags where
  entries := tags.entries.filter fun key _ => keep key
  checked := by
    intro key value held
    simp only [Std.ExtTreeMap.getElem?_filter', Option.filter_eq_some_iff] at held
    exact tags.checked key value held.1

end Tags

/-- Tags with no reserved key, at most `maxTags` of them. -/
structure UserTags where
  tags : Tags
  user : ∀ key value, tags.entries[key]? = some value → isReserved key = false
  few : tags.entries.size ≤ maxTags

namespace UserTags

def none : UserTags := ⟨.empty, by simp [Tags.empty], by simp [Tags.empty]⟩

def ofTags (tags : Tags) : Except TagError UserTags :=
  match found : tags.entries.toList.find? fun entry => isReserved entry.1 with
  | some (key, _) => .error (.reserved key)
  | .none =>
    if few : tags.entries.size ≤ maxTags then
      .ok ⟨tags, fun key value held => by
        have unreserved := List.find?_eq_none.mp found (key, value)
          (OrderedMap.mem_toList.mpr held)
        simpa using unreserved, few⟩
    else .error .tooMany

def fromWire (tags : List WireTag) : Except TagError UserTags :=
  (Tags.fromWire tags).bind ofTags

def isEmpty (tags : UserTags) : Bool := tags.tags.entries.isEmpty

end UserTags

-- A machine's tags

inductive Class where
  | all
  | storage
  | stateless
  deriving DecidableEq, Repr

namespace Class

def text : Class → Text
  | all => "all".toList
  | storage => "storage".toList
  | stateless => "stateless".toList

def parse (text : Text) : Option Class :=
  [all, storage, stateless].find? (·.text == text)

/-- Whether a machine of this class takes roles of a class. -/
def takes (held role : Class) : Bool := held == all || held == role

def stores (held : Class) : Bool := held.takes storage

end Class

/-- A machine's zone and rack: values that a tag may hold. -/
structure Locality where
  zone : Text
  rack : Text
  zoned : checkValue zone = .ok ()
  racked : checkValue rack = .ok ()

@[ext]
theorem Locality.ext {left right : Locality} (zone : left.zone = right.zone)
    (rack : left.rack = right.rack)
    : left = right := by
  cases left
  cases right
  cases zone
  cases rack
  rfl

def Locality.default : Locality := ⟨[], [], rfl, rfl⟩

/-- The reserved tags of a class and a locality: an empty label is no tag. -/
def machineTags (held : Class) (locality : Locality) : List Tag :=
  ⟨ReservedKey.roles, held.text, rfl, by cases held <;> rfl⟩
    :: (if locality.zone.isEmpty then []
        else [⟨ReservedKey.zone, locality.zone, rfl, locality.zoned⟩])
    ++ (if locality.rack.isEmpty then []
        else [⟨ReservedKey.rack, locality.rack, rfl, locality.racked⟩])

/-- The label under a reserved key, empty when there is none. -/
def Tags.label (tags : Tags) (key : Text) : Text := (tags.entries[key]?).getD []

theorem Tags.label_checked (tags : Tags) (key : Text) : checkValue (tags.label key) = .ok () := by
  unfold label
  cases held : tags.entries[key]? with
  | none => rfl
  | some value => exact (tags.checked key value held).2

/-- A machine's class and locality from its reserved tags, and its user tags. A reserved key that
no machine carries is refused.
-/
def parseMachineTags (tags : Tags) : Except TagError (Class × Locality × UserTags) := do
  let reserved := tags.restrict isReserved
  let user ← UserTags.ofTags (tags.restrict fun key => !isReserved key)
  let named := (reserved.entries[ReservedKey.roles]?).or reserved.entries[ReservedKey.oldClass]?
  match named.bind Class.parse with
  | none => throw (.unknownReserved ReservedKey.roles)
  | some held =>
    let others := reserved.restrict fun key =>
      !([ReservedKey.roles, ReservedKey.oldClass, ReservedKey.zone, ReservedKey.rack].contains key)
    match others.entries.keys.head? with
    | some key => throw (.unknownReserved key)
    | none =>
      return (held, ⟨reserved.label ReservedKey.zone, reserved.label ReservedKey.rack,
        reserved.label_checked _, reserved.label_checked _⟩, user)

end Paros
