import Paros.Fleet.Records

/-! The root public keys of a universe: an id or a label names one key for good, and the last key
in force stays.
-/

namespace Paros

open OrderedMap

structure Wire.RootKey where
  keyId : Nat
  label : Text
  publicKey : Text
  deriving Countable

namespace RootKeyEntry

def ed25519 : Text := "ed25519/".toList

def keyHex : Nat := 64

def isHexDigit (char : Char) : Bool :=
  ('0' ≤ char && char ≤ '9') || ('a' ≤ char && char ≤ 'f') || ('A' ≤ char && char ≤ 'F')

/-- Whether an entry can be a key: an id, a label, and the text form of an Ed25519 public key. -/
def isWellFormed (key : RootKeyEntry) : Bool :=
  let hex := key.publicKey.drop ed25519.length
  key.keyId ≠ 0 && !key.label.isEmpty && ed25519.isPrefixOf key.publicKey
    && Text.utf8Length hex = keyHex && hex.all isHexDigit

def toWire (key : RootKeyEntry) : Wire.RootKey := ⟨key.keyId, key.label, key.publicKey⟩

def fromWire (key : Wire.RootKey) : RootKeyEntry := ⟨key.keyId, key.label, key.publicKey⟩

@[simp]
theorem fromWire_toWire (key : RootKeyEntry) : fromWire key.toWire = key := rfl

end RootKeyEntry

inductive KeyChange where
  | added (keyId : Nat)
  | removed (keyId : Nat)
  | unchanged
  deriving DecidableEq, Repr

/-- The keys in force and the keys removed. -/
structure RootKeys where
  live : OrderedMap Nat RootKeyEntry
  removed : OrderedMap Nat RootKeyEntry

namespace RootKeys

def default : RootKeys := ⟨∅, ∅⟩

/-- Every key, in force or removed. -/
def all (keys : RootKeys) : List RootKeyEntry :=
  OrderedMap.contents keys.live ++ OrderedMap.contents keys.removed

/-- Whether a key, in force or removed, has the id or the label of another. -/
def held (keys : RootKeys) (key : RootKeyEntry) : Bool :=
  keys.all.any fun other => other.keyId = key.keyId || other.label = key.label

def add (keys : RootKeys) (key : RootKeyEntry)
    : Except FleetDirectoryRefusal (RootKeys × KeyChange) :=
  if !key.isWellFormed then .error .malformed
  else if keys.live[key.keyId]? = some key then .ok (keys, .unchanged)
  else if keys.held key then .error (.rootKeyTaken key.keyId key.label)
  else .ok ({ keys with live := keys.live.insert key.keyId key }, .added key.keyId)

def remove (keys : RootKeys) (label : Text)
    : Except FleetDirectoryRefusal (RootKeys × KeyChange) :=
  if label.isEmpty then .error .malformed
  else if (OrderedMap.contents keys.removed).any (·.label = label) then .ok (keys, .unchanged)
  else
    match (OrderedMap.contents keys.live).find? (·.label = label) with
    | none => .error (.unknownRootKey label)
    | some key =>
      if keys.live.size = 1 then .error (.lastRootKey label)
      else
        .ok (⟨keys.live.erase key.keyId, keys.removed.insert key.keyId key⟩, .removed key.keyId)

def toWire (keys : RootKeys) : List Wire.RootKey × List Wire.RootKey :=
  (keys.live.toList.map fun entry => entry.2.toWire,
    keys.removed.toList.map fun entry => entry.2.toWire)

/-- Take a key of a checkpoint, by a function that keeps it, unless it is bad or repeated. -/
def readKey (keep : RootKeys → RootKeyEntry → RootKeys) (keys : RootKeys) (written : Wire.RootKey)
    : Except String RootKeys :=
  let key := RootKeyEntry.fromWire written
  if !key.isWellFormed || keys.held key then
    .error "a fleet directory state holds a bad or repeated root key"
  else .ok (keep keys key)

def restore (live removed : List Wire.RootKey) : Except String RootKeys := do
  let keys ← live.foldlM
    (readKey fun keys key => { keys with live := keys.live.insert key.keyId key }) default
  removed.foldlM
    (readKey fun keys key => { keys with removed := keys.removed.insert key.keyId key }) keys

-- What the keys keep

/-- Keys under their own ids, each well formed, no two of one id or one label. -/
structure Sound (keys : RootKeys) : Prop where
  live : ∀ (id : Nat) (key : RootKeyEntry), keys.live[id]? = some key
    → key.keyId = id ∧ key.isWellFormed = true
  removed : ∀ (id : Nat) (key : RootKeyEntry), keys.removed[id]? = some key
    → key.keyId = id ∧ key.isWellFormed = true
  apart : ∀ (id : Nat) (key : RootKeyEntry), keys.live[id]? = some key → keys.removed[id]? = none
  labels : ∀ key ∈ keys.all, ∀ other ∈ keys.all, key.label = other.label → key = other

variable {keys after : RootKeys} {key : RootKeyEntry} {change : KeyChange} {label : Text}

theorem mem_all : key ∈ keys.all
    ↔ (∃ id : Nat, keys.live[id]? = some key) ∨ ∃ id : Nat, keys.removed[id]? = some key := by
  simp only [all, List.mem_append, OrderedMap.mem_contents]

theorem held_eq_false : keys.held key = false
    ↔ ∀ other ∈ keys.all, other.keyId ≠ key.keyId ∧ other.label ≠ key.label := by
  simp only [held, List.any_eq_false, Bool.or_eq_true, decide_eq_true_eq, not_or, ne_eq]

theorem default_sound : Sound default := by
  constructor <;> simp [default, all, OrderedMap.contents]

namespace Sound

theorem add (ok : Sound keys) (added : keys.add key = .ok (after, change)) : Sound after := by
  simp only [RootKeys.add] at added
  split_ifs at added with bad same taken
  · cases added
    exact ok
  · cases added
    have fresh := held_eq_false.mp (Bool.eq_false_iff.mpr taken)
    have formed : key.isWellFormed = true := by simpa using bad
    have unheld : keys.live[key.keyId]? = none := by
      cases found : keys.live[key.keyId]? with
      | none => rfl
      | some other =>
        exact absurd (ok.live _ other found).1 (fresh other (mem_all.mpr (.inl ⟨_, found⟩))).1
    have member : ∀ other, other ∈ ({ keys with live := keys.live.insert key.keyId key }).all
        ↔ other ∈ keys.all ∨ other = key := by
      intro other
      simp only [mem_all, getElem?_insert_fresh unheld, exists_or, exists_eq_left]
      tauto
    constructor
    · intro id other found
      rcases (getElem?_insert_fresh unheld).mp found with before | ⟨rfl, rfl⟩
      · exact ok.live id other before
      · exact ⟨rfl, formed⟩
    · exact ok.removed
    · intro id other found
      rcases (getElem?_insert_fresh unheld).mp found with before | ⟨rfl, rfl⟩
      · exact ok.apart id other before
      · refine Option.eq_none_iff_forall_ne_some.mpr fun gone there => ?_
        exact (fresh gone (mem_all.mpr (.inr ⟨_, there⟩))).1 (ok.removed _ gone there).1
    · intro left leftIn right rightIn alike
      rcases (member left).mp leftIn with leftOld | leftNew <;>
        rcases (member right).mp rightIn with rightOld | rightNew
      · exact ok.labels left leftOld right rightOld alike
      · exact absurd (rightNew ▸ alike) (fresh left leftOld).2
      · exact absurd (leftNew ▸ alike.symm) (fresh right rightOld).2
      · rw [leftNew, rightNew]

variable (ok : Sound keys) (removed : keys.remove label = .ok (after, change))
include ok removed

/-- A removal takes a key in force, by its own id, and keeps the others. -/
theorem remove_cases
    : after = keys
      ∨ ∃ key, keys.live[key.keyId]? = some key ∧ keys.live.size ≠ 1
        ∧ after = ⟨keys.live.erase key.keyId, keys.removed.insert key.keyId key⟩ := by
  simp only [RootKeys.remove] at removed
  split_ifs at removed with unnamed gone
  · cases removed
    exact .inl rfl
  all_goals
    cases found : (OrderedMap.contents keys.live).find? (·.label = label) with
    | none => simp [found] at removed
    | some key =>
      simp only [found] at removed
      cases removed
      all_goals
        obtain ⟨id, there⟩ := OrderedMap.mem_contents.mp (List.mem_of_find?_eq_some found)
        obtain rfl := (ok.live id key there).1
        exact .inr ⟨key, there, by assumption, rfl⟩

theorem remove
    : Sound after := by
  rcases ok.remove_cases removed with rfl | ⟨key, there, _, rfl⟩
  · exact ok
  have gone : keys.removed[key.keyId]? = none := ok.apart _ key there
  have kept : ∀ {id : Nat} {other : RootKeyEntry},
      (keys.live.erase key.keyId)[id]? = some other → keys.live[id]? = some other ∧ key.keyId ≠ id := by
    intro id other found
    rw [getElem?_erase] at found
    split_ifs at found with same
    exact ⟨found, same⟩
  have member : ∀ other,
      other ∈ (⟨keys.live.erase key.keyId, keys.removed.insert key.keyId key⟩ : RootKeys).all
        → other ∈ keys.all := by
    intro other inside
    rcases mem_all.mp inside with ⟨id, found⟩ | ⟨id, found⟩
    · exact mem_all.mpr (.inl ⟨id, (kept found).1⟩)
    · rcases (getElem?_insert_fresh gone).mp found with before | ⟨_, rfl⟩
      · exact mem_all.mpr (.inr ⟨id, before⟩)
      · exact mem_all.mpr (.inl ⟨_, there⟩)
  constructor
  · exact fun id other found => ok.live id other (kept found).1
  · intro id other found
    rcases (getElem?_insert_fresh gone).mp found with before | ⟨rfl, rfl⟩
    · exact ok.removed id other before
    · exact ok.live _ other there
  · intro id other found
    obtain ⟨before, different⟩ := kept found
    rw [getElem?_insert, if_neg different]
    exact ok.apart id other before
  · exact fun left leftIn right rightIn => ok.labels left (member left leftIn) right (member right rightIn)

/-- A key stays in force once one is. -/
theorem remove_live (used : keys.live ≠ ∅)
    : after.live ≠ ∅ := by
  rcases ok.remove_cases removed with rfl | ⟨key, there, several, rfl⟩
  · exact used
  · have inside : keys.live.contains key.keyId = true :=
      Std.ExtTreeMap.contains_iff_mem.mpr (mem_iff_getElem?.mpr ⟨key, there⟩)
    intro empty
    have none := Std.ExtTreeMap.eq_empty_iff_size_eq_zero.mp empty
    rw [Std.ExtTreeMap.size_erase, if_pos inside] at none
    have more := mt Std.ExtTreeMap.eq_empty_iff_size_eq_zero.mpr used
    omega

end Sound

theorem add_live (added : keys.add key = .ok (after, change)) (used : keys.live ≠ ∅)
    : after.live ≠ ∅ := by
  simp only [add] at added
  split_ifs at added
  · cases added
    exact used
  · cases added
    exact Std.ExtTreeMap.insert_ne_empty

-- Reading keys back

/-- A key that shares nothing with those read before it is read. -/
theorem readKey_ok (keep : RootKeys → RootKeyEntry → RootKeys) (formed : key.isWellFormed = true)
    (fresh : ∀ other ∈ keys.all, other.keyId ≠ key.keyId ∧ other.label ≠ key.label)
    : readKey keep keys key.toWire = .ok (keep keys key) := by
  simp [readKey, formed, held_eq_false.mpr fresh]

/-- Keys of two ids share no label. -/
theorem Sound.unlike (ok : Sound keys) {other : RootKeyEntry} (otherIn : other ∈ keys.all)
    (keyIn : key ∈ keys.all) (different : other.keyId ≠ key.keyId)
    : other.keyId ≠ key.keyId ∧ other.label ≠ key.label :=
  ⟨different, fun alike => different (ok.labels other otherIn key keyIn alike ▸ rfl)⟩

theorem restore_toWire (ok : Sound keys) : restore keys.toWire.1 keys.toWire.2 = .ok keys := by
  obtain ⟨_, first, rfl⟩ := List.foldlM_map_ok
    (readKey fun keys key => { keys with live := keys.live.insert key.keyId key })
    (fun entry => entry.2.toWire) keys.live.toList default
    (fun done state => state = ⟨Std.ExtTreeMap.ofList done, ∅⟩) rfl (by
      rintro done ⟨id, key⟩ rest _ split rfl
      have there : keys.live[id]? = some key := mem_toList.mp (by simp [split])
      obtain ⟨rfl, formed⟩ := ok.live id key there
      refine ⟨_, readKey_ok _ formed fun other inside => ?_, by rw [OrderedMap.ofList_concat]⟩
      rcases mem_all.mp inside with ⟨id, found⟩ | ⟨id, found⟩
      · have earlier := (OrderedMap.getElem?_ofList_of_append split).mp found
        have held : keys.live[id]? = some other := mem_toList.mp (by simp [split, earlier])
        have different := ne_of_toList_append split earlier
        obtain rfl := (ok.live id other held).1
        exact ok.unlike (mem_all.mpr (.inl ⟨_, held⟩)) (mem_all.mpr (.inl ⟨_, there⟩)) different
      · simp at found)
  rw [OrderedMap.ofList_toList] at first
  obtain ⟨_, second, rfl⟩ := List.foldlM_map_ok
    (readKey fun keys key => { keys with removed := keys.removed.insert key.keyId key })
    (fun entry => entry.2.toWire) keys.removed.toList ⟨keys.live, ∅⟩
    (fun done state => state = ⟨keys.live, Std.ExtTreeMap.ofList done⟩) rfl (by
      rintro done ⟨id, key⟩ rest _ split rfl
      have there : keys.removed[id]? = some key := mem_toList.mp (by simp [split])
      obtain ⟨rfl, formed⟩ := ok.removed id key there
      refine ⟨_, readKey_ok _ formed fun other inside => ?_, by rw [OrderedMap.ofList_concat]⟩
      rcases mem_all.mp inside with ⟨id, found⟩ | ⟨id, found⟩
      · have held : keys.live[id]? = some other := found
        obtain rfl := (ok.live id other held).1
        have different : other.keyId ≠ key.keyId := by
          intro same
          rw [same] at held
          rw [ok.apart _ other held] at there
          cases there
        exact ok.unlike (mem_all.mpr (.inl ⟨_, held⟩)) (mem_all.mpr (.inr ⟨_, there⟩)) different
      · have earlier := (OrderedMap.getElem?_ofList_of_append split).mp found
        have held : keys.removed[id]? = some other :=
          mem_toList.mp (by simp [split, earlier])
        have different := ne_of_toList_append split earlier
        obtain rfl := (ok.removed id other held).1
        exact ok.unlike (mem_all.mpr (.inr ⟨_, held⟩)) (mem_all.mpr (.inr ⟨_, there⟩)) different)
  rw [OrderedMap.ofList_toList] at second
  rw [restore]
  exact (congrArg (fun read => read >>= _) first).trans second

end RootKeys

end Paros
