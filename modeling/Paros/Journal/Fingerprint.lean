import Paros.Journal.State

/-! The fingerprint of a command: an FNV-1a fold over a tagged encoding of it. The encoding tells
all commands apart but two, a SetLeader that expects no leader and one that expects the unset
leader, which the wire never carries.
-/

namespace Paros

-- Bytes

/-- A number's lowest bytes, least significant first. -/
def leBytes : (width value : Nat) → List UInt8
  | 0, _ => []
  | width + 1, value => UInt8.ofNat (value % 256) :: leBytes width (value / 256)

@[simp] theorem length_leBytes (width value : Nat) : (leBytes width value).length = width := by
  induction width generalizing value with
  | zero => rfl
  | succ width ih => rw [leBytes, List.length_cons, ih]

theorem leBytes_inj {width left right : Nat} (below : left < 256 ^ width) (under : right < 256 ^ width)
    (same : leBytes width left = leBytes width right)
    : left = right := by
  induction width generalizing left right with
  | zero => omega
  | succ width ih =>
    rw [leBytes, leBytes, List.cons.injEq] at same
    have low : left % 256 = right % 256 := by
      have := congrArg UInt8.toNat same.1
      simpa [UInt8.toNat_ofNat'] using this
    have high : left / 256 = right / 256 :=
      ih (Nat.div_lt_of_lt_mul (by rwa [pow_succ'] at below))
        (Nat.div_lt_of_lt_mul (by rwa [pow_succ'] at under)) same.2
    omega

/-- Fold bytes into a hash. -/
def fnv1a (hash : UInt64) (bytes : List UInt8) : UInt64 :=
  bytes.foldl (fun hash byte => (hash ^^^ byte.toUInt64) * 0x100000001b3) hash

def fnvOffset : UInt64 := 0xcbf29ce484222325

theorem fnv1a_append (hash : UInt64) (left right : List UInt8)
    : fnv1a hash (left ++ right) = fnv1a (fnv1a hash left) right :=
  List.foldl_append

-- Fingerprints

namespace Command

def fingerprint : Command → UInt64
  | .write entry =>
    let hash := fnv1a fnvOffset [0]
    let hash := fnv1a hash (leBytes 16 entry.leader)
    let hash := fnv1a hash (leBytes 8 entry.seq)
    let hash := fnv1a hash (leBytes 8 entry.count)
    entry.records.foldl
      (fun hash record => fnv1a (fnv1a hash (leBytes 8 record.length)) record) hash
  | .control (.truncate leader upTo) =>
    let hash := fnv1a fnvOffset [1]
    let hash := fnv1a hash (leBytes 16 leader)
    fnv1a hash (leBytes 8 upTo)
  | .control .noop => fnv1a fnvOffset [2]
  | .control (.setLeader new old) =>
    let hash := fnv1a fnvOffset [3]
    let hash := fnv1a hash (leBytes 16 new)
    -- No leader folds as the unset one.
    fnv1a hash (leBytes 16 (old.getD 0))

/-- A record behind its length. -/
def framed (record : Value) : List UInt8 := leBytes 8 record.length ++ record

/-- The bytes a fingerprint folds. -/
def fingerprintBytes : Command → List UInt8
  | .write entry =>
    0 :: (leBytes 16 entry.leader ++ leBytes 8 entry.seq ++ leBytes 8 entry.count
      ++ entry.records.flatMap framed)
  | .control (.truncate leader upTo) => 1 :: (leBytes 16 leader ++ leBytes 8 upTo)
  | .control .noop => [2]
  | .control (.setLeader new old) => 3 :: (leBytes 16 new ++ leBytes 16 (old.getD 0))

theorem fingerprint_eq (command : Command)
    : command.fingerprint = fnv1a fnvOffset command.fingerprintBytes := by
  have tagged : ∀ (tag : UInt8) (bytes : List UInt8),
      fnv1a fnvOffset (tag :: bytes) = fnv1a (fnv1a fnvOffset [tag]) bytes :=
    fun tag bytes => fnv1a_append fnvOffset [tag] bytes
  cases command with
  | write entry =>
    have records : ∀ (hash : UInt64) (records : List Value), records.foldl
        (fun hash record => fnv1a (fnv1a hash (leBytes 8 record.length)) record) hash
          = fnv1a hash (records.flatMap framed) := by
      intro hash records
      induction records generalizing hash with
      | nil => rfl
      | cons record rest ih =>
        rw [List.foldl_cons, ih, List.flatMap_cons, fnv1a_append, framed, fnv1a_append]
    rw [fingerprintBytes, tagged, fnv1a_append, fnv1a_append, fnv1a_append, fingerprint, records]
  | control control =>
    cases control with
    | truncate leader upTo => rw [fingerprintBytes, tagged, fnv1a_append, fingerprint]
    | setLeader new old => rw [fingerprintBytes, tagged, fnv1a_append, fingerprint]
    | noop => rfl

/-- Values of the source's own types: leaders of 128 bits, positions and lengths of 64. -/
def Representable : Command → Prop
  | .write entry => entry.leader < 2 ^ 128 ∧ entry.seq < 2 ^ 64 ∧ entry.records.length < 2 ^ 64
      ∧ ∀ record ∈ entry.records, record.length < 2 ^ 64
  | .control (.truncate leader upTo) => leader < 2 ^ 128 ∧ upTo < 2 ^ 64
  | .control .noop => True
  | .control (.setLeader new old) => new < 2 ^ 128 ∧ ∀ leader ∈ old, leader < 2 ^ 128

/-- The command with an expected leader only if that is set, as the wire decodes it. -/
def decoded : Command → Command
  | .control (.setLeader new old) => .control (.setLeader new (old.filter (·.isSet)))
  | command => command

/-- Framed records are told apart, by induction over them. -/
theorem framed_inj {left right : List Value} (counts : left.length = right.length)
    (below : ∀ record ∈ left, record.length < 2 ^ 64) (under : ∀ record ∈ right, record.length < 2 ^ 64)
    (same : left.flatMap framed = right.flatMap framed)
    : left = right := by
  induction left generalizing right with
  | nil => exact (List.length_eq_zero_iff.mp counts.symm).symm
  | cons record rest ih =>
    cases right with
    | nil => cases counts
    | cons other others =>
      simp only [List.flatMap_cons, framed, List.append_assoc] at same
      obtain ⟨lengths, same⟩ := List.append_inj same (by simp)
      have level : record.length = other.length :=
        leBytes_inj (below record List.mem_cons_self) (under other List.mem_cons_self) lengths
      obtain ⟨rfl, onward⟩ := List.append_inj same level
      rw [ih (Nat.succ.inj counts) (fun each member => below each (List.mem_cons_of_mem _ member))
        (fun each member => under each (List.mem_cons_of_mem _ member)) onward]

theorem fingerprintBytes_decoded (command : Command)
    : command.decoded.fingerprintBytes = command.fingerprintBytes := by
  cases command with
  | write entry => rfl
  | control control =>
    cases control with
    | setLeader new old =>
      cases old with
      | none => rfl
      | some leader =>
        by_cases set : leader.isSet = true
        · rw [decoded, Option.filter_some, if_pos set]
        · have unset : leader = 0 := by simpa [LeaderUuid.isSet] using set
          subst unset
          rfl
    | _ => rfl

/-- Commands of the same bytes are decoded alike, by the tag first. -/
theorem decoded_eq_of_bytes {left right : Command} (isLeft : left.Representable)
    (isRight : right.Representable) (same : left.fingerprintBytes = right.fingerprintBytes)
    : left.decoded = right.decoded := by
  have leaders : ∀ {left right : Nat}, left < 2 ^ 128 → right < 2 ^ 128
      → leBytes 16 left = leBytes 16 right → left = right :=
    fun below under => leBytes_inj (by simpa using below) (by simpa using under)
  have positions : ∀ {left right : Nat}, left < 2 ^ 64 → right < 2 ^ 64
      → leBytes 8 left = leBytes 8 right → left = right :=
    fun below under => leBytes_inj (by simpa using below) (by simpa using under)
  rcases left with entry | (⟨leader, upTo⟩ | ⟨new, old⟩ | _)
  all_goals
    rcases right with entry' | (⟨leader', upTo'⟩ | ⟨new', old'⟩ | _)
  case write.write =>
    obtain ⟨-, same⟩ := List.cons.inj same
    simp only [List.append_assoc] at same
    obtain ⟨leader, same⟩ := List.append_inj same (by simp)
    obtain ⟨seq, same⟩ := List.append_inj same (by simp)
    obtain ⟨count, same⟩ := List.append_inj same (by simp)
    obtain ⟨leaderFits, seqFits, countFits, recordFits⟩ := isLeft
    obtain ⟨leaderFits', seqFits', countFits', recordFits'⟩ := isRight
    have sameLeader := leaders leaderFits leaderFits' leader
    have sameSeq := positions seqFits seqFits' seq
    have sameRecords := framed_inj (positions countFits countFits' count) recordFits recordFits' same
    refine congrArg Command.write ?_
    cases entry
    cases entry'
    dsimp only at sameLeader sameSeq sameRecords
    rw [sameLeader, sameSeq, sameRecords]
  case control.truncate.control.truncate =>
    obtain ⟨-, same⟩ := List.cons.inj same
    obtain ⟨leader, upTo⟩ := List.append_inj same (by simp)
    rw [leaders isLeft.1 isRight.1 leader, positions isLeft.2 isRight.2 upTo]
  case control.setLeader.control.setLeader =>
    obtain ⟨-, same⟩ := List.cons.inj same
    obtain ⟨new, old⟩ := List.append_inj same (by simp)
    have bounded : ∀ {old : Option LeaderUuid}, (∀ leader ∈ old, leader < 2 ^ 128)
        → old.getD 0 < 2 ^ 128 := by
      intro old fits
      cases old with
      | none => exact Nat.two_pow_pos 128
      | some leader => exact fits leader rfl
    have expected := leaders (bounded isLeft.2) (bounded isRight.2) old
    have filtered : ∀ old : Option LeaderUuid,
        old.filter (·.isSet) = if (old.getD 0).isSet then some (old.getD 0) else none := by
      intro old
      cases old with
      | none => rfl
      | some leader => rfl
    rw [decoded, decoded, leaders isLeft.1 isRight.1 new, filtered, filtered, expected]
  case control.noop.control.noop => rfl
  all_goals exact absurd (List.cons.inj same).1 (by decide)

/-- A fingerprint is the hash of bytes that two commands share only if the wire decodes them to one:
they are equal, or SetLeaders that differ in whether they expect no leader or the unset one.
-/
theorem fingerprintBytes_eq_iff {left right : Command} (isLeft : left.Representable)
    (isRight : right.Representable)
    : left.fingerprint = fnv1a fnvOffset left.fingerprintBytes
      ∧ right.fingerprint = fnv1a fnvOffset right.fingerprintBytes
      ∧ (left.fingerprintBytes = right.fingerprintBytes ↔ left.decoded = right.decoded) := by
  refine ⟨fingerprint_eq left, fingerprint_eq right, decoded_eq_of_bytes isLeft isRight, fun same => ?_⟩
  rw [← fingerprintBytes_decoded left, same, fingerprintBytes_decoded]

/-- A SetLeader over no leader and one over the unset leader fold the same bytes. -/
theorem setLeader_bytes_collide
    : ∃ left right : Command, left.Representable ∧ right.Representable ∧ left ≠ right
      ∧ left.fingerprintBytes = right.fingerprintBytes :=
  ⟨.control (.setLeader 1 none), .control (.setLeader 1 (some 0)), ⟨by decide, nofun⟩,
    ⟨by decide, by rintro _ ⟨⟩; decide⟩, by decide, rfl⟩

/-- Two writes that frame the same bytes differently are told apart. -/
theorem fingerprintBytes_eq_iff_writes
    : fingerprintBytes (.write ⟨1, 0, [[1], [2, 3]]⟩) ≠ fingerprintBytes (.write ⟨1, 0, [[1, 2], [3]]⟩) := by
  have fits : ∀ records : List Value, records.length < 2 ^ 64
      → (∀ record ∈ records, record.length < 2 ^ 64)
      → Representable (.write ⟨1, 0, records⟩) :=
    fun records count each => ⟨Nat.one_lt_two_pow (by decide), Nat.two_pow_pos 64, count, each⟩
  have iff := (fingerprintBytes_eq_iff (fits [[1], [2, 3]] (by decide) (by decide))
    (fits [[1, 2], [3]] (by decide) (by decide))).2.2
  exact fun same => absurd (iff.mp same) (by decide)

end Command

end Paros
