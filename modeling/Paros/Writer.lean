import Mathlib.Logic.Function.Basic
import Paros.Journal.State

/-! A client's writer session: the leader uuids it derives from its seed and the beliefs it folds
verdicts into. Every term is led under a uuid of its own.
-/

namespace Paros

-- Leader uuids

/-- The finaliser of splitmix64. -/
def mix (word : BitVec 64) : BitVec 64 :=
  let z := word + 0x9e3779b97f4a7c15#64
  let z := (z ^^^ z >>> 30) * 0xbf58476d1ce4e5b9#64
  let z := (z ^^^ z >>> 27) * 0x94d049bb133111eb#64
  z ^^^ z >>> 31

/-- The `k`th uuid of a seed. The unset one never leads, so a derivation that lands on it moves on. -/
def leaderUuid (seed : BitVec 128) (k : BitVec 64) : LeaderUuid :=
  let hi := mix ((seed >>> 64).setWidth 64 ^^^ k)
  let lo := mix (seed.setWidth 64 ^^^ k.rotateLeft 32)
  max (hi.toNat <<< 64 ||| lo.toNat) 1

/-- A xor-shift is undone bit by bit: two words with one image differ by their difference shifted,
which is smaller unless it is zero.
-/
theorem xorShift_injective {width shift : Nat} (moves : 0 < shift)
    : Function.Injective fun word : BitVec width => word ^^^ word >>> shift := by
  intro word other same
  have shifted : word ^^^ other = (word ^^^ other) >>> shift := calc
    word ^^^ other = word ^^^ (other ^^^ other >>> shift) ^^^ other >>> shift := by
      simp [BitVec.xor_assoc]
    _ = word ^^^ (word ^^^ word >>> shift) ^^^ other >>> shift :=
      congrArg (word ^^^ · ^^^ _) same.symm
    _ = _ := by
      rw [← BitVec.xor_assoc, BitVec.xor_self, BitVec.zero_xor, BitVec.ushiftRight_xor_distrib]
  have smaller := congrArg BitVec.toNat shifted
  rw [BitVec.toNat_ushiftRight, Nat.shiftRight_eq_div_pow] at smaller
  have zero : (word ^^^ other).toNat = 0 := by
    by_contra nonzero
    have wide := Nat.one_lt_two_pow moves.ne'
    exact (Nat.div_lt_self (Nat.pos_of_ne_zero nonzero) wide).ne smaller.symm
  exact BitVec.xor_eq_zero_iff.mp (BitVec.eq_of_toNat_eq (by simpa using zero))

theorem mul_injective {width : Nat} {factor inverse : BitVec width} (undone : factor * inverse = 1)
    : Function.Injective (· * factor) := by
  intro word other same
  simpa [mul_assoc, undone] using congrArg (· * inverse) same

theorem mix_injective : Function.Injective mix :=
  (xorShift_injective (by decide)).comp
    ((mul_injective (show _ * 0x319642b2d24d8ec3#64 = 1 by decide)).comp
      ((xorShift_injective (by decide)).comp
        ((mul_injective (show _ * 0x96de1b173f119089#64 = 1 by decide)).comp
          ((xorShift_injective (by decide)).comp (add_left_injective _)))))

theorem leaderUuid_high (seed : BitVec 128) (k : BitVec 64)
    : leaderUuid seed k / 2 ^ 64 = (mix ((seed >>> 64).setWidth 64 ^^^ k)).toNat := by
  simp only [leaderUuid]
  generalize mix ((seed >>> 64).setWidth 64 ^^^ k) = hi
  generalize mix (seed.setWidth 64 ^^^ k.rotateLeft 32) = lo
  rw [← Nat.shiftLeft_add_eq_or_of_lt lo.isLt, Nat.shiftLeft_eq]
  have low := lo.isLt
  change (max (hi.toNat * 2 ^ 64 + lo.toNat) 1 : Nat) / 2 ^ 64 = hi.toNat
  omega

/-- The high half tells the terms apart, also where the unset uuid was replaced. -/
theorem leaderUuid_injective (seed : BitVec 128) : Function.Injective (leaderUuid seed) := by
  intro k other same
  have high := congrArg (· / 2 ^ 64) same
  simp only [leaderUuid_high] at high
  exact BitVec.xor_right_inj _ |>.mp (mix_injective (BitVec.eq_of_toNat_eq high))

theorem leaderUuid_isSet (seed : BitVec 128) (k : BitVec 64) : (leaderUuid seed k).isSet := by
  have positive : 1 ≤ leaderUuid seed k := le_max_right _ _
  simpa [LeaderUuid.isSet, bne_iff_ne] using Nat.one_le_iff_ne_zero.mp positive

-- The session

inductive Learned where
  | owner
  | superseded
  | notOwner
  deriving DecidableEq

/-- What a claim came back with; `other` stands for the outcomes the writer does not fold. -/
inductive ClaimOutcome where
  | won (state : JournalView)
  | lost (state : JournalView)
  | owned (state : JournalView)
  | other

structure Writer where
  seed : BitVec 128
  terms : Nat
  mine : LeaderUuid
  owned : Bool
  last : Option LeaderUuid
  nextSeq : Nat
  ledFrom : Option Nat
  openedTo : Nat
  shared : Option (Nat × Nat)
  deriving DecidableEq

namespace Writer

def new (seed : BitVec 128) : Writer :=
  ⟨seed, 0, leaderUuid seed 0, false, none, 0, none, 0, none⟩

variable (writer : Writer)

/-- Note a new write under the uuid it leads with, and the positions it may share with others. -/
def opened (entry : Entry) : Writer :=
  if writer.owned && writer.mine == entry.leader then
    { writer with
      shared :=
        if entry.seq < writer.openedTo then
          let (low, high) := writer.shared.getD (entry.seq, writer.openedTo)
          some (min low entry.seq, max high writer.openedTo)
        else writer.shared
      openedTo := max writer.openedTo (entry.seq + entry.count) }
  else writer

def sawLeading (nextSeq : Nat) : Writer :=
  { writer with ledFrom := some (writer.ledFrom.elim nextSeq (min · nextSeq)) }

def advanceTo (next : Nat) : Writer := { writer with nextSeq := max writer.nextSeq next }

/-- Spend the current uuid. The count of the terms overflows, or the assertion on the new uuid fails,
where there is no result.
-/
def nextTerm : Option Writer :=
  let mine := leaderUuid writer.seed (.ofNat 64 (writer.terms + 1))
  if writer.terms + 1 < 2 ^ 64 ∧ mine ≠ writer.mine then
    some { writer with
      last := some writer.mine
      terms := writer.terms + 1
      mine := mine
      ledFrom := none
      openedTo := 0
      shared := none }
  else none

def beginTerm : Option Writer :=
  if writer.owned then { writer with owned := false }.nextTerm else some writer

def learn (state : JournalView) : Option (Writer × Learned) :=
  if state.leader = some writer.mine then
    some ({ writer.advanceTo state.nextSeq with owned := true }.sawLeading state.nextSeq, .owner)
  else if writer.owned then ({ writer with owned := false }.nextTerm).map (·, .superseded)
  else some (writer, .notOwner)

/-- A won claim that names another leader is a caller's error. -/
def won (state : JournalView) : Option Writer :=
  if state.leader = some writer.mine then
    some ({ writer with owned := true, nextSeq := state.nextSeq }.sawLeading state.nextSeq)
  else none

def claimed : ClaimOutcome → Option (Writer × Option Learned)
  | .won state =>
    if state.leader = some writer.mine then (writer.won state).map (·, some .owner)
    else (writer.learn state).map fun (writer, learned) => (writer, some learned)
  | .lost state | .owned state =>
    (writer.learn state).map fun (writer, learned) => (writer, some learned)
  | .other => some (writer, none)

/-- A call on a writer. Verdicts of writes and truncations are folded by `learn` and `advanceTo`. -/
inductive Call where
  | opened (entry : Entry)
  | advanceTo (next : Nat)
  | beginTerm
  | learn (state : JournalView)
  | won (state : JournalView)
  | claimed (outcome : ClaimOutcome)

def call : Call → Option Writer
  | .opened entry => some (writer.opened entry)
  | .advanceTo next => some (writer.advanceTo next)
  | .beginTerm => writer.beginTerm
  | .learn state => (writer.learn state).map (·.1)
  | .won state => writer.won state
  | .claimed outcome => (writer.claimed outcome).map (·.1)

def run (calls : List Call) : Option Writer := calls.foldlM call writer

/-- What ends the term a writer leads: a new one begun on purpose, or a view that names another
leader.
-/
def Ends : Call → Prop
  | .beginTerm => True
  | .learn state | .claimed (.won state) | .claimed (.lost state) | .claimed (.owned state) =>
    state.leader ≠ some writer.mine
  | _ => False

/-- Its uuid is the one its seed gives its term, which is at or past an earlier one. -/
def Derived (seed : BitVec 128) (since : Nat) : Prop :=
  writer.seed = seed ∧ since ≤ writer.terms ∧ writer.terms < 2 ^ 64
  ∧ writer.mine = leaderUuid seed (.ofNat 64 writer.terms)

variable {writer} {seed : BitVec 128} {since : Nat}

section Derived

variable (derived : writer.Derived seed since)

include derived

/-- The term after one it leads. -/
theorem Derived.superseded
    : ∀ next ∈ ({ writer with owned := false } : Writer).nextTerm, next.Derived seed (since + 1) := by
  fun_cases Writer.nextTerm { writer with owned := false }
  case case1 room =>
    rintro _ ⟨⟩
    exact ⟨derived.1, Nat.succ_le_succ derived.2.1, room.1, derived.1 ▸ rfl⟩
  case case2 => simp

theorem Derived.spent
    : ∀ next ∈ ({ writer with owned := false } : Writer).nextTerm, next.Derived seed since := by
  intro next taken
  obtain ⟨seeded, later, rest⟩ := derived.superseded next taken
  exact ⟨seeded, Nat.le_of_succ_le later, rest⟩

theorem Derived.learn (state : JournalView)
    : ∀ next ∈ writer.learn state, next.1.Derived seed since := by
  fun_cases Writer.learn writer state
  case case1 => rintro _ ⟨⟩; exact derived
  case case2 => simpa using derived.spent
  case case3 => rintro _ ⟨⟩; exact derived

theorem Derived.won (state : JournalView) : ∀ next ∈ writer.won state, next.Derived seed since := by
  unfold Writer.won
  split_ifs
  · rintro _ ⟨⟩; exact derived
  · simp

/-- What one call keeps: only a new term changes the uuid, and it takes the next one of the seed. -/
theorem Derived.call (call : Call) : ∀ next ∈ writer.call call, next.Derived seed since := by
  fun_cases Writer.call writer call
  case case1 entry =>
    rintro _ ⟨⟩
    unfold opened
    split_ifs <;> exact derived
  case case2 => rintro _ ⟨⟩; exact derived
  case case3 =>
    unfold beginTerm
    split_ifs
    · exact derived.spent
    · rintro _ ⟨⟩; exact derived
  case case4 state => simpa using derived.learn state
  case case5 state => exact derived.won state
  case case6 outcome =>
    fun_cases Writer.claimed writer outcome
    case case1 state _ => simpa using derived.won state
    case case5 => rintro _ ⟨⟩; exact derived
    case case2 state _ | case3 state | case4 state => simpa using derived.learn state

theorem Derived.run (calls : List Call) : ∀ next ∈ writer.run calls, next.Derived seed since := by
  induction calls generalizing writer with
  | nil => rintro _ ⟨⟩; exact derived
  | cons call rest ih =>
    intro next done
    obtain ⟨middle, first, others⟩ := Option.bind_eq_some_iff.mp done
    exact ih (derived.call call middle first) next others

/-- A call that ends the term it leads opens the next one. -/
theorem Derived.ends {call : Call} (owned : writer.owned) (ends : writer.Ends call)
    : ∀ next ∈ writer.call call, next.Derived seed (since + 1) := by
  have learns {state : JournalView} (other : state.leader ≠ some writer.mine)
      : ∀ next ∈ writer.learn state, next.1.Derived seed (since + 1) := by
    rw [Writer.learn, if_neg other, if_pos owned]
    simpa using derived.superseded
  cases call with
  | beginTerm => simpa [Writer.call, Writer.beginTerm, owned] using derived.superseded
  | learn state => simpa [Writer.call] using learns ends
  | claimed outcome =>
    cases outcome with
    | won state =>
      have other : state.leader ≠ some writer.mine := ends
      simpa [Writer.call, Writer.claimed, other] using learns other
    | lost state | owned state => simpa [Writer.call, Writer.claimed] using learns ends
    | other => exact ends.elim
  | _ => exact ends.elim

/-- One uuid is one term. -/
theorem Derived.mine_eq_iff {other : Writer} {least : Nat} (another : other.Derived seed least)
    : writer.mine = other.mine ↔ writer.terms = other.terms := by
  obtain ⟨-, -, room, mine⟩ := derived
  obtain ⟨-, -, room', mine'⟩ := another
  rw [mine, mine', (leaderUuid_injective seed).eq_iff, ← BitVec.toNat_inj]
  simp only [BitVec.toNat_ofNat, Nat.mod_eq_of_lt room, Nat.mod_eq_of_lt room']

end Derived

/-- A writer never reuses a uuid: once a term it leads has ended, by its own call or by a view that
names another leader, it is under no uuid it had until then, at no later moment. At any two moments
it has one uuid exactly where it is in one term. No uuid is the unset one, and the assertion that
opens a term holds.
-/
theorem uuid_per_term (seed : BitVec 128)
    : (∀ k other, k ≠ other → leaderUuid seed k ≠ leaderUuid seed other)
      ∧ (∀ k, (leaderUuid seed k).isSet)
      ∧ ∀ earlier later before after, (new seed).run earlier = some before
        → before.run later = some after
        → (before.terms = after.terms ↔ before.mine = after.mine) ∧ after.mine.isSet
          ∧ (after.terms + 1 < 2 ^ 64 → after.nextTerm.isSome)
          ∧ ∀ call rest final, after.owned → after.Ends call → after.run (call :: rest) = some final
            → final.mine ≠ before.mine := by
  refine ⟨fun k other => (leaderUuid_injective seed).ne, leaderUuid_isSet seed, ?_⟩
  intro earlier later before after ran reran
  have start : (new seed).Derived seed 0 := ⟨rfl, le_rfl, Nat.two_pow_pos 64, rfl⟩
  obtain ⟨seeded, -, bounded⟩ := start.run earlier before ran
  have first : before.Derived seed before.terms := ⟨seeded, le_rfl, bounded⟩
  have second := first.run later after reran
  refine ⟨(first.mine_eq_iff second).symm, second.2.2.2 ▸ leaderUuid_isSet _ _, fun room => ?_, ?_⟩
  · have next : ({ after with
        terms := after.terms + 1
        mine := leaderUuid seed (.ofNat 64 (after.terms + 1)) } : Writer).Derived seed 0 :=
      ⟨second.1, Nat.zero_le _, room, rfl⟩
    have fresh : leaderUuid after.seed (.ofNat 64 (after.terms + 1)) ≠ after.mine := by
      rw [second.1]
      exact fun same => Nat.succ_ne_self _ ((next.mine_eq_iff second).mp same)
    rw [Writer.nextTerm, if_pos ⟨room, fresh⟩, Option.isSome_some]
  · intro call rest final owned ends called
    obtain ⟨lost, taken, onward⟩ := Option.bind_eq_some_iff.mp called
    have last := (second.ends owned ends lost taken).run rest final onward
    exact fun same => (Nat.lt_of_succ_le last.2.1).ne' ((last.mine_eq_iff first).mp same)

/-- A writer that led, learned of another leader and won its next claim. -/
theorem uuid_per_term_superseded
    : ∃ leading final, (new 7).run [.won ⟨some (leaderUuid 7 0), 0, 0⟩] = some leading
      ∧ leading.run [.learn ⟨some 1, 0, 0⟩, .won ⟨some (leaderUuid 7 1), 0, 0⟩] = some final
      ∧ leading.owned ∧ final.owned ∧ final.mine ≠ leading.mine := by
  have led : (new 7).run [.won ⟨some (leaderUuid 7 0), 0, 0⟩]
      = some ⟨7, 0, leaderUuid 7 0, true, none, 0, some 0, 0, none⟩ := by
    decide +kernel
  have again : Writer.run ⟨7, 0, leaderUuid 7 0, true, none, 0, some 0, 0, none⟩
      [.learn ⟨some 1, 0, 0⟩, .won ⟨some (leaderUuid 7 1), 0, 0⟩]
      = some ⟨7, 1, leaderUuid 7 1, true, some (leaderUuid 7 0), 0, some 0, 0, none⟩ := by
    decide +kernel
  have other : some 1 ≠ some (leaderUuid 7 0) := by decide +kernel
  exact ⟨_, _, led, again, rfl, rfl,
    ((uuid_per_term 7).2.2 _ [] _ _ led rfl).2.2.2
      (.learn ⟨some 1, 0, 0⟩) _ _ rfl other again⟩

end Writer

end Paros
