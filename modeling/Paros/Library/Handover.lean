import Mathlib.Data.Set.Insert
import Mathlib.Logic.Function.Basic
import Mathlib.Logic.Relation
import Mathlib.Tactic.Common

/-! Handing one thing over between holders, by a register that holders read and later act on. A
holder acts on what it read of the register, however old that is by then, and on which holders it
saw releasing the thing to it. Only its own record is the holder's to write.
-/

namespace Handover

variable {κ : Type*}

-- The register, the holders and what they read

/-- What a holder records of the thing. It acts on it from the start, or once it settled; one that
released it keeps it until the register names the next owner.
-/
inductive Holding (κ : Type*) where
  | free
  | acting (settled : Bool)
  | leaving (next : κ)
  | gone
  deriving DecidableEq

namespace Holding

def Acts : Holding κ → Prop
  | acting _ => True
  | _ => False

/-- Whether the holder has the thing, acting on it or on its way out. -/
def Holds : Holding κ → Prop
  | acting _ | leaving _ => True
  | _ => False

@[simp] theorem acts_acting (settled : Bool) : (acting settled : Holding κ).Acts := trivial
@[simp] theorem not_acts_free : ¬(free : Holding κ).Acts := id
@[simp] theorem not_acts_leaving (next : κ) : ¬(leaving next).Acts := id
@[simp] theorem not_acts_gone : ¬(gone : Holding κ).Acts := id
@[simp] theorem holds_acting (settled : Bool) : (acting settled : Holding κ).Holds := trivial
@[simp] theorem holds_leaving (next : κ) : (leaving next).Holds := trivial
@[simp] theorem not_holds_free : ¬(free : Holding κ).Holds := id
@[simp] theorem not_holds_gone : ¬(gone : Holding κ).Holds := id

theorem Acts.holds {holding : Holding κ} (acts : holding.Acts) : holding.Holds := by
  cases holding <;> first | exact acts.elim | trivial

end Holding

/-- What the register says of the thing: its owner, the next one while it moves, and whether it is
being removed.
-/
structure Post (κ : Type*) where
  owner : κ
  next : Option κ
  closing : Bool

/-- What a holder acts on: the register as it read it, and the holders it then saw releasing the
thing to it.
-/
structure View (κ : Type*) where
  post : Option (Post κ)
  released : Set κ

/-- The `looked` holders were seen settled since the register last changed. -/
structure State (κ : Type*) where
  post : Option (Post κ)
  holding : κ → Holding κ
  view : κ → View κ
  looked : Set κ

/-- What a holder may make of its record, from what it read. -/
inductive Turn (own : κ) (view : View κ) : Holding κ → Holding κ → Prop where
  | host {read : Post κ} (seen : view.post = some read) (mine : read.owner = own)
    : Turn own view .free (.acting true)
  | release {read : Post κ} {next : κ} (seen : view.post = some read) (mine : read.owner = own)
    (moves : read.next = some next)
    : Turn own view (.acting true) (.leaving next)
  | adopt {read : Post κ} (seen : view.post = some read) (moves : read.next = some own)
    (released : read.owner ∈ view.released)
    : Turn own view .free (.acting false)
  | settle : Turn own view (.acting false) (.acting true)
  | forget {read : Post κ} (seen : view.post = some read) (other : read.owner ≠ own)
    : Turn own view (.leaving read.owner) .free
  | drop {read : Post κ} {before : Holding κ} (seen : view.post = some read)
    (closing : read.closing)
    : Turn own view before .gone

/-- What may be written to the register. The owner changes only to a holder that was seen settled
while the register stood as it is.
-/
inductive Entry (looked : Set κ) : Option (Post κ) → Option (Post κ) → Prop where
  | kept {post : Option (Post κ)} : Entry looked post post
  | register (owner : κ) : Entry looked none (some ⟨owner, none, false⟩)
  | move {owner next : κ} (apart : next ≠ owner)
    : Entry looked (some ⟨owner, none, false⟩) (some ⟨owner, some next, false⟩)
  | flip {owner next : κ} (settled : next ∈ looked)
    : Entry looked (some ⟨owner, some next, false⟩) (some ⟨next, none, false⟩)
  | close {post : Post κ} : Entry looked (some post) (some { post with closing := true })

inductive Step [DecidableEq κ] (state : State κ) : State κ → Prop where
  | turn (own : κ) {after : Holding κ} (turn : Turn own (state.view own) (state.holding own) after)
    : Step state { state with holding := Function.update state.holding own after }
  | read (own : κ)
    : Step state { state with view := Function.update state.view own ⟨state.post, ∅⟩ }
  | side {own other : κ} (released : state.holding other = .leaving own)
    : Step state
        { state with
          view := Function.update state.view own
            { state.view own with released := insert other (state.view own).released } }
  | look {own : κ} (settled : state.holding own = .acting true)
    : Step state { state with looked := insert own state.looked }
  | write {after : Option (Post κ)} (entry : Entry state.looked state.post after)
    : Step state { state with post := after, looked := ∅ }

-- What holds in every state

/-- What an old reading still says. As long as the holder neither released the thing nor dropped
it, an owner it read itself to be it still is; and as long as it does not act, one it read itself
not to be it still is not, and a move to it is still open, released as it saw it.
-/
structure Current (post : Post κ) (holding : κ → Holding κ) (own : κ) (read : Post κ)
    (released : Set κ) : Prop where
  apart : read.next ≠ some read.owner
  closing : read.closing → post.closing
  mine : read.owner = own
    → (post.owner = own ∧ ∀ next, read.next = some next → post.next = some next)
      ∨ (∃ next, holding own = .leaving next) ∨ holding own = .gone
  other : read.owner ≠ own → post.owner ≠ own ∨ (holding own).Acts ∨ holding own = .gone
  coming : read.next = some own
    → (post.owner = read.owner ∧ post.next = some own) ∨ (holding own).Acts ∨ holding own = .gone
  released : read.next = some own → read.owner ∈ released
    → (holding read.owner = .leaving own ∨ holding read.owner = .gone)
      ∨ (holding own).Acts ∨ holding own = .gone

/-- The owner, or the next one once the owner released the thing to it or dropped it, is the only
holder that acts; the owner has the thing as long as any does.
-/
structure Held (post : Post κ) (holding : κ → Holding κ) : Prop where
  apart : post.next ≠ some post.owner
  acts : ∀ own, (holding own).Acts → own = post.owner
    ∨ (post.next = some own ∧ (holding post.owner = .leaving own ∨ holding post.owner = .gone))
  leaves : ∀ next, holding post.owner = .leaving next → post.next = some next
  keeps : post.closing = false → ∀ own, (holding own).Holds → (holding post.owner).Holds
  gone : ∀ own, holding own = .gone → post.closing

structure Sound (state : State κ) : Prop where
  unregistered : state.post = none → ∀ own, state.holding own = .free ∧ (state.view own).post = none
  held : ∀ post, state.post = some post → Held post state.holding
  current : ∀ post, state.post = some post → ∀ own read, (state.view own).post = some read
    → Current post state.holding own read (state.view own).released
  looked : ∀ post, state.post = some post → ∀ next, post.closing = false → post.next = some next
    → next ∈ state.looked → (state.holding next).Acts

-- A holder's turn

section Turn

variable {post : Post κ} {holding : κ → Holding κ} {own : κ} {view : View κ} {after : Holding κ}

/-- What a turn is warranted by now, whatever was read: the owner hosts or releases, the next one
adopts what was released to it or dropped, another than the owner forgets.
-/
inductive Due (post : Post κ) (holding : κ → Holding κ) (own : κ)
    : Holding κ → Holding κ → Prop where
  | host (mine : post.owner = own) : Due post holding own .free (.acting true)
  | release {next : κ} (mine : post.owner = own) (moves : post.next = some next)
    : Due post holding own (.acting true) (.leaving next)
  | adopt (moves : post.next = some own)
    (released : holding post.owner = .leaving own ∨ holding post.owner = .gone)
    : Due post holding own .free (.acting false)
  | settle : Due post holding own (.acting false) (.acting true)
  | forget {next : κ} (other : post.owner ≠ own) : Due post holding own (.leaving next) .free
  | drop {before : Holding κ} (closing : post.closing) : Due post holding own before .gone

/-- What an old reading warrants is still due. Witness: the record the turn starts at excludes the
other ways that a reading may have become old.
-/
theorem Turn.due (turn : Turn own view (holding own) after)
    (current : ∀ read, view.post = some read → Current post holding own read view.released)
    : Due post holding own (holding own) after := by
  generalize was : holding own = before at turn
  cases turn with
  | host seen mine =>
    have cur := (current _ seen).mine mine
    simp only [was, reduceCtorEq, exists_false, or_false] at cur
    exact .host cur.1
  | release seen mine moves =>
    have cur := (current _ seen).mine mine
    simp only [was, reduceCtorEq, exists_false, or_false] at cur
    exact .release cur.1 (cur.2 _ moves)
  | adopt seen moves released =>
    have coming := (current _ seen).coming moves
    have held := (current _ seen).released moves released
    simp only [was, Holding.not_acts_free, reduceCtorEq, or_false] at coming held
    exact .adopt coming.2 (coming.1 ▸ held)
  | settle => exact .settle
  | forget seen other =>
    have cur := (current _ seen).other other
    simp only [was, Holding.not_acts_leaving, reduceCtorEq, or_false] at cur
    exact .forget cur
  | drop seen closing => exact .drop ((current _ seen).closing closing)

/-- What a holder adopts still comes from the owner it read, which released it or dropped it. -/
theorem Current.adopts {read : Post κ} {released : Set κ}
    (current : Current post holding own read released) (free : holding own = .free)
    (moves : read.next = some own) (member : read.owner ∈ released)
    : post.owner = read.owner ∧ (holding read.owner = .leaving own ∨ holding read.owner = .gone) := by
  have coming := current.coming moves
  have held := current.released moves member
  simp only [free, Holding.not_acts_free, reduceCtorEq, or_false] at coming held
  exact ⟨coming.1, held⟩

variable [DecidableEq κ]

/-- A turn that is due keeps who holds what. -/
theorem Held.turn (held : Held post holding) (due : Due post holding own (holding own) after)
    : Held post (Function.update holding own after) := by
  generalize was : holding own = before at due
  obtain ⟨apart, acts, leaves, keeps, gone⟩ := held
  cases due <;> constructor <;> grind [Function.update_apply, Holding.Acts, Holding.Holds]

/-- A holder's turn keeps its own reading current: from a reading of itself as the owner it only
comes to release or to drop, and from another it only comes to act or to drop.
-/
theorem Current.turn {read : Post κ} (current : Current post holding own read view.released)
    (seen : view.post = some read) (turn : Turn own view (holding own) after)
    (held : Held post holding)
    : Current post (Function.update holding own after) own read view.released := by
  generalize was : holding own = before at turn
  obtain ⟨apart, closing, mine, other, coming, released⟩ := current
  obtain ⟨-, acts, leaves, -, gone⟩ := held
  cases turn <;> constructor <;> grind [Function.update_apply, Holding.Acts]

/-- Another holder's turn keeps a reading current. Witness: a holder that released the thing to the
reader forgets it only when it is not the owner, and then the reader acts.
-/
theorem Current.due {reader : κ} {read : Post κ} {released : Set κ} (apart : reader ≠ own)
    (current : Current post holding reader read released)
    (due : Due post holding own (holding own) after)
    : Current post (Function.update holding own after) reader read released := by
  generalize was : holding own = before at due
  obtain ⟨differ, closing, mine, other, coming, released⟩ := current
  cases due <;> constructor <;> grind [Function.update_apply, Holding.Acts]

end Turn

-- A write to the register

section Entry

variable {post after : Post κ} {holding : κ → Holding κ} {looked : Set κ}

/-- The next owner acts only once the owner released the thing to it. -/
theorem Held.released {next : κ} (held : Held post holding) (moves : post.next = some next)
    (acts : (holding next).Acts)
    : holding post.owner = .leaving next ∨ holding post.owner = .gone := by
  rcases held.acts next acts with rfl | ⟨-, released⟩
  · exact absurd moves held.apart
  · exact released

/-- A write to the register keeps who holds what. -/
theorem Held.entry (held : Held post holding) (entry : Entry looked (some post) (some after))
    (settled : ∀ next, post.closing = false → post.next = some next → next ∈ looked
      → (holding next).Acts)
    : Held after holding := by
  have ⟨apart, acts, leaves, keeps, gone⟩ := held
  cases entry with
  | kept => exact held
  | move differ => constructor <;> grind
  | @flip owner next seen =>
    have acting := settled next rfl rfl seen
    have released := held.released rfl acting
    constructor <;> grind [Holding.Acts, Holding.Acts.holds]
  | close => exact ⟨apart, acts, leaves, by simp, fun _ _ => rfl⟩

/-- A write to the register keeps a reading current. Witness: a flip needs the next owner to act,
which says that the owner released the thing.
-/
theorem Current.entry {own : κ} {read : Post κ} {released : Set κ}
    (current : Current post holding own read released) (held : Held post holding)
    (entry : Entry looked (some post) (some after))
    (settled : ∀ next, post.closing = false → post.next = some next → next ∈ looked
      → (holding next).Acts)
    : Current after holding own read released := by
  have ⟨differ, closing, mine, other, coming, sides⟩ := current
  cases entry with
  | kept => exact current
  | move apart => constructor <;> grind
  | @flip owner next seen =>
    have acting := settled next rfl rfl seen
    have released := held.released rfl acting
    constructor <;> grind [Holding.Acts]
  | close => exact ⟨differ, fun _ => rfl, mine, other, coming, sides⟩

end Entry

-- Steps and runs

variable {state after : State κ}

namespace Sound

/-- At most one holder acts. -/
theorem alone (sound : Sound state) {left right : κ} (acts : (state.holding left).Acts)
    (other : (state.holding right).Acts)
    : left = right := by
  cases posted : state.post with
  | none => simp [(sound.unregistered posted left).1] at acts
  | some post =>
    have held := sound.held post posted
    grind [Holding.Acts, held.acts left acts, held.acts right other]

theorem look {own : κ} (sound : Sound state) (settled : state.holding own = .acting true)
    : Sound { state with looked := insert own state.looked } := by
  refine { sound with looked := fun post posted next running moves seen => ?_ }
  rcases Set.mem_insert_iff.mp seen with rfl | before
  · simp [settled]
  · exact sound.looked post posted next running moves before

theorem write {entered : Option (Post κ)} (sound : Sound state)
    (entry : Entry state.looked state.post entered)
    : Sound { state with post := entered, looked := ∅ } := by
  cases posted : state.post with
  | none =>
    have unregistered := sound.unregistered posted
    rw [posted] at entry
    cases entry with
    | kept => exact ⟨fun _ => unregistered, by simp, by simp, by simp⟩
    | register owner =>
      refine ⟨by simp, fun post same => ?_, fun post _ own read seen => ?_, by simp⟩
      · cases same
        constructor <;> simp [unregistered]
      · simp [(unregistered own).2] at seen
  | some post =>
    have held := sound.held post posted
    have settled := sound.looked post posted
    rw [posted] at entry
    obtain ⟨after, rfl⟩ : ∃ after, entered = some after := by cases entry <;> exact ⟨_, rfl⟩
    refine ⟨by simp, fun other same => ?_, fun other same own read seen => ?_, by simp⟩
    · cases same
      exact held.entry entry settled
    · cases same
      exact (sound.current post posted own read seen).entry held entry settled

variable [DecidableEq κ]

theorem turn {own : κ} {record : Holding κ} (sound : Sound state)
    (turn : Turn own (state.view own) (state.holding own) record)
    : Sound { state with holding := Function.update state.holding own record } := by
  cases posted : state.post with
  | none =>
    -- Nobody read the thing to be registered, so there is no turn to take.
    have ⟨free, unread⟩ := sound.unregistered posted own
    rw [free] at turn
    cases turn with
    | host seen | adopt seen | drop seen => simp [unread] at seen
  | some post =>
    have held := sound.held post posted
    have current := sound.current post posted
    have due := turn.due (current own)
    refine ⟨by simp, ?_, ?_, ?_⟩
    · intro other same
      cases same
      exact held.turn due
    · intro other same reader read seen
      cases same
      by_cases apart : reader = own
      · subst apart
        exact (current reader read seen).turn seen turn held
      · exact (current reader read seen).due apart due
    · intro other same next running moves seen
      cases same
      have acts := sound.looked post posted next running moves seen
      generalize was : state.holding own = before at due
      have ⟨apart, _, _, _, _⟩ := held
      cases due <;> grind [Function.update_apply, Holding.Acts]

theorem read (sound : Sound state) (own : κ)
    : Sound { state with view := Function.update state.view own ⟨state.post, ∅⟩ } := by
  refine ⟨fun none other => ?_, sound.held, fun post posted other read seen => ?_, sound.looked⟩
  · have ⟨free, unread⟩ := sound.unregistered none other
    refine ⟨free, ?_⟩
    by_cases same : other = own
    · simpa [same] using none
    · simpa [same] using unread
  · by_cases same : other = own
    · subst same
      simp only [Function.update_self] at seen ⊢
      cases posted.symm.trans seen
      exact ⟨(sound.held post posted).apart, id, fun mine => .inl ⟨mine, fun _ moves => moves⟩,
        .inl, fun moves => .inl ⟨rfl, moves⟩, fun _ none => none.elim⟩
    · simp only [Function.update_of_ne same] at seen ⊢
      exact sound.current post posted other read seen

theorem side {own other : κ} (sound : Sound state) (released : state.holding other = .leaving own)
    : Sound
        { state with
          view := Function.update state.view own
            { state.view own with released := insert other (state.view own).released } } := by
  refine ⟨fun none reader => ?_, sound.held, fun post posted reader read seen => ?_, sound.looked⟩
  · have ⟨free, unread⟩ := sound.unregistered none reader
    refine ⟨free, ?_⟩
    by_cases same : reader = own
    · simpa [same] using same ▸ unread
    · simpa [same] using unread
  · by_cases same : reader = own
    · subst same
      simp only [Function.update_self] at seen ⊢
      have current := sound.current post posted reader read seen
      refine { current with released := fun moves member => ?_ }
      rcases Set.mem_insert_iff.mp member with same | before
      · exact .inl (.inl (same ▸ released))
      · exact current.released moves before
    · simp only [Function.update_of_ne same] at seen ⊢
      exact sound.current post posted reader read seen

theorem step (sound : Sound state) (step : Step state after) : Sound after := by
  cases step with
  | turn own turn => exact sound.turn turn
  | read own => exact sound.read own
  | side released => exact sound.side released
  | look settled => exact sound.look settled
  | write entry => exact sound.write entry

end Sound

/-- As long as the thing is not removed, it is held by someone once it was. Witness: one that
forgets it is not the owner, and the owner holds it.
-/
theorem Step.held [DecidableEq κ] (step : Step state after) (sound : Sound state)
    (held : ∃ own, (state.holding own).Holds)
    (running : ∀ post, after.post = some post → post.closing = false)
    : ∃ own, (after.holding own).Holds := by
  obtain ⟨own, holds⟩ := held
  cases step with
  | @turn holder record turn =>
    cases posted : state.post with
    | none => simp [(sound.unregistered posted own).1] at holds
    | some post =>
      have keeps := (sound.held post posted).keeps (running post posted) own holds
      have due := turn.due (sound.current post posted holder)
      generalize was : state.holding holder = before at due
      cases due with
      | host | release | adopt | settle => exact ⟨holder, by simp⟩
      | forget other => exact ⟨post.owner, by simpa [other] using keeps⟩
      | drop closing => simp [running post posted] at closing
  | _ => exact ⟨own, holds⟩

/-- A removal is not taken back. -/
theorem Step.closing [DecidableEq κ] {post : Post κ} (step : Step state after)
    (posted : state.post = some post) (closing : post.closing)
    : ∃ other, after.post = some other ∧ other.closing := by
  cases step with
  | write entry =>
    rw [posted] at entry
    cases entry with
    | kept => exact ⟨post, rfl, closing⟩
    | move | flip => simp at closing
    | close => exact ⟨_, rfl, rfl⟩
  | _ => exact ⟨post, posted, closing⟩

section Run

variable [DecidableEq κ] (run : Relation.ReflTransGen Step state after)
include run

theorem run_sound (sound : Sound state) : Sound after := by
  induction run with
  | refl => exact sound
  | tail _ step ih => exact ih.step step

/-- Once it is held, the thing is held by someone until it is removed. -/
theorem run_held (sound : Sound state) (held : ∃ own, (state.holding own).Holds)
    (running : ∀ post, after.post = some post → post.closing = false)
    : ∃ own, (after.holding own).Holds := by
  induction run with
  | refl => exact held
  | @tail middle last between step ih =>
    refine step.held (run_sound between sound) (ih fun post posted => ?_) running
    by_contra closing
    obtain ⟨other, there, closed⟩ := step.closing posted (by simpa using closing)
    simp [running other there] at closed

end Run

-- Leaving nothing behind

/-- A step that leaves no holder behind: the owner changes only once nobody but it and the next one
holds the thing, no removal starts while the next one is settled, and none settles during one.
-/
structure Tidy (state after : State κ) : Prop where
  flips : ∀ post other, state.post = some post → after.post = some other → other.owner ≠ post.owner
    → ∀ own, own ≠ post.owner → own ≠ other.owner → ¬(state.holding own).Holds
  closes : ∀ post other, state.post = some post → after.post = some other
    → post.closing = false → other.closing → ∀ next, post.next = some next
    → state.holding next ≠ .acting true
  settles : ∀ post own, state.post = some post → post.closing → state.holding own = .acting false
    → after.holding own ≠ .acting true

/-- A step that leaves the register as it is, and settles nobody during a removal, is tidy. -/
theorem Tidy.of_post (same : after.post = state.post)
    (settles : ∀ post own, state.post = some post → post.closing → state.holding own = .acting false
      → after.holding own ≠ .acting true)
    : Tidy state after := by
  refine ⟨fun post other posted there apart => ?_, fun post other posted there running closing => ?_,
    settles⟩
  all_goals
    rw [same, posted] at there
    cases there
  · exact absurd rfl apart
  · simp [running] at closing

/-- A step that changes neither the register nor a record is tidy. -/
theorem Tidy.quiet (same : after.post = state.post) (kept : after.holding = state.holding)
    : Tidy state after :=
  .of_post same fun _ _ _ _ unsettled settled => by simp [kept, unsettled] at settled

/-- Whoever holds the thing and is not its owner was the owner before, or is the next one; and it
is not settled while the thing is removed.
-/
structure Cleared (post : Post κ) (holding : κ → Holding κ) : Prop where
  holds : ∀ own, own ≠ post.owner → (holding own).Holds
    → holding own = .leaving post.owner ∨ post.next = some own
  unsettled : post.closing → ∀ own, own ≠ post.owner → holding own ≠ .acting true

theorem Cleared.turn [DecidableEq κ] {post : Post κ} {holding : κ → Holding κ} {own : κ}
    {record : Holding κ} (cleared : Cleared post holding)
    (due : Due post holding own (holding own) record)
    (settles : post.closing → holding own = .acting false → record ≠ .acting true)
    : Cleared post (Function.update holding own record) := by
  generalize was : holding own = before at due settles
  obtain ⟨holds, unsettled⟩ := cleared
  cases due <;> constructor <;> grind [Function.update_apply, Holding.Holds]

theorem Cleared.entry {post other : Post κ} {holding : κ → Holding κ} {looked : Set κ}
    (cleared : Cleared post holding) (held : Held post holding)
    (entry : Entry looked (some post) (some other))
    (settled : ∀ next, post.closing = false → post.next = some next → next ∈ looked
      → (holding next).Acts)
    (flips : other.owner ≠ post.owner
      → ∀ own, own ≠ post.owner → own ≠ other.owner → ¬(holding own).Holds)
    (closes : post.closing = false → other.closing → ∀ next, post.next = some next
      → holding next ≠ .acting true)
    : Cleared other holding := by
  obtain ⟨holds, unsettled⟩ := cleared
  cases entry with
  | kept => exact ⟨holds, unsettled⟩
  | move apart => constructor <;> grind
  | @flip owner next seen =>
    refine ⟨fun own apart holding' => ?_, by simp⟩
    by_cases before : own = owner
    · subst before
      rcases held.released rfl (settled next rfl rfl seen) with leaving | gone
      · exact .inl leaving
      · simp_all
    · exact absurd holding' (flips (by simpa using held.apart) own before apart)
  | close =>
    refine ⟨holds, fun _ own apart acting => ?_⟩
    rcases holds own apart (by simp [acting]) with leaving | moves
    · simp [acting] at leaving
    · cases running : post.closing with
      | false => exact closes running rfl own moves acting
      | true => exact unsettled running own apart acting

/-- A tidy step clears up behind it. -/
theorem Step.cleared [DecidableEq κ] (step : Step state after) (sound : Sound state)
    (tidy : Tidy state after) (cleared : ∀ post, state.post = some post → Cleared post state.holding)
    : ∀ post, after.post = some post → Cleared post after.holding := by
  intro other posted'
  cases step with
  | @turn holder record turn =>
    have due := turn.due (sound.current other posted' holder)
    refine (cleared other posted').turn due fun closing acting => ?_
    simpa using tidy.settles other holder posted' closing acting
  | @write entered entry =>
    have flips := tidy.flips
    have closes := tidy.closes
    subst posted'
    cases posted : state.post with
    | none =>
      rw [posted] at entry
      have unregistered := sound.unregistered posted
      cases entry
      constructor <;> simp [unregistered]
    | some post =>
      rw [posted] at entry
      exact (cleared post posted).entry (sound.held post posted) entry
        (sound.looked post posted) (flips post other posted rfl) (closes post other posted rfl)
  | _ => exact cleared other posted'

end Handover
