import Paros.Store.NodeSync

/-! A crash at any point of any run of the node's store leaves a drive that boots and keeps the
word.
-/

namespace Paros.JournalStorage

open CommitJournal (Crash Drive)

/-- A store, the drive under it and what was said on the strength of the two. -/
structure World where
  store : JournalStorage
  drive : StoreDrive
  word : Word

namespace World

def start : World := ⟨.new, none, .new⟩

variable (codec : NodeCodec) (fits : StoreBatch → Bytes → Bool)

def stage (world : World) (write : WriteOp) : World :=
  ⟨world.store.stage codec write, world.drive, world.word.stage world.store write⟩

def sync (split : Bool) (world : World) : World :=
  let flush := world.store.sync codec fits split
  ⟨flush.store, world.drive.applyAll flush.commits, world.word.sync world.store⟩

/-- What a crash leaves on the drive: all of it, or what a sync had made durable so far. -/
inductive Cut (world : World) : StoreDrive → Prop
  | idle : Cut world world.drive
  | syncing {split : Bool} {left : StoreDrive} (within : world.store.WithinPromise)
    (crash : Crash world.drive (world.store.sync codec fits split).commits left)
    : Cut world left

/-- One step of a run: staging a write or a format, a scrub, damage on the drive, a completed sync,
or a crash and the boot after it. A sync finds every staged record at or below the promise.
-/
inductive Step : World → World → Prop
  | format {world : World} (config : Config) (unset : world.store.metainfo.formatted = none)
    : Step world { world with store := world.store.format config }
  | stage {world : World} (write : WriteOp) (allowed : world.store.Allowed write)
    : Step world (world.stage codec write)
  | scrub {world : World} (slot : Nat)
    : Step world { world with store := world.store.markDamaged slot }
  | decay {world : World} {decayed : StoreDrive} (decay : Drive.Decays world.drive decayed)
    : Step world { world with drive := decayed }
  | sync {world : World} (split : Bool) (within : world.store.WithinPromise)
    : Step world (world.sync codec fits split)
  | crash {world : World} {left found : StoreDrive} {booted : JournalStorage}
    (cut : world.Cut codec fits left) (decay : Drive.Decays left found)
    (boots : load codec found = .ok booted)
    : Step world { world with store := booted, drive := found }

variable {codec fits} {world after : World} {left found : StoreDrive}

theorem Cut.kept (sound : Sound codec world.word world.store world.drive)
    (cut : world.Cut codec fits left)
    : Kept codec world.word left := by
  cases cut with
  | idle => exact ⟨_, sound.durable⟩
  | syncing within crash =>
    obtain ⟨final, safe, -⟩ := sound.sync fits _ within
    exact safe.crash left crash

theorem Step.sound (step : Step codec fits world after)
    (sound : Sound codec world.word world.store world.drive)
    : Sound codec after.word after.store after.drive := by
  cases step with
  | format config => exact sound.format config
  | stage write allowed => exact sound.stage allowed
  | scrub slot => exact sound.markDamaged slot
  | decay decay => exact sound.decay decay
  | sync split within =>
    obtain ⟨final, safe, synced⟩ := sound.sync fits split within
    obtain rfl := safe.done
    exact synced
  | crash cut decay boots =>
    obtain ⟨metainfo, durable⟩ := cut.kept sound
    obtain ⟨store, loaded, -, booted⟩ := (durable.decay decay).load
    obtain rfl := Except.ok.inj (loaded.symm.trans boots)
    exact booted

/-- Every reachable store is sound over its drive. -/
theorem sound_of_run (run : Relation.ReflTransGen (Step codec fits) start world)
    : Sound codec world.word world.store world.drive := by
  induction run with
  | refl =>
    obtain ⟨store, loaded, -, sound⟩ := (Durable.fresh : Durable codec .new none .default).load
    obtain rfl := Except.ok.inj loaded
    exact sound
  | tail _ step sound => exact step.sound sound

/-- A crash of a store at any point of any run leaves a drive that boots: at a promise at or above
every promise a completed sync covered and every ballot read back, with the covered records or
later ones, with a chosen index over records held when their slots became chosen or later ones, and
with the state sealed at the floor it reads back.
-/
theorem crash_keeps_word (run : Relation.ReflTransGen (Step codec fits) start world)
    (cut : world.Cut codec fits left) (decay : Drive.Decays left found)
    : ∃ store, load codec found = .ok store ∧ world.word.KeptBy store := by
  obtain ⟨metainfo, durable⟩ := cut.kept (sound_of_run run)
  obtain ⟨store, loaded, kept, -⟩ := (durable.decay decay).load
  exact ⟨store, loaded, kept⟩

-- A chosen slot that is accepted again

/-- Slot 0 is accepted in a new round. -/
noncomputable def acceptIn (round : Nat) (world : World) : World :=
  (world.stage .counted (.acceptor (.setPromise ⟨round, 0⟩))).stage .counted
    (.acceptor (.appendAccepted 0 ⟨round, 0⟩ .noop))

/-- Slot 0 is accepted in round 1, becomes chosen, and is accepted again in round 2; each round is
synced.
-/
noncomputable def acceptedOnce : World :=
  ((acceptIn 1 start).stage .counted (.setChosenIndex 0)).sync .counted (fun _ _ => true) false

noncomputable def acceptedTwice : World :=
  (acceptIn 2 acceptedOnce).sync .counted (fun _ _ => true) false

theorem within_of_all {store : JournalStorage}
    (all : store.staged.toList.all fun (_, entry) => entry.1 ≤ store.metainfo.promise)
    : store.WithinPromise := by
  intro slot entry found
  simpa using List.all_eq_true.mp all (slot, entry) (OrderedMap.mem_toList.mpr found)

theorem acceptIn_run {round : Nat} (run : Relation.ReflTransGen (Step .counted fits) start world)
    (rises : world.store.metainfo.promise ≤ ⟨round, 0⟩)
    (floor : (world.stage .counted (.acceptor (.setPromise ⟨round, 0⟩))).store.first ≤ 0)
    : Relation.ReflTransGen (Step .counted fits) start (acceptIn round world) :=
  (run.tail (.stage (.acceptor (.setPromise ⟨round, 0⟩)) rises)).tail
    (.stage (.acceptor (.appendAccepted 0 ⟨round, 0⟩ .noop)) floor)

theorem acceptedOnce_run
    : Relation.ReflTransGen (Step .counted fun _ _ => true) start acceptedOnce := by
  refine ((acceptIn_run .refl ?_ ?_).tail (.stage (.setChosenIndex 0) fun known held => ?_)).tail
    (.sync false (within_of_all ?_))
  case refine_3 =>
    have unset : (acceptIn 1 start).store.chosenIndex = none := by decide +kernel
    cases unset.symm.trans held
  all_goals decide +kernel

/-- The second round, before it is synced. -/
theorem acceptAgain_run
    : Relation.ReflTransGen (Step .counted fun _ _ => true) start (acceptIn 2 acceptedOnce) :=
  acceptIn_run acceptedOnce_run (by decide +kernel) (by decide +kernel)

theorem acceptAgain_within : (acceptIn 2 acceptedOnce).store.WithinPromise :=
  within_of_all (by decide +kernel)

/-- The chosen slot is read back with its second record, not with the one it was chosen with. -/
theorem chosen_slot_accepted_again
    : ∃ world store record,
        Relation.ReflTransGen (Step .counted fun _ _ => true) start world
        ∧ world.Cut .counted (fun _ _ => true) world.drive
        ∧ load .counted world.drive = .ok store
        ∧ store.first ≤ 0 ∧ Covers store.chosenIndex 0
        ∧ world.word.chosen 0 = some record ∧ ¬ store.Reads 0 record := by
  have run : Relation.ReflTransGen (Step .counted fun _ _ => true) start acceptedTwice :=
    acceptAgain_run.tail (.sync false acceptAgain_within)
  have sound := sound_of_run run
  obtain ⟨store, loaded, booted⟩ := sound.durable.booted
  have low : acceptedTwice.store.first ≤ 0 := by decide +kernel
  have index : acceptedTwice.store.durableMeta.chosenIndex = some 0 := by decide +kernel
  have chosen : acceptedTwice.word.chosen 0 = some (⟨1, 0⟩, .noop) := by decide +kernel
  have second : On .counted acceptedTwice.drive 0 (⟨2, 0⟩, .noop) :=
    sound.unstaged 0 _ (by decide +kernel) (by decide +kernel)
  have only : ∀ command, ¬ On .counted acceptedTwice.drive 0 (⟨1, 0⟩, command) := by
    rintro command ⟨_, first⟩
    obtain ⟨_, held⟩ := second
    obtain ⟨same, -⟩ := entryOf_inj (Option.some.inj (first.symm.trans held))
    cases same
  refine ⟨acceptedTwice, store, (⟨1, 0⟩, .noop), run, .idle, loaded,
    booted.first.le.trans (sound.floor.trans low), booted.index 0 ⟨0, index, le_rfl⟩, chosen, ?_⟩
  rintro (accepted | faulty)
  · exact only _ (booted.accepted 0 _ accepted)
  · obtain ⟨command, on⟩ := booted.faulty 0 _ faulty
    exact only command on

/-- What the sync of the second round commits: its promise, and then its record. -/
noncomputable def acceptAgainCommits : List StoreCommit :=
  ((acceptIn 2 acceptedOnce).store.sync .counted (fun _ _ => true) false).commits

def putAt (position : Nat) : StoreCommit → Option (EntryId × Bytes)
  | .create _ => none
  | .batch batch => batch.puts[position]?

/-- A crash within the last commit of the second round, of which the record alone was written: the
boot keeps the word.
-/
theorem crash_keeps_word_acceptedTwice
    : ∃ left store, (acceptIn 2 acceptedOnce).Cut .counted (fun _ _ => true) left
      ∧ (left.entryAt 0).any (·.id = ballotId ⟨2, 0⟩ acceptedKind)
      ∧ load .counted left = .ok store ∧ (acceptIn 2 acceptedOnce).word.KeptBy store := by
  have puts : (acceptAgainCommits[1]?.bind (putAt 0)).any (·.1 = ballotId ⟨2, 0⟩ acceptedKind) := by
    decide +kernel
  have applied : (acceptAgainCommits[0]?.bind acceptedOnce.drive.apply).isSome := by decide +kernel
  obtain ⟨promise, last, listed⟩ :=
    List.length_eq_two.mp (show acceptAgainCommits.length = 2 by decide +kernel)
  rw [listed] at puts applied
  obtain ⟨disk, isDisk : acceptedOnce.drive.apply promise = some disk⟩ :=
    Option.isSome_iff_exists.mp applied
  cases last with
  | create metainfo => cases puts
  | batch last =>
    obtain ⟨⟨id, payload⟩, put, same⟩ := (Option.any_eq_true _ _).mp puts
    let torn : StoreDisk := { disk with entries := disk.entries.insert 0 ⟨id, payload, none⟩ }
    have part : last.Partial disk torn := by
      refine ⟨rfl, rfl, fun position => ?_⟩
      by_cases here : position = 0
      · subst here
        exact .inr (.inl ⟨id, payload, put, by simp [torn]⟩)
      · exact .inl (by simp [torn, Ne.symm here])
    have crash : Crash acceptedOnce.drive acceptAgainCommits (some torn) := by
      rw [listed]
      exact .after (by rw [isDisk]; exact .inside part)
    have cut : (acceptIn 2 acceptedOnce).Cut .counted (fun _ _ => true) (some torn) :=
      .syncing acceptAgain_within crash
    have rests : Drive.Decays (some torn) (some torn) := .refl
    obtain ⟨store, loaded, kept⟩ := crash_keeps_word acceptAgain_run cut rests
    exact ⟨some torn, store, cut, by simpa [torn, Drive.entryAt] using same, loaded, kept⟩

end World

end Paros.JournalStorage
