import Paros.Store.NodeWord

/-! The invariant of a node's store over its drive: a boot establishes it, and staging keeps it. -/

namespace Paros.JournalStorage

-- The store and its drive

/-- The record that the image holds of a slot: the staged one, or the one on the drive. -/
def Next (codec : NodeCodec) (store : JournalStorage) (drive : StoreDrive) (slot : Nat)
    (record : Ballot × Command)
    : Prop :=
  store.staged[slot]? = some (record.1, encode codec.command record.2)
    ∨ store.staged[slot]? = none ∧ On codec drive slot record

/-- A running store over a drive that keeps the word. -/
structure Sound (codec : NodeCodec) (word : Word) (store : JournalStorage) (drive : StoreDrive)
    : Prop where
  durable : Durable codec word drive store.durableMeta
  opened : store.journal = drive.isSome
  floor : drive.floor ≤ store.first
  unraised : store.stagedFloor = none → store.first = drive.floor
  raised : ∀ floor, store.stagedFloor = some floor → floor = store.first ∧ store.metaDirty = true
  promise : store.durableMeta.promise ≤ store.metainfo.promise
  settled : store.promiseRaised = false → store.durableMeta.promise = store.metainfo.promise
  dirty : store.promiseRaised = true → store.metaDirty = true
  staged
    : ∀ (slot : Nat) ballot payload, store.staged[slot]? = some (ballot, payload)
      → ∃ command, payload = encode codec.command command ∧ (ballot, command) ∈ word.since slot
        ∧ (store.first ≤ slot → store.accepted[slot]? = some (ballot, command))
  standing
    : ∀ (slot : Nat) entry, store.staged[slot]? = some entry → store.stagedFloor = none
      → store.first ≤ slot
  unstaged
    : ∀ (slot : Nat) record, store.staged[slot]? = none → store.accepted[slot]? = some record
      → On codec drive slot record
  held : ∀ (slot : Nat) record, store.accepted[slot]? = some record → store.first ≤ slot
  image
    : ∀ slot record, store.first ≤ slot → Covers store.chosenIndex slot
      → word.chosen slot = some record
      → ∃ held ∈ record :: word.later slot, Next codec store drive slot held
  index
    : ∀ durable, store.durableMeta.chosenIndex = some durable
      → Covers store.chosenIndex durable
  sealedAt : (store.first, store.metainfo.sealedAt) ∈ word.passed

variable {codec : NodeCodec} {word : Word} {store : JournalStorage} {drive : StoreDrive}
  {metainfo : NodeMeta} {slot : Nat} {record : Ballot × Command}

/-- The image's record of a slot. -/
theorem Sound.next (sound : Sound codec word store drive)
    (held : store.accepted[slot]? = some record)
    : Next codec store drive slot record := by
  cases found : store.staged[slot]? with
  | none => exact Or.inr ⟨found, sound.unstaged slot record found held⟩
  | some entry =>
    obtain ⟨command, payload, -, shown⟩ := sound.staged slot entry.1 entry.2 found
    have same := (shown (sound.held slot record held)).symm.trans held
    obtain rfl := Option.some.inj same
    exact Or.inl (payload ▸ found)

-- Booting

/-- A store as a boot reads it. -/
structure Booted (codec : NodeCodec) (drive : StoreDrive) (metainfo : NodeMeta)
    (store : JournalStorage)
    : Prop where
  journal : store.journal = drive.isSome
  scalars : store.metainfo = metainfo
  durable : store.durableMeta = metainfo
  first : store.first = drive.floor
  idle : store.promiseRaised = false ∧ store.staged = ∅ ∧ store.stagedFloor = none
  accepted
    : ∀ (slot : Nat) record, store.accepted[slot]? = some record → On codec drive slot record
  faulty
    : ∀ (slot : Nat) ballot, store.faulty[slot]? = some ballot
      → ∃ command, On codec drive slot (ballot, command)
  reads : ∀ slot record, On codec drive slot record → store.Reads slot record
  index
    : ∀ slot, Covers metainfo.chosenIndex slot → Covers store.chosenIndex slot
  above
    : ∀ slot, store.first ≤ slot → Covers store.chosenIndex slot
      → Covers metainfo.chosenIndex slot

/-- The chosen index that covers the floor covers nothing more at or above it. -/
theorem coverFloor_spec (store : JournalStorage)
    : ∃ index, store.coverFloor = { store with chosenIndex := index }
      ∧ (∀ slot, Covers store.chosenIndex slot → Covers index slot)
      ∧ ∀ slot, store.first ≤ slot → Covers index slot → Covers store.chosenIndex slot := by
  rw [coverFloor]
  split
  case isFalse => exact ⟨store.chosenIndex, rfl, fun _ => id, fun _ _ => id⟩
  case isTrue low =>
    refine ⟨_, rfl, ?_, ?_⟩
    · rintro slot ⟨known, found, le⟩
      have less : known < store.first - 1 := by simpa [Option.mem_def.mp found] using low.2
      exact ⟨_, rfl, by omega⟩
    · rintro slot above ⟨known, found, le⟩
      have same : store.first - 1 = known := Option.some.inj found
      omega

theorem Durable.booted (durable : Durable codec word drive metainfo)
    : ∃ store, load codec drive = .ok store ∧ Booted codec drive metainfo store := by
  cases drive with
  | none =>
    obtain rfl := durable.absent rfl
    refine ⟨.new, rfl, rfl, rfl, rfl, rfl, ⟨rfl, rfl, rfl⟩, ?_, ?_, ?_, fun _ => id, fun _ _ => id⟩
    · simp [new]
    · simp [new]
    · rintro slot record ⟨damage, found⟩
      cases found
  | some disk =>
    obtain ⟨read, ok, back⟩ := readBack codec disk
      { new with
        journal := true
        metainfo := metainfo
        durableMeta := metainfo
        first := disk.floor
        chosenIndex := metainfo.chosenIndex } ⟨rfl, rfl⟩ (fun slot entry found =>
          let ⟨record, damage, same, _⟩ := durable.recorded slot entry found
          ⟨record, damage, same⟩)
    obtain ⟨index, covers, wider, above⟩ := coverFloor_spec read
    have rest := back.rest
    refine ⟨read.coverFloor, ?_, ?_⟩
    · rw [JournalStorage.load, durable.present disk rfl, decode_encode]
      simp only [ok]
      rfl
    · rw [covers]
      rw [rest] at wider above
      refine ⟨by rw [rest]; rfl, by rw [rest], by rw [rest], by rw [rest]; rfl,
        by rw [rest]; exact ⟨rfl, rfl, rfl⟩, ?_, ?_, ?_, wider, ?_⟩
      · intro slot record found
        exact ⟨none, OrderedMap.mem_toList.mp (back.accepted slot record found)⟩
      · intro slot ballot found
        obtain ⟨command, damage, member⟩ := back.faulty slot ballot found
        exact ⟨command, some damage, OrderedMap.mem_toList.mp member⟩
      · rintro slot record ⟨damage, found⟩
        exact back.reads slot record damage (OrderedMap.mem_toList.mpr found)
      · intro slot low
        exact above slot (by rw [rest] at low; exact low)

section

variable (booted : Booted codec drive metainfo store) (durable : Durable codec word drive metainfo)
include booted durable

theorem Booted.keptBy : word.KeptBy store := by
  have bounded : ∀ slot record, On codec drive slot record → record.1 ≤ metainfo.promise := by
    rintro slot record ⟨damage, found⟩
    obtain ⟨other, _, same, bound, -⟩ := durable.recorded slot _ found
    obtain ⟨rfl, -⟩ := entryOf_inj same
    exact bound
  refine ⟨?_, ?_, ?_, ?_, ?_, ?_⟩
  · rw [booted.scalars]
    exact durable.promised
  · intro slot record found
    rw [booted.scalars]
    exact bounded slot record (booted.accepted slot record found)
  · intro slot ballot found
    obtain ⟨command, on⟩ := booted.faulty slot ballot found
    rw [booted.scalars]
    exact bounded slot _ on
  · intro slot record above covered
    obtain ⟨held, member, on⟩ := durable.covered slot record (booted.first ▸ above) covered
    exact ⟨held, member, booted.reads slot held on⟩
  · intro slot record above index chosen
    obtain ⟨held, member, on⟩ := durable.chosen slot record (booted.first ▸ above)
      (booted.above slot above index) chosen
    exact ⟨held, member, booted.reads slot held on⟩
  · rw [booted.first, booted.scalars]
    exact durable.sealedAt

theorem Booted.sound : Sound codec word store drive := by
  obtain ⟨raised, staged, floor⟩ := booted.idle
  have unstaged : ∀ slot : Nat, store.staged[slot]? = none := by simp [staged]
  refine ⟨booted.durable ▸ durable, booted.journal, booted.first.ge, fun _ => booted.first, ?_, ?_,
    ?_, ?_, ?_, ?_, fun slot record _ found => booted.accepted slot record found, ?_, ?_, ?_, ?_⟩
  · intro _ found
    cases floor.symm.trans found
  · rw [booted.durable, booted.scalars]
  · intro _
    rw [booted.durable, booted.scalars]
  · intro impossible
    cases raised.symm.trans impossible
  · intro slot _ _ found
    cases (unstaged slot).symm.trans found
  · intro slot _ found
    cases (unstaged slot).symm.trans found
  · intro slot record found
    obtain ⟨damage, on⟩ := booted.accepted slot record found
    obtain ⟨_, _, -, -, above⟩ := durable.recorded slot _ on
    exact booted.first ▸ above
  · intro slot record above index chosen
    obtain ⟨held, member, on⟩ := durable.chosen slot record (booted.first ▸ above)
      (booted.above slot above index) chosen
    exact ⟨held, member, Or.inr ⟨unstaged slot, on⟩⟩
  · intro known found
    exact booted.index known ⟨known, booted.durable ▸ found, le_rfl⟩
  · rw [booted.first, booted.scalars]
    exact durable.sealedAt

end

/-- What a boot reads of a drive that keeps the word. -/
theorem Durable.load (durable : Durable codec word drive metainfo)
    : ∃ store, load codec drive = .ok store ∧ word.KeptBy store ∧ Sound codec word store drive :=
  let ⟨store, ok, booted⟩ := durable.booted
  ⟨store, ok, booted.keptBy durable, booted.sound durable⟩

-- Staging

/-- What a batch may write next: promises, chosen indexes and floors rise, and records lie at or
above the floor.
-/
def Allowed (store : JournalStorage) : WriteOp → Prop
  | .acceptor (.setPromise ballot) => store.metainfo.promise ≤ ballot
  | .acceptor (.appendAccepted slot _ _) => store.first ≤ slot
  | .setChosenIndex slot => ∀ known ∈ store.chosenIndex, known ≤ slot
  | .truncate floor _ | .trimmedTo floor _ => store.first < floor

section

variable {place : Nat} {held other : Ballot × Command} {listed : Nat → List (Ballot × Command)}

theorem mem_append (member : held ∈ listed place)
    : held ∈ Function.update listed slot (listed slot ++ [other]) place := by
  by_cases same : place = slot
  · subst same
    rw [Function.update_self]
    exact List.mem_append_left _ member
  · rw [Function.update_of_ne same]
    exact member

theorem mem_cons_append (member : held ∈ record :: listed place)
    : held ∈ record :: Function.update listed slot (listed slot ++ [other]) place :=
  List.mem_cons.mpr ((List.mem_cons.mp member).imp_right mem_append)

theorem Durable.append (durable : Durable codec word drive metainfo)
    : Durable codec (word.append slot other) drive metainfo :=
  { durable with
    covered := fun place record above given =>
      let ⟨held, member, on⟩ := durable.covered place record above given
      ⟨held, mem_cons_append member, on⟩
    chosen := fun place record above index given =>
      let ⟨held, member, on⟩ := durable.chosen place record above index given
      ⟨held, mem_cons_append member, on⟩ }

variable (sound : Sound codec word store drive)
include sound

theorem Sound.format (config : Config)
    : Sound codec word (store.format config) drive :=
  { sound with
    raised := fun floor found => ⟨(sound.raised floor found).1, rfl⟩
    dirty := fun _ => rfl }

theorem Sound.markDamaged (slot : Nat)
    : Sound codec word (store.markDamaged slot) drive := by
  rw [JournalStorage.markDamaged]
  split
  · exact { sound with }
  · exact sound

theorem Sound.decay {left : StoreDrive} (decay : CommitJournal.Drive.Decays drive left)
    : Sound codec word store left := by
  have floor := decay.floor
  have opened : left.isSome = drive.isSome := by cases decay <;> rfl
  exact { sound with
    durable := sound.durable.decay decay
    opened := sound.opened.trans opened.symm
    floor := floor ▸ sound.floor
    unraised := fun absent => floor ▸ sound.unraised absent
    unstaged := fun slot record absent held => (sound.unstaged slot record absent held).decay decay
    image := fun slot record above covered chosen =>
      let ⟨held, member, next⟩ := sound.image slot record above covered chosen
      ⟨held, member, next.imp_right fun ⟨absent, on⟩ => ⟨absent, on.decay decay⟩⟩ }

theorem Sound.persistBallot {ballot : Ballot}
    : Sound codec word (store.persistBallot ballot) drive := by
  rw [JournalStorage.persistBallot]
  split
  case isTrue above =>
    exact { sound with
      raised := fun floor found => ⟨(sound.raised floor found).1, rfl⟩
      promise := sound.promise.trans above.le
      settled := fun impossible => by cases impossible
      dirty := fun _ => rfl }
  case isFalse => exact sound

theorem Sound.append : Sound codec (word.append slot other) store drive :=
  { sound with
    durable := sound.durable.append
    staged := fun place ballot payload found =>
      let ⟨command, same, member, shown⟩ := sound.staged place ballot payload found
      ⟨command, same, mem_append member, shown⟩
    image := fun place record above index chosen =>
      let ⟨held, member, next⟩ := sound.image place record above index chosen
      ⟨held, mem_cons_append member, next⟩ }

theorem Sound.appendAccepted {ballot : Ballot} {command : Command} (above : store.first ≤ slot)
    : Sound codec (word.append slot (ballot, command)) (store.appendAccepted codec slot ballot command)
        drive := by
  have grown : Sound codec (word.append slot (ballot, command)) store drive := sound.append
  rw [JournalStorage.appendAccepted]
  split
  case isTrue => exact grown
  case isFalse =>
    have now : (ballot, command) ∈ (word.append slot (ballot, command)).since slot := by
      simp [Word.append]
    refine { grown with staged := ?_, standing := ?_, unstaged := ?_, held := ?_, image := ?_ }
    · intro place vote payload found
      dsimp only at found ⊢
      rw [OrderedMap.getElem?_insert] at found ⊢
      split at found
      case isTrue same =>
        cases found
        subst same
        exact ⟨command, rfl, now, fun _ => if_pos rfl⟩
      case isFalse other =>
        rw [if_neg other]
        exact grown.staged place vote payload found
    · exact OrderedMap.forall_insert sound.standing fun _ => above
    · intro place record absent found
      dsimp only at absent found
      rw [OrderedMap.getElem?_insert] at absent found
      split at absent
      case isTrue => cases absent
      case isFalse other =>
        rw [if_neg other] at found
        exact sound.unstaged place record absent found
    · exact OrderedMap.forall_insert sound.held above
    · intro place record low index chosen
      by_cases same : slot = place
      · subst same
        refine ⟨(ballot, command), ?_, Or.inl (by simp)⟩
        simp [Word.append]
      · obtain ⟨held, member, next⟩ := grown.image place record low index chosen
        refine ⟨held, member, ?_⟩
        simpa only [Next, OrderedMap.getElem?_insert, if_neg same] using next

theorem Sound.setChosenIndex {index : Nat} (rises : ∀ known ∈ store.chosenIndex, known ≤ index)
    : Sound codec (word.choose store index) (store.setChosenIndex index) drive := by
  -- A slot that was covered before is not chosen anew.
  have kept : ∀ slot, Covers store.chosenIndex slot
      → (word.choose store index).chosen slot = word.chosen slot
        ∧ (word.choose store index).later slot = word.later slot := by
    rintro slot ⟨known, found, le⟩
    have covered : ¬ (store.chosenIndex.all (· < slot) ∧ slot ≤ index) := by
      rw [Option.mem_def.mp found]
      simp only [Option.all_some, decide_eq_true_eq]
      omega
    exact ⟨if_neg covered, if_neg covered⟩
  have durable : Durable codec (word.choose store index) drive store.durableMeta :=
    { sound.durable with
      chosen := by
        rintro slot record above ⟨known, found, le⟩ chosen
        obtain ⟨live, there, less⟩ := sound.index known found
        obtain ⟨same, still⟩ := kept slot ⟨live, there, le.trans less⟩
        rw [same] at chosen
        rw [still]
        exact sound.durable.chosen slot record above ⟨known, found, le⟩ chosen }
  refine { sound with durable := durable, image := ?_, index := ?_ }
  · rintro slot record above ⟨known, found, le⟩ chosen
    have same : index = known := Option.some.inj found
    by_cases newly : store.chosenIndex.all (· < slot) ∧ slot ≤ index
    · have held : store.accepted[slot]? = some record := (if_pos newly).symm.trans chosen
      exact ⟨record, List.mem_cons_self, sound.next held⟩
    · have before : Covers store.chosenIndex slot := by
        cases live : store.chosenIndex with
        | none => exact absurd ⟨by simp [live], same ▸ le⟩ newly
        | some known =>
          refine ⟨known, rfl, ?_⟩
          by_contra below
          exact newly ⟨by simpa [live] using below, same ▸ le⟩
      obtain ⟨unchanged, still⟩ := kept slot before
      rw [unchanged] at chosen
      rw [still]
      exact sound.image slot record above before chosen
  · intro known found
    obtain ⟨live, there, le⟩ := sound.index known found
    exact ⟨index, rfl, le.trans (rises live there)⟩

end

/-- A store whose floor is raised and sealed. -/
def raisedTo (store : JournalStorage) (floor : Nat) (state : JournalState) (index : Option Nat)
    : JournalStorage :=
  { store with
    metainfo := { store.metainfo with sealedAt := state }
    metaDirty := true
    chosenIndex := index
    first := floor
    accepted := OrderedMap.startingAt floor store.accepted
    faulty := OrderedMap.startingAt floor store.faulty
    damaged := store.damaged.filter (floor ≤ ·)
    stagedFloor := some floor }

variable {floor : Nat} {state : JournalState}

section

variable (sound : Sound codec word store drive) (rises : store.first < floor)
include sound rises

theorem Sound.raisedTo {index : Option Nat}
    (wider : ∀ slot, Covers store.chosenIndex slot → Covers index slot)
    (above : ∀ slot, floor ≤ slot → Covers index slot → Covers store.chosenIndex slot)
    : Sound codec { word with passed := (floor, state) :: word.passed }
        (store.raisedTo floor state index) drive :=
  { sound with
    durable := { sound.durable with sealedAt := List.mem_cons_of_mem _ sound.durable.sealedAt }
    floor := sound.floor.trans rises.le
    unraised := fun impossible => by cases impossible
    raised := fun _ found => ⟨(Option.some.inj found).symm, rfl⟩
    dirty := fun _ => rfl
    staged := fun slot ballot payload found => by
      obtain ⟨command, same, member, shown⟩ := sound.staged slot ballot payload found
      refine ⟨command, same, member, fun low => ?_⟩
      have low : floor ≤ slot := low
      rw [JournalStorage.raisedTo, OrderedMap.getElem?_startingAt, if_pos low]
      exact shown (rises.le.trans low)
    standing := fun _ _ _ impossible => by cases impossible
    unstaged := fun slot record absent found => by
      rw [JournalStorage.raisedTo, OrderedMap.getElem?_startingAt,
        Option.ite_none_right_eq_some] at found
      exact sound.unstaged slot record absent found.2
    held := fun slot record found => by
      rw [JournalStorage.raisedTo, OrderedMap.getElem?_startingAt,
        Option.ite_none_right_eq_some] at found
      exact found.1
    image := fun slot record low covered chosen =>
      sound.image slot record (rises.le.trans low) (above slot low covered) chosen
    index := fun known found => wider known (sound.index known found)
    sealedAt := List.mem_cons_self }

theorem Sound.stagedFloor_lt
    : store.stagedFloor.elim floor (max · floor) = floor := by
  cases found : store.stagedFloor with
  | none => rfl
  | some raised =>
    obtain ⟨same, -⟩ := sound.raised raised found
    exact max_eq_right (same ▸ rises.le)

theorem Sound.truncate
    : Sound codec { word with passed := (floor, state) :: word.passed } (store.truncate floor state)
        drive := by
  have same : store.truncate floor state = store.raisedTo floor state store.chosenIndex := by
    simp only [JournalStorage.truncate, sealAt, if_pos rises.le, raiseFloor, stageFloor,
      max_eq_right rises.le, sound.stagedFloor_lt rises, JournalStorage.raisedTo]
  rw [same]
  exact sound.raisedTo rises (fun _ => id) (fun _ _ => id)

theorem Sound.trimmedTo
    : Sound codec { word with passed := (floor, state) :: word.passed } (store.trimmedTo floor state)
        drive := by
  by_cases behind : store.chosenIndex.all (· < floor - 1)
  · have same : store.trimmedTo floor state = store.raisedTo floor state (some (floor - 1)) := by
      simp only [JournalStorage.trimmedTo, sealAt, if_pos rises.le, if_pos behind, raiseFloor,
        stageFloor, max_eq_right rises.le, sound.stagedFloor_lt rises, JournalStorage.raisedTo]
    rw [same]
    refine sound.raisedTo rises ?_ ?_
    · rintro slot ⟨known, found, le⟩
      have less : known < floor - 1 := by simpa [Option.mem_def.mp found] using behind
      exact ⟨_, rfl, le.trans less.le⟩
    · rintro slot low ⟨known, found, le⟩
      have same : floor - 1 = known := Option.some.inj found
      omega
  · have same : store.trimmedTo floor state = store.raisedTo floor state store.chosenIndex := by
      simp only [JournalStorage.trimmedTo, sealAt, if_pos rises.le, if_neg behind, raiseFloor,
        stageFloor, max_eq_right rises.le, sound.stagedFloor_lt rises, JournalStorage.raisedTo]
    rw [same]
    exact sound.raisedTo rises (fun _ => id) (fun _ _ => id)

end

/-- Staging keeps a store sound. -/
theorem Sound.stage {write : WriteOp} (sound : Sound codec word store drive)
    (allowed : store.Allowed write)
    : Sound codec (word.stage store write) (store.stage codec write) drive := by
  match write with
  | .acceptor (.setPromise _) => exact sound.persistBallot
  | .acceptor (.appendAccepted _ _ _) => exact sound.appendAccepted allowed
  | .setChosenIndex _ => exact sound.setChosenIndex allowed
  | .truncate _ _ => exact sound.truncate allowed
  | .trimmedTo _ _ => exact sound.trimmedTo allowed

end Paros.JournalStorage
