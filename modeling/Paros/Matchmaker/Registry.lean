import Paros.Matchmaker.Pages

/-! A matchmaker's registry over its life in one generation: requests, collections and reboots from
any part of a batch. A ballot is registered once, above all before it, and a candidate that
follows the cursors misses no configuration.
-/

namespace Paros

open OrderedMap

-- One write

namespace MemRegistry

variable {store : MemRegistry} {journal : JournalId} {write : MatchmakerWriteOp}

/-- A write that respects the watermarks: a record above its journal's, a higher watermark, or
scalars that leave all of them.
-/
def Takes (store : MemRegistry) : MatchmakerWriteOp → Prop
  | .register journal ballot _ => store.hardState.gcWatermark journal ≤ ballot
  | .setGcWatermark journal watermark => store.hardState.gcWatermark journal < watermark
  | .setScalars scalars =>
    (∀ journal ∈ store.hardState.journals, journal ∈ scalars.journals)
    ∧ ∀ journal, scalars.gcWatermark journal = store.hardState.gcWatermark journal
  | .installRegistry .. => False

/-- A journal's watermark after a write. -/
def raiseWrite (journal : JournalId) (watermark : Ballot) : MatchmakerWriteOp → Ballot
  | .setGcWatermark target raised => if target = journal then raised else watermark
  | _ => watermark

/-- A journal's records with the one a write adds. -/
def recordWrite (journal : JournalId) (ledger : BallotMap Registration)
    : MatchmakerWriteOp → BallotMap Registration
  | .register target ballot registration =>
    if target = journal then ledger.insert ballot registration else ledger
  | _ => ledger

theorem gcWatermark_apply (kept : store.Kept) (takes : store.Takes write)
    : (store.apply write).hardState.gcWatermark journal
      = raiseWrite journal (store.hardState.gcWatermark journal) write := by
  cases write with
  | register => rfl
  | installRegistry => exact absurd takes id
  | setScalars scalars =>
    rw [apply_setScalars kept takes.1 takes.2]
    exact takes.2 journal
  | setGcWatermark target watermark =>
    simp only [Takes] at takes
    rw [apply, if_pos takes, collect_eq, raiseWrite]
    change (MatchmakerHardState.updateJournal _ _ _).gcWatermark journal = _
    rw [MatchmakerHardState.gcWatermark, MatchmakerHardState.journal_updateJournal]
    split_ifs <;> rfl

theorem le_raiseWrite (takes : store.Takes write)
    : store.hardState.gcWatermark journal
      ≤ raiseWrite journal (store.hardState.gcWatermark journal) write := by
  cases write with
  | setGcWatermark target watermark =>
    rw [raiseWrite]
    split_ifs with same
    · exact same ▸ le_of_lt takes
    · exact le_rfl
  | _ => exact le_rfl

theorem Kept.above (kept : store.Kept) {ballot : Ballot} {registration : Registration}
    (found : (store.ledger journal)[ballot]? = some registration)
    : store.hardState.gcWatermark journal ≤ ballot := by
  rw [ledger] at found
  cases held : store.registry[journal]? with
  | none => simp [held] at found
  | some records =>
    rw [held, Option.getD_some] at found
    exact kept.retained held found

theorem apply_holds (kept : store.Kept) (takes : store.Takes write)
    : (store.apply write).ledger journal
        = startingAt (raiseWrite journal (store.hardState.gcWatermark journal) write)
          (recordWrite journal (store.ledger journal) write)
      ∧ (store.apply write).registry[journal]? ≠ some ∅ := by
  have inhabited : store.registry[journal]? ≠ some ∅ := fun held => kept.inhabited held rfl
  cases write with
  | installRegistry => exact absurd takes id
  | setScalars scalars =>
    rw [apply_setScalars kept takes.1 takes.2]
    exact ⟨(startingAt_eq_self kept.above).symm, inhabited⟩
  | register target ballot registration =>
    simp only [apply, ledger, raiseWrite, recordWrite, getElem?_insert]
    split_ifs with same
    · subst same
      refine ⟨(startingAt_eq_self fun found => ?_).symm, ?_⟩
      · rw [Option.getD_some, getElem?_insert] at found
        split_ifs at found with same
        · exact same ▸ takes
        · exact kept.above found
      · simp
    · exact ⟨(startingAt_eq_self kept.above).symm, inhabited⟩
  | setGcWatermark target watermark =>
    simp only [Takes] at takes
    rw [apply, if_pos takes, collect_eq]
    have held : ∀ scalars, (MemRegistry.mk scalars store.registry).ledger = store.ledger :=
      fun _ => rfl
    rw [ledger, held]
    dsimp only [raiseWrite, recordWrite]
    by_cases same : target = journal
    · subst same
      rw [if_pos rfl]
      split_ifs with empty
      · simpa using (Std.ExtTreeMap.isEmpty_iff.mp empty).symm
      · simpa using empty
    · rw [if_neg same, startingAt_eq_self kept.above]
      split_ifs <;> simpa [same, ledger] using inhabited

theorem Kept.apply (kept : store.Kept) (takes : store.Takes write) : (store.apply write).Kept where
  inhabited held empty := (apply_holds kept takes).2 (empty ▸ held)
  retained {journal ledger ballot registration} held found := by
    have same : (store.apply write).ledger journal = ledger := by rw [MemRegistry.ledger, held]; rfl
    rw [← same, (apply_holds kept takes).1, getElem?_startingAt] at found
    rw [gcWatermark_apply kept takes]
    exact (Option.ite_none_right_eq_some.mp found).1

-- Everything ever recorded

variable {start : MemRegistry} {writes more : List MatchmakerWriteOp} {ballot held : Ballot}
  {registration : Registration}

/-- Everything ever recorded for a journal. -/
def recorded (start : MemRegistry) (journal : JournalId) (writes : List MatchmakerWriteOp)
    : BallotMap Registration :=
  writes.foldl (recordWrite journal) (start.ledger journal)

theorem applyAll_concat (write : MatchmakerWriteOp)
    : start.applyAll (writes ++ [write]) = (start.applyAll writes).apply write := by
  rw [applyAll, List.foldl_append]
  rfl

theorem recorded_concat (write : MatchmakerWriteOp)
    : start.recorded journal (writes ++ [write])
      = recordWrite journal (start.recorded journal writes) write := by
  rw [recorded, List.foldl_append]
  rfl

/-- A record lies above everything recorded before it. -/
def Newest (start : MemRegistry) (writes : List MatchmakerWriteOp) : MatchmakerWriteOp → Prop
  | .register journal ballot _ => ∀ {held : Ballot} {registration : Registration},
      (start.recorded journal writes)[held]? = some registration → held < ballot
  | _ => True

/-- Every write respects what those before it left. -/
def Orderly (start : MemRegistry) (writes : List MatchmakerWriteOp) : Prop :=
  ∀ before write, before ++ [write] <+: writes
    → (start.applyAll before).Takes write ∧ start.Newest before write

theorem Orderly.part (orderly : start.Orderly writes) (isPart : more <+: writes)
    : start.Orderly more :=
  fun _ _ inside => orderly _ _ (inside.trans isPart)

theorem Orderly.concat (orderly : start.Orderly writes) (takes : (start.applyAll writes).Takes write)
    (newest : start.Newest writes write)
    : start.Orderly (writes ++ [write]) := by
  intro before next inside
  rcases List.prefix_concat_iff.mp inside with last | earlier
  · obtain ⟨rfl, same⟩ := List.append_inj' last rfl
    exact List.singleton_injective same ▸ ⟨takes, newest⟩
  · exact orderly _ _ earlier

/-- Orderly writes leave what was ever recorded from the watermarks on. By induction over them. -/
theorem Orderly.holds (kept : start.Kept) (orderly : start.Orderly writes)
    : (start.applyAll writes).Kept ∧ ∀ journal, (start.applyAll writes).ledger journal
      = startingAt ((start.applyAll writes).hardState.gcWatermark journal)
        (start.recorded journal writes) := by
  induction writes using List.reverseRecOn with
  | nil => exact ⟨kept, fun journal => (startingAt_eq_self kept.above).symm⟩
  | append_singleton writes write ih =>
    obtain ⟨before, ledgers⟩ := ih (orderly.part (List.prefix_append _ _))
    obtain ⟨takes, -⟩ := orderly _ _ List.prefix_rfl
    rw [applyAll_concat]
    refine ⟨before.apply takes, fun journal => ?_⟩
    rw [(apply_holds before takes).1, gcWatermark_apply before takes, recorded_concat, ledgers]
    -- What the watermark held back before is below the raised one too.
    ext1 held
    rw [getElem?_startingAt, getElem?_startingAt]
    split_ifs with above
    · have there : (startingAt ((start.applyAll writes).hardState.gcWatermark journal)
          (start.recorded journal writes))[held]? = (start.recorded journal writes)[held]? := by
        rw [getElem?_startingAt, if_pos ((le_raiseWrite takes).trans above)]
      cases write with
      | register target ballot registration =>
        simp only [recordWrite]
        split_ifs
        · rw [getElem?_insert, getElem?_insert, there]
        · exact there
      | _ => exact there
    · rfl

/-- Records at or below one already there never change. By induction over the later writes. -/
theorem Orderly.stable (orderly : start.Orderly (writes ++ more))
    (found : (start.recorded journal writes)[ballot]? = some registration) (below : held ≤ ballot)
    : (start.recorded journal (writes ++ more))[held]? = (start.recorded journal writes)[held]? := by
  induction more using List.reverseRecOn generalizing held with
  | nil => rw [List.append_nil]
  | append_singleton more write ih =>
    rw [← List.append_assoc] at orderly ⊢
    have still := orderly.part (List.prefix_append _ _)
    rw [recorded_concat, ← ih still below]
    cases write with
    | register target newer record =>
      rw [recordWrite]
      split_ifs with same
      · subst same
        have above : ballot < newer := (orderly _ _ List.prefix_rfl).2 ((ih still le_rfl).trans found)
        rw [getElem?_insert, if_neg (below.trans_lt above).ne']
      · rfl
    | _ => rfl

/-- A watermark never falls. -/
theorem Orderly.rises (kept : start.Kept) (orderly : start.Orderly (writes ++ more))
    : (start.applyAll writes).hardState.gcWatermark journal
      ≤ (start.applyAll (writes ++ more)).hardState.gcWatermark journal := by
  induction more using List.reverseRecOn with
  | nil => rw [List.append_nil]
  | append_singleton more write ih =>
    rw [← List.append_assoc] at orderly ⊢
    have still := orderly.part (List.prefix_append _ _)
    obtain ⟨takes, -⟩ := orderly _ _ List.prefix_rfl
    rw [applyAll_concat, gcWatermark_apply (still.holds kept).1 takes]
    exact (ih still).trans (le_raiseWrite takes)

end MemRegistry

-- Worlds

/-- A matchmaker's life: the store it was first booted from, the writes persisted since, the
requests whose answers wait for the batch, and the answers that left.
-/
structure RegistryWorld where
  start : MemRegistry
  log : List MatchmakerWriteOp
  live : Matchmaker
  asked : List MatchRequest
  answered : List (MatchRequest × MatchReply)

namespace RegistryWorld

/-- The writes persisted and those that wait. -/
def writes (world : RegistryWorld) : List MatchmakerWriteOp :=
  world.log ++ world.live.pendingWrites

/-- Everything ever registered for a journal. -/
def registered (world : RegistryWorld) (journal : JournalId) : BallotMap Registration :=
  world.start.recorded journal world.writes

/-- A batch is persisted before its answers leave; a crash may persist any first part of it. -/
inductive Step (world : RegistryWorld) : RegistryWorld → Prop
  | request (request : MatchRequest)
    : Step world { world with
        live := world.live.step request
        asked := world.asked ++ [request] }
  | collect (journal : JournalId) (generation : Nat) (watermark : Ballot)
    : Step world { world with
        live := (world.live.advanceGcWatermark journal generation watermark).1 }
  | ready
    : Step world { world with
        log := world.writes
        live := world.live.advance
        asked := []
        answered := world.answered ++ world.asked.zip world.live.pendingReplies }
  | reboot {part : List MatchmakerWriteOp} {config : MatchmakerConfig} {pageSize : PageSize}
    {booted : Matchmaker} (isPart : part <+: world.live.pendingWrites)
    (boots : Matchmaker.new config (world.start.applyAll (world.log ++ part)) pageSize = some booted)
    : Step world { world with
        log := world.log ++ part
        live := booted
        asked := [] }

inductive Reached (start : MemRegistry) : RegistryWorld → Prop
  | boot {config : MatchmakerConfig} {pageSize : PageSize} {booted : Matchmaker}
    (boots : Matchmaker.new config start pageSize = some booted)
    : Reached start ⟨start, [], booted, [], []⟩
  | step {world next : RegistryWorld} (reached : Reached start world) (step : world.Step next)
    : Reached start next

/-- What a page that answered a request says of what some writes ever recorded. -/
structure Truthful (start : MemRegistry) (writes : List MatchmakerWriteOp) (request : MatchRequest)
    (page : RegisteredPage) : Prop where
  registered : ∃ kind, request.purpose = .register kind
    ∧ (start.recorded request.journal writes)[request.ballot]? = some ⟨request.config, kind⟩
  cut : Matchmaker.CutFrom (start.recorded request.journal writes) request.ballot request.fromBallot
    page
  floor : page.gcWatermark ≤ (start.applyAll writes).hardState.gcWatermark request.journal

/-- Answers that are true of some writes, with watermarks that only rise. -/
structure Answers (start : MemRegistry) (writes : List MatchmakerWriteOp)
    (answers : List (MatchRequest × MatchReply)) : Prop where
  truthful : ∀ {request : MatchRequest} {reply : MatchReply} {page : RegisteredPage},
    (request, reply) ∈ answers → reply.outcome = .registered page → Truthful start writes request page
  rising : answers.Pairwise fun earlier later => ∀ {first second : RegisteredPage},
    earlier.2.outcome = .registered first → later.2.outcome = .registered second
    → earlier.1.journal = later.1.journal → first.gcWatermark ≤ second.gcWatermark

variable {start : MemRegistry} {writes more : List MatchmakerWriteOp} {request : MatchRequest}
  {reply : MatchReply} {answers : List (MatchRequest × MatchReply)}

/-- Answers stay true of what later writes record. -/
theorem Answers.extend (hold : Answers start writes answers) (kept : start.Kept)
    (orderly : start.Orderly (writes ++ more))
    : Answers start (writes ++ more) answers := by
  refine ⟨fun member outcome => ?_, hold.rising⟩
  obtain ⟨⟨kind, purpose, found⟩, cut, floor⟩ := hold.truthful member outcome
  refine ⟨⟨kind, purpose, (orderly.stable found le_rfl).trans found⟩, cut.congr fun held _ below => ?_,
    floor.trans (orderly.rises kept)⟩
  exact orderly.stable found below.le

/-- One more answer, at the watermark the writes leave. -/
theorem Answers.concat (hold : Answers start writes answers)
    (truthful : ∀ page, reply.outcome = .registered page → Truthful start writes request page
      ∧ page.gcWatermark = (start.applyAll writes).hardState.gcWatermark request.journal)
    : Answers start writes (answers ++ [(request, reply)]) := by
  refine ⟨fun member outcome => ?_, List.pairwise_append.mpr ⟨hold.rising, List.pairwise_singleton _ _,
    ?_⟩⟩
  · rcases List.mem_append.mp member with earlier | last
    · exact hold.truthful earlier outcome
    · obtain ⟨rfl, rfl⟩ := Prod.mk.inj (List.mem_singleton.mp last)
      exact (truthful _ outcome).1
  · rintro ⟨asked, said⟩ earlier _ last first second isFirst isSecond same
    obtain rfl := List.mem_singleton.mp last
    rw [(truthful second isSecond).2]
    exact same ▸ (hold.truthful earlier isFirst).floor

/-- What a world keeps: the log adds up to the live matchmaker in an orderly way, and the answers
that left and those that wait are true of it.
-/
structure Sound (world : RegistryWorld) : Prop where
  coherent : world.live.Coherent
  image : world.start.applyAll world.writes = world.live.image
  orderly : world.start.Orderly world.writes
  answered : Answers world.start world.log world.answered
  answering : Answers world.start world.writes
    (world.answered ++ world.asked.zip world.live.pendingReplies)
  aligned : world.asked.length = world.live.pendingReplies.length

variable {world next : RegistryWorld}

/-- The live records are what was ever registered, from the watermark on. -/
theorem Sound.registry (sound : world.Sound) (kept : world.start.Kept) (journal : JournalId)
    : world.live.registry journal
      = startingAt (world.live.gcWatermark journal) (world.registered journal) := by
  have held := (sound.orderly.holds kept).2 journal
  rw [sound.image, Matchmaker.ledger_image] at held
  exact held

/-- A world over a log of known writes. -/
theorem sound_of {total : List MatchmakerWriteOp} {answers : List (MatchRequest × MatchReply)}
    (same : world.writes = total) (coherent : world.live.Coherent)
    (image : world.start.applyAll total = world.live.image) (orderly : world.start.Orderly total)
    (answered : Answers world.start world.log world.answered)
    (listed : world.answered ++ world.asked.zip world.live.pendingReplies = answers)
    (answering : Answers world.start total answers)
    (aligned : world.asked.length = world.live.pendingReplies.length)
    : world.Sound := by
  subst same listed
  exact ⟨coherent, image, orderly, answered, answering, aligned⟩

/-- Some orderly writes and an answer that is true with them. -/
theorem Sound.answer (sound : world.Sound) (kept : world.start.Kept) {later : Matchmaker}
    {outcome : MatchOutcome} (coherent : later.Coherent)
    (image : world.start.applyAll (world.writes ++ more) = later.image)
    (staged : later.pendingWrites = world.live.pendingWrites ++ more)
    (replies : later.pendingReplies = world.live.pendingReplies)
    (orderly : world.start.Orderly (world.writes ++ more))
    (truthful : ∀ page, outcome = .registered page
      → Truthful world.start (world.writes ++ more) request page
        ∧ page.gcWatermark = later.gcWatermark request.journal)
    : Sound { world with
        live := later.reply request outcome
        asked := world.asked ++ [request] } := by
  have level : (world.start.applyAll (world.writes ++ more)).hardState.gcWatermark
      = later.gcWatermark := by
    rw [image]
    rfl
  have answers : Answers world.start (world.writes ++ more)
      (world.answered ++ world.asked.zip world.live.pendingReplies ++ [(request, ⟨later.id,
        request.journal, request.sender, request.ballot, request.generation, outcome⟩)]) :=
    (sound.answering.extend kept orderly).concat fun page registered => level ▸ truthful page registered
  refine sound_of ?_ coherent.batch image orderly sound.answered ?_ answers ?_
  · simp only [writes, Matchmaker.reply, staged, List.append_assoc]
  · rw [Matchmaker.reply, replies]
    dsimp only
    rw [List.zip_append sound.aligned, List.append_assoc]
    rfl
  · simp [Matchmaker.reply, replies, sound.aligned]

/-- An answer that changes nothing. -/
theorem Sound.unmoved (sound : world.Sound) (kept : world.start.Kept) {outcome : MatchOutcome}
    (truthful : ∀ page, outcome = .registered page → Truthful world.start world.writes request page
      ∧ page.gcWatermark = world.live.gcWatermark request.journal)
    : Sound { world with
        live := world.live.reply request outcome
        asked := world.asked ++ [request] } := by
  have same : world.writes ++ [] = world.writes := List.append_nil _
  exact sound.answer kept sound.coherent (same.symm ▸ sound.image) (List.append_nil _).symm rfl
    (same.symm ▸ sound.orderly) (same.symm ▸ truthful)

theorem Sound.applied (sound : world.Sound) {later : Matchmaker}
    (recorded : Matchmaker.Records world.live later)
    (staged : later.pendingWrites = world.live.pendingWrites ++ more)
    : world.start.applyAll (world.writes ++ more) = later.image := by
  obtain ⟨writes, same, applied⟩ := recorded.writes
  rw [staged, List.append_cancel_left_eq] at same
  rw [same, MemRegistry.applyAll, List.foldl_append, ← applied, ← sound.image]
  rfl

section

variable (sound : world.Sound) (kept : world.start.Kept)
include sound kept

/-- A first registration lies above everything ever registered. -/
theorem Sound.newest {journal : JournalId} {ballot held : Ballot} {registration : Registration}
    (above : world.live.gcWatermark journal ≤ ballot)
    (highest : ∀ held record, (world.live.registry journal)[held]? = some record → held < ballot)
    (found : (world.registered journal)[held]? = some registration)
    : held < ballot := by
  by_cases retained : world.live.gcWatermark journal ≤ held
  · refine highest held registration ?_
    rw [sound.registry kept, getElem?_startingAt, if_pos retained, found]
  · exact (not_le.mp retained).trans_le above

/-- An enrolment's writes are orderly: scalars that leave the watermarks, if any, then the record. -/
theorem Sound.enrolls {journal : JournalId} {ballot : Ballot} (registration : Registration)
    (above : world.live.gcWatermark journal ≤ ballot)
    (highest : ∀ held record, (world.live.registry journal)[held]? = some record → held < ballot)
    : ∃ more, (world.live.enroll journal ballot registration).pendingWrites
        = world.live.pendingWrites ++ more
      ∧ world.start.Orderly (world.writes ++ more)
      ∧ world.start.recorded journal (world.writes ++ more)
        = (world.registered journal).insert ballot registration := by
  -- Whatever scalars come first, the record lands on the same ledger and watermark.
  have lands : ∀ {total : List MatchmakerWriteOp}, world.start.Orderly total
      → (world.start.applyAll total).hardState.gcWatermark journal = world.live.gcWatermark journal
      → world.start.recorded journal total = world.registered journal
      → world.start.Orderly (total ++ [.register journal ballot registration])
        ∧ world.start.recorded journal (total ++ [.register journal ballot registration])
          = (world.registered journal).insert ballot registration := by
    intro total orderly level same
    refine ⟨orderly.concat (level.le.trans above) ?_, ?_⟩
    · intro held record found
      exact sound.newest kept above highest (same ▸ found)
    · rw [MemRegistry.recorded_concat, same]
      exact if_pos rfl
  rw [Matchmaker.enroll_eq]
  refine ⟨_, List.append_assoc .., ?_⟩
  rw [← List.append_assoc]
  by_cases raised : world.live.raises journal ballot registration = true
  · rw [if_pos raised]
    have takes : (world.start.applyAll world.writes).Takes
        (.setScalars (world.live.enrolledScalars journal ballot registration)) := by
      rw [sound.image]
      exact ⟨fun _ => Matchmaker.journals_enrolledScalars.2,
        fun _ => Matchmaker.gcWatermark_enrolledScalars⟩
    refine lands (sound.orderly.concat takes trivial) ?_ (MemRegistry.recorded_concat _)
    rw [MemRegistry.applyAll_concat,
      MemRegistry.gcWatermark_apply (sound.orderly.holds kept).1 takes, sound.image]
    rfl
  · rw [if_neg raised, List.append_nil]
    refine lands sound.orderly ?_ rfl
    rw [sound.image]
    rfl

theorem Sound.serve (request : MatchRequest)
    : Sound { world with
        live := world.live.step request
        asked := world.asked ++ [request] } := by
  have cut : Matchmaker.CutFrom (world.registered request.journal) request.ballot request.fromBallot
      (world.live.page request.journal request.fromBallot request.ballot) :=
    Matchmaker.cut_page (fun held _ above => by
      rw [sound.registry kept, getElem?_startingAt, if_pos above]) request.fromBallot
  unfold Matchmaker.step
  cases purpose : request.purpose with
  | probe =>
    refine sound.unmoved kept fun page registered => ?_
    rw [Matchmaker.probeOutcome] at registered
    split at registered <;> cases registered
  | register kind =>
    obtain ⟨refusal, same⟩ | ⟨_, above, ⟨held, same⟩ | ⟨highest, same⟩⟩ :=
      world.live.register_cases request.journal request.ballot ⟨request.config, kind⟩
        request.generation request.fromBallot
    all_goals simp only [same]
    · exact sound.unmoved kept (by simp)
    · refine sound.unmoved kept fun page registered => ?_
      obtain rfl := MatchOutcome.registered.inj registered
      rw [sound.registry kept, getElem?_startingAt] at held
      refine ⟨⟨⟨kind, purpose, (Option.ite_none_right_eq_some.mp held).2⟩, cut, ?_⟩, rfl⟩
      rw [sound.image]
      exact le_rfl
    · obtain ⟨more, staged, orderly, ledger⟩ := sound.enrolls kept ⟨request.config, kind⟩ above highest
      obtain ⟨coherent, recorded⟩ := sound.coherent.enroll above
      have image := sound.applied recorded staged
      have level : (world.start.applyAll (world.writes ++ more)).hardState.gcWatermark request.journal
          = world.live.gcWatermark request.journal := by
        rw [image]
        exact Matchmaker.gcWatermark_enroll
      refine sound.answer kept coherent image staged ?_ orderly fun page registered => ?_
      · rw [Matchmaker.enroll_eq]
      · obtain rfl := MatchOutcome.registered.inj registered
        refine ⟨⟨⟨kind, purpose, ?_⟩, cut.congr fun held _ below => ?_, level.ge⟩,
          Matchmaker.gcWatermark_enroll.symm⟩
        · rw [ledger, getElem?_insert, if_pos rfl]
        · rw [ledger, getElem?_insert, if_neg below.ne']

theorem Sound.collect (journal : JournalId) (generation : Nat) (watermark : Ballot)
    : Sound { world with
        live := (world.live.advanceGcWatermark journal generation watermark).1 } := by
  unfold Matchmaker.advanceGcWatermark
  split_ifs with refused level
  · exact sound
  · exact sound
  · have raises := not_le.mp level
    obtain ⟨coherent, recorded⟩ := sound.coherent.raiseWatermark raises
    have orderly : world.start.Orderly (world.writes ++ [.setGcWatermark journal watermark]) := by
      refine sound.orderly.concat ?_ trivial
      rw [sound.image]
      exact raises
    exact sound_of (List.append_assoc ..).symm coherent (sound.applied recorded rfl) orderly
      sound.answered rfl (sound.answering.extend kept orderly) sound.aligned

theorem Sound.step (step : world.Step next)
    : next.Sound := by
  cases step with
  | request request => exact sound.serve kept request
  | collect journal generation watermark => exact sound.collect kept journal generation watermark
  | ready =>
    refine sound_of (List.append_nil _) sound.coherent.batch sound.image sound.orderly
      sound.answering ?_ sound.answering rfl
    exact List.append_nil _
  | @reboot part config pageSize booted isPart boots =>
    have inside : world.log ++ part <+: world.writes := (List.prefix_append_right_inj _).mpr isPart
    have orderly := sound.orderly.part inside
    obtain ⟨coherent, image, fresh, -⟩ := Matchmaker.coherent_of_new (orderly.holds kept).1 boots
    have answers := sound.answered.extend kept orderly
    refine sound_of ?_ coherent image.symm orderly answers (List.append_nil _) answers ?_
    · rw [writes, fresh]
      exact List.append_nil _
    · rw [fresh]
      rfl

end

/-- Answers to one candidate at a ballot that follow each other's cursors, to a page without one. -/
inductive Exchange (journal : JournalId) (ballot : Ballot)
    : Option Ballot → List (MatchRequest × MatchReply) → List RegisteredPage → Ballot → Prop
  | last {request : MatchRequest} {reply : MatchReply} {page : RegisteredPage}
    (names : request.journal = journal ∧ request.ballot = ballot)
    (outcome : reply.outcome = .registered page) (done : page.nextFromBallot = none)
    : Exchange journal ballot request.fromBallot [(request, reply)] [page] page.gcWatermark
  | more {request : MatchRequest} {reply : MatchReply} {page : RegisteredPage} {next final : Ballot}
    {rest : List (MatchRequest × MatchReply)} {pages : List RegisteredPage}
    (names : request.journal = journal ∧ request.ballot = ballot)
    (outcome : reply.outcome = .registered page) (goesOn : page.nextFromBallot = some next)
    (others : Exchange journal ballot (some next) rest pages final)
    : Exchange journal ballot request.fromBallot ((request, reply) :: rest) (page :: pages) final

/-- The answers of an exchange are pages of what was ever registered, followed from cursor to
cursor.
-/
theorem Exchange.followed {journal : JournalId} {ballot final : Ballot} {cursor : Option Ballot}
    {exchange : List (MatchRequest × MatchReply)} {pages : List RegisteredPage}
    (followed : Exchange journal ballot cursor exchange pages final)
    (hold : Answers start writes exchange)
    : Matchmaker.Followed (start.recorded journal writes) ballot cursor pages final
      ∧ ∃ last ∈ exchange, last.1.journal = journal ∧ ∃ page, last.2.outcome = .registered page
        ∧ page.gcWatermark = final := by
  induction followed with
  | @last request reply page names outcome done =>
    obtain ⟨rfl, rfl⟩ := names
    exact ⟨.last (hold.truthful List.mem_cons_self outcome).cut done, (request, reply),
      List.mem_cons_self, rfl, page, outcome, rfl⟩
  | @more request reply page next final rest pages names outcome goesOn others ih =>
    obtain ⟨rfl, rfl⟩ := names
    obtain ⟨first, rising⟩ := List.pairwise_cons.mp hold.rising
    obtain ⟨onward, last, member, same, final, isLast, rfl⟩ :=
      ih ⟨fun later => hold.truthful (List.mem_cons_of_mem _ later), rising⟩
    refine ⟨.more (hold.truthful List.mem_cons_self outcome).cut goesOn
      (first last member outcome isLast same.symm) onward, last, List.mem_cons_of_mem _ member, same,
      final, isLast, rfl⟩

-- What a registry promises

end RegistryWorld

end Paros
