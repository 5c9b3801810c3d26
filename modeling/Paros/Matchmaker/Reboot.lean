import Paros.Matchmaker.Moves

/-! A rebooted matchmaker answers as if it had not crashed: the writes drained so far add up to the
image of the live one, and every reply of a batch says only what the writes staged up to it hold.
-/

namespace Paros

open OrderedMap

-- Runs

inductive MatchmakerCall where
  | step (request : MatchRequest)
  | reconfigure (request : ReconfigureRequest)
  | collect (journal : JournalId) (generation : Nat) (watermark : Ballot)
  | ready

/-- A matchmaker and the store its drained batches were applied to. -/
structure MatchmakerRun where
  disk : MemRegistry
  live : Matchmaker

/-- One call; `ready` persists the batch and releases its replies. -/
def MatchmakerRun.call (run : MatchmakerRun) : MatchmakerCall → MatchmakerRun
  | .step request => { run with live := run.live.step request }
  | .reconfigure request => { run with live := run.live.stepReconfigure request }
  | .collect journal generation watermark =>
    { run with live := (run.live.advanceGcWatermark journal generation watermark).1 }
  | .ready => ⟨run.disk.applyAll run.live.pendingWrites, run.live.advance⟩

/-- What a reply says about a registry is held by a store. A reconfiguration's own ballot may
already be the effective one there: it is never part of its own answer.
-/
def MatchReply.BackedBy (reply : MatchReply) (store : MemRegistry) : Prop :=
  match reply.outcome with
  | .registered page =>
    reply.ballot ∈ store.ledger reply.journal
      ∧ (∀ {ballot : Ballot} {registration : Registration}, page.history[ballot]? = some registration
        → (store.ledger reply.journal)[ballot]? = some registration)
      ∧ page.gcWatermark = store.hardState.gcWatermark reply.journal
      ∧ (page.effective = store.hardState.effective reply.journal
        ∨ ∃ config, store.hardState.effective reply.journal = some (reply.ballot, config))
  | .probed effective => effective = store.hardState.effective reply.journal
  | .refused _ => True

/-- What a reply says about a handover is held by a store. -/
def ReconfigureReply.BackedBy (reply : ReconfigureReply) (store : MemRegistry) : Prop :=
  let held := store.hardState
  match reply with
  | .stopped _ generation _ _ registries successor decreed =>
    held.phase = .stopped ∧ held.generation = generation ∧ held.successor = successor
      ∧ held.decree.promised = decreed
      ∧ ∀ {journal : JournalId} {registry : JournalRegistry}, registries[journal]? = some registry
        → registry = ⟨held.gcWatermark journal, store.ledger journal, held.effective journal⟩
  | .bootstrapped _ set last complete =>
    let found := held.pending.find? (·.set = set)
    found.bind PendingBootstrap.held = last ∧ found.any (·.complete) = complete
  | .promised _ _ ballot vote => held.decree = ⟨ballot, vote⟩
  | .accepted _ _ ballot => ∃ members, held.decree = ⟨ballot, some (ballot, members)⟩
  | .learned _ _ activated standing =>
    held.generation = standing ∧ (activated → held.phase = .active)
  | .nacked .. | .refused .. => True

namespace Matchmaker

variable {matchmaker : Matchmaker} {journal : JournalId} {ballot : Ballot}

-- Answers about a registry

theorem unrepeated_sublist (window : List (Ballot × Registration))
    : (unrepeated window).Sublist window := by
  unfold unrepeated
  induction window with
  | nil => exact .slnil
  | cons record rest ih =>
    rw [List.foldr_cons, keepUnrepeated]
    split_ifs
    · exact ih.cons_cons record
    · exact ih.cons record
    · exact ih.cons_cons record

variable {registration : Registration}

/-- A page shows records of the registry it is cut from, below the ballot it answers. -/
theorem page_history {cursor : Option Ballot} {held : Ballot}
    (found : (matchmaker.page journal cursor ballot).history[held]? = some registration)
    : held < ballot ∧ (matchmaker.registry journal)[held]? = some registration := by
  have listed := OrderedMap.mem_of_getElem?_ofList found
  have inside := (unrepeated_sublist _).subset (List.mem_of_mem_take listed)
  rw [windowBelow, mem_toList, getElem?_before, getElem?_startingAt,
    Option.ite_none_right_eq_some, Option.ite_none_right_eq_some] at inside
  exact ⟨inside.1, inside.2.2⟩

theorem registry_enroll
    : (matchmaker.enroll journal ballot registration).registry journal
      = (matchmaker.registry journal).insert ballot registration := by
  rw [enroll_eq, registry]
  simp

theorem effective_enroll
    : (matchmaker.enroll journal ballot registration).effective journal = matchmaker.effective journal
      ∨ (matchmaker.enroll journal ballot registration).effective journal
        = some (ballot, registration.config) := by
  rw [enroll_eq, effective, enrolledScalars, MatchmakerHardState.effective]
  split_ifs
  · right
    rw [MatchmakerHardState.journal_updateJournal, if_pos rfl]
  · exact .inl rfl

theorem gcWatermark_enroll {other : JournalId}
    : (matchmaker.enroll journal ballot registration).gcWatermark other
      = matchmaker.gcWatermark other := by
  rw [enroll_eq]
  exact gcWatermark_enrolledScalars

/-- Queue some answers. -/
def answering (matchmaker : Matchmaker) (replies : List MatchReply)
    (handover : List ReconfigureReply)
    : Matchmaker :=
  { matchmaker with
    pendingReplies := matchmaker.pendingReplies ++ replies
    pendingReconfigureReplies := matchmaker.pendingReconfigureReplies ++ handover }

/-- What waits to be persisted and sent is apart from the rest. -/
theorem Coherent.batch (coherent : matchmaker.Coherent) {writes : List MatchmakerWriteOp}
    {replies : List MatchReply} {handover : List ReconfigureReply}
    : Coherent { matchmaker with
        pendingWrites := writes
        pendingReplies := replies
        pendingReconfigureReplies := handover } :=
  { coherent with }

/-- A request is some moves and an answer that the state they end in backs. -/
theorem step_answers (matchmaker : Matchmaker) (request : MatchRequest)
    : ∃ next reply, Moves matchmaker next ∧ matchmaker.step request = next.answering [reply] []
      ∧ reply.BackedBy next.image := by
  have queued : ∀ (next : Matchmaker) (outcome : MatchOutcome),
      ∃ reply, next.reply request outcome = next.answering [reply] []
        ∧ reply.journal = request.journal ∧ reply.ballot = request.ballot
        ∧ reply.outcome = outcome := by
    intro next outcome
    refine ⟨⟨next.id, request.journal, request.sender, request.ballot, request.generation, outcome⟩,
      ?_, rfl, rfl, rfl⟩
    rw [reply, answering, List.append_nil]
  unfold step
  cases request.purpose with
  | probe =>
    obtain ⟨reply, same, journal, _, outcome⟩ := queued matchmaker
      (matchmaker.probeOutcome request.journal request.generation)
    refine ⟨matchmaker, reply, .refl, same, ?_⟩
    rw [MatchReply.BackedBy, outcome, probeOutcome]
    cases matchmaker.judgeGeneration request.generation with
    | some refusal => trivial
    | none => exact congrArg matchmaker.hardState.effective journal.symm
  | register kind =>
    obtain ⟨refusal, same⟩ | ⟨_, above, ⟨held, same⟩ | ⟨_, same⟩⟩ :=
      matchmaker.register_cases request.journal request.ballot ⟨request.config, kind⟩
        request.generation request.fromBallot
    all_goals
      simp only [same]
      obtain ⟨reply, queue, journal, ballot, outcome⟩ := queued _ _
    · exact ⟨matchmaker, reply, .refl, queue, by rw [MatchReply.BackedBy, outcome]; trivial⟩
    · refine ⟨matchmaker, reply, .refl, queue, ?_⟩
      rw [MatchReply.BackedBy, outcome, journal, ballot, ledger_image]
      exact ⟨mem_iff_getElem?.mpr ⟨_, held⟩, fun found => (page_history found).2, rfl,
        .inl rfl⟩
    · refine ⟨_, reply, .single (.enroll _ _ _ above), queue, ?_⟩
      rw [MatchReply.BackedBy, outcome, journal, ballot, ledger_image, registry_enroll]
      refine ⟨OrderedMap.mem_insert.mpr (.inl rfl), fun found => ?_, gcWatermark_enroll.symm,
        effective_enroll.imp Eq.symm fun raised => ⟨_, raised⟩⟩
      obtain ⟨below, held⟩ := page_history found
      rw [getElem?_insert, if_neg below.ne', held]

-- Answers about a handover

theorem Coherent.generation_eq (coherent : matchmaker.Coherent)
    : matchmaker.set.generation = matchmaker.hardState.generation := by
  have made : ∀ {generation members set}, MatchmakerSet.new generation members = some set
      → set.generation = generation := by
    intro generation members set new
    rw [MatchmakerSet.new] at new
    split_ifs at new
    exact Option.some.inj new ▸ rfl
  have described := coherent.described
  rw [MatchmakerHardState.resolvedSet] at described
  split_ifs at described with fresh
  · exact (made described).trans fresh.1.symm
  · exact made described

theorem stopped_of_phase (stopped : matchmaker.phase = .stopped)
    : matchmaker.hardState.phase = .stopped := by
  rw [phase, MatchmakerHardState.resolvedPhase] at stopped
  split at stopped
  · split_ifs at stopped
  · exact stopped

variable {generation : Nat}

theorem onStop_backed (coherent : matchmaker.Coherent) {after : Option JournalId}
    : (matchmaker.onStop generation after).2.BackedBy (matchmaker.onStop generation after).1.image := by
  unfold onStop
  by_cases serves : matchmaker.servesHandoverOf generation = true
  case neg => simp [serves, refusal, ReconfigureReply.BackedBy]
  case pos =>
    have both : matchmaker.set.generation = generation
        ∧ (matchmaker.phase = .active ∨ matchmaker.phase = .stopped) := by
      simpa [servesHandoverOf] using serves
    -- Frozen now or before.
    have frozen : ∀ frozen : Matchmaker, frozen.hardState.phase = .stopped
        → frozen.hardState.generation = generation
        → ReconfigureReply.BackedBy
            (.stopped matchmaker.id generation after (frozen.frozenPage after frozen.pageSize).2
              (frozen.frozenPage after frozen.pageSize).1 frozen.hardState.successor
              frozen.hardState.decree.promised) frozen.image := by
      intro frozen stopped standing
      refine ⟨stopped, standing, rfl, rfl, fun {journal registry} found => ?_⟩
      have listed := List.mem_of_mem_take (OrderedMap.mem_of_getElem?_ofList found)
      obtain ⟨_, _, same⟩ := List.mem_map.mp (List.mem_of_mem_filter listed)
      obtain ⟨rfl, rfl⟩ := Prod.mk.inj same
      rw [ledger_image]
      rfl
    simp only [serves, Bool.not_true, Bool.false_eq_true, if_false]
    split_ifs with serving
    · refine frozen _ ?_ ?_
      · rw [freeze_eq]
        rfl
      · rw [freeze_eq]
        exact both.1
    · refine frozen _ (stopped_of_phase (both.2.resolve_left serving)) ?_
      exact coherent.generation_eq.symm.trans both.1

/-- What the decree's acceptor holds after it stored its writes is on record. -/
theorem decree_storeDecree {acceptor : Acceptor (List MatchmakerId)}
    {writes : List (AcceptorWrite (List MatchmakerId))} (written : writes ≠ [])
    : (matchmaker.storeDecree acceptor writes).hardState.decree
      = ⟨acceptor.promised, acceptor.records[decreeSlot]?⟩ := by
  rw [storeDecree, if_neg (by simpa using written)]
  rfl

theorem onDecreePrepare_backed
    : (matchmaker.onDecreePrepare generation ballot).2.BackedBy
      (matchmaker.onDecreePrepare generation ballot).1.image := by
  unfold onDecreePrepare
  split_ifs
  · trivial
  · have floor : ¬ decreeSlot < matchmaker.decreeAcceptor.firstSlot := Nat.not_lt_zero _
    rw [Acceptor.prepare, if_neg floor]
    by_cases refused : ballot < matchmaker.decreeAcceptor.promised
    · rw [if_pos refused]
      trivial
    · rw [if_neg refused]
      have decree : matchmaker.hardState.decree
          = ⟨matchmaker.decreeAcceptor.promised, matchmaker.decreeAcceptor.records[decreeSlot]?⟩ := by
        rw [decreeAcceptor, getElem?_votePage]
      by_cases raised : matchmaker.decreeAcceptor.promised < ballot
      · rw [if_pos raised, Acceptor.setPromise, if_neg raised.ne]
        exact decree_storeDecree (by simp)
      · rw [if_neg raised]
        have level : matchmaker.decreeAcceptor.promised = ballot :=
          le_antisymm (not_lt.mp refused) (not_lt.mp raised)
        exact decree.trans (congrArg (DecreeRecord.mk · _) level)

theorem onDecreeAccept_backed {members : List MatchmakerId}
    : (matchmaker.onDecreeAccept generation ballot members).2.BackedBy
      (matchmaker.onDecreeAccept generation ballot members).1.image := by
  unfold onDecreeAccept
  split_ifs
  · trivial
  · dsimp only
    split
    · refine ⟨normalized members, (decree_storeDecree (by simp [Acceptor.recordAccepted])).trans ?_⟩
      simp only [Acceptor.setPromise, Acceptor.recordAccepted]
      split_ifs with level <;> simp [level]
    · trivial

theorem hardState_install (successor : MatchmakerSet) (bootstrap : PendingBootstrap)
    : (matchmaker.install successor bootstrap).hardState.phase = .active := by
  unfold install serve refreshSet
  dsimp only
  rw [resolvedSet_of_members rfl rfl]

theorem onChosen_backed (coherent : matchmaker.Coherent) (frozen : matchmaker.freeze.Coherent)
    {successor : MatchmakerSet}
    : (matchmaker.onChosen generation successor).2.BackedBy
      (matchmaker.onChosen generation successor).1.image := by
  have standing : ∀ next : Matchmaker, next.Coherent → ∀ activated : Bool,
      (activated → next.hardState.phase = .active)
      → ReconfigureReply.BackedBy (.learned matchmaker.id generation activated next.set.generation)
        next.image :=
    fun next still activated active => ⟨still.generation_eq.symm, active⟩
  unfold onChosen
  split_ifs
  · trivial
  · exact standing matchmaker coherent false nofun
  · have moves : Moves matchmaker (matchmaker.learnAsMember generation successor).1 :=
      moves_learnAsMember coherent frozen
    have moved := moves.records coherent
    revert moved
    unfold learnAsMember
    split_ifs
    · exact fun _ => trivial
    · obtain same | ⟨bootstrap, same⟩ :=
        (matchmaker.recordSuccessor successor).activate_cases successor
      · simp only [same]
        exact fun moved => standing _ moved.1 false nofun
      · simp only [same]
        exact fun moved => standing _ moved.1 true fun _ => hardState_install successor bootstrap
  · have moves : Moves matchmaker (matchmaker.learnAsSpare generation successor).1 :=
      moves_learnAsSpare coherent
    have moved := moves.records coherent
    revert moved
    unfold learnAsSpare
    obtain same | ⟨bootstrap, same⟩ :=
      (matchmaker.pruneSettledPending successor).1.activate_cases successor
    · simp only [same, Bool.false_eq_true, if_false]
      exact fun _ => trivial
    · simp only [same, if_true]
      exact fun moved => standing _ moved.1 true fun _ => hardState_install successor bootstrap
  · trivial

theorem moves_answer (coherent : matchmaker.Coherent) (request : ReconfigureRequest)
    : Moves matchmaker (matchmaker.answerReconfigure request).1
      ∧ (matchmaker.answerReconfigure request).2.BackedBy
        (matchmaker.answerReconfigure request).1.image := by
  have frozen : matchmaker.freeze.Coherent := ((moves_freeze matchmaker).records coherent).1
  cases request with
  | stop sender generation after => exact ⟨moves_onStop, onStop_backed coherent⟩
  | bootstrap sender page =>
    refine ⟨moves_onBootstrap coherent, ?_⟩
    change (matchmaker.onBootstrap page).2.BackedBy (matchmaker.onBootstrap page).1.image
    unfold onBootstrap
    split_ifs
    · trivial
    · exact ⟨rfl, rfl⟩
  | decreePrepare sender generation ballot =>
    exact ⟨moves_onDecreePrepare coherent, onDecreePrepare_backed⟩
  | decreeAccept sender generation ballot members =>
    exact ⟨moves_onDecreeAccept coherent, onDecreeAccept_backed⟩
  | chosen sender generation successor =>
    exact ⟨moves_onChosen coherent frozen, onChosen_backed coherent frozen⟩

end Matchmaker

-- Whole runs

namespace MatchmakerRun

/-- What a run keeps: the store and the batch that waits add up to the live matchmaker, and every
waiting reply is backed by the store with the first writes of the batch.
-/
structure Sound (config : MatchmakerConfig) (pageSize : PageSize) (run : MatchmakerRun) : Prop where
  coherent : run.live.Coherent
  image : run.disk.applyAll run.live.pendingWrites = run.live.image
  deployed : run.live.config = ⟨config.id, normalized config.bootstrap⟩
  paged : run.live.pageSize = pageSize
  replies : ∀ reply ∈ run.live.pendingReplies, ∃ writes, writes <+: run.live.pendingWrites
    ∧ reply.BackedBy (run.disk.applyAll writes)
  handover : ∀ reply ∈ run.live.pendingReconfigureReplies, ∃ writes,
    writes <+: run.live.pendingWrites ∧ reply.BackedBy (run.disk.applyAll writes)

variable {config : MatchmakerConfig} {pageSize : PageSize} {run : MatchmakerRun}

/-- A call other than `ready` is some moves and answers that the state they end in backs. -/
theorem call_answers (coherent : run.live.Coherent) {call : MatchmakerCall} (serves : call ≠ .ready)
    : ∃ next replies handover, Matchmaker.Moves run.live next
      ∧ run.call call = { run with live := next.answering replies handover }
      ∧ (∀ reply ∈ replies, reply.BackedBy next.image)
      ∧ ∀ reply ∈ handover, reply.BackedBy next.image := by
  cases call with
  | ready => exact absurd rfl serves
  | step request =>
    obtain ⟨next, reply, moves, same, backed⟩ := run.live.step_answers request
    exact ⟨next, [reply], [], moves, congrArg (MatchmakerRun.mk run.disk) same,
      fun _ only => List.mem_singleton.mp only ▸ backed, fun _ none => absurd none List.not_mem_nil⟩
  | reconfigure request =>
    obtain ⟨moves, backed⟩ := Matchmaker.moves_answer coherent request
    refine ⟨_, [], [_], moves, congrArg (MatchmakerRun.mk run.disk) ?_,
      fun _ none => absurd none List.not_mem_nil, fun _ only => List.mem_singleton.mp only ▸ backed⟩
    rw [Matchmaker.answering, List.append_nil]
    rfl
  | collect journal generation watermark =>
    refine ⟨(run.live.advanceGcWatermark journal generation watermark).1, [], [],
      Matchmaker.moves_advanceGcWatermark, congrArg (MatchmakerRun.mk run.disk) ?_,
      fun _ none => absurd none List.not_mem_nil, fun _ none => absurd none List.not_mem_nil⟩
    rw [Matchmaker.answering, List.append_nil, List.append_nil]

theorem Sound.call (sound : run.Sound config pageSize) (call : MatchmakerCall)
    : (run.call call).Sound config pageSize := by
  by_cases drains : call = .ready
  case pos =>
    subst drains
    refine ⟨sound.coherent.batch, sound.image, sound.deployed, sound.paged, ?_, ?_⟩
    · exact fun _ none => absurd none List.not_mem_nil
    · exact fun _ none => absurd none List.not_mem_nil
  case neg =>
    obtain ⟨next, replies, handover, moves, same, answered, handedOver⟩ :=
      call_answers sound.coherent drains
    obtain ⟨still, recorded⟩ := moves.records sound.coherent
    obtain ⟨sameReplies, sameHandover⟩ := moves.replies
    obtain ⟨writes, staged, applied⟩ := recorded.writes
    have image : run.disk.applyAll next.pendingWrites = next.image := by
      rw [staged, MemRegistry.applyAll, List.foldl_append, ← applied, ← sound.image]
      rfl
    have longer : run.live.pendingWrites <+: next.pendingWrites := staged ▸ List.prefix_append _ _
    rw [same]
    refine ⟨still.batch, image, recorded.config.trans sound.deployed,
      recorded.pageSize.trans sound.paged, fun reply member => ?_, fun reply member => ?_⟩
    · rcases List.mem_append.mp member with earlier | fresh
      · obtain ⟨held, isPart, backed⟩ := sound.replies reply (sameReplies ▸ earlier)
        exact ⟨held, isPart.trans longer, backed⟩
      · exact ⟨_, List.prefix_rfl, image ▸ answered reply fresh⟩
    · rcases List.mem_append.mp member with earlier | fresh
      · obtain ⟨held, isPart, backed⟩ := sound.handover reply (sameHandover ▸ earlier)
        exact ⟨held, isPart.trans longer, backed⟩
      · exact ⟨_, List.prefix_rfl, image ▸ handedOver reply fresh⟩

/-- Every run of calls is sound, by induction over them. -/
theorem sound_of_calls {start : MemRegistry} {booted : Matchmaker} (kept : start.Kept)
    (boots : Matchmaker.new config start pageSize = some booted) (calls : List MatchmakerCall)
    : (calls.foldl MatchmakerRun.call ⟨start, booted⟩).Sound config pageSize := by
  induction calls using List.reverseRecOn with
  | nil =>
    obtain ⟨coherent, image, fresh, deployed, paged⟩ := Matchmaker.coherent_of_new kept boots
    refine ⟨coherent, ?_, deployed, paged, ?_, ?_⟩
    · rw [List.foldl_nil, fresh]
      exact image.symm
    · rw [List.foldl_nil, fresh]
      exact fun _ none => absurd none List.not_mem_nil
    · rw [List.foldl_nil, fresh]
      exact fun _ none => absurd none List.not_mem_nil
  | append_singleton calls call ih =>
    rw [List.foldl_append]
    exact ih.call call

/-- A boot from the drained store is the live matchmaker. -/
theorem Sound.reboots (sound : run.Sound config pageSize)
    : Matchmaker.new config (run.call .ready).disk pageSize = some (run.call .ready).live := by
  have booted := sound.coherent.new_image
  rw [sound.deployed, sound.paged] at booted
  refine Eq.trans ?_ booted
  rw [Matchmaker.new, Matchmaker.new, Matchmaker.normalized_normalized]
  exact congrArg (fun store => Matchmaker.new config store pageSize) sound.image

/-- Whatever was called, a boot from the drained writes is the live matchmaker and goes on as it
does. Each reply of the batch is backed by the store with the writes staged up to it, which are
all of the batch's for the last call's.
-/
theorem reboot_continues {start : MemRegistry} {booted : Matchmaker} (kept : start.Kept)
    (boots : Matchmaker.new config start pageSize = some booted) (calls : List MatchmakerCall)
    : let run := calls.foldl MatchmakerRun.call ⟨start, booted⟩
      let drained := run.call .ready
      (∃ rebooted, Matchmaker.new config drained.disk pageSize = some rebooted
        ∧ rebooted.hardState = drained.live.hardState
        ∧ rebooted.registries = drained.live.registries
        ∧ rebooted.phase = drained.live.phase ∧ rebooted.set = drained.live.set
        ∧ ∀ later : List MatchmakerCall, later.foldl MatchmakerRun.call ⟨drained.disk, rebooted⟩
          = later.foldl MatchmakerRun.call drained)
      ∧ (∀ reply ∈ run.live.pendingReplies, ∃ writes, writes <+: run.live.pendingWrites
        ∧ reply.BackedBy (run.disk.applyAll writes))
      ∧ (∀ reply ∈ run.live.pendingReconfigureReplies, ∃ writes, writes <+: run.live.pendingWrites
        ∧ reply.BackedBy (run.disk.applyAll writes))
      ∧ ∀ call, call ≠ .ready → ∃ replies handover,
        (run.call call).live.pendingReplies = run.live.pendingReplies ++ replies
        ∧ (run.call call).live.pendingReconfigureReplies
          = run.live.pendingReconfigureReplies ++ handover
        ∧ (∀ reply ∈ replies, reply.BackedBy ((run.call call).call .ready).disk)
        ∧ ∀ reply ∈ handover, reply.BackedBy ((run.call call).call .ready).disk := by
  intro run drained
  have sound : run.Sound config pageSize := sound_of_calls kept boots calls
  refine ⟨⟨drained.live, sound.reboots, rfl, rfl, rfl, rfl, fun _ => rfl⟩, sound.replies,
    sound.handover, fun call serves => ?_⟩
  obtain ⟨next, replies, handover, moves, same, answered, handedOver⟩ :=
    call_answers sound.coherent serves
  obtain ⟨sameReplies, sameHandover⟩ := moves.replies
  have image : ((run.call call).call .ready).disk = next.image := by
    refine (sound.call call).image.trans ?_
    rw [same]
    rfl
  refine ⟨replies, handover, ?_, ?_, image ▸ answered, image ▸ handedOver⟩
  · rw [same, ← sameReplies]
    rfl
  · rw [same, ← sameHandover]
    rfl

/-- A matchmaker on its own, with a blank store. -/
def soleMatchmaker : Matchmaker :=
  (Matchmaker.new ⟨1, [1]⟩ .blank ⟨4, by decide⟩).get (by decide +kernel)

/-- A registration, and a watermark raised above it before the batch is drained. -/
def registeredThenCollected : MatchmakerRun :=
  ([.step ⟨1, 0, ⟨1, 1⟩, .sole 1, .register .belief, 0, none⟩,
    .collect 0 0 ⟨2, 0⟩] : List MatchmakerCall).foldl MatchmakerRun.call ⟨.blank, soleMatchmaker⟩

theorem blank_kept : MemRegistry.blank.Kept where
  inhabited held := by simp [MemRegistry.blank] at held
  retained held := by simp [MemRegistry.blank] at held

/-- The batch of a registration and a raise above it releases a reply whose record is no longer in
the image.
-/
theorem registered_then_collected
    : ∃ reply ∈ registeredThenCollected.live.pendingReplies,
      ¬ reply.BackedBy (registeredThenCollected.call .ready).disk := by
  have gone : registeredThenCollected.live.pendingReplies.any (fun reply =>
      (match reply.outcome with | .registered _ => true | _ => false)
        && !((registeredThenCollected.call .ready).disk.ledger reply.journal).contains reply.ballot)
      = true := by
    decide +kernel
  obtain ⟨reply, member, both⟩ := List.any_eq_true.mp gone
  refine ⟨reply, member, fun backed => ?_⟩
  rw [MatchReply.BackedBy] at backed
  cases outcome : reply.outcome with
  | registered page =>
    rw [outcome] at backed both
    rw [Std.ExtTreeMap.contains_iff_mem.mpr backed.1] at both
    cases both
  | probed effective => simp [outcome] at both
  | refused refusal => simp [outcome] at both

/-- A registration and a raise above it: the boot after them is the live matchmaker. -/
theorem reboot_continues_collected
    : Matchmaker.new ⟨1, [1]⟩ .blank ⟨4, by decide⟩ = some soleMatchmaker
      ∧ ∃ rebooted, Matchmaker.new ⟨1, [1]⟩ (registeredThenCollected.call .ready).disk ⟨4, by decide⟩
          = some rebooted
        ∧ rebooted.hardState = (registeredThenCollected.call .ready).live.hardState := by
  have boots : Matchmaker.new ⟨1, [1]⟩ .blank ⟨4, by decide⟩ = some soleMatchmaker :=
    (Option.some_get _).symm
  obtain ⟨⟨rebooted, again, same, _⟩, _⟩ := reboot_continues blank_kept boots
    [.step ⟨1, 0, ⟨1, 1⟩, .sole 1, .register .belief, 0, none⟩,
      .collect 0 0 ⟨2, 0⟩]
  exact ⟨boots, rebooted, again, same⟩

end MatchmakerRun

end Paros
