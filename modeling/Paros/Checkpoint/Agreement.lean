import Paros.Checkpoint.Folder

/-! Folds of one journal agree wherever they are whole, whatever each of them skipped, and a
run written from a whole fold is verified by every other one.
-/

namespace Paros

variable {S E : Type} {ops : Checkpointable S E} {codec : RecordCodec}

/-- What is asked of a state: a refused restore changes nothing, a restore reads its arguments
only, and a written state is read back as it was.
-/
structure Checkpointable.Lawful (ops : Checkpointable S E) : Prop where
  refused : ∀ state begin bytes reason, (ops.restore state begin bytes).1 = some reason
    → (ops.restore state begin bytes).2 = state
  reads_bytes : ∀ state other begin bytes,
    (ops.restore state begin bytes).1 = (ops.restore other begin bytes).1
    ∧ ((ops.restore state begin bytes).1 = none
      → (ops.restore state begin bytes).2 = (ops.restore other begin bytes).2)
  restores : ∀ state other begin, ops.restore other begin (ops.checkpoint state) = (none, state)

namespace Folder

-- Histories

/-- A fold with a history over one record sequence: positions folded in any order a reader asks
for them, jumps ahead in between. A restarted reader begins a history anew.
-/
inductive Reached (ops : Checkpointable S E) (codec : RecordCodec) (records : Nat → Bytes)
    (initial : S)
    : Folder S → Prop
  | new : Reached ops codec records initial (.new initial)
  | jump {folder} (history : Reached ops codec records initial folder) (floor : Nat)
    : Reached ops codec records initial (folder.jump floor)
  | fold {folder folded event} (history : Reached ops codec records initial folder) (seq : Nat)
    (taken : folder.fold ops codec seq (records seq) = some (folded, event))
    : Reached ops codec records initial folded

/-- Every record from a run's first one on is one of it, up to the fold's position. -/
def Fits (folder : Folder S) : Prop :=
  ∀ run, folder.run = some run → run.begin + 1 + run.chunks = folder.next

theorem Fits.jump {folder : Folder S} (fits : folder.Fits) (floor : Nat)
    : (folder.jump floor).Fits := by
  unfold Folder.jump
  split_ifs
  · exact fun run none => by cases none
  · exact fits

theorem jump_next {folder : Folder S} {seq : Nat} (ahead : folder.next ≤ seq)
    : (folder.jump seq).next = seq := by
  unfold Folder.jump
  split_ifs with gap
  · rfl
  · exact le_antisymm ahead (not_lt.mp gap)

end Folder

/-- What a fold knows: the journal's state, when it holds every position below its own, and the
run it is inside of.
-/
structure FoldView (S : Type) where
  known : Option S
  run : Option OpenRun

/-- What a run's bytes restore to; which state receives them does not matter. -/
def Checkpointable.readBack (ops : Checkpointable S E) (receiver : S) (begin : Nat) (bytes : Bytes)
    : Option S :=
  match ops.restore receiver begin bytes with
  | (none, restored) => some restored
  | (some _, _) => none

/-- What a record at a position adds to a fold's knowledge. -/
def FoldView.step (ops : Checkpointable S E) (codec : RecordCodec) (receiver : S) (seq : Nat)
    (record : Bytes) (view : FoldView S)
    : Option (Except String CheckpointRecord) → FoldView S
  | none => ⟨view.known.map fun state => (ops.apply state seq record).1, none⟩
  | some (.error _) => ⟨view.known, none⟩
  | some (.ok (.begins coversUpTo)) =>
    ⟨view.known, if coversUpTo = seq then some (.opened seq) else none⟩
  | some (.ok (.chunk bytes)) => ⟨view.known, view.run.map (·.collect codec bytes)⟩
  | some (.ok (.ends chunks checksum)) =>
    match view.run with
    | none => ⟨view.known, none⟩
    | some run =>
      if run.chunks = chunks ∧ run.checksum = checksum then
        ⟨(ops.readBack receiver run.begin run.state).or view.known, none⟩
      else ⟨view.known, none⟩

namespace Folder

def view (folder : Folder S) : FoldView S :=
  ⟨if folder.whole then some folder.state else none, folder.run⟩

variable {folder : Folder S}

/-- A restore past its run makes the run's state the known one, where it is read back. Witness:
a verified state is the one its own bytes restore.
-/
theorem restore_view (lawful : ops.Lawful) {begin : Nat} {state : Bytes}
    (closed : folder.run = none) (below : begin < folder.next) (receiver : S)
    : ∃ folded event, folder.restore ops begin state = some (folded, event)
      ∧ folded.next = folder.next
      ∧ folded.view = ⟨(ops.readBack receiver begin state).or folder.view.known, none⟩ := by
  obtain ⟨sameVerdict, sameState⟩ := lawful.reads_bytes folder.state receiver begin state
  have matched (same : ops.checkpoint folder.state = state)
      : ops.readBack receiver begin state = some folder.state := by
    simp only [Checkpointable.readBack, ← same, lawful.restores]
  simp only [restore, closed, Option.isSome_none, Bool.false_or, decide_eq_true_eq,
    if_neg (not_le.mpr below)]
  split_ifs with whole verified
  · refine ⟨_, _, rfl, rfl, ?_⟩
    simp only [Option.some.injEq, beq_iff_eq] at verified
    simp [view, whole, matched verified]
  any_goals contradiction
  all_goals
    cases outcome : ops.restore folder.state begin state with
    | mk refusal restored =>
      cases refusal with
      | none =>
        have read : ops.readBack receiver begin state = some restored := by
          rw [outcome] at sameVerdict sameState
          unfold Checkpointable.readBack
          rw [show ops.restore receiver begin state = (none, restored) from
            Prod.ext sameVerdict.symm (sameState rfl).symm]
        exact ⟨_, _, rfl, rfl, by simp [view, read]⟩
      | some reason =>
        have kept : restored = folder.state := by
          have left := lawful.refused folder.state begin state reason (by rw [outcome])
          rwa [outcome] at left
        have unread : ops.readBack receiver begin state = none := by
          rw [outcome] at sameVerdict
          unfold Checkpointable.readBack
          rw [show ops.restore receiver begin state
            = (some reason, (ops.restore receiver begin state).2) from
            Prod.ext sameVerdict.symm rfl]
        exact ⟨_, _, rfl, rfl, by simp_all [view]⟩

/-- A record folds at the position after a fitting run, without a failed assertion: it leaves a
fitting run, and adds to the fold's knowledge what its form says.
-/
theorem foldRecord_view (codec : RecordCodec) (lawful : ops.Lawful) {seq : Nat}
    (stands : folder.next = seq + 1)
    (fits : ∀ run, folder.run = some run → run.begin + 1 + run.chunks = seq) (record : Bytes)
    (receiver : S)
    : ∃ folded event, folder.foldRecord ops codec seq record = some (folded, event)
      ∧ folded.next = seq + 1 ∧ folded.Fits
      ∧ folded.view
        = folder.view.step ops codec receiver seq record (CheckpointRecord.decode codec record) := by
  have closedFits {folder : Folder S} (closed : folder.run = none) : folder.Fits :=
    fun run some => by rw [closed] at some; cases some
  unfold foldRecord
  cases decoded : CheckpointRecord.decode codec record with
  | none =>
    simp only
    split_ifs with whole
    · exact ⟨_, _, rfl, stands, closedFits rfl, by simp_all [view, FoldView.step, dropRun]⟩
    · exact ⟨_, _, rfl, stands, closedFits rfl, by simp_all [view, FoldView.step, dropRun]⟩
  | some form =>
    match form with
    | .error reason => exact ⟨_, _, rfl, stands, closedFits rfl, rfl⟩
    | .ok (.begins coversUpTo) =>
      simp only
      split_ifs with elsewhere
      · exact ⟨_, _, rfl, stands, closedFits rfl, by simp only [FoldView.step, if_neg elsewhere]; rfl⟩
      · refine ⟨_, _, rfl, stands, ?_, by simp_all [view, FoldView.step]⟩
        rintro _ ⟨rfl⟩
        exact stands.symm
    | .ok (.chunk bytes) =>
      cases collecting : folder.run with
      | none =>
        exact ⟨_, _, rfl, stands, closedFits collecting,
          by simp [view, FoldView.step, collecting]⟩
      | some run =>
        have follows := fits run collecting
        simp only [show run.continuesAt seq by simpa [OpenRun.continuesAt] using follows,
          if_true]
        refine ⟨_, _, rfl, stands, ?_, by simp [view, FoldView.step, collecting]⟩
        rintro _ ⟨rfl⟩
        simp only [OpenRun.collect, stands]
        omega
    | .ok (.ends chunks checksum) =>
      cases collecting : folder.run with
      | none =>
        exact ⟨_, _, rfl, stands, closedFits collecting,
          by simp [view, FoldView.step, collecting]⟩
      | some run =>
        have follows := fits run collecting
        simp only [show run.continuesAt seq by simpa [OpenRun.continuesAt] using follows,
          if_true]
        split_ifs with count sum
        · refine ⟨_, _, rfl, stands, closedFits rfl, ?_⟩
          simp only [FoldView.step, view, collecting, count, false_and, if_false]
          rfl
        · refine ⟨_, _, rfl, stands, closedFits rfl, ?_⟩
          simp only [FoldView.step, view, collecting, sum, and_false, if_false]
          rfl
        · have below : run.begin < folder.dropRun.next := by
            simp only [dropRun, stands]
            omega
          obtain ⟨folded, event, restored, next, viewed⟩ :=
            restore_view lawful (show folder.dropRun.run = none from rfl) below receiver
          refine ⟨folded, event, restored, next.trans stands, ?_, ?_⟩
          · exact closedFits (congrArg FoldView.run viewed)
          · rw [viewed]
            simp only [FoldView.step, view, collecting, not_not.mp count, not_not.mp sum,
              true_and, if_true]
            rfl

/-- A fold at a position ahead stands past it, fits, and knows what the jumped fold and the
record give.
-/
theorem fold_view (codec : RecordCodec) (lawful : ops.Lawful) (fits : folder.Fits) {seq : Nat}
    (ahead : folder.next ≤ seq) (record : Bytes) (receiver : S)
    : ∃ folded event, folder.fold ops codec seq record = some (folded, some event)
      ∧ folded.next = seq + 1 ∧ folded.Fits
      ∧ folded.view = (folder.jump seq).view.step ops codec receiver seq record
        (CheckpointRecord.decode codec record) := by
  have stands := jump_next ahead
  have jumped (run : OpenRun) (collecting : (folder.jump seq).run = some run)
      : run.begin + 1 + run.chunks = seq :=
    (fits.jump seq run collecting).trans stands
  let past : Folder S := { folder.jump seq with next := seq + 1 }
  have passes : past.next = seq + 1 := rfl
  obtain ⟨folded, event, taken, next, fitting, viewed⟩ :=
    foldRecord_view codec lawful passes jumped record receiver
  refine ⟨folded, event, ?_, next, fitting, viewed⟩
  simp only [fold, if_neg (not_lt.mpr ahead), stands, ne_eq, not_true, if_false]
  exact congrArg (Option.map fun taken => (taken.1, some taken.2)) taken

theorem Reached.fits (lawful : ops.Lawful) {records : Nat → Bytes} {initial : S}
    (history : Reached ops codec records initial folder)
    : folder.Fits := by
  induction history with
  | new => exact fun run none => by cases none
  | jump _ floor fits => exact fits.jump floor
  | @fold folder folded event _ seq taken fits =>
    rcases Nat.lt_or_ge seq folder.next with past | ahead
    · simp only [Folder.fold, if_pos past, Option.some.injEq, Prod.mk.injEq] at taken
      exact taken.1 ▸ fits
    · obtain ⟨other, _, same, _, fitting, _⟩ := fold_view codec lawful fits ahead
        (records seq) initial
      rw [same, Option.some.injEq, Prod.mk.injEq] at taken
      exact taken.1 ▸ fitting

/-- How a fold came to its position: at the start, by a jump, or by folding the record below it
from a fold that stood there.
-/
theorem Reached.arrived (lawful : ops.Lawful) {records : Nat → Bytes} {initial : S}
    (history : Reached ops codec records initial folder)
    : folder = .new initial ∨ (folder.view.known = none ∧ folder.view.run = none)
      ∨ ∃ before, Reached ops codec records initial before ∧ before.next + 1 = folder.next
        ∧ folder.view = before.view.step ops codec initial before.next (records before.next)
          (CheckpointRecord.decode codec (records before.next)) := by
  induction history with
  | new => exact Or.inl rfl
  | @jump folder history floor arrived =>
    unfold Folder.jump
    split_ifs
    · exact Or.inr (Or.inl ⟨by simp [view], rfl⟩)
    · exact arrived
  | @fold folder folded event history seq taken arrived =>
    rcases Nat.lt_or_ge seq folder.next with past | ahead
    · simp only [Folder.fold, if_pos past, Option.some.injEq, Prod.mk.injEq] at taken
      exact taken.1 ▸ arrived
    · obtain ⟨other, _, same, next, _, viewed⟩ := fold_view codec lawful
        (history.fits lawful) ahead (records seq) initial
      rw [same, Option.some.injEq, Prod.mk.injEq] at taken
      have stands := jump_next ahead
      refine Or.inr (Or.inr ⟨folder.jump seq, history.jump seq, ?_, ?_⟩)
      · rw [← taken.1, next, stands]
      · rw [← taken.1, viewed, stands]

end Folder

-- Agreement

/-- Two folds at one position: what both know is the same, and a fold that knows the state, or
is inside a run, is inside the other's run.
-/
structure FoldView.Coherent (left right : FoldView S) : Prop where
  states : ∀ state other, left.known = some state → right.known = some other → state = other
  leftRun : ∀ run, left.run = some run → right.known.isSome ∨ right.run.isSome
    → right.run = some run
  rightRun : ∀ run, right.run = some run → left.known.isSome ∨ left.run.isSome
    → left.run = some run

theorem FoldView.Coherent.refl (view : FoldView S) : view.Coherent view :=
  ⟨fun _ _ known knows => Option.some.inj (known.symm.trans knows), fun _ inside _ => inside,
    fun _ inside _ => inside⟩

variable {left right : FoldView S}

theorem FoldView.Coherent.of_blank (known : left.known = none) (run : left.run = none)
    : left.Coherent right where
  states := by simp [known]
  leftRun := by simp [run]
  rightRun := by simp [known, run]

theorem FoldView.Coherent.symm (coherent : left.Coherent right)
    : right.Coherent left :=
  ⟨fun state other known knows => (coherent.states other state knows known).symm,
    coherent.rightRun, coherent.leftRun⟩

/-- One record keeps two folds coherent, whatever its form. -/
theorem FoldView.Coherent.step (coherent : left.Coherent right)
    (receiver : S) (seq : Nat) (record : Bytes)
    (decoded : Option (Except String CheckpointRecord))
    : (left.step ops codec receiver seq record decoded).Coherent
        (right.step ops codec receiver seq record decoded) := by
  obtain ⟨states, leftRun, rightRun⟩ := coherent
  match decoded with
  | none =>
    refine ⟨?_, by simp [FoldView.step], by simp [FoldView.step]⟩
    intro state other known knows
    simp only [FoldView.step, Option.map_eq_some_iff] at known knows
    obtain ⟨before, known, rfl⟩ := known
    obtain ⟨beforeOther, knows, rfl⟩ := knows
    rw [states _ _ known knows]
  | some (.error _) => exact ⟨states, by simp [FoldView.step], by simp [FoldView.step]⟩
  | some (.ok (.begins coversUpTo)) =>
    exact ⟨states, fun _ opened _ => opened, fun _ opened _ => opened⟩
  | some (.ok (.chunk bytes)) =>
    refine ⟨states, ?_, ?_⟩
    · intro run collected inside
      simp only [FoldView.step, Option.map_eq_some_iff, Option.isSome_map] at collected inside ⊢
      obtain ⟨before, collecting, rfl⟩ := collected
      exact ⟨before, leftRun before collecting inside, rfl⟩
    · intro run collected inside
      simp only [FoldView.step, Option.map_eq_some_iff, Option.isSome_map] at collected inside ⊢
      obtain ⟨before, collecting, rfl⟩ := collected
      exact ⟨before, rightRun before collecting inside, rfl⟩
  | some (.ok (.ends chunks checksum)) =>
    have closed (view : FoldView S)
        : (view.step ops codec receiver seq record (some (.ok (.ends chunks checksum)))).run = none := by
      simp only [FoldView.step]
      split
      · rfl
      · split_ifs <;> rfl
    refine ⟨?_, by simp [closed], by simp [closed]⟩
    intro state other known knows
    simp only [FoldView.step] at known knows
    cases leftHolds : left.run with
    | none =>
      rw [leftHolds] at known
      -- a fold that knows the state is inside every run the other is inside of
      have outside : right.run = none := by
        refine Option.eq_none_iff_forall_ne_some.mpr fun run inside => ?_
        have shared := rightRun run inside (Or.inl (by rw [known]; rfl))
        rw [leftHolds] at shared
        cases shared
      rw [outside] at knows
      exact states _ _ known knows
    | some run =>
      rw [leftHolds] at known
      cases rightHolds : right.run with
      | none =>
        rw [rightHolds] at knows
        have shared := leftRun run leftHolds (Or.inl (by rw [knows]; rfl))
        rw [rightHolds] at shared
        cases shared
      | some otherRun =>
        have shared := leftRun run leftHolds (Or.inr (by rw [rightHolds]; rfl))
        rw [rightHolds, Option.some.injEq] at shared
        subst shared
        rw [rightHolds] at knows
        simp only at known knows
        split_ifs at known knows with committed
        · cases read : ops.readBack receiver otherRun.begin otherRun.state with
          | some restored =>
            simp only [read, Option.some_or, Option.some.injEq] at known knows
            exact known.symm.trans knows
          | none =>
            simp only [read, Option.none_or] at known knows
            exact states _ _ known knows
        · exact states _ _ known knows

namespace Folder

/-- Two histories over one record sequence are coherent wherever they stand at one position.
Witness: induction over the position; both came to it by folding the record below it, unless one
of them jumped there and knows nothing.
-/
theorem Reached.coherent (lawful : ops.Lawful) {records : Nat → Bytes} {initial : S} (position : Nat)
    {left right : Folder S} (leftHistory : Reached ops codec records initial left)
    (rightHistory : Reached ops codec records initial right) (leftStands : left.next = position)
    (rightStands : right.next = position)
    : left.view.Coherent right.view := by
  induction position using Nat.strong_induction_on generalizing left right with
  | _ position ih =>
    rcases leftHistory.arrived lawful with
      rfl | ⟨known, run⟩ | ⟨leftBefore, leftReached, leftOne, leftView⟩
    · rcases rightHistory.arrived lawful with rfl | ⟨known, run⟩ | ⟨rightBefore, _, rightOne, _⟩
      · exact .refl _
      · exact (FoldView.Coherent.of_blank known run).symm
      · simp only [Folder.new] at leftStands
        omega
    · exact .of_blank known run
    · rcases rightHistory.arrived lawful with
        rfl | ⟨known, run⟩ | ⟨rightBefore, rightReached, rightOne, rightView⟩
      · simp only [Folder.new] at rightStands
        omega
      · exact (FoldView.Coherent.of_blank known run).symm
      · have sameBefore : rightBefore.next = leftBefore.next := by omega
        rw [leftView, rightView, sameBefore]
        exact (ih leftBefore.next (by omega) leftReached rightReached rfl sameBefore).step _ _ _ _

/-- Folds that are whole at one position hold one state. -/
theorem Reached.states_eq (lawful : ops.Lawful) {records : Nat → Bytes} {initial : S}
    {left right : Folder S} (leftHistory : Reached ops codec records initial left)
    (rightHistory : Reached ops codec records initial right) (leftWhole : left.whole)
    (rightWhole : right.whole) (same : left.next = right.next)
    : left.state = right.state :=
  (leftHistory.coherent lawful _ rightHistory rfl same.symm).states _ _
    (by simp [view, leftWhole]) (by simp [view, rightWhole])

-- A run written from a whole fold

theorem fold_next (folder : Folder S) (record : Bytes)
    : folder.fold ops codec folder.next record
      = (foldRecord ops codec { folder with next := folder.next + 1 } folder.next record).map
        fun (folded, event) => (folded, some event) := by
  simp [fold, jump]

theorem foldAll_append (folder : Folder S) (first second : List Bytes)
    : folder.foldAll ops codec (first ++ second)
      = (folder.foldAll ops codec first).bind fun (middle, before) =>
        (middle.foldAll ops codec second).map fun (last, after) => (last, before ++ after) := by
  induction first generalizing folder with
  | nil => simp [foldAll]
  | cons record rest ih =>
    simp only [List.cons_append, foldAll, ih]
    cases folder.fold ops codec folder.next record with
    | none => rfl
    | some taken =>
      simp only [Option.bind_some]
      cases taken.1.foldAll ops codec rest with
      | none => rfl
      | some middle =>
        simp only [Option.bind_some, Option.map_some]
        cases middle.1.foldAll ops codec second <;> rfl

/-- A run's chunks are collected one after the other. -/
theorem foldAll_chunks (chunks : List Bytes) {folder : Folder S} {run : OpenRun}
    (collecting : folder.run = some run) (fits : run.begin + 1 + run.chunks = folder.next)
    : folder.foldAll ops codec
        (chunks.map fun chunk => (CheckpointRecord.chunk chunk).encode codec)
      = some ({ folder with
          next := folder.next + chunks.length
          run := some ⟨run.begin, run.state ++ chunks.flatten, run.chunks + chunks.length,
            chunks.foldl codec.crc32cAppend run.checksum⟩ },
        List.replicate chunks.length (some .run)) := by
  induction chunks generalizing folder run with
  | nil => simp [foldAll, ← collecting]
  | cons chunk rest ih =>
    have continues : run.continuesAt folder.next := by simpa [OpenRun.continuesAt] using fits
    simp only [List.map_cons, foldAll, fold_next, foldRecord, CheckpointRecord.decode_encode,
      collecting, continues, if_true, Option.map_some, Option.bind_some]
    let collected : Folder S :=
      { folder with next := folder.next + 1, run := some (run.collect codec chunk) }
    have onward : (run.collect codec chunk).begin + 1 + (run.collect codec chunk).chunks
        = collected.next := by
      simp only [OpenRun.collect, collected]
      omega
    rw [ih (show collected.run = some (run.collect codec chunk) from rfl) onward]
    simp only [collected, OpenRun.collect, Option.map_some, List.length_cons, List.flatten_cons,
      List.foldl_cons, List.append_assoc, List.replicate_succ, Option.some.injEq, Prod.mk.injEq,
      and_true, Folder.mk.injEq, OpenRun.mk.injEq, true_and]
    omega

/-- A run that checkpoints the state of a whole fold is verified by it, and changes nothing but
its position and its counts.
-/
theorem foldAll_run {folder : Folder S} (whole : folder.whole) (chunkBytes : Nat)
    : folder.foldAll ops codec
        (Paros.run codec folder.next (ops.checkpoint folder.state) chunkBytes)
      = some ({ folder with
          next := folder.next + (chunksOf chunkBytes (ops.checkpoint folder.state)).length + 2
          run := none
          sinceEntries := 0
          sinceBytes := 0 },
        List.replicate ((chunksOf chunkBytes (ops.checkpoint folder.state)).length + 1) (some .run)
          ++ [some (.checkpoint folder.next (some true))]) := by
  generalize pieces : chunksOf chunkBytes (ops.checkpoint folder.state) = chunks
  have bytes : chunks.flatten = ops.checkpoint folder.state := pieces ▸ chunksOf_flatten _ _
  let opened : Folder S :=
    { folder with next := folder.next + 1, run := some (.opened folder.next) }
  let collected : Folder S :=
    { opened with
      next := opened.next + chunks.length
      run := some ⟨folder.next, chunks.flatten, chunks.length, chunksChecksum codec chunks⟩ }
  have begun : folder.fold ops codec folder.next
      ((CheckpointRecord.begins folder.next).encode codec) = some (opened, some .run) := by
    simp [fold_next, foldRecord, opened]
  have filled : opened.foldAll ops codec
      (chunks.map fun chunk => (CheckpointRecord.chunk chunk).encode codec)
      = some (collected, List.replicate chunks.length (some .run)) := by
    have fits : (OpenRun.opened folder.next).begin + 1 + (OpenRun.opened folder.next).chunks
        = opened.next := rfl
    rw [foldAll_chunks chunks (show opened.run = some (.opened folder.next) from rfl) fits]
    simp [collected, OpenRun.opened, chunksChecksum]
  have ended : collected.fold ops codec collected.next
      ((CheckpointRecord.ends chunks.length (chunksChecksum codec chunks)).encode codec)
      = some ({ folder with
          next := folder.next + chunks.length + 2, run := none, sinceEntries := 0, sinceBytes := 0 },
        some (.checkpoint folder.next (some true))) := by
    have below : ¬ folder.next + 1 + chunks.length + 1 ≤ folder.next := by omega
    rw [fold_next]
    simp [foldRecord, OpenRun.continuesAt, restore, dropRun, collected, opened, whole, bytes, below]
    omega
  simp only [Paros.run, pieces, List.cons_append, foldAll, begun, Option.bind_some,
    foldAll_append, filled, ended, Option.map_some, List.replicate_succ]

/-- Folds of one record sequence, whatever its bytes and whatever each of them skipped: those
that are whole at one position hold one state, whoever wrote the runs they restored; a run that
any of them writes there is verified as matching by every other; and no assertion fails, on any
record at any position.
-/
theorem checkpointed_agree (lawful : ops.Lawful) (codec : RecordCodec) (records : Nat → Bytes)
    (initial : S)
    : (∀ left right, Reached ops codec records initial left
        → Reached ops codec records initial right → left.whole → right.whole
        → left.next = right.next → left.state = right.state)
      ∧ (∀ writer reader chunkBytes, Reached ops codec records initial writer
        → Reached ops codec records initial reader → writer.whole → reader.whole
        → writer.next = reader.next
        → ∃ passed before, reader.foldAll ops codec
            (Paros.run codec writer.next (ops.checkpoint writer.state) chunkBytes)
            = some (passed, before ++ [some (.checkpoint writer.next (some true))])
          ∧ passed.whole ∧ passed.state = reader.state)
      ∧ (∀ folder, Reached ops codec records initial folder
        → ∀ seq record, (folder.fold ops codec seq record).isSome) := by
  refine ⟨fun _ _ left right => left.states_eq lawful right, ?_, ?_⟩
  · intro writer reader chunkBytes writes reads writerWhole readerWhole same
    rw [writes.states_eq lawful reads writerWhole readerWhole same, same,
      foldAll_run readerWhole chunkBytes]
    exact ⟨_, _, rfl, readerWhole, rfl⟩
  · intro folder history seq record
    rcases Nat.lt_or_ge seq folder.next with past | ahead
    · simp [fold, past]
    · obtain ⟨_, _, taken, _⟩ := fold_view codec lawful (history.fits lawful) ahead record initial
      simp [taken]

end Folder

/-- A log of every entry's bytes. -/
def logOps : Checkpointable Bytes Nat where
  apply state seq record := (state ++ record, seq)
  checkpoint state := state
  restore _ _ bytes := (none, bytes)

theorem logOps_lawful : logOps.Lawful where
  refused _ _ _ _ refusal := by cases refusal
  reads_bytes _ _ _ _ := ⟨rfl, fun _ => rfl⟩
  restores _ _ _ := rfl

/-- A codec that writes every number in unary. -/
def unaryCodec : RecordCodec where
  encode
    | .begins coversUpTo => 4 :: List.replicate coversUpTo 0
    | .chunk bytes => 5 :: bytes
    | .ends chunks checksum => 6 :: (List.replicate chunks 1 ++ List.replicate checksum.toNat 0)
  decode
    | 4 :: rest => some (some (.begins rest.length))
    | 5 :: rest => some (some (.chunk rest))
    | 6 :: rest => some (some (.ends (rest.count 1) (.ofNat (rest.count 0))))
    | _ => none
  crc32cAppend checksum bytes := checksum + .ofNat bytes.length
  decode_encode record := by
    cases record <;> simp [List.count_replicate]

/-- Two entries, their log checkpointed in chunks of one byte, and a third one. -/
def checkpointedRecords (position : Nat) : Bytes :=
  ([[7], [8]] ++ Paros.run unaryCodec 2 [7, 8] 1 ++ [[9]]).getD position []

/-- A reader of every record verifies the checkpoint; one that jumped to it restores it, and both
hold one log.
-/
theorem Folder.checkpointed_agree_log
    : ∃ left right : Folder Bytes,
        Reached logOps unaryCodec checkpointedRecords [] left
        ∧ Reached logOps unaryCodec checkpointedRecords [] right
        ∧ left.next = 7 ∧ right.next = 7 ∧ left.state = [7, 8, 9] ∧ left.state = right.state := by
  have verified : Reached logOps unaryCodec checkpointedRecords [] ⟨[7, 8], 6, true, none, 0, 0⟩ :=
    .fold (.fold (.fold (.fold (.fold (.fold .new 0 rfl) 1 rfl) 2 rfl) 3 rfl) 4 rfl) 5 rfl
  have restored : Reached logOps unaryCodec checkpointedRecords [] ⟨[7, 8], 6, true, none, 0, 0⟩ :=
    .fold (.fold (.fold (.fold (.jump .new 2) 2 rfl) 3 rfl) 4 rfl) 5 rfl
  have left : Reached logOps unaryCodec checkpointedRecords [] ⟨[7, 8, 9], 7, true, none, 1, 1⟩ :=
    verified.fold 6 rfl
  have right : Reached logOps unaryCodec checkpointedRecords [] ⟨[7, 8, 9], 7, true, none, 1, 1⟩ :=
    restored.fold 6 rfl
  exact ⟨_, _, left, right, rfl, rfl, rfl,
    (checkpointed_agree logOps_lawful unaryCodec checkpointedRecords []).1 _ _ left right rfl rfl rfl⟩

end Paros
