import Paros.Durability.Mirrored
import Paros.Proposer.Pages

/-! The ballot an acceptor reports for a slot, over a life of prepares, accepts, learned commits,
repairs, truncations, flushes and reboots that read records back damaged. Votes and repairs never
lower it; a learned commit lowers it where the slot's record was read back damaged at a ballot
above the choosing one.
-/

namespace Paros

-- What is reported

section Reporting

variable {V : Type} {acceptor : Acceptor V} {slot fromSlot limit : Nat}

/-- The ballot a page reports for a slot, as a readable record or a damaged one. -/
def PromisePage.ballotAt (page : PromisePage V) (slot : Nat) : Option Ballot :=
  ((page.accepted[slot]?).map Prod.fst).or page.faulty[slot]?

/-- The ballot the acceptor's pages report for a slot. -/
def Acceptor.reports (acceptor : Acceptor V) (slot : Nat) : Option Ballot :=
  ((acceptor.records[slot]?).map Prod.fst).or acceptor.faulty[slot]?

/-- The slot lies between a page's start and the next cursor. -/
def PromisePage.Spans (page : PromisePage V) (fromSlot slot : Nat) : Prop :=
  fromSlot ≤ slot ∧ page.nextFromSlot.all (slot < ·)

instance (page : PromisePage V) (fromSlot slot : Nat) : Decidable (page.Spans fromSlot slot) :=
  inferInstanceAs (Decidable (_ ∧ _))

theorem Acceptor.promisePage_ballotAt (disjoint : acceptor.Disjoint)
    (spans : (acceptor.promisePage fromSlot limit).Spans fromSlot slot)
    : (acceptor.promisePage fromSlot limit).ballotAt slot = acceptor.reports slot := by
  have filled := promisePage_filled disjoint fromSlot limit
  have accepted := filled.accepted.getElem?_eq slot
  have faulty := filled.faulty.getElem?_eq slot
  rw [PromisePage.ballotAt, accepted.trans (if_pos spans), faulty.trans (if_pos spans), reports]

end Reporting

theorem Mirrors.disjoint {disk : MemStorage} {acceptor : Acceptor Command} {replica : Replica}
    (mirrors : Mirrors disk acceptor replica)
    : acceptor.Disjoint := by
  intro slot record held
  refine Option.eq_none_iff_forall_ne_some.mpr fun ballot damaged => ?_
  rw [(mirrors.faulty damaged).1] at held
  cases held

/-- At or above the floor, the acceptor reports the ballot of the record its image holds. -/
theorem Mirrors.reports_iff {disk : MemStorage} {acceptor : Acceptor Command} {replica : Replica}
    (mirrors : Mirrors disk acceptor replica) {slot : Nat} (retained : acceptor.firstSlot ≤ slot)
    {ballot : Ballot}
    : acceptor.reports slot = some ballot
      ↔ ∃ command, disk.accepted[slot]? = some (ballot, command) := by
  rw [Acceptor.reports, Option.or_eq_some_iff, Option.map_eq_some_iff, Option.map_eq_none_iff]
  constructor
  · rintro (⟨record, held, rfl⟩ | ⟨_, damaged⟩)
    · exact ⟨record.2, mirrors.records held⟩
    · exact (mirrors.faulty damaged).2
  · rintro ⟨command, present⟩
    rcases mirrors.retained present (mirrors.firstSlot ▸ retained) with held | damaged
    · exact Or.inl ⟨_, held, rfl⟩
    · exact Or.inr ⟨(mirrors.faulty damaged).1, damaged⟩

-- Lawful writes

namespace MemStorage

variable {disk : MemStorage} {writes : List WriteOp} {op : WriteOp} {slot : Nat}

/-- A write that lowers neither the promise nor the ballot of a slot's record, and records nothing
above the promise.
-/
def Permits (disk : MemStorage) : WriteOp → Prop
  | .acceptor (.setPromise ballot) => disk.promised ≤ ballot
  | .acceptor (.appendAccepted slot ballot _) =>
    ballot ≤ disk.promised ∧ ∀ record, disk.accepted[slot]? = some record → record.1 ≤ ballot
  | _ => True

/-- Every write was permitted by the image it was made to. -/
def Lawful (writes : List WriteOp) : Prop :=
  ∀ before op, before ++ [op] <+: writes → (replay before).Permits op

theorem Lawful.nil : Lawful [] := by
  intro before op shorter
  simp at shorter

theorem Lawful.concat (lawful : Lawful writes) (permits : (replay writes).Permits op)
    : Lawful (writes ++ [op]) := by
  intro before next shorter
  rcases List.prefix_concat_iff.mp shorter with whole | earlier
  · obtain ⟨rfl, same⟩ := List.append_inj' whole rfl
    obtain rfl := List.singleton_injective same
    exact permits
  · exact lawful before next earlier

theorem Lawful.of_prefix {fewer : List WriteOp} (lawful : Lawful writes) (shorter : fewer <+: writes)
    : Lawful fewer :=
  fun before op earlier => lawful before op (earlier.trans shorter)

theorem replay_concat (writes : List WriteOp) (op : WriteOp)
    : replay (writes ++ [op]) = (replay writes).applyOne op := by
  rw [replay_append]
  rfl

/-- Raising the floor keeps the records at or above it, and adds none. -/
theorem getElem?_raiseFloor (disk : MemStorage) (first slot : Nat)
    : (disk.raiseFloor first).accepted[slot]?
      = if max disk.firstSlot first ≤ slot then disk.accepted[slot]? else none :=
  OrderedMap.getElem?_startingAt

/-- The promise dominates every record, by induction on the writes. -/
theorem Lawful.dominated (lawful : Lawful writes) {record : Ballot × Command}
    (held : (replay writes).accepted[slot]? = some record)
    : record.1 ≤ (replay writes).promised := by
  induction writes using List.reverseRecOn with
  | nil => simp [replay, new] at held
  | append_singleton earlier op ih =>
    have permits := lawful earlier op List.prefix_rfl
    have ih := ih (lawful.of_prefix (List.prefix_append _ _))
    rw [replay_concat] at held ⊢
    cases op with
    | acceptor write =>
      cases write with
      | setPromise ballot => exact (ih held).trans permits
      | appendAccepted place ballot command =>
        simp only [applyOne, OrderedMap.getElem?_insert] at held
        split_ifs at held with same
        · obtain rfl := Option.some.inj held
          exact permits.1
        · exact ih held
    | setChosenIndex chosen => exact ih held
    | truncate | trimmedTo =>
      rw [applyOne, getElem?_raiseFloor, Option.ite_none_right_eq_some] at held
      exact ih held.2

theorem firstSlot_applyOne (disk : MemStorage) (op : WriteOp)
    : disk.firstSlot ≤ (disk.applyOne op).firstSlot := by
  cases op with
  | acceptor write => cases write <;> exact le_rfl
  | setChosenIndex => exact le_rfl
  | truncate | trimmedTo => exact le_max_left _ _

/-- A permitted write leaves the record of a slot it does not drop at its ballot or a higher one. -/
theorem Permits.rises (permits : disk.Permits op) (retained : (disk.applyOne op).firstSlot ≤ slot)
    {record : Ballot × Command} (held : disk.accepted[slot]? = some record)
    : ∃ later, (disk.applyOne op).accepted[slot]? = some later ∧ record.1 ≤ later.1 := by
  cases op with
  | acceptor write =>
    cases write with
    | setPromise ballot => exact ⟨record, held, le_rfl⟩
    | appendAccepted place ballot command =>
      simp only [applyOne, OrderedMap.getElem?_insert]
      split_ifs with same
      · subst same
        exact ⟨_, rfl, permits.2 record held⟩
      · exact ⟨record, held, le_rfl⟩
  | setChosenIndex chosen => exact ⟨record, held, le_rfl⟩
  | truncate | trimmedTo =>
    exact ⟨record, (getElem?_raiseFloor _ _ _).trans ((if_pos retained).trans held), le_rfl⟩

theorem firstSlot_replay_append (writes more : List WriteOp)
    : (replay writes).firstSlot ≤ (replay (writes ++ more)).firstSlot := by
  induction more using List.reverseRecOn with
  | nil => rw [List.append_nil]
  | append_singleton earlier op ih =>
    rw [← List.append_assoc, replay_concat]
    exact ih.trans (firstSlot_applyOne _ op)

/-- Over lawful writes the ballot of a slot's record never falls while the slot is retained, by
induction on the writes added.
-/
theorem Lawful.rises {more : List WriteOp} (lawful : Lawful (writes ++ more))
    (retained : (replay (writes ++ more)).firstSlot ≤ slot) {record : Ballot × Command}
    (held : (replay writes).accepted[slot]? = some record)
    : ∃ later, (replay (writes ++ more)).accepted[slot]? = some later ∧ record.1 ≤ later.1 := by
  induction more using List.reverseRecOn with
  | nil => exact ⟨record, by rwa [List.append_nil], le_rfl⟩
  | append_singleton earlier op ih =>
    rw [← List.append_assoc] at lawful retained ⊢
    have permits := lawful (writes ++ earlier) op List.prefix_rfl
    rw [replay_concat] at retained ⊢
    obtain ⟨middle, found, atMost⟩ := ih (lawful.of_prefix (List.prefix_append _ _))
      ((firstSlot_applyOne _ op).trans retained)
    obtain ⟨later, present, above⟩ := permits.rises retained found
    exact ⟨later, present, atMost.trans above⟩

end MemStorage

-- The acceptor's operations, with the writes they queue

namespace Acceptor

/-- An admitted Accept: its ballot is promised, then its command recorded. -/
def castVote (acceptor : Acceptor Command) (slot : Nat) (ballot : Ballot) (command : Command)
    : Acceptor Command × List (AcceptorWrite Command) :=
  let promised := acceptor.setPromise ballot
  let recorded := promised.1.recordAccepted slot ballot command
  (recorded.1, promised.2 ++ recorded.2)

/-- A learned commit: the choosing ballot is promised, then the command recorded, unless the slot's
readable record carries it at that ballot or a higher one.
-/
def learnChosen (acceptor : Acceptor Command) (slot : Nat) (ballot : Ballot) (command : Command)
    : Acceptor Command × List (AcceptorWrite Command) :=
  let raised := if acceptor.promised < ballot then acceptor.setPromise ballot else (acceptor, [])
  if raised.1.carries slot ballot command then raised
  else
    let recorded := raised.1.recordAccepted slot ballot command
    (recorded.1, raised.2 ++ recorded.2)

end Acceptor

/-- What a node's acceptor makes of a learned commit, and the writes the node queues for it. -/
theorem Node.recordChosen_learns (node : Node) (slot : Nat) (ballot : Ballot) (command : Command)
    : let recorded := (node.raiseTo ballot).recordChosen slot command ballot
      let learned := node.acceptor.learnChosen slot ballot command
      recorded.acceptor = learned.1
        ∧ recorded.pendingWrites = node.pendingWrites ++ learned.2.map .acceptor := by
  unfold Acceptor.learnChosen Node.recordChosen
  extract_lets recorded raised accepted learned
  obtain ⟨acceptor, writes⟩ : (node.raiseTo ballot).acceptor = raised.1
      ∧ (node.raiseTo ballot).pendingWrites = node.pendingWrites ++ raised.2.map .acceptor := by
    unfold Node.raiseTo raised
    split
    · dsimp only
      split <;> exact ⟨rfl, rfl⟩
    · exact ⟨rfl, (List.append_nil _).symm⟩
  unfold recorded learned accepted
  rw [acceptor]
  split
  · exact ⟨acceptor, writes⟩
  · simp [Node.recordAccepted, Node.queueWrites, acceptor, writes]

-- A life of an acceptor

/-- An acceptor with the writes of its open batch and those it has flushed. -/
structure Custody where
  acceptor : Acceptor Command
  pending : List WriteOp
  log : List WriteOp

namespace Custody

/-- What may happen to an acceptor. -/
inductive Event where
  | prepare (ballot : Ballot) (fromSlot : Nat)
  | accept (ballot : Ballot) (slot : Nat) (command : Command)
  | learn (slot : Nat) (ballot : Ballot) (command : Command)
  | rewrite (slot : Nat)
  | truncate (first : Nat) (sealedAt : JournalState)
  | trim (point : Nat) (state : JournalState)
  | flush
  | reboot (faulty : Finset Nat)

variable {custody : Custody} {slot : Nat} {ballot : Ballot} {command : Command}

def start : Custody := ⟨⟨.zero, ∅, ∅, 0⟩, [], []⟩

def written (custody : Custody) : List WriteOp := custody.log ++ custody.pending

/-- The acceptor after an operation, with what the operation wrote in the open batch. -/
def move (custody : Custody) (moved : Acceptor Command × List WriteOp) : Custody :=
  { custody with acceptor := moved.1, pending := custody.pending ++ moved.2 }

def write (custody : Custody) (moved : Acceptor Command × List (AcceptorWrite Command)) : Custody :=
  custody.move (moved.1, moved.2.map .acceptor)

def apply (custody : Custody) : Event → Custody
  | .prepare ballot fromSlot =>
    let prepared := custody.acceptor.prepare ballot fromSlot
    custody.write (prepared.1, prepared.2.1)
  | .accept ballot slot command =>
    match custody.acceptor.admitAccept ballot slot with
    | .admitted => custody.write (custody.acceptor.castVote slot ballot command)
    | _ => custody
  | .learn slot ballot command =>
    if slot < custody.acceptor.firstSlot then custody
    else custody.write (custody.acceptor.learnChosen slot ballot command)
  | .rewrite slot => custody.write (custody.acceptor, custody.acceptor.rewrite slot)
  | .truncate first sealedAt =>
    if first ≤ custody.acceptor.firstSlot then custody
    else custody.move (custody.acceptor.dropPrefix first, [.truncate first sealedAt])
  | .trim point state =>
    if point ≤ custody.acceptor.firstSlot then custody
    else custody.move (custody.acceptor.dropPrefix point, [.trimmedTo point state])
  | .flush => { custody with pending := [], log := custody.written }
  | .reboot faulty =>
    let disk := MemStorage.replay custody.log
    ⟨⟨disk.promised, disk.readable faulty, disk.damaged faulty, disk.firstSlot⟩, [], custody.log⟩

def after (custody : Custody) (events : List Event) : Custody := events.foldl apply custody

/-- A condition met by every event at the moment it happens. -/
def Throughout (condition : Custody → Event → Prop) : Custody → List Event → Prop
  | _, [] => True
  | custody, event :: rest =>
    condition custody event ∧ Throughout condition (custody.apply event) rest

/-- The source's assertion on a record: a readable record's ballot never falls. It can fail only
where a command other than the recorded one is chosen below the recorded ballot.
-/
def Asserts (custody : Custody) : Event → Prop
  | .learn slot ballot command => ∀ held recorded,
      custody.acceptor.records[slot]? = some (held, recorded)
      → recorded = command ∧ ballot ≤ held ∨ held ≤ ballot
  | _ => True

/-- No learned commit lands on a record read back damaged above the choosing ballot. -/
def Spares (custody : Custody) : Event → Prop
  | .learn slot ballot _ => ∀ rotted, custody.acceptor.faulty[slot]? = some rotted → rotted ≤ ballot
  | _ => True

/-- The acceptor mirrors its image, and every write was lawful. -/
structure Sound (custody : Custody) : Prop where
  mirrors : ∃ replica, Mirrors (MemStorage.replay custody.written) custody.acceptor replica
  lawful : MemStorage.Lawful custody.written

theorem written_move (custody : Custody) (moved : Acceptor Command × List WriteOp)
    : (custody.move moved).written = custody.written ++ moved.2 :=
  (List.append_assoc _ _ _).symm

theorem Sound.of_written {writes : List WriteOp} (same : custody.written = writes)
    (mirrors : ∃ replica, Mirrors (MemStorage.replay writes) custody.acceptor replica)
    (lawful : MemStorage.Lawful writes)
    : custody.Sound := by
  subst same
  exact ⟨mirrors, lawful⟩

section

variable (sound : custody.Sound)
include sound

/-- One lawful write that the acceptor mirrors. -/
theorem Sound.move_one {next : Acceptor Command} {op : WriteOp}
    (permits : (MemStorage.replay custody.written).Permits op)
    (mirrors : ∃ replica,
      Mirrors ((MemStorage.replay custody.written).applyOne op) next replica)
    : (custody.move (next, [op])).Sound := by
  refine .of_written (written_move ..) ?_ (sound.lawful.concat permits)
  rw [MemStorage.replay_concat]
  exact mirrors

theorem Sound.move_none : (custody.move (custody.acceptor, [])).Sound :=
  .of_written ((written_move ..).trans (List.append_nil _)) sound.mirrors sound.lawful

theorem Sound.disjoint : custody.acceptor.Disjoint := by
  obtain ⟨replica, mirrors⟩ := sound.mirrors
  exact mirrors.disjoint

/-- The promise dominates every report. -/
theorem Sound.reports_le (retained : custody.acceptor.firstSlot ≤ slot)
    (reported : custody.acceptor.reports slot = some ballot)
    : ballot ≤ custody.acceptor.promised := by
  obtain ⟨replica, mirrors⟩ := sound.mirrors
  obtain ⟨command, held⟩ := (mirrors.reports_iff retained).mp reported
  exact mirrors.promised ▸ sound.lawful.dominated held

theorem Sound.setPromise (atLeast : custody.acceptor.promised ≤ ballot)
    : (custody.write (custody.acceptor.setPromise ballot)).Sound := by
  obtain ⟨replica, mirrors⟩ := sound.mirrors
  unfold Acceptor.setPromise
  split
  · exact sound.move_none
  · have permits : (MemStorage.replay custody.written).promised ≤ ballot := mirrors.promised ▸ atLeast
    exact sound.move_one permits ⟨replica, mirrors.promise ballot⟩

/-- A record at or below the promise and at or above what is reported for its slot. -/
theorem Sound.record (promised : ballot ≤ custody.acceptor.promised)
    (retained : custody.acceptor.firstSlot ≤ slot)
    (rises : ∀ held, custody.acceptor.reports slot = some held → held ≤ ballot)
    : (custody.write (custody.acceptor.recordAccepted slot ballot command)).Sound := by
  obtain ⟨replica, mirrors⟩ := sound.mirrors
  refine sound.move_one ⟨mirrors.promised ▸ promised, ?_⟩ ⟨replica, mirrors.record slot ballot command⟩
  intro record held
  exact rises record.1 ((mirrors.reports_iff retained).mpr ⟨record.2, held⟩)

end

theorem write_write (custody : Custody)
    (first second : Acceptor Command × List (AcceptorWrite Command))
    : (custody.write first).write second = custody.write (second.1, first.2 ++ second.2) := by
  simp only [write, move, List.map_append, List.append_assoc]

/-- A record right after its ballot was promised. -/
theorem Sound.promise_record {raised : Acceptor Command × List (AcceptorWrite Command)}
    (written : (custody.write raised).Sound)
    {promised : Ballot} (moved : raised.1 = { custody.acceptor with promised := promised })
    (within : ballot ≤ promised) (retained : custody.acceptor.firstSlot ≤ slot)
    (rises : ∀ held, custody.acceptor.reports slot = some held → held ≤ ballot)
    : (custody.write ((raised.1.recordAccepted slot ballot command).1,
        raised.2 ++ (raised.1.recordAccepted slot ballot command).2)).Sound := by
  have acceptor : (custody.write raised).acceptor = { custody.acceptor with promised := promised } :=
    moved
  have recorded : ((custody.write raised).write
      ((custody.write raised).acceptor.recordAccepted slot ballot command)).Sound := by
    refine written.record ?_ ?_ ?_
    · rw [acceptor]
      exact within
    · rw [acceptor]
      exact retained
    · rw [acceptor]
      exact rises
  rwa [write_write] at recorded

section

variable (sound : custody.Sound)
include sound

theorem Sound.castVote (retained : custody.acceptor.firstSlot ≤ slot)
    (promised : custody.acceptor.promised ≤ ballot)
    : (custody.write (custody.acceptor.castVote slot ballot command)).Sound := by
  refine (sound.setPromise promised).promise_record custody.acceptor.setPromise_fst le_rfl retained ?_
  exact fun held reported => (sound.reports_le retained reported).trans promised

/-- A learned commit that the source's assertion admits and that spares damaged records. -/
theorem Sound.learnChosen (retained : custody.acceptor.firstSlot ≤ slot)
    (asserts : custody.Asserts (.learn slot ballot command))
    (spares : custody.Spares (.learn slot ballot command))
    : (custody.write (custody.acceptor.learnChosen slot ballot command)).Sound := by
  unfold Acceptor.learnChosen
  extract_lets raised recorded
  have moved : raised.1
      = { custody.acceptor with promised := max custody.acceptor.promised ballot } := by
    unfold raised
    split
    next above => rw [Acceptor.setPromise_fst, max_eq_right above.le]
    next below => rw [max_eq_left (not_lt.mp below)]
  have promised : (custody.write raised).Sound := by
    unfold raised
    split
    next above => exact sound.setPromise above.le
    next => exact sound.move_none
  split
  · exact promised
  next fresh =>
    refine promised.promise_record moved (le_max_right _ _) retained fun held reported => ?_
    rw [moved] at fresh
    rcases Option.or_eq_some_iff.mp reported with readable | ⟨_, damaged⟩
    · obtain ⟨record, present, rfl⟩ := Option.map_eq_some_iff.mp readable
      refine (asserts record.1 record.2 present).resolve_left fun carried => fresh ?_
      simp [Acceptor.carries, present, carried.1, carried.2]
    · exact spares held damaged

theorem Sound.rewrite (slot : Nat)
    : (custody.write (custody.acceptor, custody.acceptor.rewrite slot)).Sound := by
  obtain ⟨replica, mirrors⟩ := sound.mirrors
  unfold Acceptor.rewrite
  split
  next ballot command held =>
    have present := mirrors.records held
    refine sound.move_one ⟨sound.lawful.dominated present, ?_⟩ ⟨replica, ?_⟩
    · intro record found
      obtain rfl := Option.some.inj (present.symm.trans found)
      exact le_rfl
    · rw [mirrors.rewrite held]
      exact mirrors
  next => exact sound.move_none

/-- Dropping a prefix, with any journal kept for it. -/
theorem Sound.dropPrefix {first : Nat} {op : WriteOp} {index : Option Nat} {base : JournalState}
    (raises : custody.acceptor.firstSlot < first)
    (permits : (MemStorage.replay custody.written).Permits op)
    (applies : (MemStorage.replay custody.written).applyOne op
      = ({ MemStorage.replay custody.written with
        chosenIndex := index, sealedAt := base } : MemStorage).raiseFloor first)
    : (custody.move (custody.acceptor.dropPrefix first, [op])).Sound := by
  obtain ⟨replica, mirrors⟩ := sound.mirrors
  let next : Replica := { replica with floor := first, base := base, chosenIndex := index }
  refine sound.move_one permits ⟨next, ?_⟩
  rw [applies]
  exact mirrors.raiseFloor raises (show next.floor = first from rfl)

theorem Sound.reboot (faulty : Finset Nat)
    : (custody.apply (.reboot faulty)).Sound := by
  refine .of_written (List.append_nil _) ?_ (sound.lawful.of_prefix (List.prefix_append _ _))
  exact ⟨_, Mirrors.boot .lone .few (MemStorage.replay custody.log) faulty⟩

/-- Every event keeps the acceptor sound, one case each. -/
theorem Sound.apply {event : Event} (asserts : custody.Asserts event)
    (spares : custody.Spares event)
    : (custody.apply event).Sound := by
  fun_cases Custody.apply custody event
  case case1 prepared =>
    unfold prepared Acceptor.prepare
    split_ifs with below passed above
    case pos => exact sound.move_none
    case pos => exact sound.move_none
    case pos => exact sound.setPromise above.le
    case neg => exact sound.move_none
  case case2 admitted =>
    unfold Acceptor.admitAccept at admitted
    split_ifs at admitted with dropped refused
    exact sound.castVote (not_lt.mp dropped) (not_lt.mp refused)
  case case5 retained => exact sound.learnChosen (not_lt.mp retained) asserts spares
  case case6 => exact sound.rewrite _
  case case8 raises | case10 raises => exact sound.dropPrefix (not_le.mp raises) trivial rfl
  case case11 => exact .of_written (List.append_nil _) sound.mirrors sound.lawful
  case case12 => exact sound.reboot _
  all_goals exact sound

theorem Sound.after {events : List Event}
    (asserts : Throughout Asserts custody events) (spares : Throughout Spares custody events)
    : (custody.after events).Sound := by
  induction events generalizing custody with
  | nil => exact sound
  | cons event rest ih => exact ih (sound.apply asserts.1 spares.1) asserts.2 spares.2

end

theorem start_sound : start.Sound where
  mirrors := ⟨_, Mirrors.boot .lone .few .new ∅⟩
  lawful := .nil

theorem Throughout.append {condition : Custody → Event → Prop} {events more : List Event}
    (all : Throughout condition custody (events ++ more))
    : Throughout condition custody events ∧ Throughout condition (custody.after events) more := by
  induction events generalizing custody with
  | nil => exact ⟨trivial, all⟩
  | cons event rest ih =>
    obtain ⟨here, later⟩ := all
    obtain ⟨before, after⟩ := ih later
    exact ⟨⟨here, before⟩, after⟩

/-- The ballot an acceptor reports for a slot never falls, from one moment of a run to a later one
that still has what was written by then: any page of the later acceptor that spans the slot reports
a ballot at or above the one an earlier page reported. It holds of every run in which no learned
commit lands on a record read back damaged above the choosing ballot.
-/
theorem reported_ballot_never_falls {events more : List Event} {slot : Nat} {ballot : Ballot}
    (asserts : Throughout Asserts start (events ++ more))
    (spares : Throughout Spares start (events ++ more))
    (kept : (start.after events).written <+: (start.after (events ++ more)).written)
    (retained : (start.after (events ++ more)).acceptor.firstSlot ≤ slot)
    (fromSlot limit : Nat)
    (spans : ((start.after events).acceptor.promisePage fromSlot limit).Spans fromSlot slot)
    (reported : ((start.after events).acceptor.promisePage fromSlot limit).ballotAt slot
      = some ballot)
    (laterFrom laterLimit : Nat)
    (laterSpans : ((start.after (events ++ more)).acceptor.promisePage laterFrom laterLimit).Spans
      laterFrom slot)
    : ∃ later, ((start.after (events ++ more)).acceptor.promisePage laterFrom laterLimit).ballotAt
        slot = some later ∧ ballot ≤ later := by
  have sound : (start.after events).Sound :=
    start_sound.after asserts.append.1 spares.append.1
  have soundLater : (start.after (events ++ more)).Sound := start_sound.after asserts spares
  obtain ⟨replica, mirrors⟩ := sound.mirrors
  obtain ⟨replicaLater, mirrorsLater⟩ := soundLater.mirrors
  obtain ⟨added, grown⟩ := kept
  have floor : (MemStorage.replay (start.after events).written).firstSlot ≤ slot := by
    rw [mirrorsLater.firstSlot, ← grown] at retained
    exact (MemStorage.firstSlot_replay_append _ added).trans retained
  rw [Acceptor.promisePage_ballotAt sound.disjoint spans] at reported
  obtain ⟨command, held⟩ := (mirrors.reports_iff (mirrors.firstSlot ▸ floor)).mp reported
  have lawful : MemStorage.Lawful ((start.after events).written ++ added) :=
    grown ▸ soundLater.lawful
  obtain ⟨later, present, above⟩ := lawful.rises
    (by rw [grown, ← mirrorsLater.firstSlot]; exact retained) held
  refine ⟨later.1, ?_, above⟩
  rw [Acceptor.promisePage_ballotAt soundLater.disjoint laterSpans]
  exact (mirrorsLater.reports_iff retained).mpr ⟨later.2, grown ▸ present⟩

theorem kept_learn (custody : Custody) (slot : Nat) (ballot : Ballot) (command : Command)
    : custody.written <+: (custody.apply (.learn slot ballot command)).written := by
  unfold Custody.apply
  dsimp only
  split
  · exact List.prefix_rfl
  · rw [write, written_move]
    exact List.prefix_append _ _

/-- A vote in slot 3, flushed, whose record reads back damaged. -/
def damagedVote (ballot : Ballot) : List Event := [.accept ballot 3 .noop, .flush, .reboot {3}]

theorem damagedVote_unreadable
    : (start.after (damagedVote ⟨4, 0⟩)).acceptor.records[3]? = none
      ∧ (start.after (damagedVote ⟨1, 0⟩)).acceptor.records[3]? = none := by
  decide +kernel

/-- A damaged vote at ballot (4, 0) is replaced by the commit of its slot at the lower choosing
ballot (2, 2), with the same command.
-/
theorem learned_commit_lowers_report
    : let commit : Event := .learn 3 ⟨2, 2⟩ .noop
      let earlier := start.after (damagedVote ⟨4, 0⟩)
      let later := start.after (damagedVote ⟨4, 0⟩ ++ [commit])
      Throughout Asserts start (damagedVote ⟨4, 0⟩ ++ [commit])
        ∧ earlier.written <+: later.written ∧ later.acceptor.firstSlot ≤ 3
        ∧ (earlier.acceptor.promisePage 0 4).Spans 0 3 ∧ (later.acceptor.promisePage 0 4).Spans 0 3
        ∧ (earlier.acceptor.promisePage 0 4).ballotAt 3 = some ⟨4, 0⟩
        ∧ (later.acceptor.promisePage 0 4).ballotAt 3 = some ⟨2, 2⟩
        ∧ (⟨2, 2⟩ : Ballot) < ⟨4, 0⟩ := by
  refine ⟨⟨trivial, trivial, trivial, ?_, trivial⟩, kept_learn _ 3 ⟨2, 2⟩ .noop, ?_⟩
  · intro held recorded present
    exact absurd (present.symm.trans damagedVote_unreadable.1) (Option.some_ne_none _)
  · decide +kernel

/-- A damaged vote at ballot (1, 0), repaired by the commit of its slot at a higher ballot. -/
theorem reported_ballot_never_falls_repaired
    : ∃ later, ((start.after (damagedVote ⟨1, 0⟩ ++ [.learn 3 ⟨2, 2⟩ .noop])).acceptor.promisePage
        0 4).ballotAt 3 = some later ∧ (⟨1, 0⟩ : Ballot) ≤ later := by
  have asserts : Throughout Asserts start (damagedVote ⟨1, 0⟩ ++ [.learn 3 ⟨2, 2⟩ .noop]) := by
    refine ⟨trivial, trivial, trivial, fun held recorded present => ?_, trivial⟩
    exact absurd (present.symm.trans damagedVote_unreadable.2) (Option.some_ne_none _)
  have spares : Throughout Spares start (damagedVote ⟨1, 0⟩ ++ [.learn 3 ⟨2, 2⟩ .noop]) := by
    refine ⟨trivial, trivial, trivial, fun rotted damaged => ?_, trivial⟩
    have known : (start.after (damagedVote ⟨1, 0⟩)).acceptor.faulty[3]? = some ⟨1, 0⟩ := by
      decide +kernel
    obtain rfl := Option.some.inj (damaged.symm.trans known)
    decide
  exact reported_ballot_never_falls asserts spares (kept_learn _ 3 ⟨2, 2⟩ .noop)
    (by decide +kernel) 0 4 (by decide +kernel) (by decide +kernel) 0 4
    (by decide +kernel)

end Custody

end Paros
