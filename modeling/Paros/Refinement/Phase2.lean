import Paros.Protocol.Act

/-! Learning, compaction and Phase 2 of the code are sequences of protocol acts. -/

open Paros.Core (Act Acts)

namespace Paros

open Node (Input)

namespace Core

variable {input : Input}

theorem Acts.refl (core : Core) : Acts input core core :=
  Relation.ReflTransGen.refl

theorem Acts.trans {first second third : Core}
    (left : Acts input first second) (right : Acts input second third)
    : Acts input first third :=
  Relation.ReflTransGen.trans left right

variable {first second : Core}

theorem Act.acts (act : Act input first second)
    : Acts input first second :=
  .single act

/-- An act after a sequence. -/
theorem Acts.then {first second third : Core}
    (left : Acts input first second) (act : Act input second third)
    : Acts input first third :=
  .tail left act

theorem compact_me {core : Core} {upTo : Nat} : (core.compact upTo).me = core.me := by
  unfold compact
  split
  · rfl
  · dsimp only
    split <;> rfl

theorem walk_me {core : Core} : core.walk.me = core.me := by
  unfold walk
  split
  · exact compact_me
  · rfl

/-- Acts never change who a node is. -/
theorem Act.me_eq (act : Act input first second)
    : second.me = first.me := by
  cases act with
  | learn => exact walk_me
  | walk => exact walk_me
  | compact => exact compact_me
  | trim => exact walk_me
  | _ => first | rfl | (split <;> rfl)

theorem Acts.me_eq (acts : Acts input first second)
    : second.me = first.me := by
  induction acts with
  | refl => rfl
  | tail _ act same => exact act.me_eq.trans same

end Core

namespace Node

/-- A node becomes another by acts that note nothing. -/
abbrev Becomes (node : Node) (input : Input) (notes : Notes) (next : Node) : Prop :=
  Acts input (node.core notes) (next.core notes)

variable {input : Input} {node : Node} {notes : Notes}

-- The acceptor's records

variable {ballot : Ballot}

theorem setPromise_core (raises : node.acceptor.promised ≠ ballot)
    : (node.setPromise ballot).core notes = (node.core notes).promise ballot := by
  simp only [setPromise, Acceptor.setPromise, if_neg raises]
  rfl

theorem setPromise_acts (atMost : node.acceptor.promised ≤ ballot)
    : node.Becomes input notes (node.setPromise ballot) := by
  by_cases same : node.acceptor.promised = ballot
  · have unchanged : (node.setPromise ballot).core notes = node.core notes := by
      simp [setPromise, Acceptor.setPromise, same, queueWrites, core]
    rw [Becomes, unchanged]
    exact .refl _
  · rw [Becomes, setPromise_core same]
    exact (Act.promise (lt_of_le_of_ne atMost same)).acts

theorem becomeFollower_acts {leader : Option NodeId}
    : node.Becomes input notes (node.becomeFollower leader) :=
  Act.retire.acts

/-- A proposer that holds no more is a step of the protocol. -/
theorem lessen_acts {proposer : Proposer Command} (lessens : proposer.Lessens node.proposer)
    : node.Becomes input notes { node with proposer := proposer } :=
  (Act.lessen lessens).acts

theorem say_acts {audience : Audience} {message : Message}
    (speaks : (node.core notes).Speaks input audience message)
    : node.Becomes input notes (node.push audience message) :=
  (Act.say speaks).acts

-- Learning

theorem serveQuorumReads_acts
    : node.Becomes input notes node.serveQuorumReads :=
  Act.serve.acts

variable {upTo : Nat}

theorem compact_core
    : (node.compact upTo).core notes = (node.core notes).compact upTo := by
  unfold compact Core.compact
  dsimp only [core]
  cases node.replica.compactionTarget with
  | none => rfl
  | some target =>
    dsimp only
    split
    case isTrue low => exact (if_pos low).symm
    case isFalse raises => exact (if_neg raises).symm

theorem compact_acts (asked : input = .compact upTo)
    : node.Becomes input notes (node.compact upTo) := by
  rw [Becomes, compact_core]
  exact (Act.compact asked).acts

theorem walk_core
    : (node.applyChosen.compactDue node.dueCompaction).core notes = (node.core notes).walk := by
  let settle (core : Core) : Core := { core with replica := core.replica.assertCompacted }
  unfold Core.walk
  cases due : node.dueCompaction with
  | none =>
    have none : ((node.core notes).replica.advance (node.core notes).recordBallot).2.2 = none :=
      due
    rw [none]
    rfl
  | some upTo =>
    have some : ((node.core notes).replica.advance (node.core notes).recordBallot).2.2
        = some upTo := due
    have compacted : (node.applyChosen.compact upTo).core notes
        = (node.core notes).applyPage.compact upTo := compact_core
    rw [some]
    exact congrArg settle compacted

theorem advanceChosenIndex_acts
    : node.Becomes input notes node.advanceChosenIndex := by
  have walked : node.Becomes input notes (node.applyChosen.compactDue node.dueCompaction) := by
    rw [Becomes, walk_core]
    exact Act.walk.acts
  exact walked.trans serveQuorumReads_acts

theorem raiseTo_acts
    : node.Becomes input notes (node.raiseTo ballot) := by
  unfold raiseTo
  split
  case isFalse => exact .refl _
  case isTrue above =>
    have promised : node.Becomes input notes (node.setPromise ballot) :=
      setPromise_acts above.le
    dsimp only
    split
    · exact promised.trans becomeFollower_acts
    · exact promised

theorem setPromise_acceptor
    : (node.setPromise ballot).acceptor = { node.acceptor with promised := ballot } :=
  node.acceptor.setPromise_fst

/-- Raising the promise for a ballot reaches it and touches nothing else of the acceptor. -/
theorem raiseTo_acceptor
    : (node.raiseTo ballot).acceptor
      = { node.acceptor with promised := max node.acceptor.promised ballot } := by
  unfold raiseTo
  split
  case isFalse below =>
    rw [max_eq_left (not_lt.mp below)]
  case isTrue above =>
    rw [max_eq_right above.le, ← setPromise_acceptor]
    dsimp only
    split <;> rfl

variable {command : Command} {slot : Nat}

theorem recordChosen_acts (known : (slot, ballot, command) ∈ notes.known)
    (retained : node.acceptor.firstSlot ≤ slot) (promised : ballot ≤ node.acceptor.promised)
    : node.Becomes input notes (node.recordChosen slot command ballot) := by
  unfold recordChosen
  split
  · exact .refl _
  · change Acts input (node.core notes) ((node.core notes).record slot ballot command)
    exact (Act.recordKnown known retained promised).acts

/-- After recording a chosen command the slot's record carries it, at such a ballot. -/
theorem recordChosen_held
    : ∃ held, (node.recordChosen slot command ballot).acceptor.records[slot]? = some (held, command)
      ∧ ballot ≤ held := by
  unfold recordChosen
  split
  case isFalse =>
    exact ⟨ballot, by simp [recordAccepted, Acceptor.recordAccepted, queueWrites], le_rfl⟩
  case isTrue keeps =>
    cases present : node.acceptor.records[slot]? with
    | none => simp [Acceptor.carries, present] at keeps
    | some record =>
      simp only [Acceptor.carries, present, Option.any_some, Bool.and_eq_true, beq_iff_eq,
        decide_eq_true_eq] at keeps
      exact ⟨record.1, congrArg some (Prod.ext rfl keeps.1), keeps.2⟩

/-- Learning a command whose record is held, and applying what it makes contiguous. -/
theorem learnChosen_acts {ballot held : Ballot} (known : (slot, ballot, command) ∈ notes.known)
    (recorded : node.acceptor.records[slot]? = some (held, command)) (covers : ballot ≤ held)
    (retained : node.acceptor.firstSlot ≤ slot) (unknown : node.replica.isChosen slot = false)
    : Acts input (node.core notes)
      ((node.learnChosen slot command).advanceChosenIndex.core notes) := by
  let resolved : Node :=
    { node with proposer := node.proposer.probeResolvedElsewhere slot }
  have lessened : node.Becomes input notes resolved :=
    lessen_acts (node.proposer.probeResolvedElsewhere_lessens slot)
  have learned : Act input (resolved.core notes)
      (((node.learnChosen slot command).core notes).walk) :=
    .learn known recorded covers retained unknown
  rw [← walk_core] at learned
  exact (lessened.then learned).trans serveQuorumReads_acts

theorem raiseTo_replica : (node.raiseTo ballot).replica = node.replica := by
  unfold raiseTo
  split
  · dsimp only
    split <;> rfl
  · rfl

theorem recordChosen_frame
    : (node.recordChosen slot command ballot).replica = node.replica
      ∧ (node.recordChosen slot command ballot).acceptor.firstSlot = node.acceptor.firstSlot := by
  unfold recordChosen
  split <;> exact ⟨rfl, rfl⟩

/-- Learning a known command: promise, record, learn, advance. -/
theorem markChosen_acts (known : (slot, ballot, command) ∈ notes.known)
    : node.Becomes input notes (node.markChosen slot command ballot) := by
  unfold markChosen
  split
  · exact .refl _
  case isFalse retained =>
    split
    · exact advanceChosenIndex_acts
    case isFalse unknown =>
      let recorded := (node.raiseTo ballot).recordChosen slot command ballot
      have carried : ∃ held, recorded.acceptor.records[slot]? = some (held, command)
          ∧ ballot ≤ held := recordChosen_held
      obtain ⟨held, recordedAt, covers⟩ := carried
      have kept : (node.raiseTo ballot).acceptor.firstSlot ≤ slot := by
        rw [raiseTo_acceptor]
        exact not_lt.mp retained
      have promised : ballot ≤ (node.raiseTo ballot).acceptor.promised := by
        rw [raiseTo_acceptor]
        exact le_max_right _ _
      have unlearned : recorded.replica.isChosen slot = false := by
        rw [recordChosen_frame.1, raiseTo_replica]
        exact eq_false_of_ne_true unknown
      have least : recorded.acceptor.firstSlot ≤ slot := by
        rw [recordChosen_frame.2]
        exact kept
      exact (raiseTo_acts.trans (recordChosen_acts known kept promised)).trans
        (learnChosen_acts known recordedAt covers least unlearned)

theorem closeRound_acts
    : node.Becomes input notes (node.closeRound slot) := by
  refine lessen_acts (Proposer.Lessens.ofRounds fun same => ?_)
  rw [Rounds.close, OrderedMap.getElem?_erase] at same
  split at same
  · cases same
  · exact same

/-- Noting what the state or the message at hand shows. -/
theorem know_acts {facts : Set (Nat × Ballot × Command)}
    (knows : ∀ fact ∈ facts, (node.core notes).Knows input fact)
    : Acts input (node.core notes) (node.core (notes.know facts)) :=
  (Act.know knows).acts

/-- A node moves to another by acts, whatever it has noted in the end. -/
def Reaches (input : Input) (node : Node) (notes : Notes) (next : Node) : Prop :=
  ∃ final, Acts input (node.core notes) (next.core final)

/-- A call moves a node as the protocol allows: by acts, from nothing noted. -/
def Plays (input : Input) (node next : Node) : Prop := node.Reaches input .none next

theorem Reaches.refl : node.Reaches input notes node := ⟨notes, .refl _⟩

theorem Reaches.after {middle next : Node} {noted : Notes}
    (reaches : middle.Reaches input noted next)
    (acts : Acts input (node.core notes) (middle.core noted))
    : node.Reaches input notes next := by
  obtain ⟨final, last⟩ := reaches
  exact ⟨final, acts.trans last⟩

theorem Reaches.then {middle next : Node} (reaches : node.Reaches input notes middle)
    (last : ∀ noted, middle.Reaches input noted next)
    : node.Reaches input notes next := by
  obtain ⟨noted, first⟩ := reaches
  exact (last noted).after first

variable {sender : NodeId}

theorem onCommit_plays (told : input = .deliver (.commit sender ballot slot command))
    : node.Plays input (node.onCommit ballot slot command) := by
  let known := Notes.none.know {(slot, ballot, command)}
  have noted : Acts input (node.core .none) (node.core known) :=
    know_acts (by rintro fact rfl; exact .committed told)
  have learned (heard : Node)
      : heard.Becomes input known (heard.markChosen slot command ballot) :=
    markChosen_acts (Or.inr rfl)
  have closed (learned : Node)
      : learned.Becomes input known
        (if learned.proposer.rounds.isOpenAt slot ballot then learned.closeRound slot
          else learned) := by
    split
    · exact closeRound_acts
    · exact .refl _
  refine ⟨known, noted.trans ?_⟩
  unfold onCommit
  dsimp only
  split
  · exact (learned { node with electionElapsed := 0 }).trans (closed _)
  · exact (learned node).trans (closed _)

-- Learning keeps a leader in office

/-- A node that still leads, with the same slots allocated. -/
structure InOffice (next node : Node) : Prop where
  role : next.role = .leader
  nextSlot : next.proposer.nextSlot = node.proposer.nextSlot

theorem compact_inOffice (leads : node.role = .leader)
    : (node.compact upTo).InOffice node := by
  unfold compact
  split
  · exact ⟨leads, rfl⟩
  · dsimp only
    split <;> exact ⟨leads, rfl⟩

theorem compactDue_inOffice {due : Option Nat} (leads : node.role = .leader)
    : (node.compactDue due).InOffice node := by
  cases due with
  | none => exact ⟨leads, rfl⟩
  | some upTo =>
    have compacted : (node.compact upTo).InOffice node := compact_inOffice leads
    exact { role := compacted.role, nextSlot := compacted.nextSlot }

theorem advanceChosenIndex_inOffice (leads : node.role = .leader)
    : node.advanceChosenIndex.InOffice node := by
  have applied : node.applyChosen.role = .leader := leads
  have settled : (node.applyChosen.compactDue node.dueCompaction).InOffice node.applyChosen :=
    compactDue_inOffice applied
  exact { role := settled.role, nextSlot := settled.nextSlot }

theorem markChosen_inOffice (leads : node.role = .leader)
    : (node.markChosen slot command ballot).InOffice node := by
  unfold markChosen
  split
  · exact ⟨leads, rfl⟩
  · split
    · exact advanceChosenIndex_inOffice leads
    · have raised : (node.raiseTo ballot).InOffice node := by
        unfold raiseTo
        split
        · dsimp only
          split
          case isTrue candidate => exact absurd (leads.symm.trans candidate) (by simp)
          case isFalse => exact ⟨leads, rfl⟩
        · exact ⟨leads, rfl⟩
      have learned : (((node.raiseTo ballot).recordChosen slot command ballot).learnChosen slot
          command).InOffice node := by
        unfold recordChosen
        split <;> exact ⟨raised.role, raised.nextSlot⟩
      have advanced := advanceChosenIndex_inOffice learned.role
      exact ⟨advanced.role, advanced.nextSlot.trans learned.nextSlot⟩

/-- Learning a list of commands keeps a leader in office, by induction on the list. -/
theorem foldMarkChosen_inOffice (entries : List (Nat × Ballot × Command))
    (leads : node.role = .leader)
    : (entries.foldl (fun node (slot, ballot, command) => node.markChosen slot command ballot)
        node).InOffice node := by
  induction entries generalizing node with
  | nil => exact ⟨leads, rfl⟩
  | cons entry rest ih =>
    obtain ⟨slot, ballot, command⟩ := entry
    have marked : (node.markChosen slot command ballot).InOffice node :=
      markChosen_inOffice leads
    have folded := ih marked.role
    exact ⟨folded.role, folded.nextSlot.trans marked.nextSlot⟩

/-- Learning a list of known commands, by induction on the list. -/
theorem foldMarkChosen_acts (entries : List (Nat × Ballot × Command))
    (known : ∀ entry ∈ entries, entry ∈ notes.known)
    : node.Becomes input notes
      (entries.foldl (fun node (slot, ballot, command) => node.markChosen slot command ballot)
        node) := by
  induction entries generalizing node with
  | nil => exact .refl _
  | cons entry rest ih =>
    obtain ⟨slot, ballot, command⟩ := entry
    have marked : node.Becomes input notes (node.markChosen slot command ballot) :=
      markChosen_acts (known _ List.mem_cons_self)
    exact marked.trans (ih fun other member => known other (List.mem_cons_of_mem _ member))

-- Rounds

/-- A decided round is known chosen, then learned, announced and closed. -/
theorem tryDecide_acts
    : ∃ facts, Acts input (node.core notes) ((node.tryDecide slot).core (notes.know facts)) := by
  unfold tryDecide
  cases decided : node.proposer.rounds.decided slot node.acceptors with
  | none =>
    exact ⟨∅, know_acts (by simp)⟩
  | some proposal =>
    obtain ⟨ballot, command⟩ := proposal
    obtain ⟨round, isOpen, counted⟩ := Option.bind_eq_some_iff.mp decided
    split_ifs at counted with quorum
    obtain ⟨rfl, rfl⟩ := Prod.mk.inj (Option.some.inj counted)
    let known := notes.know {(slot, round.ballot, round.command)}
    have noted : Acts input (node.core notes) (node.core known) :=
      know_acts (by rintro fact rfl; exact .decided isOpen quorum)
    have learned : node.Becomes input known (node.markChosen slot round.command round.ballot) :=
      markChosen_acts (Or.inr rfl)
    have speaks : ((node.markChosen slot round.command round.ballot).core known).Speaks input
        .learners (.commit _ round.ballot slot round.command) := .commit (Or.inr rfl)
    rw [learned.me_eq] at speaks
    exact ⟨_, ((noted.trans learned).trans (say_acts speaks)).trans closeRound_acts⟩

/-- The node with its vote for a round, where it may vote, and the round. -/
def withRound (node : Node) (slot : Nat) (round : Round Command) : Node :=
  let voted := node.recordOwnRound slot round.ballot round.command
  { voted with proposer := { voted.proposer with rounds := { voted.proposer.rounds with
    bySlot := voted.proposer.rounds.bySlot.insert slot round } } }

/-- A node casts its own vote only as an addressee, and only while its promise allows it. -/
theorem ownVote_votes {recorded : Bool} {column : Option Nat}
    : ∀ voter ∈ (node.ownVote recorded column).toFinset, voter = node.me ∧ recorded = true := by
  intro voter member
  unfold ownVote at member
  split_ifs at member with voted
  · rw [Bool.and_eq_true] at voted
    simp only [Option.toFinset_some, Finset.mem_singleton] at member
    exact ⟨member, voted.1⟩
  · simp at member

theorem recordOwnRound_me
    : (node.recordOwnRound slot ballot command).me = node.me := by
  unfold recordOwnRound
  split <;> rfl

/-- Opening a round for a proposal the node is entitled to: vote, open, send, decide. -/
theorem openRound_acts {round : Round Command}
    (entitled : (node.core notes).Entitled slot round.ballot round.command)
    (own : round.acceptedBy = ((node.recordOwnRound slot round.ballot round.command).ownVote
      (decide (node.acceptor.promised ≤ round.ballot)) round.column).toFinset)
    : ∃ facts, Acts input (node.core notes) ((((node.withRound slot round).sendAccept slot
        round.ballot round.command round.column).tryDecide slot).core (notes.know facts)) := by
  have votes : ∀ voter ∈ round.acceptedBy,
      voter = node.me ∧ node.acceptor.promised ≤ round.ballot := by
    intro voter member
    obtain ⟨self, recorded⟩ := ownVote_votes voter (own ▸ member)
    exact ⟨self.trans recordOwnRound_me, of_decide_eq_true recorded⟩
  have proposed : node.Becomes input notes ((node.withRound slot round).sendAccept slot round.ballot
      round.command round.column) := by
    unfold withRound recordOwnRound
    split
    case isTrue above =>
      exact (Act.propose _ false entitled
        (fun voter member => absurd (votes voter member).2 (not_le.mpr above)) (by simp)
        fun _ => above).acts
    case isFalse atMost =>
      exact (setPromise_acts (not_lt.mp atMost)).then (.propose _ true entitled
        (fun voter member => ⟨(votes voter member).1, rfl⟩)
        (fun _ => congrArg Acceptor.promised setPromise_acceptor) (by simp))
  obtain ⟨facts, decided⟩ := @tryDecide_acts input ((node.withRound slot round).sendAccept slot
    round.ballot round.command round.column) notes slot
  exact ⟨facts, proposed.trans decided⟩

variable {column : Option Nat}

theorem startAcceptRoundIn_acts
    (leads : node.role = .leader) (granted : (slot, command) ∈ notes.grants)
    : ∃ facts, Acts input (node.core notes)
      ((node.startAcceptRoundIn slot command column).core (notes.know facts)) :=
  @openRound_acts input node notes slot ⟨node.ballot, command, _, column, 0, 0⟩
    (Or.inl ⟨leads, rfl, granted⟩) rfl

theorem tryDecide_inOffice (leads : node.role = .leader)
    : (node.tryDecide slot).InOffice node := by
  unfold tryDecide
  split
  · exact ⟨leads, rfl⟩
  case h_2 ballot command _ =>
    have marked : (node.markChosen slot command ballot).InOffice node := markChosen_inOffice leads
    exact ⟨marked.role, marked.nextSlot⟩

theorem startAcceptRoundIn_inOffice (leads : node.role = .leader)
    : (node.startAcceptRoundIn slot command column).InOffice node := by
  let round : Round Command := ⟨node.ballot, command,
    ((node.recordOwnRound slot node.ballot command).ownVote
      (decide (node.acceptor.promised ≤ node.ballot)) column).toFinset, column, 0, 0⟩
  have kept : (node.withRound slot round).InOffice node := by
    unfold withRound recordOwnRound
    split <;> exact ⟨leads, rfl⟩
  have decided := @tryDecide_inOffice ((node.withRound slot round).sendAccept slot node.ballot
    command column) slot kept.role
  exact ⟨decided.role, decided.nextSlot.trans kept.nextSlot⟩

theorem startAcceptRound_acts
    (leads : node.role = .leader) (granted : (slot, command) ∈ notes.grants)
    : ∃ facts, Acts input (node.core notes)
      ((node.startAcceptRound slot command).core (notes.know facts)) :=
  startAcceptRoundIn_acts leads granted

/-- Counting an acknowledgement is bookkeeping. -/
theorem credit_acts
    : node.Becomes input notes
      { node with proposer := { node.proposer with
        authority := node.proposer.authority.credit sender } } :=
  lessen_acts { Proposer.Lessens.refl node.proposer with fence := rfl }

theorem onAccepted_plays (told : input = .deliver (.accepted sender ballot slot))
    : node.Plays input (node.onAccepted sender ballot slot) := by
  fun_cases onAccepted node sender ballot slot
  case case1 => exact .refl
  case case2 rounds folded counted credited =>
    have recounted : node.Becomes input .none counted := by
      unfold Rounds.foldAcceptedIn at folded
      cases isOpen : node.proposer.rounds.bySlot[slot]? with
      | none => simp [isOpen] at folded
      | some round =>
        simp only [isOpen, Bool.and_eq_true, beq_iff_eq, Option.ite_none_right_eq_some,
          Option.some.injEq] at folded
        obtain ⟨⟨_, same⟩, rfl⟩ := folded
        exact (Act.count told isOpen same).acts
    have credits : counted.Becomes input .none credited := by
      unfold credited
      split
      · exact credit_acts
      · exact .refl _
    obtain ⟨facts, decided⟩ := @tryDecide_acts input credited .none slot
    exact ⟨_, (recounted.trans credits).trans decided⟩

theorem moveRoundTo_plays {slot column : Nat}
    : node.Plays input (node.moveRoundTo slot column).1 := by
  have still {round : Round Command} (isOpen : node.proposer.rounds.bySlot[slot]? = some round)
      : (node.recordOwnRound slot round.ballot round.command).proposer.rounds.bySlot[slot]?
        = some round := by
    unfold recordOwnRound
    split <;> exact isOpen
  fun_cases moveRoundTo node slot column
  case case3 round isOpen stays _ voted nothing =>
    simp only [Bool.or_eq_true, decide_eq_true_eq, not_or] at stays
    simp [Rounds.moveTo, voted, still isOpen, stays.1] at nothing
  case case4 round isOpen stays recorded voted rounds moves _ =>
    simp only [Bool.or_eq_true, decide_eq_true_eq, not_or] at stays
    simp only [Rounds.moveTo, voted, still isOpen, if_neg stays.1, Option.some.injEq] at moves
    subst moves
    obtain ⟨facts, decided⟩ := @openRound_acts input node .none slot { round with
      column := some column, acceptedBy := (voted.ownVote recorded (some column)).toFinset
      resends := 0, moves := round.moves + 1 } (Or.inr ⟨round, isOpen, rfl, rfl⟩) rfl
    exact ⟨_, decided⟩
  all_goals exact .refl

-- Proposals

/-- A fresh proposal: take the next slot, then open its round. -/
theorem openProposal_acts (leads : node.role = .leader) (unplanned : notes.plan = none)
    : (node.openProposal column command).1.role = .leader ∧ ∃ next, next.plan = none
      ∧ Acts input (node.core notes) ((node.openProposal column command).1.core next) := by
  let granted := notes.grant {(node.proposer.nextSlot, command)}
  let allocated : Node :=
    { node with proposer := { node.proposer with nextSlot := node.proposer.nextSlot + 1 } }
  have taken : Acts input (node.core notes) (allocated.core granted) :=
    (Act.allocate command leads unplanned).acts
  obtain ⟨facts, started⟩ := @startAcceptRoundIn_acts input allocated granted _ _
    (column.or (node.acceptors.columnOf node.proposer.nextSlot)) leads (Or.inr rfl)
  exact ⟨(@startAcceptRoundIn_inOffice allocated _ _ _ leads).role, granted.know facts, unplanned,
    taken.trans started⟩

/-- Filling free slots: fresh proposals in a row, by induction on their number. -/
theorem fillSteps_reaches {watermark : Nat} (steps : Nat)
    (leads : node.role = .leader) (unplanned : notes.plan = none)
    : node.Reaches input notes (node.fillSteps watermark steps) := by
  fun_induction fillSteps watermark steps node generalizing notes with
  | case1 | case3 => exact .refl
  | case2 _ _ _ ih =>
    obtain ⟨leads, next, unplanned, opened⟩ := openProposal_acts leads unplanned
    exact (ih leads unplanned).after opened

theorem fillToWatermark_reaches {watermark : Option Nat} (unplanned : notes.plan = none)
    : node.Reaches input notes (node.fillToWatermark watermark) := by
  fun_cases fillToWatermark node watermark
  case case3 fills =>
    simp only [Bool.or_eq_true, decide_eq_true_eq, not_or, not_not] at fills
    exact fillSteps_reaches _ fills.1.1.1 unplanned
  all_goals exact .refl

theorem proposeCommand_plays
    : node.Plays input (node.proposeCommand column command).1 := by
  fun_cases proposeCommand node column command
  case case3 leads _ =>
    obtain ⟨-, next, -, opened⟩ := @openProposal_acts input node .none _ _ (not_not.mp leads) rfl
    exact ⟨next, opened⟩
  all_goals exact .refl

end Node

end Paros
