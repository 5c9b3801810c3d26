import Paros.Refinement.Matchmaking

/-! Every call of the code is a sequence of protocol acts. -/

open Paros.Core (Act Acts)

namespace Paros

open OrderedMap

open Node (Input)

namespace Node

variable {input : Input} {node : Node} {notes : Notes}

-- Messages

theorem step_plays {message : Message} (told : input = .deliver message)
    : node.Plays input (node.step message) := by
  cases message with
  | prepare replyTo ballot fromSlot config => exact onPrepare_plays told
  | promise sender ballot fromSlot accepted faulty nextFromSlot => exact onPromise_plays told
  | accept replyTo leader ballot slot command config => exact onAccept_plays told
  | accepted sender ballot slot => exact onAccepted_plays told
  | nack sender ballot slot => exact onNack_plays
  | commit sender ballot slot command => exact onCommit_plays told
  | catchUpRequest sender fromSlot =>
    exact ⟨.none, serveCatchup_acts (Or.inl ⟨sender, fromSlot, told⟩)⟩
  | catchUpResponse sender entries => exact onCatchupResponse_plays told
  | trimmedTo sender point state => exact onTrimmedTo_plays told
  | relinquish => exact onRelinquish_plays told
  | heartbeat => exact onHeartbeat_plays told
  | heartbeatAck => exact onHeartbeatAck_plays told
  | preRead => exact onPreRead_plays told
  | preReadAck => exact onPreReadAck_plays told

-- Ticks

/-- Only the leader's standing with its quorum changed. -/
theorem authority_acts {authority : Authority}
    (fence : authority.fence = node.proposer.authority.fence)
    : node.Becomes input notes
      { node with proposer := { node.proposer with authority := authority } } :=
  lessen_acts { Proposer.Lessens.refl node.proposer with fence := fence }

theorem tickCheckQuorum_acts
    : node.Becomes input notes node.tickCheckQuorum := by
  unfold tickCheckQuorum
  split
  · exact .refl _
  · dsimp only
    split
    · exact authority_acts rfl
    · split
      · exact authority_acts rfl
      · exact Act.retire.acts

theorem tickLeader_acts (leads : node.role = .leader)
    : node.Becomes input notes node.tickLeader := by
  have beats : node.Becomes input notes node.broadcastHeartbeat :=
    say_acts (.heartbeat leads)
  unfold tickLeader
  dsimp only
  split
  · exact (beats.trans tickCheckQuorum_acts).trans becomeFollower_acts
  · exact beats.trans tickCheckQuorum_acts

theorem tickElection_reaches : node.Reaches input notes node.tickElection := by
  let reset : Node := { node with electionElapsed := 0 }
  let later : Node := { node with electionElapsed := node.electionElapsed + 1 }
  unfold tickElection
  dsimp only
  split
  · split
    · have resent : reset.Becomes input notes reset.resendMatchmaking :=
        resendMatchmaking_acts
      exact ⟨notes, resent.trans keepPagingPromisers_acts⟩
    · obtain ⟨noted, checked⟩ := @onCheckLeader_reaches input reset notes
      exact ⟨noted, checked.trans keepPagingPromisers_acts⟩
  · exact ⟨notes, @keepPagingPromisers_acts input later notes⟩

/-- A probe that only aged asks the same question. -/
theorem ageProbe_acts {probe : RepairProbe Command} (isOpen : node.proposer.probe = some probe)
    (elapsed : Nat)
    : node.Becomes input notes
      { node with proposer := { node.proposer with
        probe := some { probe with elapsed := elapsed } } } := by
  refine lessen_acts { Proposer.Lessens.refl node.proposer with probe := ?_ }
  intro kept same
  obtain rfl := Option.some.inj same
  exact ⟨probe, isOpen, rfl, rfl, subset_rfl, fun _ _ => ⟨rfl, rfl⟩⟩

theorem tickProbe_acts : node.Becomes input notes node.tickProbe := by
  unfold tickProbe
  split
  case h_1 probe _ isOpen =>
    let aged : RepairProbe Command := { probe with elapsed := probe.elapsed + 1 }
    let ticked : Node := { node with proposer := { node.proposer with probe := some aged } }
    have ages : node.Becomes input notes ticked := ageProbe_acts isOpen _
    dsimp only
    split
    · exact ages.trans becomeFollower_acts
    · exact ages.trans (sendPrepare_acts _ rfl (Or.inr ⟨aged, rfl, rfl⟩))
  · exact .refl _

theorem askForHole_acts : node.Becomes input notes node.askForHole := by
  unfold askForHole
  split
  · exact say_acts .catchUpRequest
  · exact .refl _

theorem tickRepair_acts : node.Becomes input notes node.tickRepair :=
  tickProbe_acts.trans askForHole_acts

theorem tick_plays : node.Plays input node.tick := by
  let counted : Node := { node with tickCount := node.tickCount + 1 }
  have rest (ticked : Node) (noted : Notes) : ticked.Reaches input noted
      ticked.tickHandoffFence.tickRepair.tickQuorumReads.tryGc :=
    ⟨noted, ((tickHandoffFence_acts.trans tickRepair_acts).trans tickQuorumReads_acts).trans
      tryGc_acts⟩
  unfold tick
  dsimp only
  split
  case isTrue leads =>
    have ticked : counted.Becomes input .none counted.tickLeader := tickLeader_acts leads
    exact Reaches.after (rest _ .none) ticked
  case isFalse => exact Reaches.then (@tickElection_reaches input counted .none) (rest _)

-- The driver's policy

/-- A page of resends lists open rounds. -/
theorem resendPage_open {rounds : Rounds Command} {limit : Nat} {accept : PendingAccept Command}
    (listed : accept ∈ (rounds.resendPage limit).2)
    : ∃ round : Round Command, rounds.bySlot[accept.slot]? = some round
      ∧ accept.ballot = round.ballot ∧ accept.command = round.command := by
  obtain ⟨⟨slot, round⟩, member, rfl⟩ := List.mem_map.mp listed
  refine ⟨round, ?_, rfl, rfl⟩
  rcases List.mem_append.mp member with above | below
  · have held := mem_toList.mp (List.mem_of_mem_take above)
    rw [getElem?_startingAt, Option.ite_none_right_eq_some] at held
    exact held.2
  · have held := mem_toList.mp (List.mem_of_mem_take below)
    rw [getElem?_before, Option.ite_none_right_eq_some] at held
    exact held.2

/-- Paging the resends only counts them. -/
theorem resendPage_counts {rounds : Rounds Command} {limit slot : Nat} {round : Round Command}
    : (rounds.bySlot[slot]? = some round → ∃ counted : Round Command,
        (rounds.resendPage limit).1.bySlot[slot]? = some counted
        ∧ counted.ballot = round.ballot ∧ counted.command = round.command)
      ∧ ((rounds.resendPage limit).1.bySlot[slot]? = some round → ∃ held : Round Command,
        rounds.bySlot[slot]? = some held ∧ round.ballot = held.ballot
        ∧ round.command = held.command ∧ round.acceptedBy ⊆ held.acceptedBy) := by
  simp only [Rounds.resendPage, Std.ExtTreeMap.getElem?_map]
  constructor
  · intro held
    simp only [held, Option.map_some, Option.some.injEq, exists_eq_left']
    split <;> exact ⟨rfl, rfl⟩
  · intro counted
    obtain ⟨held, isOpen, rfl⟩ := Option.map_eq_some_iff.mp counted
    refine ⟨held, isOpen, ?_⟩
    split <;> exact ⟨rfl, rfl, subset_rfl⟩

theorem sendAccepts_acts (page : List (PendingAccept Command))
    (isOpen : ∀ accept ∈ page, ∃ round : Round Command,
      node.proposer.rounds.bySlot[accept.slot]? = some round
      ∧ accept.ballot = round.ballot ∧ accept.command = round.command)
    : node.Becomes input notes
      (page.foldl (fun node accept =>
        node.sendAccept accept.slot accept.ballot accept.command accept.column) node) := by
  induction page generalizing node with
  | nil => exact .refl _
  | cons accept rest ih =>
    obtain ⟨round, held, ballot, command⟩ := isOpen accept List.mem_cons_self
    have sent : node.Becomes input notes
        (node.sendAccept accept.slot accept.ballot accept.command accept.column) := by
      rw [ballot, command]
      exact say_acts (.accept held)
    exact sent.trans (ih fun other member => isOpen other (List.mem_cons_of_mem _ member))

theorem resendPending_acts : node.Becomes input notes node.resendPending := by
  unfold resendPending
  split
  · exact .refl _
  · let counted : Node := { node with proposer := { node.proposer with
      rounds := (node.proposer.rounds.resendPage node.limits.resendPage).1 } }
    have counts : node.Becomes input notes counted :=
      lessen_acts { Proposer.Lessens.refl node.proposer with
        rounds := fun held => resendPage_counts.2 held }
    refine counts.trans (sendAccepts_acts _ fun accept listed => ?_)
    obtain ⟨round, held, ballot, command⟩ := resendPage_open listed
    obtain ⟨again, kept, sameBallot, sameCommand⟩ := resendPage_counts.1 held
    exact ⟨again, kept, ballot.trans sameBallot.symm, command.trans sameCommand.symm⟩

theorem moveRound_plays {slot column : Nat}
    : node.Plays input (node.moveRound slot column).1 := by
  unfold moveRound
  split
  · exact moveRoundTo_plays
  · exact ⟨.none, .refl _⟩

theorem advanceRecovery_plays : node.Plays input node.advanceRecovery := by
  have advanced : node.Becomes input .none node.advanceChosenIndex :=
    advanceChosenIndex_acts
  unfold advanceRecovery
  dsimp only
  split
  · exact ⟨.none, advanced⟩
  · exact pumpLeaderRecovery_reaches.after advanced

theorem stepDown_acts : node.Becomes input notes node.stepDown := by
  unfold stepDown
  split
  · exact .refl _
  · exact becomeFollower_acts

theorem campaignAbove_plays {seen : Ballot} : node.Plays input (node.campaignAbove seen) := by
  unfold campaignAbove
  split
  · exact ⟨.none, .refl _⟩
  · exact @onCheckLeader_reaches input { node with
      roundFloor := max node.roundFloor seen.round
      electionElapsed := 0 } .none

theorem extendPool_acts {nodes : List NodeId}
    : node.Becomes input notes (node.extendPool nodes) := by
  unfold extendPool
  split
  · exact .refl _
  · have grows : ∀ member ∈ node.pool,
        member ∈ (node.pool ++ nodes).dedup.insertionSort (· ≤ ·) := fun member known =>
      (List.perm_insertionSort (· ≤ ·) _).mem_iff.mpr
        (List.mem_dedup.mpr (List.mem_append_left nodes known))
    exact (Act.extendPool grows).acts

theorem repairRecord_acts {slot : Nat}
    : node.Becomes input notes (node.repairRecord slot) := by
  unfold repairRecord Acceptor.rewrite
  split
  case h_1 ballot command held => exact (Act.rewrite held).acts
  case h_2 => simpa only [List.map_nil, queueWrites_nil] using Acts.refl _

/-- Every call is a sequence of protocol acts that starts with nothing noted. Witness: the
sequence of each handler.
-/
theorem handle_plays (deployed : node.Deployed) : node.Plays input (node.handle input) := by
  cases input with
  | deliver message => exact step_plays rfl
  | tick => exact tick_plays
  | propose entry column => exact proposeCommand_plays
  | proposeControl control => exact proposeCommand_plays
  | advanceRecovery => exact advanceRecovery_plays
  | campaignAbove seen => exact campaignAbove_plays
  | resendPending => exact ⟨.none, resendPending_acts⟩
  | moveRound slot column => exact moveRound_plays
  | stepDown => exact ⟨.none, stepDown_acts⟩
  | relinquishTo target => exact relinquishTo_plays
  | compact upTo => exact ⟨.none, compact_acts rfl⟩
  | repairRecord slot => exact ⟨.none, repairRecord_acts⟩
  | setElectionTimeout ticks => exact ⟨.none, .refl _⟩
  | quorumRead ctx row => exact quorumReadIn_plays rfl
  | matchReply reply => exact onMatchReply_plays rfl
  | gcAck ack => exact onGcAck_plays rfl
  | resendMatchmaking => exact ⟨.none, resendMatchmaking_acts⟩
  | resendGc => exact ⟨.none, resendGc_acts⟩
  | reconfigure config => exact reconfigure_plays deployed
  | extendPool nodes => exact ⟨.none, extendPool_acts⟩

end Node

end Paros
