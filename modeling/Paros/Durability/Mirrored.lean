import Paros.Durability.Writes
import Paros.Refinement.Step

/-! A node and what it has persisted, over any calls, flushes and reboots. Whatever it is asked,
the live acceptor stays what a boot from its written image would read back.
-/

namespace Paros

open Node (Input)

namespace Core

variable {input : Input} {core next : Core} {log : List WriteOp}

/-- The live acceptor and replica agree with the image of everything written. -/
def Mirrored (log : List WriteOp) (core : Core) : Prop :=
  Mirrors (core.disk log) core.acceptor core.replica

namespace Mirrored

variable (mirrored : core.Mirrored log)
include mirrored

theorem congr (same : next.SameStorage core)
    : next.Mirrored log := by
  have disk : next.disk log = core.disk log := by rw [Core.disk, same.writes, Core.disk]
  unfold Mirrored
  rw [disk, same.acceptor, same.replica]
  exact mirrored

theorem truncate {first : Nat} (raises : core.acceptor.firstSlot < first)
    : (core.truncate first).Mirrored log := by
  rw [Mirrored, Core.truncate, disk_queue]
  exact Mirrors.truncate mirrored raises

theorem compact (upTo : Nat) : (core.compact upTo).Mirrored log := by
  rcases core.compact_cases upTo with same | ⟨first, same, raises, _⟩
  · rwa [same]
  · rw [same]
    exact mirrored.truncate raises

theorem walk : core.walk.Mirrored log := by
  have applied : core.applyPage.Mirrored log := by
    rw [Mirrored, Core.applyPage, disk_queue]
    exact Mirrors.advance mirrored core.recordBallot
  have settle {next : Core} (mirrored : next.Mirrored log)
      : ({ next with replica := next.replica.assertCompacted } : Core).Mirrored log :=
    Mirrors.relearn mirrored rfl rfl rfl
  rcases core.walk_cases with ⟨same, _⟩ | ⟨same, raises⟩
  · rw [same]
    exact settle applied
  · rw [same]
    exact settle (applied.truncate raises)

/-- Each way an act may touch storage keeps the acceptor and its image in step. -/
theorem write (writes : Writes input core next)
    : next.Mirrored log := by
  cases writes with
  | still => exact mirrored
  | promise raises =>
    rw [Mirrored, Core.promise, disk_queue]
    exact Mirrors.promise mirrored _
  | record promised =>
    rw [Mirrored, Core.record, disk_queue]
    exact Mirrors.record mirrored _ _ _
  | rewrite held =>
    rw [Mirrored, disk_queue, List.foldl_cons, List.foldl_nil, Mirrors.rewrite mirrored held]
    exact mirrored
  | @learn slot _ command held retained unknown =>
    have learned : (core.learn slot command).Mirrored log :=
      Mirrors.relearn mirrored Replica.learn_frame.2.1 Replica.learn_frame.2.2 Replica.learn_base
    exact learned.walk
  | walk => exact mirrored.walk
  | compact asked => exact mirrored.compact _
  | @trim _ point state told raises =>
    have jumped : (core.jump point state).Mirrored log := by
      rw [Mirrored, Core.jump, disk_queue]
      exact Mirrors.trimTo mirrored raises
    exact jumped.walk

/-- By induction on the acts, each of which touches storage in one of those ways. -/
theorem acts (acts : Acts input core next) : next.Mirrored log := by
  induction acts with
  | refl => exact mirrored
  | tail _ act ih =>
    obtain ⟨stored, writes, same⟩ := act.writes
    exact (ih.write writes).congr same

end Mirrored

/-- The same deployment and matchmaker set. -/
def SameDeployment (left right : Core) : Prop :=
  left.matched = right.matched ∧ left.matchmakers = right.matchmakers

theorem compact_sameDeployment (upTo : Nat) : (core.compact upTo).SameDeployment core := by
  rcases core.compact_cases upTo with same | ⟨first, same, _⟩
  · rw [same]
    exact ⟨rfl, rfl⟩
  · rw [same]
    exact ⟨rfl, rfl⟩

theorem walk_sameDeployment : core.walk.SameDeployment core := by
  rcases core.walk_cases with ⟨same, _⟩ | ⟨same, _⟩
  · rw [same]
    exact ⟨rfl, rfl⟩
  · rw [same]
    exact ⟨rfl, rfl⟩

/-- A node keeps a matchmaker set exactly where its deployment has matchmakers. -/
def Deployed (core : Core) : Prop := core.matched = core.matchmakers.isSome

theorem Deployed.congr (deployed : core.Deployed) (same : next.SameDeployment core)
    : next.Deployed := by
  rw [Deployed, same.1, same.2]
  exact deployed

theorem Deployed.act (deployed : core.Deployed) (act : Act input core next) : next.Deployed := by
  cases act with
  | learnMatchmakers asked newer told =>
    have matched : core.matched = true := by rw [deployed, asked]; rfl
    exact matched
  | @learn slot _ _ command known held covers retained unknown =>
    have learned : (core.learn slot command).Deployed := deployed
    exact learned.congr walk_sameDeployment
  | walk => exact deployed.congr walk_sameDeployment
  | compact asked => exact deployed.congr (compact_sameDeployment _)
  | @trim _ point state told raises =>
    have jumped : (core.jump point state).Deployed := deployed
    exact jumped.congr walk_sameDeployment
  | win own isOpen stands covered promised closed idle =>
    refine deployed.congr ⟨?_, ?_⟩ <;> dsimp only <;> split <;> rfl
  | install own told vacant promised fresh unlearned named idle =>
    refine deployed.congr ⟨?_, ?_⟩ <;> dsimp only <;> split <;> rfl
  | propose audience voted entitled votes own skips => cases voted <;> exact deployed
  | _ => exact deployed

theorem Deployed.acts (deployed : core.Deployed) (acts : Acts input core next)
    : next.Deployed := by
  induction acts with
  | refl => exact deployed
  | tail _ act ih => exact ih.act act

end Core

-- A node and its disk

/-- A node, and the writes of the batches it has flushed. -/
structure Host where
  node : Node
  log : List WriteOp

namespace Host

variable {host later : Host}

/-- Everything the node wrote: flushed, or in its open batch. -/
def written (host : Host) : List WriteOp := host.log ++ host.node.pendingWrites

/-- A node on an empty disk. -/
def start (config : Config) (limits : Limits) : Host := ⟨.boot config limits .new ∅, []⟩

/-- One moment to the next: a call, a flush, or a reboot that loses the open batch and reads any of
the records back damaged.
-/
inductive Step (host : Host) : Host → Prop
  | call (input : Input) : Step host ⟨host.node.handle input, host.log⟩
  | flush : Step host ⟨host.node.clearPending, host.written⟩
  | reboot (config : Config) (limits : Limits) (faulty : Finset Nat)
    : Step host ⟨.boot config limits (.replay host.log) faulty, host.log⟩

/-- Any number of steps. -/
def Run : Host → Host → Prop := Relation.ReflTransGen Step

/-- What holds of a node and its disk at every moment. -/
structure Sound (host : Host) : Prop where
  deployed : (host.node.core .none).Deployed
  mirrored : (host.node.core .none).Mirrored host.log

theorem boot_sound (config : Config) (limits : Limits) (log : List WriteOp) (faulty : Finset Nat)
    : Sound ⟨.boot config limits (.replay log) faulty, log⟩ where
  deployed := rfl
  mirrored := by
    have disk : ((Node.boot config limits (.replay log) faulty).core .none).disk log
        = .replay log := by
      rw [Core.disk]
      exact congrArg MemStorage.replay (List.append_nil log)
    rw [Core.Mirrored, disk]
    exact Mirrors.boot config limits _ faulty

theorem Sound.step (sound : host.Sound) (step : host.Step later) : later.Sound := by
  cases step with
  | call input =>
    have plays : host.node.Plays input (host.node.handle input) :=
      Node.handle_plays sound.deployed
    obtain ⟨noted, acts⟩ := plays
    have deployed : ((host.node.handle input).core noted).Deployed := sound.deployed.acts acts
    have mirrored : ((host.node.handle input).core noted).Mirrored host.log :=
      sound.mirrored.acts acts
    exact ⟨deployed, mirrored.congr ⟨rfl, rfl, rfl⟩⟩
  | flush =>
    refine ⟨sound.deployed, ?_⟩
    have disk : (host.node.clearPending.core .none).disk host.written
        = (host.node.core .none).disk host.log :=
      congrArg MemStorage.replay (List.append_nil host.written)
    rw [Core.Mirrored, disk]
    exact Mirrors.relearn sound.mirrored rfl rfl rfl
  | reboot config limits faulty => exact boot_sound config limits host.log faulty

theorem Sound.run (sound : host.Sound) (run : host.Run later) : later.Sound := by
  induction run with
  | refl => exact sound
  | tail _ step ih => exact ih.step step

end Host

end Paros
