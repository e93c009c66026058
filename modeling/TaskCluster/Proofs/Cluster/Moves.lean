import Mathlib
import TaskCluster.Cluster.Basic
import TaskCluster.Proofs.Cluster.Calls
import TaskCluster.Proofs.Cluster.RunnerEffect

/-!
# What happens to what the nodes share

Apart from creations, whatever a cluster does is a course of calls, of changes that leave the store
alone, and of write locks of other connections (`Shared.Move`). In a memory a claim or a heartbeat
may also be taken apart into looks at one record each, with anything else in between. Jobs log and
report (`Shared.moves_stepRun`). A runner does no more than a few kinds of things (`Shared.Deed`),
in its iterations and in its shutdown, so its loop needs to be looked at only once. Time passes
between the moments at which something is due (`Cluster.moves_advance`).
-/

namespace TaskCluster

namespace Shared

/-- What may happen to what the nodes share, but for the creation of tasks. -/
inductive Move (s : Shared) : Shared → Prop where
  /-- A call over any connection, failed calls included. -/
  | call (k : Nat) {c : Call} (hc : c.operation ≠ .create) : Move s (s.call k c).2
  /-- A claim or a heartbeat that is under way in a memory looks at its next record. -/
  | look (policy : FailoverPolicy) (now : ClockTime) (call : Underway) :
    Move s (s.look policy now call).2
  /-- Another connection takes the write lock of the database, or gives it back. -/
  | lock (locked : Bool) : Move s { s with store := s.store.setLock locked }
  /-- Time passes, runs are started, signalled and end, connections come and fail. -/
  | aside {s' : Shared} (store : s'.store = s.store) (created : s'.created = s.created)
    (supply : s'.supply = s.supply) : Move s s'

theorem Move.of_call {s s' : Shared} {k : Nat} {c : Call} {answer : Except Abort c.Result}
    (h : s.call k c = (answer, s')) (hc : c.operation ≠ .create) : Move s s' := by
  have hcall : Move s (s.call k c).2 := .call k hc
  rwa [h] at hcall

abbrev Moves : Shared → Shared → Prop := Relation.ReflTransGen Move

theorem Moves.aside {s s' : Shared} (store : s'.store = s.store)
    (created : s'.created = s.created) (supply : s'.supply = s.supply) : Moves s s' :=
  .single (.aside store created supply)

theorem moves_signal (s : Shared) (n : Nat) (f : Execution → Execution) :
    Moves s (s.signal n f) := .aside rfl rfl rfl

/-- Jobs log and report. -/
theorem moves_effects (run : Run) (effects : List Effect) (s : Shared) :
    Moves s (effects.foldl (fun s e => s.effect run e) s) := by
  induction effects generalizing s with
  | nil => exact .refl
  | cons e effects ih =>
    have hfirst : Moves s (s.effect run e) := by
      cases e with
      | log line => exact .single (.call _ nofun)
      | report status message => exact .single (.call _ nofun)
    exact hfirst.trans (ih _)

theorem moves_stepRun (s : Shared) (n : Nat) : Moves s (s.stepRun n) := by
  unfold stepRun
  split
  · exact .refl
  · exact (s.moves_signal n _).trans (moves_effects _ _ _)

end Shared

/-! ### Runners -/

namespace Shared

/-- What a runner may do to what the nodes share. It makes calls, signals runs without an end, and
launches a run for a record that was handed out to it just before. -/
inductive Deed (s : Shared) : Shared → Prop where
  | call (k : Nat) (c : Call) (created : c.created? = none) (byHand : c.startsByHand = false) :
    Deed s (s.call k c).2
  | signal (n : Nat) (f : Execution → Execution)
    (soft : ∀ y : Execution, (f y).task = y.task ∧ (f y).isAlive = y.isAlive
      ∧ (y.signals.interrupted = true → (f y).signals.interrupted = true)) :
    Deed s (s.signal n f)
  | launch (r : Runner) (record : Record) (c : Claim) (work : Work)
    (answer : (s.call r.connection (.claim r.node)).1 = .ok (some record))
    (claimed : record.claim? = some c) :
    Deed s (r.launch record c work (s.call r.connection (.claim r.node)).2).2

theorem Deed.of_call {s s' : Shared} {k : Nat} {c : Call} {answer : Except Abort c.Result}
    (h : s.call k c = (answer, s')) (hcreated : c.created? = none)
    (hhand : c.startsByHand = false) : Deed s s' := by
  have hcall : Deed s (s.call k c).2 := .call k c hcreated hhand
  rwa [h] at hcall

abbrev Deeds : Shared → Shared → Prop := Relation.ReflTransGen Deed

theorem deed_interrupt (s : Shared) (n : Nat) : Deed s (s.signal n Execution.interrupt) :=
  .signal n _ fun _ => ⟨rfl, rfl, fun _ => rfl⟩

theorem deed_cancelRun (s : Shared) (n : Nat) : Deed s (Runner.cancelRun s n) :=
  .signal n _ fun _ => ⟨rfl, rfl, fun _ => rfl⟩

/-- A deed is one move or two. -/
theorem Deed.moves {s s' : Shared} (h : Deed s s') : Moves s s' := by
  cases h with
  | call k c hcreated =>
    have hother : c.operation ≠ .create := by
      intro hcreate
      cases c <;> cases hcreate
      cases hcreated
    exact .single (.call k hother)
  | signal n f => exact .aside rfl rfl rfl
  | launch r record c work =>
    have hclaim : Moves s (s.call r.connection (.claim r.node)).2 := .single (.call _ nofun)
    exact hclaim.tail (.aside rfl rfl rfl)

theorem Deeds.moves {s s' : Shared} (h : Deeds s s') : Moves s s' := by
  induction h with
  | refl => exact .refl
  | tail _ hdeed ih => exact ih.trans hdeed.moves

end Shared

namespace Runner

open Shared

theorem deeds_relay (record : Option Record) (n : Nat) (s : Shared) :
    Deeds s (relay record n s) := by
  unfold relay
  split
  · exact .refl
  · exact .single (s.deed_interrupt n)
  split
  · exact .single (s.deed_cancelRun n)
  split
  · exact .refl
  · exact .single (s.deed_interrupt n)

theorem deeds_relayAll (k : Nat) (tracked : List (String × Nat)) (s : Shared) :
    Deeds s (relayAll k tracked s).2 := by
  induction tracked generalizing s with
  | nil => exact .refl
  | cons t rest ih =>
    obtain ⟨id, n⟩ := t
    rw [relayAll]
    split
    case h_1 hget => exact .single (.of_call hget rfl rfl)
    case h_2 record s' hget =>
      exact ((deeds_relay record n s').head (.of_call hget rfl rfl)).trans (ih _)

theorem deeds_heartbeatIfDue (r : Runner) (s : Shared) : Deeds s (r.heartbeatIfDue s).2.2 := by
  unfold heartbeatIfDue
  split
  · unfold heartbeat
    split
    · exact .refl
    case h_2 =>
      split
      case h_1 hbeat => exact .single (.of_call hbeat rfl rfl)
      case h_2 hbeat => exact .single (.of_call hbeat rfl rfl)
  · exact .refl

theorem Starting.deeds {registry : Registry} {r : Runner} {s : Shared}
    {out : Except Abort Unit × Runner × Shared} (h : Starting registry r s out) :
    Deeds s out.2.2 := by
  induction h with
  | rest => exact .refl
  | claimFailed answer => exact .single (.of_call answer rfl rfl)
  | drained answer => exact .single (.of_call answer rfl rfl)
  | unclaimed answer _ _ ih => exact ih.head (.of_call answer rfl rfl)
  | @launched r s s' record claim work _ _ answer claimed _ _ ih =>
    have hlaunch := Deed.launch r record claim work (congrArg Prod.fst answer) claimed
    rw [answer] at hlaunch
    exact ih.head hlaunch
  | refusalFailed answer _ _ refusal =>
    exact .head (.of_call answer rfl rfl) (.single (.of_call refusal rfl rfl))
  | refused answer _ _ refusal _ ih =>
    exact (ih.head (.of_call refusal rfl rfl)).head (.of_call answer rfl rfl)

/-- **An iteration is a course of deeds.** -/
theorem deeds_runOnce (registry : Registry) (r : Runner) (s : Shared) :
    Deeds s (r.runOnce registry s).2.2 := by
  have hrelay := deeds_relayAll r.connection (r.undisturbed s) s
  have hbeat := deeds_heartbeatIfDue r (r.relayCancels s).2
  unfold runOnce
  dsimp only
  split
  · exact hrelay
  split
  · exact hrelay.trans hbeat
  · exact (hrelay.trans hbeat).trans (starting_startUpTo registry _ _ _).deeds

theorem deeds_interruptAll (r : Runner) (s : Shared) : Deeds s (r.interruptAll s).2 := by
  unfold interruptAll
  dsimp only
  induction r.tracked.filter fun t => s.isAlive t.2 generalizing s with
  | nil => exact .refl
  | cons t ts ih => exact (ih _).head (s.deed_interrupt t.2)

end Runner

/-! ### Loops -/

section Loops

open Shared

theorem RunnerLoop.deeds_iterate (registry : Registry) (l : RunnerLoop) (s : Shared) :
    Deeds s (l.iterate registry s).2 := by
  have hfirst := l.runner.deeds_runOnce registry s
  unfold iterate
  dsimp only
  split
  · exact hfirst.trans (Runner.deeds_runOnce registry _ _)
  · exact hfirst

theorem RunnerLoop.deeds_windDown (l : RunnerLoop) (s : Shared) : Deeds s (l.windDown s).2 := by
  have hsignals := l.runner.deeds_interruptAll s
  unfold windDown
  dsimp only
  split
  · exact hsignals
  · exact hsignals

/-- A turn of a loop is a course of deeds. -/
theorem RunnerLoop.deeds_step (registry : Registry) (l : RunnerLoop) (s : Shared) :
    Deeds s (l.step registry s).2 := by
  unfold step
  split
  · split
    · exact l.deeds_windDown s
    split
    · exact l.deeds_iterate registry s
    · exact .refl
  · split
    · exact l.deeds_windDown s
    split
    · exact deeds_iterate registry _ s
    split
    · exact l.deeds_iterate registry s
    · exact .refl
  · exact .refl

theorem Node.deeds_step (registry : Registry) (n : Node) (s : Shared) :
    Deeds s (n.step registry s).2 := by
  unfold step
  cases n.manager.loop with
  | none => exact n.spare.deeds_step registry s
  | some l => exact (l.deeds_step registry s).trans (n.spare.deeds_step registry _)

end Loops

/-! ### Clusters -/

namespace Cluster

open Shared

theorem deeds_stepNodes (registry : Registry) (nodes : List Node) (s : Shared) :
    Deeds s (stepNodes registry nodes s).2 := by
  induction nodes generalizing s with
  | nil => exact .refl
  | cons n nodes ih => exact (n.deeds_step registry s).trans (ih _)

theorem moves_stepRuns (s : Shared) : Moves s s.stepRuns := by
  unfold stepRuns
  induction List.range s.runs.length generalizing s with
  | nil => exact .refl
  | cons n rest ih => exact (s.moves_stepRun n).trans (ih _)

theorem moves_settle (c : Cluster) : Moves c.shared c.settle.shared :=
  (deeds_stepNodes c.registry c.nodes c.shared).moves.trans (moves_stepRuns _)

theorem moves_passTo (wanted : Cluster → Bool) (moment time : Nat) (c : Cluster) :
    Moves c.shared (passTo wanted moment time c).shared := by
  induction time, c using passTo.induct wanted moment with
  | case1 time c hwanted =>
    rw [passTo, if_pos hwanted]
  | case2 time c hwanted hnone =>
    rw [passTo, if_neg hwanted, hnone]
    exact .aside rfl rfl rfl
  | case3 time c hwanted due hdue hwithin ih =>
    let waited : Cluster := { c with shared := c.shared.pass (due - time) }
    have hpass : Moves c.shared waited.shared := .aside rfl rfl rfl
    rw [passTo, if_neg hwanted, hdue]
    dsimp only
    rw [dif_pos hwithin]
    exact (hpass.trans waited.moves_settle).trans ih
  | case4 time c hwanted due hdue hlate =>
    rw [passTo, if_neg hwanted, hdue]
    dsimp only
    rw [dif_neg hlate]
    exact .aside rfl rfl rfl

/-- **What a cluster does while time passes is a course of moves.** -/
theorem moves_advance (c : Cluster) (millis : Nat) : Moves c.shared (c.advance millis).shared :=
  moves_passTo _ _ _ c

end Cluster

end TaskCluster
