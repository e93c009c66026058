import Mathlib
import TaskCluster.Proofs.Store.Budget

/-!
# When a record describes its run

A record that runs should tell on which node it runs, since when, and as which run of the task. It
does so exactly as long as the run was begun by a claim. The transition table also lets the status
be changed to a run by hand, and then no field of the run is set: a new task runs without a node and
a count, and one in failover keeps the count, the times and the node of the run that was lost.

The proof follows the run that is on back to the event that began it. A run that goes on keeps its
fields, a claim sets them all, and a start by hand finds a new task, which has no start noted, or a
task in failover, which has the end of its last run noted.
-/

namespace TaskCluster

namespace Record

/-- The record describes a run that is on: it is counted, on a node, begun, and has not ended. -/
structure DescribesRun (r : Record) : Prop where
  counted : 1 ≤ r.runCount.toNat
  node : r.node.isSome
  startedAt : r.startedAt.isSome
  finishedAt : r.finishedAt = none

instance (r : Record) : Decidable r.DescribesRun :=
  decidable_of_iff
    (1 ≤ r.runCount.toNat ∧ r.node.isSome ∧ r.startedAt.isSome ∧ r.finishedAt = none)
    ⟨fun ⟨hcounted, hnode, hstarted, hfinished⟩ => ⟨hcounted, hnode, hstarted, hfinished⟩,
      fun h => ⟨h.counted, h.node, h.startedAt, h.finishedAt⟩⟩

theorem SameRun.symm {old new : Record} (h : SameRun old new) : SameRun new old :=
  ⟨h.runCount.symm, h.node.symm, h.startedAt.symm, h.finishedAt.symm⟩

theorem SameRun.describesRun {old new : Record} (h : SameRun old new) (hold : old.DescribesRun) :
    new.DescribesRun where
  counted := h.runCount ▸ hold.counted
  node := h.node ▸ hold.node
  startedAt := h.startedAt ▸ hold.startedAt
  finishedAt := h.finishedAt ▸ hold.finishedAt

theorem SameRun.describesRun_iff {old new : Record} (h : SameRun old new) :
    new.DescribesRun ↔ old.DescribesRun :=
  ⟨h.symm.describesRun, h.describesRun⟩

/-- A claim describes the run that it begins. -/
theorem describesRun_of_taken {r new : Record} {node : String} {policy : FailoverPolicy}
    {now : Instant} (h : r.offer node policy now = .taken new) : new.DescribesRun := by
  obtain ⟨-, rfl, hlt⟩ := of_offer_taken h
  refine ⟨?_, rfl, rfl, rfl⟩
  rw [toNat_runCount_running hlt]
  exact Nat.le_add_left 1 _

/-- A run that is described is under its own claim. -/
theorem DescribesRun.isRunningUnder {r : Record} (h : r.DescribesRun) (hrun : r.status = .running) :
    ∃ c, r.claim? = some c ∧ r.isRunningUnder c = true := by
  obtain ⟨node, hnode⟩ := Option.isSome_iff_exists.mp h.node
  refine ⟨⟨node, r.runCount⟩, ?_, ?_⟩
  · rw [claim?, hnode]
    rfl
  · simp [Record.isRunningUnder, hrun, hnode]

/-- Outside of runs, the record notes no start before the first run and the end of the last one. -/
structure NotesRuns (r : Record) : Prop where
  new : r.status = .new → r.startedAt = none
  failover : r.status = .failover → r.finishedAt.isSome

/-- The fields that are kept from outside of runs do not describe one. -/
theorem NotesRuns.not_describesRun {old new : Record} (h : old.NotesRuns)
    (hrunnable : old.status.isRunnable = true) (hsame : SameRun old new) : ¬ new.DescribesRun := by
  rw [hsame.describesRun_iff]
  intro hdescribes
  cases hs : old.status with
  | new =>
    have hstarted := hdescribes.startedAt
    rw [h.new hs] at hstarted
    cases hstarted
  | failover =>
    have hfinished := h.failover hs
    rw [hdescribes.finishedAt] at hfinished
    cases hfinished
  | _ =>
    rw [hs] at hrunnable
    cases hrunnable

end Record

namespace Passage

variable {id : String} {answer : Option Answer} {moment : Option Moment}

theorem notesRuns {before after : Option Record} (h : Passage id answer moment before after)
    (hbefore : ∀ r ∈ before, r.NotesRuns) : ∀ r ∈ after, r.NotesRuns := by
  cases h with
  | absent => exact hbefore
  | created =>
    rintro r ⟨⟩
    exact ⟨fun _ => rfl, nofun⟩
  | @kept old new hstatus hrun =>
    rintro r ⟨⟩
    refine ⟨fun hs => ?_, fun hs => ?_⟩
    · rw [hrun.startedAt]
      exact (hbefore old rfl).new (hstatus ▸ hs)
    · rw [hrun.finishedAt]
      exact (hbefore old rfl).failover (hstatus ▸ hs)
  | dropped _ hafter =>
    rintro r ⟨⟩
    exact ⟨by simp [hafter], by simp [hafter]⟩
  | begun node _ htaken =>
    rintro r ⟨⟩
    obtain ⟨-, rfl, -⟩ := Record.of_offer_taken htaken
    exact ⟨nofun, nofun⟩
  | begunByHand message _ hafter =>
    rintro r ⟨⟩
    exact ⟨by simp [hafter], by simp [hafter]⟩
  | ended _ hrun =>
    rintro r ⟨⟩
    refine ⟨fun hs => absurd hs hrun.after.2, fun _ => ?_⟩
    rw [hrun.finishedAt]
    rfl

/-- A run that goes on is the same run. -/
theorem sameRun_of_running {old new : Record} (h : Passage id answer moment (some old) (some new))
    (hold : old.status = .running) (hnew : new.status = .running) : Record.SameRun old new := by
  have hnot : ¬ old.status.isRunnable = true := by
    rw [hold]
    exact Bool.false_ne_true
  cases h with
  | kept _ hrun => exact hrun
  | dropped hbefore => exact absurd hbefore hnot
  | begun node _ htaken => exact absurd (Record.of_offer_taken htaken).1 hnot
  | begunByHand _ hbefore => exact absurd hbefore hnot
  | ended _ hrun => exact absurd hnew hrun.after.1

end Passage

namespace Traffic

variable {s : Traffic} {events : List Event}

/-- The `i`-th event begins a run of an id by a change of its status. -/
def StartsByHand (s : Traffic) (events : List Event) (id : String) (i : Nat) : Prop :=
  ∃ message, s.answer events i = some ⟨.change id .running message, .ok true⟩

/-- The run of an id that is on before the `i`-th event was begun by the `j`-th. -/
structure BeganAt (s : Traffic) (events : List Event) (id : String) (i j : Nat) : Prop where
  lt : j < i
  off : ¬ (s.before events j).Runs id
  on : ∀ k, j < k → k ≤ i → (s.before events k).Runs id

/-- Some claim was handed out exactly if there is a count of one. -/
theorem length_countsAt_pos_iff {id : String} {i : Nat} :
    1 ≤ (s.countsAt events id i).length ↔ ∃ j, j < i ∧ s.ClaimsId events id j := by
  rw [Nat.succ_le_iff, List.length_pos_iff_exists_mem]
  simp only [countsAt, List.mem_filterMap, List.mem_range, claimsId_iff, Option.isSome_iff_exists,
    Option.map_eq_some_iff]
  constructor
  · rintro ⟨n, j, hj, r, hr, -⟩
    exact ⟨j, hj, r, hr⟩
  · rintro ⟨j, hj, r, hr⟩
    exact ⟨_, j, hj, r, hr, rfl⟩

namespace FromScratch

variable (h : FromScratch s events) {id : String}

include h

theorem notesRuns (i : Nat) : ∀ r ∈ s.recordAt events id i, r.NotesRuns := by
  induction i with
  | zero =>
    rw [h.recordAt_zero]
    rintro r ⟨⟩
  | succ i ih => exact (h.passage id i).notesRuns ih

/-- The two ways to begin a run, and what each makes of the record. -/
theorem of_start {i : Nat} {new : Record} (hoff : ¬ (s.before events i).Runs id)
    (hnew : s.recordAt events id (i + 1) = some new) (hon : new.status = .running) :
    (s.ClaimsId events id i ∧ new.DescribesRun
        ∧ new.runCount.toNat = Record.runsOf (s.recordAt events id i) + 1)
    ∨ (s.StartsByHand events id i ∧ ¬ new.DescribesRun
        ∧ new.runCount.toNat = Record.runsOf (s.recordAt events id i)) := by
  have hpassage := h.passage id i
  have hcounted := h.counted id i
  have hnotes : ∀ r ∈ s.recordAt events id i, r.NotesRuns := h.notesRuns i
  have hidle : ∀ r, s.recordAt events id i = some r → r.status ≠ .running :=
    fun r hr hs => hoff ⟨r, hr, hs⟩
  unfold ClaimsId Claims StartsByHand
  rw [hnew] at hpassage
  generalize s.answer events i = answer at hpassage ⊢
  generalize s.recordAt events id i = before at hpassage hcounted hnotes hidle ⊢
  cases hpassage with
  | created => cases hon
  | @kept old _ hstatus => exact absurd (hstatus ▸ hon) (hidle old rfl)
  | dropped _ hafter =>
    rw [hafter] at hon
    cases hon
  | @begun old _ m node _ htaken hid hanswer =>
    exact Or.inl ⟨⟨new, ⟨node, hanswer⟩, hid⟩, Record.describesRun_of_taken htaken,
      ((hcounted old rfl).runCount_of_taken htaken).1⟩
  | @begunByHand old _ message hbefore _ hrun hanswer =>
    exact Or.inr ⟨⟨message, hanswer⟩, (hnotes old rfl).not_describesRun hbefore hrun,
      congrArg UInt32.toNat hrun.runCount⟩
  | ended _ hrun => exact absurd hon hrun.after.1

/-- What carries the induction over the events: the run that is on was begun by some event, and is
described if that was a claim, and else not. -/
theorem began {i : Nat} {r : Record} (hr : s.recordAt events id i = some r)
    (hrun : r.status = .running) :
    ∃ j, s.BeganAt events id i j
      ∧ (s.ClaimsId events id j ∧ r.DescribesRun
        ∨ s.StartsByHand events id j ∧ ¬ r.DescribesRun) := by
  induction i generalizing r with
  | zero =>
    rw [h.recordAt_zero] at hr
    cases hr
  | succ i ih =>
    have hon : (s.before events (i + 1)).Runs id := ⟨r, hr, hrun⟩
    by_cases hwas : (s.before events i).Runs id
    · obtain ⟨old, hold, holdrun⟩ := hwas
      have hpassage := h.passage id i
      rw [show s.recordAt events id i = some old from hold, hr] at hpassage
      have hsame := hpassage.sameRun_of_running holdrun hrun
      obtain ⟨j, hbegan, hhow⟩ := ih hold holdrun
      refine ⟨j, ⟨Nat.lt_succ_of_lt hbegan.lt, hbegan.off, ?_⟩, ?_⟩
      · intro k hjk hk
        rcases Nat.le_succ_iff.mp hk with hk | rfl
        · exact hbegan.on k hjk hk
        · exact hon
      · rw [hsame.describesRun_iff]
        exact hhow
    · refine ⟨i, ⟨Nat.lt_succ_self i, hwas, ?_⟩, ?_⟩
      · intro k hik hk
        obtain rfl : k = i + 1 := Nat.le_antisymm hk hik
        exact hon
      · rcases h.of_start hwas hr hrun with ⟨hclaims, hdescribes, -⟩ | ⟨hstarts, hnot, -⟩
        · exact Or.inl ⟨hclaims, hdescribes⟩
        · exact Or.inr ⟨hstarts, hnot⟩

/-- A task in failover was started before. -/
theorem started_of_failover {i : Nat} {r : Record} (hr : s.recordAt events id i = some r)
    (hstatus : r.status = .failover) :
    ∃ j, j < i ∧ (s.ClaimsId events id j ∨ s.StartsByHand events id j) := by
  induction i generalizing r with
  | zero =>
    rw [h.recordAt_zero] at hr
    cases hr
  | succ i ih =>
    have hpassage := h.passage id i
    rw [hr] at hpassage
    cases hbefore : s.recordAt events id i with
    | none =>
      rw [hbefore] at hpassage
      cases hpassage with
      | created => cases hstatus
    | some old =>
      rw [hbefore] at hpassage
      cases hpassage with
      | kept hsame =>
        obtain ⟨j, hj, hstarted⟩ := ih hbefore (hsame ▸ hstatus)
        exact ⟨j, Nat.lt_succ_of_lt hj, hstarted⟩
      | dropped _ hafter =>
        rw [hafter] at hstatus
        cases hstatus
      | begun node _ htaken =>
        obtain ⟨-, rfl, -⟩ := Record.of_offer_taken htaken
        cases hstatus
      | begunByHand message _ hafter =>
        rw [hafter] at hstatus
        cases hstatus
      | ended _ hrun =>
        obtain ⟨j, hbegan, hhow⟩ := h.began hbefore hrun.before
        exact ⟨j, Nat.lt_succ_of_lt hbegan.lt, hhow.imp And.left And.left⟩

/-- A task in failover has the end of its last run noted, and a count exactly if it was claimed. -/
theorem noted_of_failover {i : Nat} {r : Record} (hr : s.recordAt events id i = some r)
    (hstatus : r.status = .failover) :
    r.finishedAt.isSome ∧ (1 ≤ r.runCount.toNat ↔ ∃ j, j < i ∧ s.ClaimsId events id j) := by
  refine ⟨(h.notesRuns i r hr).failover hstatus, ?_⟩
  have hcounts := h.length_countsAt id i
  rw [hr] at hcounts
  rw [← length_countsAt_pos_iff, hcounts]
  rfl

/-- **A record describes its run exactly if a claim began it**, in any traffic from an empty store.
The run that is on was begun by one event, a claim or a start by hand, and the record describes it
in the first case alone. Only a claim counts the run that it begins. A task in failover has the end
of its last run noted, and a count exactly if it was ever claimed. So where no run of a task is
begun by hand, its record describes every run and is counted in failover. -/
theorem runs_described_iff_claimed (id : String) :
    (∀ i r, s.recordAt events id i = some r → r.status = .running →
      ∃ j, s.BeganAt events id i j
        ∧ (s.ClaimsId events id j ∧ r.DescribesRun
          ∨ s.StartsByHand events id j ∧ ¬ r.DescribesRun))
    ∧ (∀ i, ¬ (s.before events i).Runs id → (s.before events (i + 1)).Runs id →
        s.ClaimsId events id i ∧ Record.runsOf (s.recordAt events id (i + 1))
            = Record.runsOf (s.recordAt events id i) + 1
        ∨ s.StartsByHand events id i ∧ Record.runsOf (s.recordAt events id (i + 1))
            = Record.runsOf (s.recordAt events id i))
    ∧ (∀ i r, s.recordAt events id i = some r → r.status = .failover →
        r.finishedAt.isSome ∧ (1 ≤ r.runCount.toNat ↔ ∃ j, j < i ∧ s.ClaimsId events id j))
    ∧ (∀ i r, s.recordAt events id i = some r → (∀ j < i, ¬ s.StartsByHand events id j) →
        (r.status = .running →
          r.DescribesRun ∧ ∃ c, r.claim? = some c ∧ r.isRunningUnder c = true)
        ∧ (r.status = .failover → 1 ≤ r.runCount.toNat ∧ r.finishedAt.isSome)) := by
  refine ⟨fun i r => h.began, ?_, fun i r => h.noted_of_failover, ?_⟩
  · rintro i hoff ⟨new, hnew, hon⟩
    have hruns : Record.runsOf (s.recordAt events id (i + 1)) = new.runCount.toNat := by
      rw [show s.recordAt events id (i + 1) = some new from hnew]
      rfl
    rw [hruns]
    rcases h.of_start hoff hnew hon with ⟨hclaims, -, hcount⟩ | ⟨hstarts, -, hcount⟩
    · exact Or.inl ⟨hclaims, hcount⟩
    · exact Or.inr ⟨hstarts, hcount⟩
  · intro i r hr hclaimed
    refine ⟨fun hrun => ?_, fun hstatus => ?_⟩
    · obtain ⟨j, hbegan, ⟨-, hdescribes⟩ | ⟨hstarts, -⟩⟩ := h.began hr hrun
      · exact ⟨hdescribes, hdescribes.isRunningUnder hrun⟩
      · exact absurd hstarts (hclaimed j hbegan.lt)
    · obtain ⟨hfinished, hcount⟩ := h.noted_of_failover hr hstatus
      obtain ⟨j, hj, hclaims | hstarts⟩ := h.started_of_failover hr hstatus
      · exact ⟨hcount.mpr ⟨j, hj, hclaims⟩, hfinished⟩
      · exact absurd hstarts (hclaimed j hj)

end FromScratch

/-- Of two tasks that run, one was claimed and the other started by hand, as their counts tell. -/
theorem runs_described_iff_claimed_for_two_tasks :
    let s : Traffic := ⟨.database {}, []⟩
    let clock : Readings := fun _ => .epoch
    let events : List Event :=
      [.call {} clock (.create "t" "noop" none), .call {} clock (.claim "a"),
        .call {} clock (.create "u" "noop" none), .call {} clock (.change "u" .running none)]
    FromScratch s events
      ∧ (∃ j, s.BeganAt events "t" 4 j ∧ s.ClaimsId events "t" j)
      ∧ ∃ j, s.BeganAt events "u" 4 j ∧ s.StartsByHand events "u" j := by
  intro s clock events
  have h : FromScratch s events := ⟨rfl, by decide⟩
  have ht : (s.recordAt events "t" 4).map (fun r => (r.status, decide r.DescribesRun))
      = some (.running, true) := by decide +kernel
  have hu : (s.recordAt events "u" 4).map (fun r => (r.status, decide r.DescribesRun))
      = some (.running, false) := by decide +kernel
  refine ⟨h, ?_, ?_⟩
  · obtain ⟨r, hr, hfields⟩ := Option.map_eq_some_iff.mp ht
    obtain ⟨hstatus, hdescribes⟩ := Prod.mk.inj hfields
    obtain ⟨j, hbegan, ⟨hclaims, -⟩ | ⟨-, hnot⟩⟩ :=
      (FromScratch.runs_described_iff_claimed h "t").1 4 r hr hstatus
    · exact ⟨j, hbegan, hclaims⟩
    · exact absurd (of_decide_eq_true hdescribes) hnot
  · obtain ⟨r, hr, hfields⟩ := Option.map_eq_some_iff.mp hu
    obtain ⟨hstatus, hnot⟩ := Prod.mk.inj hfields
    obtain ⟨j, hbegan, ⟨-, hdescribes⟩ | ⟨hstarts, -⟩⟩ :=
      (FromScratch.runs_described_iff_claimed h "u").1 4 r hr hstatus
    · exact absurd hdescribes (of_decide_eq_false hnot)
    · exact ⟨j, hbegan, hstarts⟩

/-- A task that failed over is started by hand: its record keeps the count and the end of the run
that was lost. -/
theorem not_describesRun_of_start_by_hand :
    let s : Traffic := ⟨.database {}, []⟩
    let clock : Readings := fun _ => .epoch
    let events : List Event :=
      [.call {} clock (.create "t" "noop" none), .call {} clock (.claim "a"),
        .call {} clock (.change "t" .failover none), .call {} clock (.change "t" .running none)]
    FromScratch s events
      ∧ (∃ r, s.recordAt events "t" 3 = some r ∧ r.status = .failover ∧ r.runCount = 1)
      ∧ ∃ r, s.recordAt events "t" 4 = some r ∧ r.status = .running ∧ r.runCount = 1
        ∧ ¬ r.DescribesRun := by
  intro s clock events
  have hlost : (s.recordAt events "t" 3).map (fun r => (r.status, r.runCount))
      = some (.failover, 1) := by decide +kernel
  have hhand : (s.recordAt events "t" 4).map
      (fun r => (r.status, r.runCount, decide r.DescribesRun)) = some (.running, 1, false) := by
    decide +kernel
  refine ⟨⟨rfl, by decide⟩, ?_, ?_⟩
  · obtain ⟨r, hr, hfields⟩ := Option.map_eq_some_iff.mp hlost
    obtain ⟨hstatus, hcount⟩ := Prod.mk.inj hfields
    exact ⟨r, hr, hstatus, hcount⟩
  · obtain ⟨r, hr, hfields⟩ := Option.map_eq_some_iff.mp hhand
    obtain ⟨hstatus, hfields⟩ := Prod.mk.inj hfields
    obtain ⟨hcount, hnot⟩ := Prod.mk.inj hfields
    exact ⟨r, hr, hstatus, hcount, of_decide_eq_false hnot⟩

end Traffic

end TaskCluster
