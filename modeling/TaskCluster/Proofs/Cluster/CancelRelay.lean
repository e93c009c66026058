import Mathlib
import TaskCluster.Proofs.Cluster.Calls
import TaskCluster.Proofs.Cluster.RunnerEffect
import TaskCluster.Proofs.Store.Entries

/-!
# Passing on requests to cancel, exactly

A runner looks at the record of every run that it tracks and that goes on undisturbed. What it does
to a run depends on that record alone (`Run.relayed`): a run whose record is missing, asks to
cancel, or runs under another claim is interrupted, and one whose record asks to cancel is told so
too. Reads change nothing and signals do not reach the store, so the looks do not disturb one
another (`Runner.relayAll_effect`), and a second round finds each run as the first one left it.
-/

namespace TaskCluster

/-! ### Reads -/

namespace Store

variable {now : ClockTime} {s : Store} {k : Connection} {id : String} {record : Option Record}

theorem record?_of_get (h : s.get id = .ok record) : s.record? id = record := by
  cases s with
  | memory m => exact Except.ok.inj h
  | database d =>
    have hget : d.get id = .ok record := h
    simp [record?, hget, Except.toOption]

theorem call_get (h : (s.call now k (.get id)).1 = .ok record) :
    s.call now k (.get id) = (.ok (s.record? id), k, s) := by
  have heq := call_of_ok h
  rw [performAt_get] at heq
  rw [heq] at h ⊢
  rw [record?_of_get h]
  exact congrArg (·, k, s) h

end Store

/-- A read that succeeds finds the record and changes nothing. -/
theorem Shared.call_get {s : Shared} {k : Nat} {id : String} {record : Option Record}
    (h : (s.call k (.get id)).1 = .ok record) :
    s.call k (.get id) = (.ok (s.store.record? id), s) :=
  call_eq_of_store (Store.call_get h)

/-! ### One run -/

/-- The run after a look at the record of its task. -/
def Run.relayed (record : Option Record) (run : Run) : Run :=
  let requested := record.any Record.cancelRequested
  let owned := record.any fun x => x.isRunningUnder run.claim
  let signals := run.execution.signals
  { run with
    execution := { run.execution with
      signals :=
        { canceled := signals.canceled || requested
          interrupted := signals.interrupted || requested || !owned } } }

namespace Run

variable {record : Option Record} {run : Run}

theorem relayed_relayed : (run.relayed record).relayed record = run.relayed record := by
  dsimp only [relayed]
  generalize record.any Record.cancelRequested = requested
  generalize (record.any fun x => x.isRunningUnder run.claim) = owned
  cases requested <;> cases owned <;> simp

theorem interrupted_relayed (h : run.execution.signals.any = false) :
    (run.relayed record).execution.signals.interrupted = true
      ↔ record = none ∨ ∃ x, record = some x
        ∧ (x.cancelRequested = true ∨ x.isRunningUnder run.claim = false) := by
  have hsignals : run.execution.signals.interrupted = false := by
    simp only [Signals.any, Bool.or_eq_false_iff] at h
    exact h.2
  cases record <;> simp [relayed, hsignals]

theorem canceled_relayed (h : run.execution.signals.any = false) :
    (run.relayed record).execution.signals.canceled = true
      ↔ ∃ x, record = some x ∧ x.cancelRequested = true := by
  have hsignals : run.execution.signals.canceled = false := by
    simp only [Signals.any, Bool.or_eq_false_iff] at h
    exact h.1
  cases record <;> simp [relayed, hsignals]

end Run

/-! ### All runs -/

namespace Runner

variable {s : Shared} {r : Runner} {k : Nat}

theorem relay_eq (record : Option Record) (n : Nat) (s : Shared) :
    relay record n s = { s with runs := (relay record n s).runs } := by
  unfold relay
  split
  · rfl
  · rfl
  · split_ifs <;> rfl

/-- A request goes before ownership, and either goes before nothing. -/
theorem relay_run {n : Nat} {run : Run} (hrun : s.runs[n]? = some run) (record : Option Record) :
    relay record n s = s.signal n fun _ => (run.relayed record).execution := by
  have hsame (f : Execution → Execution) (h : f run.execution = (run.relayed record).execution) :
      s.signal n f = s.signal n fun _ => (run.relayed record).execution := by
    refine Shared.signal_congr fun run' hrun' => ?_
    obtain rfl := Option.some.inj (hrun.symm.trans hrun')
    exact h
  unfold relay
  rw [hrun]
  cases record with
  | none => exact hsame _ (by simp [Run.relayed, Execution.interrupt])
  | some x =>
    dsimp only
    by_cases hrequested : x.cancelRequested = true
    · rw [if_pos hrequested]
      exact hsame _ (by simp [Run.relayed, Execution.cancel, Execution.interrupt, hrequested])
    · rw [if_neg hrequested]
      by_cases howned : x.isRunningUnder run.claim = true
      · rw [if_pos howned]
        refine (Shared.signal_self hrun).symm.trans (hsame _ ?_)
        simp [Run.relayed, hrequested, howned]
      · rw [if_neg howned]
        exact hsame _ (by simp [Run.relayed, Execution.interrupt, hrequested, howned])

theorem getElem?_relay (record : Option Record) (n : Nat) (s : Shared) (j : Nat) :
    (relay record n s).runs[j]?
      = (s.runs[j]?).map fun run => if j = n then run.relayed record else run := by
  cases hrun : s.runs[n]? with
  | none =>
    have hnone : relay record n s = s := by
      unfold relay
      rw [hrun]
    rw [hnone]
    by_cases hj : j = n
    · subst hj
      simp [hrun]
    · simp [hj]
  | some run =>
    rw [relay_run hrun, Shared.getElem?_signal]
    by_cases hj : j = n
    · subst hj
      simp [hrun, Run.relayed]
    · simp [hj]

/-- Looks that all succeed change the signals of the runs that they look at, each as its record
calls for, and nothing else. -/
theorem relayAll_effect (pairs : List (String × Nat)) {s : Shared}
    (hreads : ∀ t ∈ pairs, ∃ record, (s.call k (.get t.1)).1 = .ok record)
    (hnodup : (pairs.map Prod.snd).Nodup) :
    ∃ runs, relayAll k pairs s = (.ok (), { s with runs })
      ∧ (∀ n, n ∉ pairs.map Prod.snd → runs[n]? = s.runs[n]?)
      ∧ ∀ t ∈ pairs, runs[t.2]? = (s.runs[t.2]?).map (Run.relayed (s.store.record? t.1)) := by
  induction pairs generalizing s with
  | nil => exact ⟨s.runs, rfl, fun n _ => rfl, fun t ht => absurd ht List.not_mem_nil⟩
  | cons t pairs ih =>
    obtain ⟨id, n⟩ := t
    obtain ⟨hn, hrest⟩ := List.nodup_cons.mp hnodup
    obtain ⟨record, hread⟩ := hreads (id, n) List.mem_cons_self
    have hcall := Shared.call_get hread
    obtain ⟨runs, hpairs, hframe, hrelayed⟩ :=
      ih (s := { s with runs := (relay (s.store.record? id) n s).runs })
        (fun t ht => hreads t (List.mem_cons_of_mem _ ht)) hrest
    have hlooked := getElem?_relay (s.store.record? id) n s
    dsimp only at hframe hrelayed
    refine ⟨runs, ?_, ?_, ?_⟩
    · unfold relayAll
      rw [hcall]
      dsimp only
      rw [relay_eq]
      exact hpairs
    · intro j hj
      rw [List.map_cons, List.mem_cons, not_or] at hj
      obtain ⟨hjn, hjpairs⟩ := hj
      rw [hframe j hjpairs, hlooked]
      simp [hjn]
    · intro t ht
      rcases List.mem_cons.mp ht with rfl | ht
      · rw [hframe n hn, hlooked]
        simp
      · have hne : t.2 ≠ n := fun heq => hn (List.mem_map.mpr ⟨t, ht, heq⟩)
        rw [hrelayed t ht, hlooked]
        simp [hne]

/-- Looks at runs that have been looked at do nothing. -/
theorem relayAll_again {pairs pairs' : List (String × Nat)} {runs : List Run}
    (hrelayed : ∀ t ∈ pairs, runs[t.2]? = (s.runs[t.2]?).map (Run.relayed (s.store.record? t.1)))
    (hsub : ∀ t ∈ pairs', t ∈ pairs)
    (hreads : ∀ t ∈ pairs', ∃ record, (s.call k (.get t.1)).1 = .ok record)
    (hnodup : (pairs'.map Prod.snd).Nodup) :
    relayAll k pairs' { s with runs } = (.ok (), { s with runs }) := by
  obtain ⟨runs', hround, hframe, hagain⟩ :=
    relayAll_effect (s := { s with runs }) pairs' hreads hnodup
  have hruns : runs' = runs := by
    refine List.ext_getElem? fun n => ?_
    by_cases hmem : n ∈ pairs'.map Prod.snd
    · obtain ⟨t, ht, rfl⟩ := List.mem_map.mp hmem
      have htwice := hagain t ht
      dsimp only at htwice
      rw [htwice, hrelayed t (hsub t ht), Option.map_map]
      congr 1
      funext run
      exact Run.relayed_relayed
    · exact hframe n hmem
  rw [hruns] at hround
  exact hround

theorem mem_undisturbed {t : String × Nat} :
    t ∈ r.undisturbed s ↔ t ∈ r.tracked ∧ ∃ run, s.runs[t.2]? = some run
      ∧ run.execution.isAlive = true ∧ run.execution.signals.any = false := by
  unfold undisturbed Shared.isAlive Shared.signals
  rw [List.mem_filter]
  cases hrun : s.runs[t.2]? <;> simp

/-- What goes on undisturbed after a round did so before it. -/
theorem mem_undisturbed_of_frame (htracked : (r.tracked.map Prod.snd).Nodup) {runs : List Run}
    (hframe : ∀ n, n ∉ (r.undisturbed s).map Prod.snd → runs[n]? = s.runs[n]?) {t : String × Nat}
    (ht : t ∈ r.undisturbed { s with runs }) : t ∈ r.undisturbed s := by
  obtain ⟨htrack, run, hrun, halive, hquiet⟩ := mem_undisturbed.mp ht
  by_cases hmem : t.2 ∈ (r.undisturbed s).map Prod.snd
  · obtain ⟨t', ht', heq⟩ := List.mem_map.mp hmem
    have hsame := List.inj_on_of_nodup_map htracked (List.mem_of_mem_filter ht') htrack heq
    exact hsame ▸ ht'
  · have hrun' : s.runs[t.2]? = some run := (hframe t.2 hmem).symm.trans hrun
    exact mem_undisturbed.mpr ⟨htrack, run, hrun', halive, hquiet⟩

/-- **Passing on requests to cancel, exactly.** A tracked run that goes on and was sent no signal is
interrupted if and only if its record is missing, asks to cancel, or does not run under the claim of
the run, and it is asked to cancel if and only if its record asks for that. Every other run, the
store and whatever else is shared stay as they are, and a second round does nothing. No run is
tracked for two tasks, since each start makes a run of its own. -/
theorem relays_cancels_exactly (htracked : (r.tracked.map Prod.snd).Nodup)
    (hreads : ∀ t ∈ r.undisturbed s, ∃ record,
      (s.call r.connection (.get t.1)).1 = .ok record) :
    ∃ runs, r.relayCancels s = (.ok (), { s with runs })
      ∧ (∀ n, (∀ run, s.runs[n]? = some run → n ∉ r.tracked.map Prod.snd
          ∨ run.execution.isAlive = false ∨ run.execution.signals.any = true) →
          runs[n]? = s.runs[n]?)
      ∧ (∀ id n run, (id, n) ∈ r.tracked → s.runs[n]? = some run → run.execution.isAlive = true →
          run.execution.signals.any = false →
          ∃ signals, runs[n]? = some { run with execution := { run.execution with signals } }
            ∧ (signals.interrupted = true ↔ s.store.record? id = none
                ∨ ∃ x, s.store.record? id = some x
                  ∧ (x.cancelRequested = true ∨ x.isRunningUnder run.claim = false))
            ∧ (signals.canceled = true ↔ ∃ x, s.store.record? id = some x
                ∧ x.cancelRequested = true))
      ∧ r.relayCancels { s with runs } = (.ok (), { s with runs }) := by
  have hnodup (s : Shared) : ((r.undisturbed s).map Prod.snd).Nodup :=
    htracked.sublist (List.filter_sublist.map _)
  obtain ⟨runs, hround, hframe, hrelayed⟩ :=
    relayAll_effect (r.undisturbed s) hreads (hnodup s)
  refine ⟨runs, hround, ?_, ?_, ?_⟩
  · intro n hn
    refine hframe n fun hmem => ?_
    obtain ⟨t, ht, rfl⟩ := List.mem_map.mp hmem
    obtain ⟨htrack, run, hrun, halive, hquiet⟩ := mem_undisturbed.mp ht
    rcases hn run hrun with huntracked | hdead | hsignaled
    · exact huntracked (List.mem_map_of_mem htrack)
    · rw [halive] at hdead
      cases hdead
    · rw [hquiet] at hsignaled
      cases hsignaled
  · intro id n run htrack hrun halive hquiet
    have hgoes : (id, n) ∈ r.undisturbed s :=
      mem_undisturbed.mpr ⟨htrack, run, hrun, halive, hquiet⟩
    refine ⟨(run.relayed (s.store.record? id)).execution.signals, ?_,
      Run.interrupted_relayed hquiet, Run.canceled_relayed hquiet⟩
    rw [hrelayed (id, n) hgoes, hrun]
    rfl
  · have hbefore := fun t ht => mem_undisturbed_of_frame htracked hframe (t := t) ht
    exact relayAll_again hrelayed hbefore (fun t ht => hreads t (hbefore t ht)) (hnodup _)

/-- Four runs: the record of the first asks to cancel, that of the second runs on another node, and
that of the fourth is gone. The third is not disturbed. -/
theorem relays_cancels_exactly_of_four :
    let epoch := ClockTime.epoch.toInstant
    let running (id node : String) : Record := (Record.fresh id "noop" none epoch).running node epoch
    let m : Memory := ⟨[{ running "a" "n" with cancelRequested := true }, running "b" "other",
      running "c" "n"], by decide⟩
    let run (id : String) : Run := ⟨⟨"n", 1⟩, .spawn id (.script [.waitInterrupt]), 0⟩
    let s : Shared :=
      { store := .memory m, clock := .epoch, runs := [run "a", run "b", run "c", run "d"] }
    let r : Runner :=
      { node := "n", connection := 0, tracked := [("a", 0), ("b", 1), ("c", 2), ("d", 3)] }
    ∃ runs, r.relayCancels s = (.ok (), { s with runs })
      ∧ runs.map (fun run => run.execution.signals)
        = [⟨true, true⟩, ⟨false, true⟩, ⟨false, false⟩, ⟨false, true⟩]
      ∧ r.relayCancels { s with runs } = (.ok (), { s with runs }) := by
  intro epoch running m run s r
  have hreads : ∀ t ∈ r.undisturbed s, ∃ record,
      (s.call r.connection (.get t.1)).1 = .ok record := fun t _ => ⟨m.get? t.1, rfl⟩
  obtain ⟨runs, hround, -, -, hagain⟩ := relays_cancels_exactly (by decide) hreads
  refine ⟨runs, hround, ?_, hagain⟩
  have hruns : runs = (r.relayCancels s).2.runs := by rw [hround]
  rw [hruns]
  decide +kernel

end Runner

end TaskCluster
