import Mathlib
import TaskCluster.Proofs.Cluster.CancelRelay
import TaskCluster.Proofs.Cluster.Filling
import TaskCluster.Proofs.Cluster.Validation
import TaskCluster.Proofs.Store.Handout

/-!
# Iterations among failures

Any call of the store may fail in the middle of an iteration. A call that fails leaves everything as
it was, so each step of the iteration starts from what the last one has done so far.

What starting tasks does is followed round by round. A round (`Runner.Round`) claims one task and
takes it up: its run is tracked, or it ends with an error because its work cannot be made. The loop
stops when a claim finds nothing or fails, when the node is full, or when the error of a task cannot
be written (`Runner.startUpTo_succ_cases`). Fewer tasks wait after every round, so the loop ends
whatever its bound is, and `Runner.Started` says what has become of everything then.
-/

namespace TaskCluster

/-! ### Calls -/

namespace Shared

variable {s s' : Shared} {k : Nat} {c : Call}

/-- A call that fails changes nothing and is no overflow. -/
theorem call_of_error (hcountable : s.store.Countable) {e : Abort}
    (h : s.call k c = (.error e, s')) : s' = s ∧ ∃ f, e = .failure f := by
  have herror : (s.store.call s.clock (s.connection k) c).1 = .error e := congrArg Prod.fst h
  obtain ⟨hcall, hfailure⟩ := Store.call_of_error hcountable herror
  have hsame := call_eq_of_store hcall
  rw [h] at hsame
  exact ⟨congrArg Prod.snd hsame, hfailure⟩

/-- A call that succeeds changes nothing but the store. -/
theorem call_of_ok {a : c.Result} (h : s.call k c = (.ok a, s')) :
    s' = { s with store := s'.store } := by
  have hok : (s.store.call s.clock (s.connection k) c).1 = .ok a := congrArg Prod.fst h
  have hsame := call_eq_of_store (Store.call_of_ok hok)
  rw [h] at hsame
  have hstore := congrArg Prod.snd hsame
  dsimp only at hstore
  rw [hstore]

/-- What a claim does that hands out the next run of a task. -/
structure Claims (s : Shared) (node : String) (w : Record) (s' : Shared) : Prop where
  waited : s.store.record? w.id = some w
  runnable : w.status.isRunnable = true
  taken : s'.store.record? w.id = some (w.running node s.clock.toInstant)
  others : ∀ id, id ≠ w.id → Record.PassedBy (s.store.record? id) (s'.store.record? id)
  amends : Amends s.store.entries s'.store.entries
  shared_eq : s' = { s with store := s'.store }

theorem Claims.countable {node : String} {w : Record} (h : s.Claims node w s')
    (hcountable : s.store.Countable) : s'.store.Countable := by
  refine Store.countable_of_passedBy (fun x hx => ?_) h.others hcountable
  obtain rfl := Option.some.inj (h.taken.symm.trans hx)
  rfl

theorem claims_of_call (hcountable : s.store.Countable) {node : String} {r : Record}
    (h : s.call k (.claim node) = (.ok (some r), s')) :
    ∃ w, r = w.running node s.clock.toInstant ∧ s.Claims node w s' := by
  have hok : (s.store.call s.clock (s.connection k) (.claim node)).1 = .ok (some r) :=
    congrArg Prod.fst h
  have hstore : s'.store = (s.store.call s.clock (s.connection k) (.claim node)).2.2 :=
    (congrArg (fun p => p.2.store) h).symm
  obtain ⟨w, hwaited, hrunnable, rfl, htaken⟩ := Store.taken_of_claim hcountable hok
  refine ⟨w, rfl, hwaited, hrunnable, hstore ▸ htaken, ?_, ?_, call_of_ok h⟩
  · intro id hid
    rw [hstore]
    refine Store.passedBy_of_claim hcountable hok fun x hx heq => hid ?_
    obtain rfl := Option.some.inj hx
    exact heq.symm
  · rw [hstore]
    exact Store.amends_call s.clock s.store (s.connection k) (by simp [Call.operation])

/-- A claim that finds nothing to run may give up some of the tasks that wait. -/
theorem passedBy_of_call (hcountable : s.store.Countable) {node : String}
    (h : s.call k (.claim node) = (.ok none, s')) (id : String) :
    Record.PassedBy (s.store.record? id) (s'.store.record? id) := by
  have hok : (s.store.call s.clock (s.connection k) (.claim node)).1 = .ok none :=
    congrArg Prod.fst h
  have hstore : s'.store = (s.store.call s.clock (s.connection k) (.claim node)).2.2 :=
    (congrArg (fun p => p.2.store) h).symm
  rw [hstore]
  refine Store.passedBy_of_claim hcountable hok fun x hx => ?_
  cases hx

/-- A report that the work of a claimed task cannot be made is written if it is answered. -/
theorem reported_of_call {w : Record} {node : String} {f : Failure} {done : Bool}
    (hrunning : s.store.record? w.id = some (w.running node s.clock.toInstant))
    (h : s.call k (.changeFor w.id ⟨node, w.runCount + 1⟩ .finishedError
        (some (Runner.cannotStart f))) = (.ok done, s')) :
    s' = s.write ((w.running node s.clock.toInstant).rejected f s.clock.toInstant) := by
  have hok : (s.store.call s.clock (s.connection k) (.changeFor w.id ⟨node, w.runCount + 1⟩
      .finishedError (some (Runner.cannotStart f)))).1 = .ok done := congrArg Prod.fst h
  have hcall := (Store.answers_of_changeFor hok).call_changeFor (Store.not_failing_of_ok hok)
    hrunning (w.changeStatusFor_rejected node f s.clock.toInstant)
  have hwritten := call_eq_of_store hcall
  rw [h] at hwritten
  exact congrArg Prod.snd hwritten

end Shared

/-- A task that was taken up does not wait. -/
theorem Record.isRunnable_launched (registry : Registry) (node : String) (now : Instant)
    (w : Record) : (w.launched registry node now).status.isRunnable = false := by
  unfold launched
  split <;> rfl

namespace Runner

/-! ### One round -/

/-- One round of starting tasks: a task is claimed and taken up. -/
structure Round (registry : Registry) (r : Runner) (s : Shared) (w : Record) (r' : Runner)
    (s' : Shared) : Prop where
  waited : s.store.record? w.id = some w
  runnable : w.status.isRunnable = true
  launched : s'.store.record? w.id = some (w.launched registry r.node s.clock.toInstant)
  others : ∀ id, id ≠ w.id → Record.PassedBy (s.store.record? id) (s'.store.record? id)
  amends : Amends s.store.entries s'.store.entries
  runs : s'.runs = s.runs ++ (w.run? registry r.node r.connection).toList
  tracked : ∀ run, w.run? registry r.node r.connection = some run →
    r'.find? w.id = some s.runs.length
  untracked : ∀ id, (w.id = id → w.run? registry r.node r.connection = none) →
    r'.find? id = r.find? id
  runner_eq : r' = { r with tracked := r'.tracked }
  shared_eq : s' = { s with store := s'.store, runs := s'.runs }

variable {registry : Registry} {r r' : Runner} {s s' : Shared} {w : Record}

/-- The work of the task is made, and its run is launched. -/
theorem round_of_made (h : s.Claims r.node w s') {work : Work}
    (hwork : instantiate registry w = .ok work) :
    let launched := r.launch (w.running r.node s.clock.toInstant) ⟨r.node, w.runCount + 1⟩ work s'
    Round registry r s w launched.1 launched.2 := by
  have hrun : w.run? registry r.node r.connection
      = some ⟨⟨r.node, w.runCount + 1⟩, Execution.spawn w.id work, r.connection⟩ := by
    rw [Record.run?, hwork]
  have hruns : s'.runs = s.runs := by rw [h.shared_eq]
  intro launched
  refine ⟨h.waited, h.runnable, ?_, h.others, h.amends, ?_, ?_, ?_, track_eq _ _, ?_⟩
  · rw [Record.launched, hwork]
    exact h.taken
  · rw [hrun, ← hruns]
    rfl
  · intro run _
    rw [← hruns]
    exact find?_track w.id s'.runs.length
  · intro id hid
    refine find?_track_of_ne (fun heq => ?_) s'.runs.length
    cases hrun.symm.trans (hid heq.symm)
  · exact congrArg (fun t : Shared => { t with runs := launched.2.runs }) h.shared_eq

/-- The work of the task cannot be made, and that is written. -/
theorem round_of_refused {k : Nat} (h : s.Claims r.node w s') {f : Failure}
    (hf : instantiate registry w = .error f) {done : Bool} {s'' : Shared}
    (hreport : s'.call k (.changeFor w.id ⟨r.node, w.runCount + 1⟩ .finishedError
      (some (cannotStart f))) = (.ok done, s'')) :
    Round registry r s w r s'' := by
  have hrun : w.run? registry r.node r.connection = none := by rw [Record.run?, hf]
  have hclock : s'.clock = s.clock := by rw [h.shared_eq]
  have hruns : s'.runs = s.runs := by rw [h.shared_eq]
  have hrunning := h.taken
  rw [← hclock] at hrunning
  have hwritten := Shared.reported_of_call hrunning hreport
  have hstore : s''.store = (s'.call k (.changeFor w.id ⟨r.node, w.runCount + 1⟩ .finishedError
      (some (cannotStart f)))).2.store := by rw [hreport]
  have hamends : Amends s'.store.entries s''.store.entries := by
    rw [hstore]
    exact Store.amends_call s'.clock s'.store (s'.connection k) (by simp [Call.operation])
  refine ⟨h.waited, h.runnable, ?_, ?_, h.amends.trans hamends, ?_, ?_, fun id _ => rfl, rfl, ?_⟩
  · have hkept := (w.running r.node s'.clock.toInstant).kept_changeStatusFor
      ⟨r.node, w.runCount + 1⟩ .finishedError (some (cannotStart f)) s'.clock
    rw [Record.changeStatusFor_rejected] at hkept
    rw [Record.launched, hf, hwritten, ← hclock]
    exact Store.record?_write hrunning hkept
  · intro id hid
    have hsame : s''.store.record? id = s'.store.record? id := by
      rw [hwritten]
      exact Store.record?_write_of_ne hid
    rw [hsame]
    exact h.others id hid
  · rw [hrun, hwritten]
    exact hruns.trans (List.append_nil _).symm
  · intro run hsome
    cases hrun.symm.trans hsome
  · obtain ⟨store, rfl⟩ : ∃ store, s' = { s with store } := ⟨_, h.shared_eq⟩
    rw [hwritten]
    rfl

namespace Round

variable (h : Round registry r s w r' s')
include h

theorem node_eq : r'.node = r.node := by rw [h.runner_eq]

theorem connection_eq : r'.connection = r.connection := by rw [h.runner_eq]

theorem clock_eq : s'.clock = s.clock := by rw [h.shared_eq]

theorem not_waiting (x : Record) (hx : s'.store.record? w.id = some x) :
    x.status.isRunnable = false := by
  obtain rfl := Option.some.inj (h.launched.symm.trans hx)
  exact w.isRunnable_launched registry r.node s.clock.toInstant

theorem countable (hcountable : s.store.Countable) : s'.store.Countable :=
  Store.countable_of_passedBy h.not_waiting h.others hcountable

/-- Fewer tasks wait after a round. -/
theorem length_waiting_lt : s'.store.waiting.length < s.store.waiting.length :=
  Store.length_waiting_lt h.not_waiting h.others h.amends h.waited h.runnable

end Round

/-! ### All rounds -/

/-- The error of a claimed task cannot be written, and this ends the loop: the task is left running,
and nobody runs it. -/
structure Stranded (registry : Registry) (r : Runner) (s : Shared) (w : Record)
    (out : Except Abort Unit × Runner × Shared) (f : Failure) (e : Abort) : Prop where
  unmade : instantiate registry w = .error f
  running : out.2.2.store.record? w.id = some (w.running r.node s.clock.toInstant)
  ended : out.1 = .error e
  unwritten : out.2.2.call r.connection (.changeFor w.id ⟨r.node, w.runCount + 1⟩ .finishedError
    (some (cannotStart f))) = (.error e, out.2.2)

/-- What starting tasks comes to when some have been claimed, however it ends. -/
structure Started (registry : Registry) (r : Runner) (s : Shared) (claimed : List Record)
    (out : Except Abort Unit × Runner × Shared) : Prop where
  distinct : (claimed.map Record.id).Nodup
  waited : ∀ w ∈ claimed, s.store.record? w.id = some w ∧ w.status.isRunnable = true
  launched : ∀ w ∈ claimed,
    out.2.2.store.record? w.id = some (w.launched registry r.node s.clock.toInstant)
    ∨ ∃ f e, Stranded registry r s w out f e
  others : ∀ id, id ∉ claimed.map Record.id →
    Record.PassedBy (s.store.record? id) (out.2.2.store.record? id)
  runs : s.runs <+: out.2.2.runs
  tracked : ∀ w ∈ claimed, ∀ run, w.run? registry r.node r.connection = some run →
    ∃ n, out.2.1.find? w.id = some n ∧ s.runs.length ≤ n ∧ out.2.2.runs[n]? = some run
  untracked : ∀ id, (∀ w ∈ claimed, w.id = id → w.run? registry r.node r.connection = none) →
    out.2.1.find? id = r.find? id
  no_overflow : overflow? out.1 = none
  runner_eq : out.2.1 = { r with tracked := out.2.1.tracked }

namespace Started

variable {claimed : List Record} {out : Except Abort Unit × Runner × Shared}

/-- The loop stops before it claims anything. -/
theorem nil {answer : Except Abort Unit} (hanswer : overflow? answer = none)
    (hpassed : ∀ id, Record.PassedBy (s.store.record? id) (s'.store.record? id))
    (hruns : s'.runs = s.runs) : Started registry r s [] (answer, r, s') where
  distinct := List.nodup_nil
  waited w hw := by cases hw
  launched w hw := by cases hw
  others id _ := hpassed id
  runs := by rw [hruns]
  tracked w hw := by cases hw
  untracked id _ := rfl
  no_overflow := hanswer
  runner_eq := rfl

/-- The loop stops with a task that it can neither start nor end. -/
theorem stranded (h : s.Claims r.node w s') {f g : Failure}
    (hf : instantiate registry w = .error f)
    (hreport : s'.call r.connection (.changeFor w.id ⟨r.node, w.runCount + 1⟩ .finishedError
      (some (cannotStart f))) = (.error (.failure g), s')) :
    Started registry r s [w] (.error (.failure g), r, s') where
  distinct := List.nodup_singleton w.id
  waited := by
    intro x hx
    obtain rfl := List.mem_singleton.mp hx
    exact ⟨h.waited, h.runnable⟩
  launched := by
    intro x hx
    obtain rfl := List.mem_singleton.mp hx
    exact Or.inr ⟨f, .failure g, hf, h.taken, rfl, hreport⟩
  others id hid := h.others id fun heq => hid (List.mem_singleton.mpr heq)
  runs := by
    have hruns : s'.runs = s.runs := by rw [h.shared_eq]
    rw [hruns]
  tracked := by
    intro x hx run hrun
    obtain rfl := List.mem_singleton.mp hx
    rw [Record.run?, hf] at hrun
    cases hrun
  untracked id _ := rfl
  no_overflow := rfl
  runner_eq := rfl

section Cons

variable (h : Started registry r' s' claimed out) (hround : Round registry r s w r' s')
include h hround

/-- A task that was taken up is not claimed again. -/
theorem id_notMem : w.id ∉ claimed.map Record.id := by
  intro hmem
  obtain ⟨x, hx, hid⟩ := List.mem_map.mp hmem
  obtain ⟨hrecord, hwaits⟩ := h.waited x hx
  rw [hid] at hrecord
  cases (hround.not_waiting x hrecord).symm.trans hwaits

/-- A round comes before the others and does not concern them, nor they it. -/
theorem cons : Started registry r s (w :: claimed) out where
  distinct := List.nodup_cons.mpr ⟨h.id_notMem hround, h.distinct⟩
  waited := by
    intro x hx
    rcases List.mem_cons.mp hx with rfl | hx
    · exact ⟨hround.waited, hround.runnable⟩
    · obtain ⟨hrecord, hruns⟩ := h.waited x hx
      have hne : x.id ≠ w.id := fun heq => h.id_notMem hround (heq ▸ List.mem_map_of_mem hx)
      have hpassed := hround.others x.id hne
      rw [hrecord] at hpassed
      exact ⟨hpassed.eq_of_isRunnable hruns, hruns⟩
  launched := by
    intro x hx
    rcases List.mem_cons.mp hx with rfl | hx
    · have hpassed := h.others x.id (h.id_notMem hround)
      rw [hround.launched] at hpassed
      exact Or.inl (hpassed.eq_of_not_isRunnable (x.isRunnable_launched registry _ _))
    · rcases h.launched x hx with hlaunched | ⟨f, e, hunmade, hrunning, hended, hunwritten⟩
      · rw [hround.node_eq, hround.clock_eq] at hlaunched
        exact Or.inl hlaunched
      · rw [hround.node_eq, hround.clock_eq] at hrunning
        rw [hround.node_eq, hround.connection_eq] at hunwritten
        exact Or.inr ⟨f, e, hunmade, hrunning, hended, hunwritten⟩
  others := by
    intro id hid
    rw [List.map_cons, List.mem_cons, not_or] at hid
    exact (hround.others id hid.1).trans (h.others id hid.2)
  runs := (hround.runs ▸ List.prefix_append _ _ : s.runs <+: s'.runs).trans h.runs
  tracked := by
    intro x hx run hrun
    rcases List.mem_cons.mp hx with rfl | hx
    · have hfirst := hround.runs
      rw [hrun] at hfirst
      have hget : s'.runs[s.runs.length]? = some run := by rw [hfirst]; simp
      refine ⟨s.runs.length, ?_, Nat.le_refl _, ?_⟩
      · refine (h.untracked x.id fun y hy heq => ?_).trans (hround.tracked run hrun)
        exact absurd (heq ▸ List.mem_map_of_mem hy) (h.id_notMem hround)
      · obtain ⟨rest, hrest⟩ := h.runs
        rw [← hrest]
        have hlt := (List.getElem?_eq_some_iff.mp hget).1
        exact (List.getElem?_append_left hlt).trans hget
    · have htracked := h.tracked x hx run
      rw [hround.node_eq, hround.connection_eq] at htracked
      obtain ⟨n, hfind, hle, hget⟩ := htracked hrun
      rw [hround.runs, List.length_append] at hle
      exact ⟨n, hfind, (Nat.le_add_right _ _).trans hle, hget⟩
  untracked := by
    intro id hnone
    refine (h.untracked id fun x hx heq => ?_).trans
      (hround.untracked id (hnone w List.mem_cons_self))
    rw [hround.node_eq, hround.connection_eq]
    exact hnone x (List.mem_cons_of_mem w hx) heq
  no_overflow := h.no_overflow
  runner_eq := h.runner_eq.trans
    (congrArg (fun p : Runner => { p with tracked := out.2.1.tracked }) hround.runner_eq)

end Cons

/-- A claimed task whose work is made runs, and its run is tracked. -/
theorem made (h : Started registry r s claimed out) (hw : w ∈ claimed) {work : Work}
    (hwork : instantiate registry w = .ok work) :
    out.2.2.store.record? w.id = some (w.running r.node s.clock.toInstant)
      ∧ ∃ n, out.2.1.find? w.id = some n ∧ s.runs.length ≤ n ∧ out.2.2.runs[n]?
        = some ⟨⟨r.node, w.runCount + 1⟩, Execution.spawn w.id work, r.connection⟩ := by
  refine ⟨?_, h.tracked w hw _ (by rw [Record.run?, hwork])⟩
  rcases h.launched w hw with hlaunched | ⟨f, e, hunmade, -⟩
  · rwa [Record.launched, hwork] at hlaunched
  · cases hwork.symm.trans hunmade

/-- Any other claimed task ends with an error, or it is stranded. -/
theorem unmade (h : Started registry r s claimed out) (hw : w ∈ claimed) {f : Failure}
    (hf : instantiate registry w = .error f) :
    out.2.2.store.record? w.id
        = some ((w.running r.node s.clock.toInstant).rejected f s.clock.toInstant)
      ∨ ∃ e, Stranded registry r s w out f e := by
  rcases h.launched w hw with hlaunched | ⟨g, e, hstranded⟩
  · rw [Record.launched, hf] at hlaunched
    exact Or.inl hlaunched
  · obtain rfl := Except.error.inj (hf.symm.trans hstranded.unmade)
    exact Or.inr ⟨e, hstranded⟩

/-- What runs in the end ran before, or it was claimed. -/
theorem running (h : Started registry r s claimed out) {id : String} {x : Record}
    (hx : out.2.2.store.record? id = some x) (hruns : x.status = .running) :
    s.store.record? id = some x
      ∨ ∃ w ∈ claimed, w.id = id ∧ x = w.running r.node s.clock.toInstant := by
  by_cases hid : id ∈ claimed.map Record.id
  · obtain ⟨w, hw, rfl⟩ := List.mem_map.mp hid
    refine Or.inr ⟨w, hw, rfl, ?_⟩
    rcases h.launched w hw with hlaunched | ⟨f, e, hstranded⟩
    · obtain rfl := Option.some.inj (hx.symm.trans hlaunched)
      unfold Record.launched at hruns ⊢
      split at hruns
      case h_1 => rfl
      case h_2 => cases hruns
    · exact Option.some.inj (hx.symm.trans hstranded.running)
  · have hpassed := h.others id hid
    rw [hx] at hpassed
    exact Or.inl (hpassed.eq_of_running hruns)

end Started

/-! ### The loop -/

/-- A round of the loop that has claimed a task. -/
theorem startUpTo_of_claim (registry : Registry) {record : Record} {c : Claim}
    (hfull : r.isFull = false)
    (hclaim : s.call r.connection (.claim r.node) = (.ok (some record), s'))
    (hclaimed : record.claim? = some c) (fuel : Nat) :
    startUpTo registry (fuel + 1) r s =
      match instantiate registry record with
      | .ok work =>
        startUpTo registry fuel (r.launch record c work s').1 (r.launch record c work s').2
      | .error f =>
        match s'.call r.connection
            (.changeFor record.id c .finishedError (some (cannotStart f))) with
        | (.error e, s'') => (.error e, r, s'')
        | (.ok _, s'') => startUpTo registry fuel r s'' := by
  rw [startUpTo, if_neg (by simp [hfull]), hclaim]
  dsimp only
  cases instantiate registry record with
  | ok work => simp only [hclaimed]
  | error f =>
    rcases hreport : s'.call r.connection
        (.changeFor record.id c .finishedError (some (cannotStart f))) with ⟨e | done, s''⟩ <;>
      simp only [hclaimed, hreport]

/-- The loop stops, or it makes a round and goes on. -/
theorem startUpTo_succ_cases (registry : Registry) (r : Runner) (hcountable : s.store.Countable) :
    (∃ claimed out, Started registry r s claimed out
      ∧ ∀ fuel, startUpTo registry (fuel + 1) r s = out)
    ∨ ∃ w r' s', Round registry r s w r' s'
      ∧ ∀ fuel, startUpTo registry (fuel + 1) r s = startUpTo registry fuel r' s' := by
  cases hfull : r.isFull with
  | true =>
    exact Or.inl ⟨[], (.ok (), r, s), .nil rfl (fun id => .left _) rfl,
      fun fuel => startUpTo_of_isFull hfull _⟩
  | false =>
  have hroom : ¬ r.isFull = true := by simp [hfull]
  rcases hclaim : s.call r.connection (.claim r.node) with ⟨e | _ | record, s'⟩
  case error =>
    obtain ⟨rfl, f, rfl⟩ := Shared.call_of_error hcountable hclaim
    refine Or.inl ⟨[], (.error (.failure f), r, s'), .nil rfl (fun id => .left _) rfl, ?_⟩
    intro fuel
    rw [startUpTo, if_neg hroom, hclaim]
  case ok.none =>
    have hpassed := Shared.passedBy_of_call hcountable hclaim
    have hruns : s'.runs = s.runs := by rw [Shared.call_of_ok hclaim]
    refine Or.inl ⟨[], (.ok (), r, s'), .nil rfl hpassed hruns, fun fuel => ?_⟩
    rw [startUpTo, if_neg hroom, hclaim]
  case ok.some =>
  obtain ⟨w, rfl, hclaims⟩ := Shared.claims_of_call hcountable hclaim
  have hclaimed : (w.running r.node s.clock.toInstant).claim? = some ⟨r.node, w.runCount + 1⟩ := rfl
  have hinstantiate : instantiate registry (w.running r.node s.clock.toInstant)
      = instantiate registry w := rfl
  have hround := startUpTo_of_claim registry hfull hclaim hclaimed
  rw [hinstantiate] at hround
  cases hwork : instantiate registry w with
  | ok work =>
    rw [hwork] at hround
    exact Or.inr ⟨w, _, _, round_of_made hclaims hwork, hround⟩
  | error f =>
  rw [hwork] at hround
  dsimp only at hround
  rcases hreport : s'.call r.connection (.changeFor (w.running r.node s.clock.toInstant).id
    ⟨r.node, w.runCount + 1⟩ .finishedError (some (cannotStart f))) with ⟨e | done, s''⟩
  -- The one way to lose a claim: the task is running in the store, and the loop ends here.
  case error =>
    obtain ⟨rfl, g, rfl⟩ := Shared.call_of_error (hclaims.countable hcountable) hreport
    rw [hreport] at hround
    exact Or.inl ⟨[w], _, .stranded hclaims hwork hreport, hround⟩
  case ok =>
    rw [hreport] at hround
    exact Or.inr ⟨w, r, s'', round_of_refused hclaims hwork hreport, hround⟩

/-- The loop ends, and no bound beyond the number of tasks that wait makes a difference. -/
theorem exists_started (registry : Registry) {n : Nat} (hcountable : s.store.Countable)
    (hn : s.store.waiting.length ≤ n) :
    ∃ claimed out, Started registry r s claimed out
      ∧ ∀ fuel, n < fuel → startUpTo registry fuel r s = out := by
  -- A round takes up a task that waited, so there are at most `n` rounds, whatever the node has room
  -- for; the last turn of the loop is the one that stops.
  induction n generalizing r s with
  | zero =>
    rcases startUpTo_succ_cases registry r hcountable with
      ⟨claimed, out, hstarted, hloop⟩ | ⟨w, r', s', hround, -⟩
    · refine ⟨claimed, out, hstarted, fun fuel hfuel => ?_⟩
      obtain ⟨fuel, rfl⟩ := Nat.exists_eq_add_one_of_ne_zero (Nat.ne_zero_of_lt hfuel)
      exact hloop fuel
    · have hlt := hround.length_waiting_lt
      omega
  | succ n ih =>
    rcases startUpTo_succ_cases registry r hcountable with
      ⟨claimed, out, hstarted, hloop⟩ | ⟨w, r', s', hround, hloop⟩
    · refine ⟨claimed, out, hstarted, fun fuel hfuel => ?_⟩
      obtain ⟨fuel, rfl⟩ := Nat.exists_eq_add_one_of_ne_zero (Nat.ne_zero_of_lt hfuel)
      exact hloop fuel
    · have hfewer : s'.store.waiting.length ≤ n :=
        Nat.le_of_lt_succ (hround.length_waiting_lt.trans_le hn)
      obtain ⟨claimed, out, hstarted, hrest⟩ := ih (hround.countable hcountable) hfewer
      refine ⟨w :: claimed, out, hstarted.cons hround, fun fuel hfuel => ?_⟩
      obtain ⟨fuel, rfl⟩ := Nat.exists_eq_add_one_of_ne_zero (Nat.ne_zero_of_lt hfuel)
      exact (hloop fuel).trans (hrest fuel (Nat.lt_of_succ_lt_succ hfuel))

/-! ### Cancel requests and heartbeats -/

/-- A signal ends no run. -/
theorem isAlive_relay (record : Option Record) (n : Nat) (s : Shared) (j : Nat) :
    (relay record n s).isAlive j = s.isAlive j := by
  unfold Shared.isAlive
  rw [getElem?_relay, Option.any_map]
  congr 1
  funext run
  split <;> rfl

/-- Looks at runs, up to the first that fails, only send signals. -/
theorem relayAll_frame (k : Nat) (pairs : List (String × Nat)) (hcountable : s.store.Countable) :
    overflow? (relayAll k pairs s).1 = none
      ∧ (relayAll k pairs s).2 = { s with runs := (relayAll k pairs s).2.runs }
      ∧ ∀ n, (relayAll k pairs s).2.isAlive n = s.isAlive n := by
  -- A look that fails leaves out the looks after it, but not what was signaled before it.
  induction pairs generalizing s with
  | nil => exact ⟨rfl, rfl, fun n => rfl⟩
  | cons t pairs ih =>
    obtain ⟨id, n⟩ := t
    rw [relayAll]
    rcases hget : s.call k (.get id) with ⟨e | record, s'⟩
    case error =>
      obtain ⟨rfl, f, rfl⟩ := Shared.call_of_error hcountable hget
      exact ⟨rfl, rfl, fun n => rfl⟩
    case ok =>
      have hread := Shared.call_get (congrArg Prod.fst hget)
      obtain rfl : s' = s := congrArg Prod.snd (hget.symm.trans hread)
      have hsignaled := relay_eq record n s'
      have hcountable' : (relay record n s').store.Countable := by rwa [hsignaled]
      obtain ⟨hanswer, hframe, halive⟩ := ih hcountable'
      refine ⟨hanswer, hframe.trans ?_, fun j => ?_⟩
      · exact congrArg (fun t : Shared =>
          { t with runs := (relayAll k pairs (relay record n s')).2.runs }) hsignaled
      · exact (halive j).trans (isAlive_relay record n s' j)

/-- A heartbeat sets its time if it succeeds, and does nothing if it fails. -/
theorem heartbeatIfDue_eq {timeout : Duration}
    (htimeout : r.settings.failoverTimeout? = some timeout) (hcountable : s.store.Countable) :
    let beat := s.call r.connection (.heartbeat r.node r.ids timeout)
    overflow? (r.heartbeatIfDue s).1 = none
      ∧ (r.heartbeatIfDue s).2 =
        ({ r with
            lastHeartbeat :=
              if r.isHeartbeatDue s && beat.1.isOk then some s.timer else r.lastHeartbeat },
          if r.isHeartbeatDue s then beat.2 else s)
      ∧ (beat.1.isOk = false → beat.2 = s)
      ∧ beat.2 = { s with store := beat.2.store } := by
  intro beat
  rcases hbeat : s.call r.connection (.heartbeat r.node r.ids timeout) with ⟨e | _, s'⟩
  case error =>
    obtain ⟨rfl, f, rfl⟩ := Shared.call_of_error hcountable hbeat
    have hfailed : beat = (.error (.failure f), s') := hbeat
    rw [hfailed]
    unfold heartbeatIfDue heartbeat
    rw [htimeout]
    dsimp only
    rw [hbeat]
    cases r.isHeartbeatDue s' <;> exact ⟨rfl, rfl, fun _ => rfl, rfl⟩
  case ok =>
    have hframe := Shared.call_of_ok hbeat
    have hdone : beat = (.ok (), s') := hbeat
    have htimer : s'.timer = s.timer := by rw [hframe]
    rw [hdone]
    unfold heartbeatIfDue heartbeat
    rw [htimeout]
    dsimp only
    rw [hbeat]
    dsimp only
    rw [htimer]
    cases r.isHeartbeatDue s with
    | false => exact ⟨rfl, rfl, nofun, hframe⟩
    | true => exact ⟨rfl, rfl, nofun, hframe⟩

section Heartbeat

variable {k : Nat} {node : String} {listed : List String} {timeout : Duration}

theorem passage_of_heartbeat (hcountable : s.store.Countable) (id : String) :
    let beat := s.call k (.heartbeat node listed timeout)
    beat.2.store.record? id = s.store.record? id
      ∨ Passage id (some ⟨.heartbeat node listed timeout, beat.1⟩) (some ⟨s.policy k, s.clock⟩)
          (s.store.record? id) (beat.2.store.record? id) :=
  (s.turn_call k (c := .heartbeat node listed timeout) rfl id).imp_right fun hturn =>
    hturn.passage_of_countable (fun _ hr => Store.id_of_record? hr) (hcountable id)

theorem countable_heartbeat (hcountable : s.store.Countable) :
    (s.call k (.heartbeat node listed timeout)).2.store.Countable := by
  intro id x hx
  rcases passage_of_heartbeat hcountable id with hsame | hpassage
  · exact hcountable id x (hsame.symm.trans hx)
  · exact hpassage.countable (hcountable id) x hx

/-- What runs after a heartbeat ran before it, under the same claim. -/
theorem running_of_heartbeat (hcountable : s.store.Countable) {id : String} {x : Record}
    (hx : (s.call k (.heartbeat node listed timeout)).2.store.record? id = some x)
    (hruns : x.status = .running) :
    ∃ y, s.store.record? id = some y ∧ y.status = .running ∧ y.claim? = x.claim? := by
  rcases passage_of_heartbeat hcountable id with hsame | hpassage
  · exact ⟨x, hsame.symm.trans hx, hruns, rfl⟩
  · rw [hx] at hpassage
    exact hpassage.running_of_heartbeat hruns

end Heartbeat

/-! ### Iterations -/

/-- What was forgotten is not found, and everything else is. -/
theorem find?_forgetEnded (hids : r.ids.Nodup) (s : Shared) (id : String) :
    (r.forgetEnded s).find? id = (r.find? id).filter s.isAlive := by
  have hids' : (r.forgetEnded s).ids.Nodup := hids.sublist (List.filter_sublist.map Prod.fst)
  refine Option.ext fun n => ?_
  rw [find?_eq_some_iff hids', forgetEnded, List.mem_filter, Option.filter_eq_some_iff,
    find?_eq_some_iff hids]

/-- What is due stays due until it is done. -/
theorem isHeartbeatDue_later {t : Shared} (h : r.isHeartbeatDue s = true)
    (htimer : s.timer ≤ t.timer) : r.isHeartbeatDue t = true := by
  unfold isHeartbeatDue at h ⊢
  cases hlast : r.lastHeartbeat with
  | none => rfl
  | some last =>
    rw [hlast] at h
    simp only [decide_eq_true_eq] at h ⊢
    refine h.trans (Nat.mul_le_mul_right nanosPerMilli ?_)
    exact Nat.sub_le_sub_right htimer last

/-- Neither the looks for requests to cancel nor the heartbeat keep an iteration from starting
tasks. -/
theorem runOnce_eq_startTasks (registry : Registry) {timeout : Duration}
    (htimeout : r.settings.failoverTimeout? = some timeout) (hcountable : s.store.Countable) :
    let relayed := (r.relayCancels s).2
    let beat := relayed.call r.connection (.heartbeat r.node r.ids timeout)
    let beaten := if r.isHeartbeatDue s then beat.2 else relayed
    let kept : Runner :=
      { r with
        tracked := r.tracked.filter fun t => s.isAlive t.2
        lastHeartbeat :=
          if r.isHeartbeatDue s && beat.1.isOk then some s.timer else r.lastHeartbeat }
    let started := kept.startTasks registry beaten
    r.runOnce registry s = (overflow? started.1, started.2)
      ∧ relayed = { s with runs := relayed.runs }
      ∧ (beat.1.isOk = false → beat.2 = relayed)
      ∧ beaten = { relayed with store := beaten.store } := by
  intro relayed beat beaten kept started
  obtain ⟨hrelayed, hframe, halive⟩ := relayAll_frame r.connection (r.undisturbed s) hcountable
  have hrelayed : overflow? (r.relayCancels s).1 = none := hrelayed
  have hframe : relayed = { s with runs := relayed.runs } := hframe
  have hcountable' : relayed.store.Countable := by rwa [hframe]
  have htimer : relayed.timer = s.timer := by rw [hframe]
  have hdue : r.isHeartbeatDue relayed = r.isHeartbeatDue s := by
    unfold isHeartbeatDue
    rw [htimer]
  obtain ⟨hbeat, hbeaten, hfailed, hbeatFrame⟩ := heartbeatIfDue_eq htimeout hcountable'
  rw [hdue, htimer] at hbeaten
  have hbeatenFrame : beaten = { relayed with store := beaten.store } := by
    dsimp only [beaten]
    split
    · exact hbeatFrame
    · rfl
  have hshared : (r.heartbeatIfDue relayed).2.2 = beaten := congrArg Prod.snd hbeaten
  have hkept : (r.heartbeatIfDue relayed).2.1.forgetEnded beaten = kept := by
    -- Who is alive is read after the heartbeat, which leaves the runs alone.
    have hsame (n : Nat) : beaten.isAlive n = s.isAlive n := by
      rw [hbeatenFrame]
      exact halive n
    rw [hbeaten]
    unfold forgetEnded
    dsimp only
    simp only [hsame]
    rfl
  refine ⟨?_, hframe, hfailed, hbeatenFrame⟩
  unfold runOnce
  dsimp only
  rw [hrelayed]
  dsimp only
  rw [hbeat]
  dsimp only
  rw [hshared, hkept]

/-- **Iterations survive failures of the store**, whatever operations fail. An iteration returns.
Whether or not the looks for requests to cancel fail, they only send signals; a heartbeat that fails
does nothing, so it is due again, and one that succeeds is noted. Then the runs that have ended are
forgotten and tasks are started, and this loop ends whatever its bound is. Tracked are in the end
the runs of before that were alive, and those of the tasks that were claimed and whose work could be
made. Any other task that was claimed has ended with an error, or it is left running because writing
that error failed, which ended the loop. No other task has begun to run. -/
theorem iteration_survives_failures (registry : Registry) {r : Runner} {s : Shared}
    {timeout : Duration} (htimeout : r.settings.failoverTimeout? = some timeout)
    (hids : r.ids.Nodup) (hcountable : s.store.Countable) :
    let relayed := (r.relayCancels s).2
    let beat := relayed.call r.connection (.heartbeat r.node r.ids timeout)
    let beaten := if r.isHeartbeatDue s then beat.2 else relayed
    let kept : Runner :=
      { r with
        tracked := r.tracked.filter fun t => s.isAlive t.2
        lastHeartbeat :=
          if r.isHeartbeatDue s && beat.1.isOk then some s.timer else r.lastHeartbeat }
    let now := s.clock.toInstant
    ∃ (claimed : List Record) (answer : Except Abort Unit) (r' : Runner) (s' : Shared),
      r.runOnce registry s = (none, r', s')
      ∧ (∀ fuel, beaten.store.size < fuel →
          startUpTo registry fuel kept beaten = (answer, r', s'))
      ∧ relayed = { s with runs := relayed.runs } ∧ s.Drifts relayed
      ∧ (beat.1.isOk = false → beat.2 = relayed)
      ∧ r'.lastHeartbeat = kept.lastHeartbeat
      ∧ (r.isHeartbeatDue s = true → beat.1.isOk = false →
          ∀ t : Shared, s.timer ≤ t.timer → r'.isHeartbeatDue t = true)
      ∧ (claimed.map Record.id).Nodup
      ∧ (∀ w ∈ claimed, beaten.store.record? w.id = some w ∧ w.status.isRunnable = true)
      ∧ relayed.runs <+: s'.runs
      ∧ (∀ w ∈ claimed, ∀ work, instantiate registry w = .ok work →
          s'.store.record? w.id = some (w.running r.node now)
            ∧ ∃ n, r'.find? w.id = some n ∧ s.runs.length ≤ n
              ∧ s'.runs[n]? = some ⟨⟨r.node, w.runCount + 1⟩, Execution.spawn w.id work,
                r.connection⟩)
      ∧ (∀ id, (∀ w ∈ claimed, w.id = id → ∀ work, instantiate registry w ≠ .ok work) →
          r'.find? id = (r.find? id).filter s.isAlive)
      ∧ (∀ w ∈ claimed, ∀ f, instantiate registry w = .error f →
          s'.store.record? w.id = some ((w.running r.node now).rejected f now)
          ∨ s'.store.record? w.id = some (w.running r.node now)
            ∧ ∃ e, answer = .error e
              ∧ s'.call r.connection (.changeFor w.id ⟨r.node, w.runCount + 1⟩ .finishedError
                (some (cannotStart f))) = (.error e, s'))
      ∧ (∀ id x, s'.store.record? id = some x → x.status = .running →
          (∃ y, s.store.record? id = some y ∧ y.status = .running ∧ y.claim? = x.claim?)
          ∨ ∃ w ∈ claimed, w.id = id ∧ x = w.running r.node now) := by
  intro relayed beat beaten kept now
  let started := kept.startTasks registry beaten
  obtain ⟨hiteration, hframe, hfailed, hbeatenFrame⟩ :
      r.runOnce registry s = (overflow? started.1, started.2)
        ∧ relayed = { s with runs := relayed.runs }
        ∧ (beat.1.isOk = false → beat.2 = relayed)
        ∧ beaten = { relayed with store := beaten.store } :=
    runOnce_eq_startTasks registry htimeout hcountable
  have hcountable' : relayed.store.Countable := by rwa [hframe]
  have hbeaten : beaten.store.Countable := by
    dsimp only [beaten]
    split
    · exact countable_heartbeat hcountable'
    · exact hcountable'
  have hruns : beaten.runs = relayed.runs := by rw [hbeatenFrame]
  have hclock : beaten.clock = s.clock := by rw [hbeatenFrame, hframe]
  have hdrifts : s.Drifts relayed := drifts_relayCancels r s
  obtain ⟨claimed, ⟨answer, r', s'⟩, hstarted, hloop⟩ :=
    exists_started registry (r := kept) hbeaten beaten.store.length_waiting_le
  have hstart : started = (answer, r', s') := hloop _ (Nat.lt_succ_self _)
  have hrunner : r' = { kept with tracked := r'.tracked } := hstarted.runner_eq
  have hlast : r'.lastHeartbeat = kept.lastHeartbeat := by rw [hrunner]
  refine ⟨claimed, answer, r', s', ?_, hloop, hframe, hdrifts, hfailed, hlast, ?_,
    hstarted.distinct, hstarted.waited, hruns ▸ hstarted.runs, ?_, ?_, ?_, ?_⟩
  · rw [hiteration, hstart]
    exact congrArg (·, r', s') hstarted.no_overflow
  -- Starting tasks leaves the time of the last heartbeat alone.
  · intro hdue hnot t ht
    have hlast' : r'.lastHeartbeat = r.lastHeartbeat := by
      rw [hlast]
      dsimp only [kept]
      rw [hnot, Bool.and_false, if_neg Bool.false_ne_true]
    have hsettings : r'.settings = r.settings := by rw [hrunner]
    have hlater := isHeartbeatDue_later hdue ht
    unfold isHeartbeatDue at hlater ⊢
    rwa [hlast', hsettings]
  · intro w hw work hwork
    have hmade := hstarted.made hw hwork
    rw [hclock, hruns, hdrifts.length] at hmade
    exact hmade
  · intro id hnone
    refine (hstarted.untracked id fun w hw hid => ?_).trans (find?_forgetEnded hids s id)
    unfold Record.run?
    cases hwork : instantiate registry w with
    | ok work => exact absurd hwork (hnone w hw hid work)
    | error f => rfl
  · intro w hw f hf
    rcases hstarted.unmade hw hf with hrejected | ⟨e, -, hrunning, hended, hunwritten⟩
    · rw [hclock] at hrejected
      exact Or.inl hrejected
    · rw [hclock] at hrunning
      exact Or.inr ⟨hrunning, e, hended, hunwritten⟩
  · intro id x hx hrunning
    rcases hstarted.running hx hrunning with hbefore | hclaimed
    -- It ran before the loop. A heartbeat may have renewed it, but under the same claim.
    · have hran : ∃ y, relayed.store.record? id = some y ∧ y.status = .running
          ∧ y.claim? = x.claim? := by
        dsimp only [beaten] at hbefore
        split at hbefore
        · exact running_of_heartbeat hcountable' hbefore hrunning
        · exact ⟨x, hbefore, hrunning, rfl⟩
      rw [hframe] at hran
      exact Or.inl hran
    · rw [hclock] at hclaimed
      exact Or.inr hclaimed

/-- Of all calls only claims succeed. The heartbeat is due again, and the run of `c`, which is
alive, stays tracked. The work of `a` cannot be made and that cannot be written, so `a` is left
running. -/
theorem iteration_survives_failures_of_stranded :
    let now := ClockTime.epoch.toInstant
    let a : Record := Record.fresh "a" "ghost" none now
    let m : Memory := ⟨[a], by decide⟩
    let run (id : String) (phase : Phase) : Run := ⟨⟨"n", 1⟩, { task := id, phase }, 0⟩
    let s : Shared :=
      { store := .memory m
        connections := [{ failing := [.get, .heartbeat, .changeFor] }]
        runs := [run "c" (.awaiting noopWork), run "d" .ended]
        clock := .epoch }
    let r : Runner := { node := "n", connection := 0, tracked := [("c", 0), ("d", 1)] }
    ∃ r' s', r.runOnce .builtin s = (none, r', s')
      ∧ r'.lastHeartbeat = none ∧ r'.isHeartbeatDue s' = true
      ∧ r'.find? "a" = none ∧ r'.find? "c" = some 0 ∧ r'.find? "d" = none
      ∧ s'.store.record? "a" = some (a.running "n" now) := by
  intro now a m run s r
  have hghost : instantiate .builtin a = .error (.unsupportedTask "ghost") := by rfl
  have hcountable : s.store.Countable := by
    intro id x hx hnew
    obtain rfl : x = a := List.mem_singleton.mp (Memory.mem_of_get? hx)
    decide
  -- Every call but the claim fails.
  have hlook : (r.relayCancels s).2 = s := by rfl
  have hbeat : s.call r.connection (.heartbeat r.node r.ids ⟨50000000000⟩)
      = (.error (.failure (Store.injected .heartbeat)), s) := by rfl
  have hdue : r.isHeartbeatDue s = true := by rfl
  have hclaim : s.call 0 (.claim "n")
      = (.ok (some (a.running "n" now)), s.write (a.running "n" now)) := by
    have hqueue : Record.queue "n" (s.policy 0) now [a] = [a] := by
      rw [Record.queue, Record.oldestFirst, List.mergeSort_singleton]
      decide
    have hoffers : s.store.Offers (s.connection 0) [a] := .memory m
    have hcountable' : ∀ x ∈ [a], x.Countable :=
      fun x hx => hcountable x.id x (hoffers.record? hx)
    exact call_claim (by decide) hoffers hcountable' rfl rfl hqueue
  have hreport : (s.write (a.running "n" now)).call 0 (.changeFor "a" ⟨"n", 1⟩ .finishedError
      (some (cannotStart (.unsupportedTask "ghost"))))
      = (.error (.failure (Store.injected .changeFor)), s.write (a.running "n" now)) := by rfl
  obtain ⟨claimed, answer, r', s', hrun, hloop, -, -, -, hlast, hagain, -, hwaited, -, -,
    huntracked, -, -⟩ := iteration_survives_failures .builtin (r := r) (s := s) (by cbv)
      (by decide) hcountable
  rw [hlook, hbeat, hdue] at hloop hlast hagain hwaited
  have hunmade : ∀ w ∈ claimed, ∀ work, instantiate .builtin w ≠ .ok work := by
    intro w hw work hwork
    obtain rfl : w = a := List.mem_singleton.mp (Memory.mem_of_get? (hwaited w hw).1)
    cases hghost.symm.trans hwork
  have hfind (id : String) : r'.find? id = (r.find? id).filter s.isAlive :=
    huntracked id fun w hw _ => hunmade w hw
  refine ⟨r', s', hrun, hlast, hagain rfl rfl s' (Nat.zero_le _), ?_, ?_, ?_, ?_⟩
  · rw [hfind]
    rfl
  · rw [hfind]
    rfl
  · rw [hfind]
    rfl
  · let kept : Runner := { r with tracked := [("c", 0)] }
    have hstop : startUpTo .builtin 2 kept s
        = (.error (.failure (Store.injected .changeFor)), kept, s.write (a.running "n" now)) := by
      have hclaimed : (a.running "n" now).claim? = some ⟨"n", 1⟩ := by rfl
      have hunmade : instantiate .builtin (a.running "n" now) = .error (.unsupportedTask "ghost") :=
        hghost
      have hround := startUpTo_of_claim .builtin (r := kept) (by decide) hclaim hclaimed 1
      rw [hunmade] at hround
      dsimp only at hround
      have hid : (a.running "n" now).id = "a" := by rfl
      have hconnection : kept.connection = 0 := by rfl
      rw [hid, hconnection, hreport] at hround
      exact hround
    have hend := (hloop 2 (by decide)).symm.trans hstop
    have hshared : s' = s.write (a.running "n" now) := congrArg (fun p => p.2.2) hend
    rw [hshared]
    rfl

end Runner

end TaskCluster
