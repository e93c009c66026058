import Mathlib
import TaskCluster.Cluster.Manager
import TaskCluster.Proofs.Job.Burst

/-!
# What a runner does to its runs

Whatever a runner does comes down to three acts (`Runner.Act`): it forgets the runs that have ended,
it launches a run while it has room, or it only signals runs and calls the store. Everything that
happens around it, other nodes and the jobs themselves, is a drift (`Shared.Drifts`): the store may
change in any way, but the runs stay those of their tasks, and one that has ended stays ended.

`Runner.Starting` says how starting tasks can go, round by round. What starting tasks does to a
cluster is shown by induction on it.
-/

namespace TaskCluster

/-! ### Drifts -/

namespace Execution

/-- The two executions are one, and an end is for good. -/
structure Continues (old new : Execution) : Prop where
  task : new.task = old.task
  alive : new.isAlive = true → old.isAlive = true

theorem Continues.refl (x : Execution) : Continues x x := ⟨rfl, fun h => h⟩

theorem Continues.trans {x y z : Execution} (h : Continues x y) (h' : Continues y z) :
    Continues x z := ⟨h'.task.trans h.task, fun hz => h.alive (h'.alive hz)⟩

theorem continues_cancel (x : Execution) : Continues x x.cancel := ⟨rfl, fun h => h⟩

theorem continues_interrupt (x : Execution) : Continues x x.interrupt := ⟨rfl, fun h => h⟩

end Execution

namespace Shared

/-- What others do to what a runner shares with them, and what it does itself when it neither
starts nor forgets a run. -/
structure Drifts (s s' : Shared) : Prop where
  length : s'.runs.length = s.runs.length
  run : ∀ (n : Nat) (run' : Run), s'.runs[n]? = some run' → ∃ run, s.runs[n]? = some run
    ∧ run'.claim = run.claim ∧ Execution.Continues run.execution run'.execution

theorem Drifts.refl (s : Shared) : Drifts s s :=
  ⟨rfl, fun _ run h => ⟨run, h, rfl, .refl _⟩⟩

theorem Drifts.trans {s s' s'' : Shared} (h : Drifts s s') (h' : Drifts s' s'') :
    Drifts s s'' where
  length := h'.length.trans h.length
  run := by
    intro n run'' hrun''
    obtain ⟨run', hrun', hclaim', hcont'⟩ := h'.run n run'' hrun''
    obtain ⟨run, hrun, hclaim, hcont⟩ := h.run n run' hrun'
    exact ⟨run, hrun, hclaim'.trans hclaim, hcont.trans hcont'⟩

theorem Drifts.of_runs_eq {s s' : Shared} (h : s'.runs = s.runs) : Drifts s s' where
  length := by rw [h]
  run := by
    intro n run hrun
    rw [h] at hrun
    exact ⟨run, hrun, rfl, .refl _⟩

theorem runs_call (s : Shared) (k : Nat) (c : Call) : (s.call k c).2.runs = s.runs := rfl

theorem drifts_call (s : Shared) (k : Nat) (c : Call) : Drifts s (s.call k c).2 :=
  .of_runs_eq (runs_call s k c)

theorem drifts_of_call {s s' : Shared} {k : Nat} {c : Call} {answer : Except Abort c.Result}
    (h : s.call k c = (answer, s')) : s.Drifts s' := by
  have hcall := s.drifts_call k c
  rwa [h] at hcall

theorem getElem?_signal (s : Shared) (n : Nat) (f : Execution → Execution) (k : Nat) :
    (s.signal n f).runs[k]? = (s.runs[k]?).map fun run =>
      if k = n then { run with execution := f run.execution } else run := by
  dsimp only [signal]
  rw [List.getElem?_modify]
  by_cases hkn : k = n
  · subst hkn
    simp
  · have hnk : ¬ n = k := fun h => hkn h.symm
    simp [hkn, hnk]

/-- Signals that do the same to a run are the same. -/
theorem signal_congr {s : Shared} {n : Nat} {f g : Execution → Execution}
    (h : ∀ run, s.runs[n]? = some run → f run.execution = g run.execution) :
    s.signal n f = s.signal n g := by
  have hruns : (s.signal n f).runs = (s.signal n g).runs := by
    refine List.ext_getElem? fun k => ?_
    rw [getElem?_signal, getElem?_signal]
    cases hk : s.runs[k]? with
    | none => rfl
    | some run =>
      rw [Option.map_some, Option.map_some]
      by_cases hkn : k = n
      · subst hkn
        rw [if_pos rfl, if_pos rfl, h run hk]
      · rw [if_neg hkn, if_neg hkn]
  dsimp only [signal] at hruns ⊢
  rw [hruns]

theorem signal_self {s : Shared} {n : Nat} {run : Run} (hrun : s.runs[n]? = some run) :
    (s.signal n fun _ => run.execution) = s := by
  have hid : (s.signal n fun _ => run.execution) = s.signal n fun y => y := by
    refine signal_congr fun run' hrun' => ?_
    obtain rfl := Option.some.inj (hrun.symm.trans hrun')
    rfl
  have hruns : s.runs.modify n (fun run => { run with execution := run.execution }) = s.runs :=
    List.modify_id n s.runs
  rw [hid]
  dsimp only [signal]
  rw [hruns]

/-- A signal to a run drifts if it lets the execution continue. -/
theorem drifts_signal (s : Shared) (n : Nat) {f : Execution → Execution}
    (hf : ∀ run, s.runs[n]? = some run → Execution.Continues run.execution (f run.execution)) :
    Drifts s (s.signal n f) where
  length := List.length_modify ..
  run := by
    intro k run' hrun'
    rw [getElem?_signal] at hrun'
    obtain ⟨run, hrun, rfl⟩ := Option.map_eq_some_iff.mp hrun'
    refine ⟨run, hrun, ?_⟩
    split
    case isTrue hkn =>
      subst hkn
      exact ⟨rfl, hf run hrun⟩
    case isFalse => exact ⟨rfl, .refl _⟩

theorem drifts_pass (s : Shared) (millis : Nat) : Drifts s (s.pass millis) := .of_runs_eq rfl

theorem isAlive_eq {s : Shared} {n : Nat} {run : Run} (h : s.runs[n]? = some run) :
    s.isAlive n = run.execution.isAlive := by
  unfold Shared.isAlive
  rw [h]
  rfl

theorem exists_of_isAlive {s : Shared} {n : Nat} (h : s.isAlive n = true) :
    ∃ run : Run, s.runs[n]? = some run ∧ run.execution.isAlive = true := by
  unfold Shared.isAlive at h
  cases hrun : s.runs[n]? with
  | none =>
    rw [hrun] at h
    cases h
  | some run =>
    rw [hrun] at h
    exact ⟨run, rfl, h⟩

/-- The run of a number goes on under its claim. -/
theorem Drifts.exists_run {s s' : Shared} (h : Drifts s s') {n : Nat} {run : Run}
    (hrun : s.runs[n]? = some run) : ∃ run', s'.runs[n]? = some run'
      ∧ run'.claim = run.claim ∧ Execution.Continues run.execution run'.execution := by
  have hlen : n < s'.runs.length := by
    rw [h.length]
    exact (List.getElem?_eq_some_iff.mp hrun).1
  obtain ⟨run₀, hrun₀, hclaim, hcont⟩ := h.run n s'.runs[n] (List.getElem?_eq_getElem hlen)
  obtain rfl := Option.some.inj (hrun.symm.trans hrun₀)
  exact ⟨s'.runs[n], List.getElem?_eq_getElem hlen, hclaim, hcont⟩

/-! ### Steps of runs are drifts -/

theorem runs_effect (s : Shared) (run : Run) (e : Effect) : (s.effect run e).runs = s.runs := by
  cases e <;> rfl

theorem runs_foldl_effect (run : Run) (effects : List Effect) (s : Shared) :
    (effects.foldl (fun s e => s.effect run e) s).runs = s.runs := by
  induction effects generalizing s with
  | nil => rfl
  | cons e effects ih => rw [List.foldl_cons, ih, runs_effect]

theorem continues_run (x : Execution) (time : Nat) (work : Work) (hx : x.isAlive = true) :
    Execution.Continues x (x.run time work).1 := by
  refine ⟨?_, fun _ => hx⟩
  unfold Execution.run
  dsimp only
  split <;> rfl

theorem continues_step (x : Execution) (time : Nat) :
    Execution.Continues x (x.step time).1 := by
  rcases x.step_cases time with ⟨work, hresumes⟩ | hends | hsame
  · rw [hresumes.step_eq]
    exact continues_run x time work hresumes.isAlive
  · rw [Execution.step_of_ends hends]
    exact ⟨rfl, fun _ => hends.isAlive⟩
  · rw [hsame]
    exact .refl x

/-- A step of a job drifts, whatever the job is. -/
theorem drifts_stepRun (s : Shared) (n : Nat) : Drifts s (s.stepRun n) := by
  unfold stepRun
  cases hrun : s.runs[n]? with
  | none => exact .refl s
  | some run =>
    dsimp only
    have hsignal : Drifts s (s.signal n fun _ => (run.execution.step s.timer).1) := by
      refine drifts_signal s n fun run' hrun' => ?_
      obtain rfl := Option.some.inj (hrun.symm.trans hrun')
      exact continues_step run.execution s.timer
    exact hsignal.trans (.of_runs_eq (runs_foldl_effect run _ _))

end Shared

/-! ### Tracked runs -/

namespace Runner

variable {r : Runner}

theorem find?_eq_some_iff (h : r.ids.Nodup) {id : String} {n : Nat} :
    r.find? id = some n ↔ (id, n) ∈ r.tracked := by
  unfold find?
  constructor
  · intro hfind
    obtain ⟨⟨id', n'⟩, hentry, rfl⟩ := Option.map_eq_some_iff.mp hfind
    have hid : id' = id := by simpa using List.find?_some hentry
    subst hid
    exact List.mem_of_find?_eq_some hentry
  · intro hmem
    cases hfind : r.tracked.find? fun t => t.1 == id with
    | none => simpa using List.find?_eq_none.mp hfind (id, n) hmem
    | some entry =>
      have hid : entry.1 = id := by simpa using List.find?_some hfind
      have hentry := List.mem_of_find?_eq_some hfind
      rw [List.inj_on_of_nodup_map h hentry hmem hid]
      rfl

theorem mem_track {id id' : String} {n n' : Nat} :
    (id', n') ∈ (r.track id n).tracked
      ↔ id' = id ∧ n' = n ∨ id' ≠ id ∧ (id', n') ∈ r.tracked := by
  unfold track
  split
  case isTrue hany =>
    -- An entry of the task is replaced where it stands.
    obtain ⟨⟨id₀, n₀⟩, hmem₀, hid₀⟩ := List.any_eq_true.mp hany
    have hid₀' : id₀ = id := by simpa using hid₀
    subst hid₀'
    dsimp only
    rw [List.mem_map]
    constructor
    · rintro ⟨⟨id₁, n₁⟩, hmem₁, heq⟩
      dsimp only at heq
      by_cases hid₁ : id₁ = id₀
      · rw [if_pos hid₁] at heq
        cases heq
        exact Or.inl ⟨rfl, rfl⟩
      · rw [if_neg hid₁] at heq
        cases heq
        exact Or.inr ⟨hid₁, hmem₁⟩
    · rintro (⟨rfl, rfl⟩ | ⟨hne, hmem⟩)
      · exact ⟨(id', n₀), hmem₀, if_pos rfl⟩
      · exact ⟨(id', n'), hmem, if_neg hne⟩
  case isFalse hany =>
    -- No entry is of the task, so the new one is put behind all.
    have hnone : ∀ m, (id, m) ∉ r.tracked := by
      intro m hmem
      exact hany (List.any_eq_true.mpr ⟨(id, m), hmem, by simp⟩)
    dsimp only
    rw [List.mem_append, List.mem_singleton, Prod.mk.injEq]
    constructor
    · rintro (hmem | heq)
      · refine Or.inr ⟨?_, hmem⟩
        rintro rfl
        exact hnone n' hmem
      · exact Or.inl heq
    · rintro (heq | ⟨-, hmem⟩)
      · exact Or.inr heq
      · exact Or.inl hmem

/-! Tracking a run sets the entry of its task and leaves the others alone. -/

/-- An entry that takes the place of another one stands under the same id. -/
theorem key_track (id id' : String) (n : Nat) :
    ((fun t : String × Nat => t.1 == id') ∘ fun t => if t.1 = id then (id, n) else t)
      = fun t => t.1 == id' := by
  funext t
  by_cases ht : t.1 = id <;> simp [ht]

theorem find?_track (id : String) (n : Nat) : (r.track id n).find? id = some n := by
  unfold track find?
  split
  case isTrue hany =>
    rw [List.find?_map, key_track]
    cases hfound : r.tracked.find? fun t => t.1 == id with
    | none =>
      obtain ⟨t, ht, hid⟩ := List.any_eq_true.mp hany
      exact absurd hid (List.find?_eq_none.mp hfound t ht)
    | some t =>
      have hid : t.1 = id := by simpa using List.find?_some hfound
      simp [hid]
  case isFalse hany =>
    have hnone : r.tracked.find? (fun t => t.1 == id) = none := by
      refine List.find?_eq_none.mpr fun t ht hid => ?_
      exact hany (List.any_eq_true.mpr ⟨t, ht, hid⟩)
    simp [List.find?_append, hnone]

theorem find?_track_of_ne {id id' : String} (h : id' ≠ id) (n : Nat) :
    (r.track id n).find? id' = r.find? id' := by
  unfold track find?
  split
  case isTrue =>
    rw [List.find?_map, key_track]
    cases hfound : r.tracked.find? fun t => t.1 == id' with
    | none => rfl
    | some t =>
      have hid : t.1 = id' := by simpa using List.find?_some hfound
      have hne : t.1 ≠ id := by rwa [hid]
      simp [hne]
  case isFalse =>
    have hnone : [(id, n)].find? (fun t => t.1 == id') = none := by
      simpa using fun heq : id = id' => h heq.symm
    simp [List.find?_append, hnone]

theorem ids_track_nodup (h : r.ids.Nodup) (id : String) (n : Nat) :
    (r.track id n).ids.Nodup := by
  unfold ids track at *
  split
  case isTrue =>
    dsimp only
    rw [List.map_map]
    refine (congrArg List.Nodup (List.map_congr_left fun t _ => ?_)).mpr h
    dsimp only [Function.comp_apply]
    split
    case isTrue hid => exact hid.symm
    case isFalse => rfl
  case isFalse hany =>
    dsimp only
    rw [List.map_append, List.nodup_append]
    refine ⟨h, List.nodup_singleton _, ?_⟩
    rintro id' hid' id'' hid'' rfl
    obtain ⟨t, ht, rfl⟩ := List.mem_map.mp hid'
    obtain rfl : t.1 = id := by simpa using hid''
    exact hany (List.any_eq_true.mpr ⟨t, ht, by simp⟩)

theorem length_track_le (id : String) (n : Nat) :
    (r.track id n).tracked.length ≤ r.tracked.length + 1 := by
  unfold track
  split
  · simp
  · simp

/-- Nothing changes but what is tracked. -/
theorem track_eq (id : String) (n : Nat) :
    r.track id n = { r with tracked := (r.track id n).tracked } := by
  unfold track
  split <;> rfl

theorem settings_track (id : String) (n : Nat) : (r.track id n).settings = r.settings := by
  rw [track_eq]

theorem node_track (id : String) (n : Nat) : (r.track id n).node = r.node := by
  rw [track_eq]

theorem lastHeartbeat_track (id : String) (n : Nat) :
    (r.track id n).lastHeartbeat = r.lastHeartbeat := by
  rw [track_eq]

/-! ### Acts of a runner -/

/-- A runner acts on the runs that it shares. -/
inductive Act : Runner × Shared → Runner × Shared → Prop where
  /-- It neither starts nor forgets a run. -/
  | drift {r r' : Runner} {s s' : Shared} (shared : s.Drifts s') (tracked : r'.tracked = r.tracked)
    (settings : r'.settings = r.settings) : Act (r, s) (r', s')
  | forget (r : Runner) (s : Shared) : Act (r, s) (r.forgetEnded s, s)
  | launch (r : Runner) (s : Shared) (record : Record) (claim : Claim) (work : Work)
    (room : r.isFull = false) : Act (r, s) (r.launch record claim work s)

/-- Any number of acts, one after the other. -/
abbrev Acts : Runner × Shared → Runner × Shared → Prop := Relation.ReflTransGen Act

theorem Acts.of_drifts (r : Runner) {s s' : Shared} (h : s.Drifts s') : Acts (r, s) (r, s') :=
  .single (.drift h rfl rfl)

theorem drifts_interrupt (s : Shared) (n : Nat) : s.Drifts (s.signal n Execution.interrupt) :=
  s.drifts_signal n fun run _ => Execution.continues_interrupt run.execution

theorem drifts_cancelRun (s : Shared) (n : Nat) : s.Drifts (cancelRun s n) :=
  s.drifts_signal n fun run _ =>
    (Execution.continues_cancel run.execution).trans (Execution.continues_interrupt _)

theorem drifts_cancelTask (r : Runner) (id : String) (s : Shared) :
    s.Drifts (r.cancelTask id s) := by
  unfold cancelTask
  split
  · exact .refl s
  · split
    · exact drifts_cancelRun s _
    · exact .refl s

theorem drifts_relay (record : Option Record) (n : Nat) (s : Shared) :
    s.Drifts (relay record n s) := by
  unfold relay
  split
  · exact .refl s
  · exact drifts_interrupt s n
  · split
    · exact drifts_cancelRun s n
    · split
      · exact .refl s
      · exact drifts_interrupt s n

theorem drifts_relayAll (k : Nat) (runs : List (String × Nat)) (s : Shared) :
    s.Drifts (relayAll k runs s).2 := by
  induction runs generalizing s with
  | nil => exact .refl s
  | cons t rest ih =>
    rw [relayAll]
    split
    case h_1 hget => exact Shared.drifts_of_call hget
    case h_2 hget => exact ((Shared.drifts_of_call hget).trans (drifts_relay _ t.2 _)).trans (ih _)

theorem drifts_relayCancels (r : Runner) (s : Shared) : s.Drifts (r.relayCancels s).2 :=
  drifts_relayAll r.connection _ s

theorem acts_heartbeat (r : Runner) (s : Shared) : Acts (r, s) (r.heartbeat s).2 := by
  unfold heartbeat
  split
  case h_1 => exact .refl
  case h_2 =>
    split
    case h_1 hbeat => exact .of_drifts r (Shared.drifts_of_call hbeat)
    case h_2 hbeat => exact .single (.drift (Shared.drifts_of_call hbeat) rfl rfl)

theorem acts_heartbeatIfDue (r : Runner) (s : Shared) : Acts (r, s) (r.heartbeatIfDue s).2 := by
  unfold heartbeatIfDue
  split
  · exact acts_heartbeat r s
  · exact .refl

/-- How starting tasks can go from a state to its outcome. Either it stops there, or a round of it
leads to a state from which the rest is started. -/
inductive Starting (registry : Registry) :
    Runner → Shared → Except Abort Unit × Runner × Shared → Prop where
  /-- There is no room, or no round is left. -/
  | rest (r : Runner) (s : Shared) : Starting registry r s (.ok (), r, s)
  | claimFailed {r : Runner} {s s' : Shared} {e : Abort}
    (answer : s.call r.connection (.claim r.node) = (.error e, s')) :
    Starting registry r s (.error e, r, s')
  | drained {r : Runner} {s s' : Shared}
    (answer : s.call r.connection (.claim r.node) = (.ok none, s')) :
    Starting registry r s (.ok (), r, s')
  /-- What is handed out belongs to nobody. -/
  | unclaimed {r : Runner} {s s' : Shared} {record : Record}
    {out : Except Abort Unit × Runner × Shared}
    (answer : s.call r.connection (.claim r.node) = (.ok (some record), s'))
    (nobody : record.claim? = none) (next : Starting registry r s' out) : Starting registry r s out
  | launched {r : Runner} {s s' : Shared} {record : Record} {claim : Claim} {work : Work}
    {out : Except Abort Unit × Runner × Shared} (room : r.isFull = false)
    (answer : s.call r.connection (.claim r.node) = (.ok (some record), s'))
    (claimed : record.claim? = some claim) (made : instantiate registry record = .ok work)
    (next : Starting registry (r.launch record claim work s').1 (r.launch record claim work s').2
      out) :
    Starting registry r s out
  | refusalFailed {r : Runner} {s s' s'' : Shared} {record : Record} {claim : Claim} {f : Failure}
    {e : Abort} (answer : s.call r.connection (.claim r.node) = (.ok (some record), s'))
    (claimed : record.claim? = some claim) (unmade : instantiate registry record = .error f)
    (refusal : s'.call r.connection
      (.changeFor record.id claim .finishedError (some (cannotStart f))) = (.error e, s'')) :
    Starting registry r s (.error e, r, s'')
  | refused {r : Runner} {s s' s'' : Shared} {record : Record} {claim : Claim} {f : Failure}
    {done : Bool} {out : Except Abort Unit × Runner × Shared}
    (answer : s.call r.connection (.claim r.node) = (.ok (some record), s'))
    (claimed : record.claim? = some claim) (unmade : instantiate registry record = .error f)
    (refusal : s'.call r.connection
      (.changeFor record.id claim .finishedError (some (cannotStart f))) = (.ok done, s''))
    (next : Starting registry r s'' out) : Starting registry r s out

theorem starting_startUpTo (registry : Registry) (fuel : Nat) (r : Runner) (s : Shared) :
    Starting registry r s (startUpTo registry fuel r s) := by
  induction fuel generalizing r s with
  | zero => exact .rest r s
  | succ fuel ih =>
    rw [startUpTo]
    split
    case isTrue => exact .rest r s
    case isFalse hroom =>
      split
      case h_1 hclaim => exact .claimFailed hclaim
      case h_2 hclaim => exact .drained hclaim
      case h_3 hclaim =>
        dsimp only
        split
        case h_1 hnobody => exact .unclaimed hclaim hnobody (ih _ _)
        case h_2 hclaimed =>
          split
          case h_1 hmade =>
            exact .launched (by simpa using hroom) hclaim hclaimed hmade (ih _ _)
          case h_2 hunmade =>
            split
            case h_1 hrefusal => exact .refusalFailed hclaim hclaimed hunmade hrefusal
            case h_2 hrefusal => exact .refused hclaim hclaimed hunmade hrefusal (ih _ _)

theorem Starting.acts {registry : Registry} {r : Runner} {s : Shared}
    {out : Except Abort Unit × Runner × Shared} (h : Starting registry r s out) :
    Acts (r, s) out.2 := by
  induction h with
  | rest => exact .refl
  | claimFailed answer => exact .of_drifts _ (Shared.drifts_of_call answer)
  | drained answer => exact .of_drifts _ (Shared.drifts_of_call answer)
  | unclaimed answer _ _ ih => exact (Acts.of_drifts _ (Shared.drifts_of_call answer)).trans ih
  | launched room answer _ _ _ ih =>
    exact ((Acts.of_drifts _ (Shared.drifts_of_call answer)).tail (.launch _ _ _ _ _ room)).trans ih
  | refusalFailed answer _ _ refusal =>
    exact .of_drifts _ ((Shared.drifts_of_call answer).trans (Shared.drifts_of_call refusal))
  | refused answer _ _ refusal _ ih =>
    have hdrifts := (Shared.drifts_of_call answer).trans (Shared.drifts_of_call refusal)
    exact (Acts.of_drifts _ hdrifts).trans ih

theorem acts_startTasks (registry : Registry) (r : Runner) (s : Shared) :
    Acts (r, s) (r.startTasks registry s).2 := (starting_startUpTo registry _ r s).acts

/-- An iteration is a sequence of acts. -/
theorem acts_runOnce (registry : Registry) (r : Runner) (s : Shared) :
    Acts (r, s) (r.runOnce registry s).2 := by
  have hrelay : Acts (r, s) (r, (r.relayCancels s).2) := .of_drifts r (drifts_relayCancels r s)
  unfold runOnce
  dsimp only
  split
  · exact hrelay
  · have hbeat := hrelay.trans (acts_heartbeatIfDue r (r.relayCancels s).2)
    split
    · exact hbeat
    · exact (hbeat.tail (.forget _ _)).trans (acts_startTasks registry _ _)

end Runner

end TaskCluster
