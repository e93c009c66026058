import Mathlib
import TaskCluster.Proofs.Cluster.Calls
import TaskCluster.Proofs.Cluster.Ownership

/-!
# Iterations keep ownership

What a node does is followed here on the view of the cluster. Looks at records and signals to runs
do not show in it, a heartbeat renews leases, and a start launches a run or shows as nothing. An
iteration is made of these, so it keeps the view owned, gives up no lease of another node, and ends
without an overflow (`Sound.runOnce`).

A run that has reported its end may take a while to end. In between it is alive but has no work to
do, so the runs that have reported are kept in a list beside the cluster.
-/

namespace TaskCluster

/-! ### Working runs -/

namespace Shared

variable {s : Shared} {reported : List Nat}

/-- The task and the claim of a run that has work to do. -/
def worker? (s : Shared) (reported : List Nat) (n : Nat) : Option (String × Claim) :=
  if n ∈ reported then none
  else
    ((s.runs[n]?).filter fun run => run.execution.isAlive).map fun run =>
      (run.execution.task, run.claim)

theorem worker?_eq_some_iff {n : Nat} {id : String} {c : Claim} :
    s.worker? reported n = some (id, c) ↔ n ∉ reported ∧ ∃ run : Run, s.runs[n]? = some run
      ∧ run.execution.isAlive = true ∧ run.execution.task = id ∧ run.claim = c := by
  unfold worker?
  split
  case isTrue hmem => simp [hmem]
  case isFalse hmem =>
    rw [Option.map_eq_some_iff]
    simp only [Option.filter_eq_some_iff, Prod.mk.injEq]
    constructor
    · rintro ⟨run, ⟨hrun, halive⟩, htask, hclaim⟩
      exact ⟨hmem, run, hrun, halive, htask, hclaim⟩
    · rintro ⟨-, run, hrun, halive, htask, hclaim⟩
      exact ⟨run, ⟨hrun, halive⟩, htask, hclaim⟩

/-- The view of a cluster with these runners. -/
def view (s : Shared) (reported : List Nat) (fleet : Nat → Option Runner) (m : Memory) : View :=
  ⟨m.lease?, s.worker? reported, fleet, s.timer, s.clock⟩

/-- A signal that neither ends a run nor wakes up one that has ended does not show. -/
theorem worker?_signal {n : Nat} {f : Execution → Execution}
    (hf : ∀ run, s.runs[n]? = some run → (f run.execution).task = run.execution.task
      ∧ (f run.execution).isAlive = run.execution.isAlive) :
    (s.signal n f).worker? reported = s.worker? reported := by
  funext k
  unfold worker?
  rw [getElem?_signal]
  cases hk : s.runs[k]? with
  | none => rfl
  | some run =>
    by_cases hkn : k = n
    · subst hkn
      obtain ⟨htask, halive⟩ := hf run hk
      rw [Option.map_some, if_pos rfl, Option.filter_some, Option.filter_some, halive]
      split
      · rfl
      · split
        · rw [Option.map_some, Option.map_some, htask]
        · rfl
    · rw [Option.map_some, if_neg hkn]

/-- A run that is spawned works under its claim. -/
theorem worker?_spawn (hreported : ∀ n ∈ reported, n < s.runs.length) {new : Run}
    (halive : new.execution.isAlive = true) :
    (s.spawn new).2.worker? reported = Function.update (s.worker? reported) s.runs.length
      (some (new.execution.task, new.claim)) := by
  funext k
  unfold worker?
  dsimp only [spawn]
  rcases Nat.lt_trichotomy k s.runs.length with hlt | rfl | hgt
  · rw [Function.update_of_ne (Nat.ne_of_lt hlt), List.getElem?_append_left hlt]
  · have hnew : s.runs.length ∉ reported := fun hmem => Nat.lt_irrefl _ (hreported _ hmem)
    rw [Function.update_self, if_neg hnew, List.getElem?_concat_length, Option.filter_some,
      if_pos halive]
    rfl
  · have hnone : (s.runs ++ [new])[k]? = none := by
      refine List.getElem?_eq_none ?_
      rw [List.length_append, List.length_singleton]
      exact hgt
    rw [Function.update_of_ne (Nat.ne_of_gt hgt), hnone,
      List.getElem?_eq_none (Nat.le_of_lt hgt)]

theorem worker?_length (s : Shared) (reported : List Nat) :
    s.worker? reported s.runs.length = none := by
  unfold worker?
  rw [List.getElem?_eq_none (Nat.le_refl _)]
  split <;> rfl

end Shared

/-! ### Sound states -/

/-- The store serves what is in a memory, and the view is owned. -/
structure Sound (fleet : Nat → Option Runner) (s : Shared) (reported : List Nat) (m : Memory) :
    Prop where
  serves : s.Serves m
  reported_lt : ∀ n ∈ reported, n < s.runs.length
  owned : (s.view reported fleet m).Owned

/-- A record was handed out to a node. Nobody worked for its task, and nobody does yet. -/
structure HandedOut (clock : ClockTime) (node : String) (record : Record) (m m' : Memory) :
    Prop where
  free : m.lease? record.id = none
  claim? : record.claim? = some ⟨node, record.runCount⟩
  lease? : m'.lease? = Function.update m.lease? record.id
    (some ⟨some node, record.runCount, Int64.ofInt clock.toInstant.millis⟩)

namespace Runner

/-- No heartbeat of the runner is due at a time, and the last one succeeded before. -/
structure Beats (r : Runner) (timer : Nat) (last : Nat) : Prop where
  last_eq : r.lastHeartbeat = some last
  last_le : last ≤ timer
  not_due : last = timer ∨ (timer - last) * nanosPerMilli < r.settings.heartbeatPeriod.nanos

/-- The runner of a node before and after it has started tasks. -/
structure Continues (r r' : Runner) : Prop where
  node : r'.node = r.node
  settings : r'.settings = r.settings
  lastHeartbeat : r'.lastHeartbeat = r.lastHeartbeat

end Runner

namespace Sound

variable {fleet : Nat → Option Runner} {s : Shared} {reported : List Nat} {m : Memory}

/-- What does not show in the view keeps the state sound. -/
theorem of_view_eq (h : Sound fleet s reported m) {s' : Shared} {reported' : List Nat} {m' : Memory}
    (hserves : s'.Serves m') (hlt : ∀ n ∈ reported', n < s'.runs.length)
    (hview : s'.view reported' fleet m' = s.view reported fleet m) :
    Sound fleet s' reported' m' := ⟨hserves, hlt, hview ▸ h.owned⟩

/-- A signal that does not show keeps the state sound. -/
theorem signal (h : Sound fleet s reported m) {n : Nat} {f : Execution → Execution}
    (hf : ∀ run, s.runs[n]? = some run → (f run.execution).task = run.execution.task
      ∧ (f run.execution).isAlive = run.execution.isAlive) :
    Sound fleet (s.signal n f) reported m := by
  refine h.of_view_eq ⟨h.serves.holds, h.serves.healthy, h.serves.unique, h.serves.unborn⟩ ?_ ?_
  · intro k hk
    dsimp only [Shared.signal]
    rw [List.length_modify]
    exact h.reported_lt k hk
  · unfold Shared.view
    rw [Shared.worker?_signal hf]
    rfl

theorem interrupt (h : Sound fleet s reported m) (n : Nat) :
    Sound fleet (s.signal n Execution.interrupt) reported m :=
  h.signal fun _ _ => ⟨rfl, rfl⟩

theorem cancelRun (h : Sound fleet s reported m) (n : Nat) :
    Sound fleet (Runner.cancelRun s n) reported m := h.signal fun _ _ => ⟨rfl, rfl⟩

theorem cancelTask (h : Sound fleet s reported m) (r : Runner) (id : String) :
    Sound fleet (r.cancelTask id s) reported m := by
  unfold Runner.cancelTask
  split
  · exact h
  · split
    · exact h.cancelRun _
    · exact h

/-- A quiet call keeps the state sound. -/
theorem call (h : Sound fleet s reported m) (k : Nat) {c : Call} (hc : c.isQuiet = true) :
    ∃ store, s.call k c = ((m.perform (s.policy k) s.clock c).1, { s with store })
      ∧ Sound fleet { s with store } reported (m.perform (s.policy k) s.clock c).2 := by
  have hcreated : c.created? = none := by
    cases c with
    | create => cases hc
    | _ => rfl
  obtain ⟨store, heq, hserves⟩ := h.serves.call k hcreated
  have hlease : (m.perform (s.policy k) s.clock c).2.lease? = m.lease? :=
    funext (Memory.lease?_performAt_quiet _ _ h.serves.counted hc)
  refine ⟨store, heq, h.of_view_eq hserves h.reported_lt ?_⟩
  unfold Shared.view
  rw [hlease]
  rfl

/-! ### Looks at records -/

theorem relay (h : Sound fleet s reported m) (record : Option Record) (n : Nat) :
    Sound fleet (Runner.relay record n s) reported m := by
  unfold Runner.relay
  split
  · exact h
  · exact h.interrupt n
  · split
    · exact h.cancelRun n
    · split
      · exact h
      · exact h.interrupt n

theorem timer_relay (record : Option Record) (n : Nat) (s : Shared) :
    (Runner.relay record n s).timer = s.timer := by
  unfold Runner.relay
  split
  · rfl
  · rfl
  · split
    · rfl
    · split <;> rfl

theorem relayAll (h : Sound fleet s reported m) (k : Nat) (ts : List (String × Nat)) :
    ∃ s', Runner.relayAll k ts s = (.ok (), s') ∧ Sound fleet s' reported m
      ∧ s'.timer = s.timer := by
  induction ts generalizing s with
  | nil => exact ⟨s, rfl, h, rfl⟩
  | cons t rest ih =>
    obtain ⟨id, n⟩ := t
    obtain ⟨store, heq, hcall⟩ := h.call k (show (Call.get id).isQuiet = true from rfl)
    obtain ⟨s', hrest, hsound, htimer⟩ := ih (hcall.relay (m.get? id) n)
    refine ⟨s', ?_, hsound, htimer.trans (timer_relay _ n _)⟩
    rw [Runner.relayAll, heq]
    exact hrest

/-- Looks at records do not show, and none of them fails. -/
theorem relayCancels (h : Sound fleet s reported m) (r : Runner) :
    ∃ s', r.relayCancels s = (.ok (), s') ∧ Sound fleet s' reported m ∧ s'.timer = s.timer :=
  h.relayAll r.connection _

/-! ### Heartbeats -/

/-- A heartbeat renews the leases of its node. It leaves every status alone if the last heartbeats
of the other nodes are no further back than the timeout. -/
theorem heartbeat (h : Sound fleet s reported m) {i : Nat} {r : Runner} (hi : fleet i = some r)
    {timeout : Duration} (htimeout : r.settings.failoverTimeout? = some timeout)
    (hothers : ∀ j r', j ≠ i → fleet j = some r' → ∀ last, r'.lastHeartbeat = some last →
      s.timer - last ≤ timeout.millis) :
    ∃ store m', r.heartbeat s
        = (.ok (), { r with lastHeartbeat := some s.timer }, { s with store })
      ∧ Sound (Function.update fleet i (some { r with lastHeartbeat := some s.timer }))
          { s with store } reported m'
      ∧ ∀ id, (m'.get? id).map Record.status = (m.get? id).map Record.status := by
  obtain ⟨store, heq, hserves⟩ := h.serves.call r.connection
    (show (Call.heartbeat r.node r.ids timeout).created? = none from rfl)
  have hbeat := Memory.performAt_heartbeat (s.policy r.connection) (fun _ => s.clock) r.node r.ids
    timeout fun id l hl => h.owned.kept_or_fresh hi hothers hl
  refine ⟨store, _, ?_, ⟨hserves, h.reported_lt, ?_⟩, fun id => (hbeat id).2⟩
  · unfold Runner.heartbeat
    rw [htimeout]
    dsimp only
    rw [heq]
    rfl
  · have hlease : (m.perform (s.policy r.connection) s.clock
          (.heartbeat r.node r.ids timeout)).2.lease?
        = fun id => (m.lease? id).map (Lease.renewed r.node r.ids s.clock.toInstant id) :=
      funext fun id => (hbeat id).1
    have howned := h.owned.renew hi
    unfold Shared.view at howned ⊢
    rw [hlease]
    exact howned

/-- After a heartbeat that was made if it was due, none is due. -/
theorem heartbeatIfDue (h : Sound fleet s reported m) {i : Nat} {r : Runner}
    (hi : fleet i = some r) {timeout : Duration}
    (htimeout : r.settings.failoverTimeout? = some timeout)
    (hothers : ∀ j r', j ≠ i → fleet j = some r' → ∀ last, r'.lastHeartbeat = some last →
      s.timer - last ≤ timeout.millis)
    (hlast : ∀ last, r.lastHeartbeat = some last → last ≤ s.timer) :
    ∃ store m' lastHeartbeat last, r.heartbeatIfDue s
        = (.ok (), { r with lastHeartbeat }, { s with store })
      ∧ Sound (Function.update fleet i (some { r with lastHeartbeat })) { s with store } reported m'
      ∧ Runner.Beats { r with lastHeartbeat } s.timer last
      ∧ ∀ id, (m'.get? id).map Record.status = (m.get? id).map Record.status := by
  unfold Runner.heartbeatIfDue
  by_cases hdue : r.isHeartbeatDue s = true
  · obtain ⟨store, m', heq, hsound, hstatus⟩ := h.heartbeat hi htimeout hothers
    rw [if_pos hdue]
    exact ⟨store, m', some s.timer, s.timer, heq, hsound, ⟨rfl, Nat.le_refl _, Or.inl rfl⟩, hstatus⟩
  · rw [if_neg hdue]
    unfold Runner.isHeartbeatDue at hdue
    -- None is due, so nothing changes, and the last one was less than a period ago.
    cases hl : r.lastHeartbeat with
    | none => simp [hl] at hdue
    | some last =>
      have hsame : { r with lastHeartbeat := some last } = r := by rw [← hl]
      have hupdate : Function.update fleet i (some r) = fleet := by
        rw [← hi, Function.update_eq_self]
      refine ⟨s.store, m, some last, last, by rw [hsame], ?_, ⟨rfl, hlast last hl, Or.inr ?_⟩,
        fun _ => rfl⟩
      · rw [hsame, hupdate]
        exact h
      · simpa [hl] using hdue

/-! ### Starting tasks -/

/-- A runner forgets no run that has work to do. -/
theorem forgetEnded (h : Sound fleet s reported m) {i : Nat} {r : Runner} (hi : fleet i = some r) :
    Sound (Function.update fleet i (some (r.forgetEnded s))) s reported m where
  serves := h.serves
  reported_lt := h.reported_lt
  owned := by
    refine h.owned.retrack hi rfl rfl ?_ ?_
    · exact (h.owned.ids_nodup i r hi).sublist (List.filter_sublist.map Prod.fst)
    · intro n id c hn hmem
      obtain ⟨-, run, hrun, halive, -, -⟩ := Shared.worker?_eq_some_iff.mp hn
      exact List.mem_filter.mpr ⟨hmem, (Shared.isAlive_eq hrun).trans halive⟩

/-- A claim finds nothing to run, or hands out a record. -/
theorem claim (h : Sound fleet s reported m) (k : Nat) (node : String) :
    (∃ store m', s.call k (.claim node) = (.ok none, { s with store })
        ∧ Sound fleet { s with store } reported m')
    ∨ ∃ store m' record, s.call k (.claim node) = (.ok (some record), { s with store })
        ∧ ({ s with store } : Shared).Serves m' ∧ HandedOut s.clock node record m m' := by
  obtain ⟨store, heq, hserves⟩ :=
    h.serves.call k (show (Call.claim node).created? = none from rfl)
  obtain ⟨reached, -, hend⟩ :=
    Memory.performAt_claim (s.policy k) (fun _ => s.clock) h.serves.counted node
  cases hresult : (m.perform (s.policy k) s.clock (.claim node)).1 with
  | error e =>
    have herror : (m.performAt (s.policy k) (fun _ => s.clock) (.claim node)).1 = .error e := hresult
    rw [herror] at hend
    cases hend
  | ok answer =>
    rw [hresult] at heq
    cases answer with
    | none =>
      have hlease : (m.perform (s.policy k) s.clock (.claim node)).2.lease? = m.lease? :=
        funext (Memory.lease?_performAt_claim_none _ _ h.serves.counted hresult)
      refine Or.inl ⟨store, _, heq, h.of_view_eq hserves h.reported_lt ?_⟩
      unfold Shared.view
      rw [hlease]
      rfl
    | some record =>
      obtain ⟨hfree, hlease, hclaim, hothers⟩ :=
        Memory.lease?_performAt_claim_some _ _ h.serves.counted hresult
      refine Or.inr ⟨store, _, record, heq, hserves, hfree, hclaim, ?_⟩
      funext id
      by_cases hid : id = record.id
      · rw [hid, Function.update_self]
        exact hlease
      · rw [Function.update_of_ne hid]
        exact hothers id hid

/-- The run of a record that was handed out is launched. -/
theorem launch (h : Sound fleet s reported m) {i : Nat} {r : Runner} (hi : fleet i = some r)
    {last : Nat} (hlast : r.lastHeartbeat = some last) (hle : last ≤ s.timer) {record : Record}
    {store : Store} {m' : Memory} (hserves : ({ s with store } : Shared).Serves m')
    (hout : HandedOut s.clock r.node record m m') (work : Work) :
    Sound
      (Function.update fleet i
        (some (r.launch record ⟨r.node, record.runCount⟩ work { s with store }).1))
      (r.launch record ⟨r.node, record.runCount⟩ work { s with store }).2 reported m' where
  serves := ⟨hserves.holds, hserves.healthy, hserves.unique, hserves.unborn⟩
  reported_lt := by
    intro n hn
    dsimp only [Runner.launch, Shared.spawn]
    rw [List.length_append]
    exact Nat.lt_add_right _ (h.reported_lt n hn)
  owned := by
    let new : Run := ⟨⟨r.node, record.runCount⟩, Execution.spawn record.id work, r.connection⟩
    have halive : new.execution.isAlive = true := rfl
    have hworker := Shared.worker?_spawn (s := { s with store }) h.reported_lt halive
    have howned := h.owned.launch hi hlast hle hout.free
      (Shared.worker?_length { s with store } reported) record.runCount
    unfold Shared.view at howned ⊢
    dsimp only [Runner.launch] at howned ⊢
    rw [hworker, hout.lease?]
    exact howned

/-- A record that was handed out and cannot be run ends with an error. -/
theorem refuse (h : Sound fleet s reported m) (k : Nat) {node : String} {record : Record}
    {store : Store} {m' : Memory} (hserves : ({ s with store } : Shared).Serves m')
    (hout : HandedOut s.clock node record m m') (message : Option String) :
    ∃ store' m'', ({ s with store } : Shared).call k
        (.changeFor record.id ⟨node, record.runCount⟩ .finishedError message)
        = (.ok true, { s with store := store' })
      ∧ Sound fleet { s with store := store' } reported m'' := by
  obtain ⟨store', heq, hserves'⟩ := hserves.call k
    (show (Call.changeFor record.id ⟨node, record.runCount⟩ .finishedError message).created?
      = none from rfl)
  have hlease : m'.lease? record.id
      = some ⟨some node, record.runCount, Int64.ofInt s.clock.toInstant.millis⟩ := by
    rw [hout.lease?, Function.update_self]
  have hnext : Status.running.canChangeTo .finishedError = true := rfl
  obtain ⟨hdone, hback⟩ := Memory.lease?_performAt_changeFor (s.policy k) (fun _ => s.clock) hlease
    (c := ⟨node, record.runCount⟩) ⟨rfl, rfl⟩ hnext message
  refine ⟨store', _, ?_, h.of_view_eq hserves' h.reported_lt ?_⟩
  · rw [heq]
    exact congrArg (fun a => (a, _)) hdone
  -- The lease that the claim took is given back, and no other has changed.
  · have hsame : (m'.perform (s.policy k) s.clock
        (.changeFor record.id ⟨node, record.runCount⟩ .finishedError message)).2.lease?
          = m.lease? := by
      funext id
      refine (hback id).trans ?_
      by_cases hid : id = record.id
      · rw [if_pos hid, hid, hout.free]
      · rw [if_neg hid, hout.lease?, Function.update_of_ne hid]
    unfold Shared.view
    dsimp only
    rw [show ({ s with store } : Shared).policy k = s.policy k from rfl, hsame]
    rfl

/-- Starting tasks keeps the state sound, and no call of it fails. -/
theorem startUpTo (registry : Registry) (fuel : Nat) (h : Sound fleet s reported m) {i : Nat}
    {r : Runner} (hi : fleet i = some r) {last : Nat} (hlast : r.lastHeartbeat = some last)
    (hle : last ≤ s.timer) :
    ∃ r' s' m', Runner.startUpTo registry fuel r s = (.ok (), r', s')
      ∧ Sound (Function.update fleet i (some r')) s' reported m' ∧ r.Continues r'
      ∧ s'.timer = s.timer := by
  have hstays : Function.update fleet i (some r) = fleet := by
    rw [← hi, Function.update_eq_self]
  -- Each round leaves another runner in the fleet, which the next round starts from.
  induction fuel generalizing fleet s m r with
  | zero => exact ⟨r, s, m, rfl, by rwa [hstays], ⟨rfl, rfl, rfl⟩, rfl⟩
  | succ fuel ih =>
    rw [Runner.startUpTo]
    by_cases hfull : r.isFull = true
    · rw [if_pos hfull]
      exact ⟨r, s, m, rfl, by rwa [hstays], ⟨rfl, rfl, rfl⟩, rfl⟩
    rw [if_neg hfull]
    rcases h.claim r.connection r.node with
      ⟨store, m', heq, hsound⟩ | ⟨store, m', record, heq, hserves, hout⟩
    · rw [heq]
      exact ⟨r, _, m', rfl, by rwa [hstays], ⟨rfl, rfl, rfl⟩, rfl⟩
    · rw [heq]
      dsimp only
      rw [hout.claim?]
      dsimp only
      cases hwork : Runner.instantiate registry record with
      | ok work =>
        have hlaunched := h.launch hi hlast hle hserves hout work
        obtain ⟨r', s', m'', hrest, hsound, hsame, htimer⟩ := ih hlaunched
          (Function.update_self ..) ((Runner.lastHeartbeat_track ..).trans hlast) hle
          (by rw [Function.update_idem])
        rw [Function.update_idem] at hsound
        exact ⟨r', s', m'', hrest, hsound,
          ⟨hsame.node.trans (Runner.node_track ..), hsame.settings.trans (Runner.settings_track ..),
            hsame.lastHeartbeat.trans (Runner.lastHeartbeat_track ..)⟩, htimer⟩
      | error f =>
        obtain ⟨store', m'', hreport, hsound⟩ :=
          h.refuse r.connection hserves hout (some (Runner.cannotStart f))
        dsimp only
        rw [hreport]
        exact ih hsound hi hlast hle hstays

/-! ### Iterations -/

/-- **An iteration keeps the state sound.** It ends without an overflow, and behind it no heartbeat
of the runner is due. -/
theorem runOnce (registry : Registry) (h : Sound fleet s reported m) {i : Nat} {r : Runner}
    (hi : fleet i = some r) {timeout : Duration}
    (htimeout : r.settings.failoverTimeout? = some timeout)
    (hothers : ∀ j r', j ≠ i → fleet j = some r' → ∀ last, r'.lastHeartbeat = some last →
      s.timer - last ≤ timeout.millis)
    (hlast : ∀ last, r.lastHeartbeat = some last → last ≤ s.timer) :
    ∃ r' s' m' last, r.runOnce registry s = (none, r', s')
      ∧ Sound (Function.update fleet i (some r')) s' reported m'
      ∧ r'.node = r.node ∧ r'.settings = r.settings ∧ r'.Beats s.timer last
      ∧ s'.timer = s.timer := by
  obtain ⟨s₁, hrelay, hsound₁, htimer₁⟩ := h.relayCancels r
  rw [← htimer₁] at hothers hlast
  obtain ⟨store, m₂, lastHeartbeat, last, hbeat, hsound₂, hbeats, -⟩ :=
    hsound₁.heartbeatIfDue hi htimeout hothers hlast
  have hsound₃ := hsound₂.forgetEnded (Function.update_self ..)
  rw [Function.update_idem] at hsound₃
  obtain ⟨r', s', m', hstart, hsound', hsame, htimer⟩ :=
    hsound₃.startUpTo registry (({ s₁ with store } : Shared).store.size + 1)
      (Function.update_self ..) hbeats.last_eq hbeats.last_le
  rw [Function.update_idem] at hsound'
  have hsettings : r'.settings = r.settings := hsame.settings
  refine ⟨r', s', m', last, ?_, hsound', hsame.node, hsettings, ?_, htimer.trans htimer₁⟩
  · unfold Runner.runOnce
    rw [hrelay]
    dsimp only [Runner.overflow?]
    rw [hbeat]
    dsimp only [Runner.overflow?, Runner.startTasks]
    rw [hstart]
  · refine ⟨hsame.lastHeartbeat.trans hbeats.last_eq, htimer₁ ▸ hbeats.last_le, ?_⟩
    rw [hsettings, ← htimer₁]
    exact hbeats.not_due

end Sound

end TaskCluster
