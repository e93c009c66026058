import Mathlib
import TaskCluster.Proofs.Cluster.Calls
import TaskCluster.Proofs.Cluster.RunnerEffect
import TaskCluster.Proofs.Record.LogLines
import TaskCluster.Proofs.Store.Waiting

/-!
# Filling a node

A runner claims one task after the other until it is full or a claim finds nothing. What comes of it
is a recursion along the queue of the records that may be run now (`Runner.fill`): each claim takes
the first of them whose task may start, and that record is out of the queue, so there are no more
claims than records (`Runner.startUpTo_eq_fill`).

One record of the queue changes the runner, the store and the runs in one place each
(`Runner.takeUp`), and the ids of the queue are distinct, so what was done for one record stays as
it is until the end (`Runner.Filled.cons_of_mayStart`).
-/

namespace TaskCluster

/-! ### Claimed records -/

namespace Record

/-- The record of a claimed task whose work cannot be made. -/
def rejected (r : Record) (f : Failure) (now : Instant) : Record :=
  { r with
    status := .finishedError
    finishedAt := some now
    log := some (Log.fit (Log.joined r.log (Runner.cannotStart f))) }

/-- A record after its claim: it runs, unless its work cannot be made. -/
def launched (registry : Registry) (node : String) (now : Instant) (r : Record) : Record :=
  match Runner.instantiate registry r with
  | .ok _ => r.running node now
  | .error f => (r.running node now).rejected f now

/-- The run of a claimed record, if its work can be made. -/
def run? (registry : Registry) (node : String) (connection : Nat) (r : Record) : Option Run :=
  match Runner.instantiate registry r with
  | .ok work => some ⟨⟨node, r.runCount + 1⟩, Execution.spawn r.id work, connection⟩
  | .error _ => none

/-- A node may report that it cannot start what it has claimed. -/
theorem changeStatusFor_rejected (r : Record) (node : String) (f : Failure) (now : Instant) :
    (r.running node now).changeStatusFor ⟨node, r.runCount + 1⟩ .finishedError
        (some (Runner.cannotStart f)) now
      = (true, (r.running node now).rejected f now) := by
  have hstart : Text.isBlank "ERROR: Task can't be started: " = false := by decide
  have hline : Text.isBlank (Runner.cannotStart f) = false := Log.isBlank_append hstart f.message
  simp [changeStatusFor, isRunningUnder, changeStatus, moved, rejected, running,
    Status.canChangeTo, Log.append?, Log.append, hline]

end Record

/-! ### One claimed task -/

/-- Writes a record over the one of its id. -/
def Shared.write (s : Shared) (new : Record) : Shared := { s with store := s.store.write new }

namespace Runner

section TakeUp

variable (registry : Registry)

/-- Takes up a task: its record runs and so does its work, or else the record ends with an error. -/
def takeUp (w : Record) (r : Runner) (s : Shared) : Runner × Shared :=
  let now := s.clock.toInstant
  match instantiate registry w with
  | .ok work =>
    r.launch (w.running r.node now) ⟨r.node, w.runCount + 1⟩ work
      (s.write (w.running r.node now))
  | .error f =>
    (r, (s.write (w.running r.node now)).write ((w.running r.node now).rejected f now))

variable {registry} {w : Record} {r : Runner} {s : Shared}

/-- Only the store and the runs change, and of the runner what it tracks. -/
theorem takeUp_eq : takeUp registry w r s
    = ({ r with tracked := (takeUp registry w r s).1.tracked },
      { s with
        store := (takeUp registry w r s).2.store
        runs := (takeUp registry w r s).2.runs }) := by
  unfold takeUp
  cases instantiate registry w with
  | ok work =>
    dsimp only [launch, Shared.spawn, Shared.write]
    rw [← track_eq]
  | error f => rfl

theorem node_takeUp : (takeUp registry w r s).1.node = r.node :=
  congrArg (fun p => p.1.node) takeUp_eq

theorem connection_takeUp : (takeUp registry w r s).1.connection = r.connection :=
  congrArg (fun p => p.1.connection) takeUp_eq

theorem settings_takeUp : (takeUp registry w r s).1.settings = r.settings :=
  congrArg (fun p => p.1.settings) takeUp_eq

theorem sharedConnection_takeUp (k : Nat) :
    (takeUp registry w r s).2.connection k = s.connection k :=
  congrArg (fun p => p.2.connection k) takeUp_eq

theorem clock_takeUp : (takeUp registry w r s).2.clock = s.clock :=
  congrArg (fun p => p.2.clock) takeUp_eq

theorem runs_takeUp : (takeUp registry w r s).2.runs
    = s.runs ++ (w.run? registry r.node r.connection).toList := by
  unfold takeUp Record.run?
  cases instantiate registry w with
  | ok work => rfl
  | error f => exact (List.append_nil _).symm

theorem record?_takeUp (h : s.store.record? w.id = some w) :
    (takeUp registry w r s).2.store.record? w.id
      = some (w.launched registry r.node s.clock.toInstant) := by
  have hrunning := Store.record?_write h (w.kept_running r.node s.clock)
  unfold takeUp Record.launched
  cases instantiate registry w with
  | ok work => exact hrunning
  | error f =>
    have hkept := (w.running r.node s.clock.toInstant).kept_changeStatusFor ⟨r.node, w.runCount + 1⟩
      .finishedError (some (cannotStart f)) s.clock
    rw [Record.changeStatusFor_rejected] at hkept
    exact Store.record?_write hrunning hkept

theorem record?_takeUp_of_ne {id : String} (h : id ≠ w.id) :
    (takeUp registry w r s).2.store.record? id = s.store.record? id := by
  have hwrite (store : Store) (new : Record) (hid : new.id = w.id) :
      (store.write new).record? id = store.record? id :=
    Store.record?_write_of_ne (hid ▸ h)
  have hrunning := hwrite s.store (w.running r.node s.clock.toInstant) rfl
  unfold takeUp
  cases instantiate registry w with
  | ok work => exact hrunning
  | error f => exact (hwrite _ _ (by rfl)).trans hrunning

theorem find?_takeUp {run : Run} (h : w.run? registry r.node r.connection = some run) :
    (takeUp registry w r s).1.find? w.id = some s.runs.length := by
  unfold Record.run? at h
  unfold takeUp
  cases hwork : instantiate registry w with
  | ok work => exact find?_track w.id s.runs.length
  | error f =>
    rw [hwork] at h
    cases h

theorem find?_takeUp_of_ne {id : String}
    (h : w.id = id → w.run? registry r.node r.connection = none) :
    (takeUp registry w r s).1.find? id = r.find? id := by
  unfold Record.run? at h
  unfold takeUp
  cases hwork : instantiate registry w with
  | ok work =>
    refine find?_track_of_ne ?_ s.runs.length
    rintro rfl
    rw [hwork] at h
    cases h rfl
  | error f => rfl

theorem length_takeUp_le :
    (takeUp registry w r s).1.tracked.length ≤ r.tracked.length + 1 := by
  unfold takeUp
  cases instantiate registry w with
  | ok work => exact length_track_le w.id s.runs.length
  | error f => exact Nat.le_succ _

end TakeUp

/-! ### The loop, along the queue -/

section Fill

variable (registry : Registry) (policy : FailoverPolicy)

/-- Goes along the queue of the records that may be run now until the runner is full: takes up those
whose tasks may start, which are listed, and gives up the others. -/
def fill : List Record → Runner → Shared → List Record × Runner × Shared
  | [], r, s => ([], r, s)
  | w :: q, r, s =>
    if r.isFull then ([], r, s)
    else if w.mayStart policy then
      let taken := takeUp registry w r s
      let rest := fill q taken.1 taken.2
      (w :: rest.1, rest.2)
    else fill q r (s.write w.givenUp)

variable {registry policy} {q : List Record} {w : Record} {r : Runner} {s : Shared}

theorem fill_of_isFull (h : r.isFull = true) : fill registry policy q r s = ([], r, s) := by
  cases q with
  | nil => rfl
  | cons w q => rw [fill, if_pos h]

theorem fill_cons_of_mayStart (h : r.isFull = false) (hw : w.mayStart policy = true) :
    fill registry policy (w :: q) r s
      = (w :: (fill registry policy q (takeUp registry w r s).1 (takeUp registry w r s).2).1,
        (fill registry policy q (takeUp registry w r s).1 (takeUp registry w r s).2).2) := by
  rw [fill, if_neg (by simp [h]), if_pos hw]

theorem fill_cons_of_not_mayStart (h : r.isFull = false) (hw : w.mayStart policy = false) :
    fill registry policy (w :: q) r s = fill registry policy q r (s.write w.givenUp) := by
  rw [fill, if_neg (by simp [h]), if_neg (by simp [hw])]

theorem startUpTo_of_isFull (h : r.isFull = true) (fuel : Nat) :
    startUpTo registry fuel r s = (.ok (), r, s) := by
  cases fuel with
  | zero => rfl
  | succ fuel => rw [startUpTo, if_pos h]

/-- What matters of the store is what the next claim does to it. -/
theorem startUpTo_congr {s' : Shared} {fuel : Nat} (hfull : r.isFull = false)
    (hcall : s.call r.connection (.claim r.node) = s'.call r.connection (.claim r.node)) :
    startUpTo registry (fuel + 1) r s = startUpTo registry (fuel + 1) r s' := by
  have hnot : ¬ r.isFull = true := by simp [hfull]
  rw [startUpTo, startUpTo, if_neg hnot, if_neg hnot, hcall]

/-- A task that a claim takes is taken up. -/
theorem startUpTo_succ_of_claimed {fuel : Nat} (hfull : r.isFull = false)
    (hcall : s.call r.connection (.claim r.node)
      = (.ok (some (w.running r.node s.clock.toInstant)),
        s.write (w.running r.node s.clock.toInstant)))
    (hanswers : s.store.Answers (s.connection r.connection))
    (hreport : .changeFor ∉ (s.connection r.connection).failing)
    (hrecord : s.store.record? w.id = some w) :
    startUpTo registry (fuel + 1) r s
      = startUpTo registry fuel (takeUp registry w r s).1 (takeUp registry w r s).2 := by
  have hclaimed : (w.running r.node s.clock.toInstant).claim? = some ⟨r.node, w.runCount + 1⟩ := rfl
  have hinstantiate : instantiate registry (w.running r.node s.clock.toInstant)
      = instantiate registry w := rfl
  rw [startUpTo, if_neg (by simp [hfull]), hcall]
  dsimp only
  rw [hclaimed, hinstantiate]
  unfold takeUp
  cases instantiate registry w with
  | ok work => rfl
  | error f =>
    have hrunning := Store.record?_write hrecord (w.kept_running r.node s.clock)
    have hreported := (hanswers.write (w.running r.node s.clock.toInstant)).call_changeFor hreport
      hrunning (w.changeStatusFor_rejected r.node f s.clock.toInstant)
    have hcall' := Shared.call_eq_of_store
      (s := s.write (w.running r.node s.clock.toInstant)) hreported
    have hid : (w.running r.node s.clock.toInstant).id = w.id := rfl
    dsimp only
    rw [hid, hcall']
    rfl

/-- What is taken up is not offered any more. -/
theorem offers_takeUp {rs : List Record} {k : Connection} (h : s.store.Offers k rs) :
    (takeUp registry w r s).2.store.Offers k (rs.filter fun x => x.id != w.id) := by
  have hrunning : (s.store.write (w.running r.node s.clock.toInstant)).Offers k
      (rs.filter fun x => x.id != w.id) := h.write rfl
  unfold takeUp
  cases instantiate registry w with
  | ok work => exact hrunning
  | error f =>
    have hrejected : ((s.store.write (w.running r.node s.clock.toInstant)).write
        ((w.running r.node s.clock.toInstant).rejected f s.clock.toInstant)).Offers k
        ((rs.filter fun x => x.id != w.id).filter fun x => x.id != w.id) := hrunning.write rfl
    rw [List.filter_filter] at hrejected
    simp only [Bool.and_self] at hrejected
    exact hrejected

section Loop

variable {k : Connection} {rs : List Record} {n : Nat} {node : String} {now : ClockTime}

/-- A claim goes along the queue. -/
theorem call_claim (hclaim : .claim ∉ k.failing) (hoffers : s.store.Offers k rs)
    (hcountable : ∀ x ∈ rs, x.Countable) (hk : s.connection n = k) (hnow : s.clock = now)
    (hq : Record.queue node k.settings.failover now.toInstant rs = q) :
    let out := Store.claimFrom node k.settings.failover now.toInstant q s.store
    s.call n (.claim node) = (.ok out.1, { s with store := out.2 }) := by
  subst hk hnow hq
  exact Shared.call_eq_of_store (hoffers.call_claim hcountable hclaim node s.clock)

/-- Starting tasks goes along the queue, whatever the bound on the number of claims is beyond the
number of records. In the end the runner is full, or nothing is left to claim. -/
theorem startUpTo_eq_fill (hclaim : .claim ∉ k.failing) (hreport : .changeFor ∉ k.failing)
    (hoffers : s.store.Offers k rs) (hcountable : ∀ x ∈ rs, x.Countable)
    (hk : s.connection n = k) (hnow : s.clock = now) (hn : r.connection = n) (hnode : r.node = node)
    (hq : Record.queue node k.settings.failover now.toInstant rs = q) {fuel : Nat}
    (hfuel : q.length ≤ fuel) :
    let out := fill registry k.settings.failover q r s
    startUpTo registry (fuel + 1) r s = (.ok (), out.2)
      ∧ (out.2.1.isFull = true
        ∨ out.1 = Record.startable k.settings.failover q
          ∧ (out.2.2.call n (.claim node)).1 = .ok none) := by
  induction q generalizing fuel rs r s with
  | nil =>
    have hcall := call_claim hclaim hoffers hcountable hk hnow hq
    cases hfull : r.isFull with
    | true =>
      rw [fill_of_isFull hfull, startUpTo_of_isFull hfull]
      exact ⟨rfl, Or.inl hfull⟩
    | false =>
      rw [startUpTo, if_neg (by simp [hfull]), hn, hnode, hcall]
      exact ⟨rfl, Or.inr ⟨rfl, congrArg Prod.fst hcall⟩⟩
  | cons w q ih =>
    have hcall := call_claim hclaim hoffers hcountable hk hnow hq
    have hmem : w ∈ rs := (Record.mem_queue.mp (hq ▸ List.mem_cons_self)).1
    -- What was looked at is out of the queue of the next claim.
    have hrest := Record.queue_filter_head hoffers.nodup_ids hq
    have hcountable' : ∀ x ∈ rs.filter fun x => x.id != w.id, x.Countable :=
      fun x hx => hcountable x (List.mem_of_mem_filter hx)
    cases hfull : r.isFull with
    | true =>
      rw [fill_of_isFull hfull, startUpTo_of_isFull hfull]
      exact ⟨rfl, Or.inl hfull⟩
    | false =>
    cases hw : w.mayStart k.settings.failover with
    | false =>
      have hoffers' : (s.write w.givenUp).store.Offers k (rs.filter fun x => x.id != w.id) :=
        hoffers.write rfl
      have hsame : s.call r.connection (.claim r.node)
          = (s.write w.givenUp).call r.connection (.claim r.node) := by
        rw [hn, hnode, call_claim hclaim hoffers' hcountable' hk hnow hrest, hcall,
          Store.claimFrom, if_neg (by simp [hw])]
        rfl
      rw [fill_cons_of_not_mayStart hfull hw, startUpTo_congr hfull hsame,
        Record.startable_cons_of_not_mayStart hw]
      exact ih hoffers' hcountable' hk hnow hn hnode hrest (Nat.le_of_succ_le hfuel)
    | true =>
      obtain ⟨fuel, rfl⟩ := Nat.exists_eq_add_one_of_ne_zero (Nat.ne_zero_of_lt hfuel)
      have hclaimed : s.call r.connection (.claim r.node)
          = (.ok (some (w.running r.node s.clock.toInstant)),
            s.write (w.running r.node s.clock.toInstant)) := by
        rw [hn, hnode, hnow, hcall, Store.claimFrom, if_pos hw]
        rfl
      have hk' : s.connection r.connection = k := by rw [hn, hk]
      have hstep : startUpTo registry (fuel + 1 + 1) r s
          = startUpTo registry (fuel + 1) (takeUp registry w r s).1 (takeUp registry w r s).2 :=
        startUpTo_succ_of_claimed hfull hclaimed (hk' ▸ hoffers.answers hmem) (hk' ▸ hreport)
          (hoffers.record? hmem)
      rw [fill_cons_of_mayStart hfull hw, hstep, Record.startable_cons_of_mayStart hw]
      obtain ⟨hrun, hend⟩ := ih (offers_takeUp hoffers) hcountable'
        ((sharedConnection_takeUp n).trans hk) (clock_takeUp.trans hnow)
        (connection_takeUp.trans hn) (node_takeUp.trans hnode) hrest
        (Nat.le_of_succ_le_succ hfuel)
      exact ⟨hrun, hend.imp_right fun hnone => ⟨congrArg (List.cons w) hnone.1, hnone.2⟩⟩

end Loop

end Fill

/-! ### What has become of the queue -/

/-- What is left of a queue, a runner and what it shares when some records have been claimed. -/
structure Filled (registry : Registry) (policy : FailoverPolicy) (q : List Record) (r : Runner)
    (s : Shared) (claimed : List Record) (r' : Runner) (s' : Shared) : Prop where
  /-- None is claimed before those in front of it. -/
  inOrder : claimed <+: Record.startable policy q
  launched : ∀ w ∈ claimed,
    s'.store.record? w.id = some (w.launched registry r.node s.clock.toInstant)
  others : ∀ id, id ∉ claimed.map Record.id → s'.store.record? id = s.store.record? id
    ∨ ∃ w ∈ q, w.id = id ∧ w.mayStart policy = false ∧ s'.store.record? id = some w.givenUp
  runs : s'.runs = s.runs ++ claimed.filterMap (Record.run? registry r.node r.connection)
  tracked : ∀ w ∈ claimed, ∀ run, w.run? registry r.node r.connection = some run →
    ∃ n, r'.find? w.id = some n ∧ s.runs.length ≤ n ∧ s'.runs[n]? = some run
  untracked : ∀ id, (∀ w ∈ claimed, w.id = id → w.run? registry r.node r.connection = none) →
    r'.find? id = r.find? id
  bounded : r'.tracked.length ≤ max r.tracked.length r.settings.maxRunning
  length_le : r'.tracked.length ≤ r.tracked.length + claimed.length
  runner_eq : r' = { r with tracked := r'.tracked }
  shared_eq : s' = { s with store := s'.store, runs := s'.runs }

namespace Filled

variable {registry : Registry} {policy : FailoverPolicy} {q claimed : List Record} {w : Record}
  {r r' : Runner} {s s' : Shared}

/-- Nothing is claimed. -/
theorem refl (q : List Record) (r : Runner) (s : Shared) : Filled registry policy q r s [] r s where
  inOrder := List.nil_prefix
  launched w hw := by cases hw
  others id _ := Or.inl rfl
  runs := (List.append_nil _).symm
  tracked w hw := by cases hw
  untracked id _ := rfl
  bounded := Nat.le_max_left _ _
  length_le := Nat.le_refl _
  runner_eq := rfl
  shared_eq := rfl

/-- The first record is given up. -/
theorem cons_of_not_mayStart (hw : w.mayStart policy = false)
    (hrecord : s.store.record? w.id = some w)
    (h : Filled registry policy q r (s.write w.givenUp) claimed r' s') :
    Filled registry policy (w :: q) r s claimed r' s' where
  inOrder := by
    rw [Record.startable_cons_of_not_mayStart hw]
    exact h.inOrder
  launched := h.launched
  others := by
    intro id hid
    rcases h.others id hid with hsame | ⟨x, hx, hgiven⟩
    · by_cases hwid : id = w.id
      · subst hwid
        refine Or.inr ⟨w, List.mem_cons_self, rfl, hw, hsame.trans ?_⟩
        exact Store.record?_write hrecord w.kept_givenUp
      · exact Or.inl (hsame.trans (Store.record?_write_of_ne hwid))
    · exact Or.inr ⟨x, List.mem_cons_of_mem w hx, hgiven⟩
  runs := h.runs
  tracked := h.tracked
  untracked := h.untracked
  bounded := h.bounded
  length_le := h.length_le
  runner_eq := h.runner_eq
  shared_eq := h.shared_eq

section TakenUp

variable (hid : w.id ∉ q.map Record.id)
  (h : Filled registry policy q (takeUp registry w r s).1 (takeUp registry w r s).2 claimed r' s')
include hid h

/-- What is claimed later is of other tasks. -/
theorem id_ne_of_mem {x : Record} (hx : x ∈ claimed) : x.id ≠ w.id :=
  fun heq => hid (heq ▸ List.mem_map_of_mem (List.mem_of_mem_filter (h.inOrder.subset hx)))

/-- What is done for the other records does not concern the first one. -/
theorem record?_of_takeUp (hrecord : s.store.record? w.id = some w) :
    s'.store.record? w.id = some (w.launched registry r.node s.clock.toInstant) := by
  have hclaimed : w.id ∉ claimed.map Record.id := by
    intro hmem
    obtain ⟨x, hx, heq⟩ := List.mem_map.mp hmem
    exact h.id_ne_of_mem hid hx heq
  rcases h.others w.id hclaimed with hsame | ⟨x, hx, heq, -⟩
  · exact hsame.trans (record?_takeUp hrecord)
  · exact absurd (heq ▸ List.mem_map_of_mem hx) hid

/-- The first record is tracked under the number of its run. -/
theorem find?_of_takeUp {run : Run} (hrun : w.run? registry r.node r.connection = some run) :
    r'.find? w.id = some s.runs.length ∧ s'.runs[s.runs.length]? = some run := by
  refine ⟨(h.untracked w.id fun x hx heq => ?_).trans (find?_takeUp hrun), ?_⟩
  · exact absurd heq (h.id_ne_of_mem hid hx)
  · rw [h.runs, runs_takeUp, hrun]
    simp

/-- The first record is taken up. -/
theorem cons_of_mayStart (hfull : r.isFull = false) (hw : w.mayStart policy = true)
    (hrecord : s.store.record? w.id = some w) :
    Filled registry policy (w :: q) r s (w :: claimed) r' s' where
  inOrder := by
    rw [Record.startable_cons_of_mayStart hw]
    exact (List.prefix_cons_inj w).mpr h.inOrder
  launched := by
    intro x hx
    rcases List.mem_cons.mp hx with rfl | hx
    · exact h.record?_of_takeUp hid hrecord
    · have hlaunched := h.launched x hx
      rwa [node_takeUp, clock_takeUp] at hlaunched
  others := by
    intro id hnot
    rw [List.map_cons, List.mem_cons, not_or] at hnot
    rcases h.others id hnot.2 with hsame | ⟨x, hx, hgiven⟩
    · exact Or.inl (hsame.trans (record?_takeUp_of_ne hnot.1))
    · exact Or.inr ⟨x, List.mem_cons_of_mem w hx, hgiven⟩
  runs := by
    rw [h.runs, runs_takeUp, node_takeUp, connection_takeUp, List.filterMap_cons, List.append_assoc]
    cases w.run? registry r.node r.connection <;> rfl
  tracked := by
    intro x hx run hrun
    rcases List.mem_cons.mp hx with rfl | hx
    · obtain ⟨hfind, hget⟩ := h.find?_of_takeUp hid hrun
      exact ⟨s.runs.length, hfind, Nat.le_refl _, hget⟩
    · have htracked := h.tracked x hx run
      rw [node_takeUp, connection_takeUp] at htracked
      obtain ⟨n, hfind, hle, hget⟩ := htracked hrun
      rw [runs_takeUp, List.length_append] at hle
      exact ⟨n, hfind, (Nat.le_add_right _ _).trans hle, hget⟩
  untracked := by
    intro id hnone
    have hfirst := find?_takeUp_of_ne (s := s) (hnone w List.mem_cons_self)
    refine (h.untracked id fun x hx heq => ?_).trans hfirst
    rw [node_takeUp, connection_takeUp]
    exact hnone x (List.mem_cons_of_mem w hx) heq
  bounded := by
    have hbounded := h.bounded
    have hstep : (takeUp registry w r s).1.tracked.length ≤ r.tracked.length + 1 := length_takeUp_le
    rw [settings_takeUp] at hbounded
    have hroom : r.tracked.length < r.settings.maxRunning := by simpa [isFull] using hfull
    omega
  length_le := by
    have hlength := h.length_le
    have hstep : (takeUp registry w r s).1.tracked.length ≤ r.tracked.length + 1 := length_takeUp_le
    rw [List.length_cons]
    omega
  runner_eq := h.runner_eq.trans (congrArg (fun p => { p.1 with tracked := r'.tracked }) takeUp_eq)
  shared_eq := h.shared_eq.trans
    (congrArg (fun p => { p.2 with store := s'.store, runs := s'.runs }) takeUp_eq)

end TakenUp

/-- A claimed task whose work can be made runs, and its run is tracked. -/
theorem started (h : Filled registry policy q r s claimed r' s') (hw : w ∈ claimed) {work : Work}
    (hwork : instantiate registry w = .ok work) :
    s'.store.record? w.id = some (w.running r.node s.clock.toInstant)
      ∧ ∃ n, r'.find? w.id = some n ∧ s.runs.length ≤ n
        ∧ s'.runs[n]? = some ⟨⟨r.node, w.runCount + 1⟩, Execution.spawn w.id work, r.connection⟩ := by
  have hlaunched := h.launched w hw
  rw [Record.launched, hwork] at hlaunched
  refine ⟨hlaunched, h.tracked w hw _ ?_⟩
  rw [Record.run?, hwork]

/-- Any other claimed task has ended, and its entry is what it was. -/
theorem ended (h : Filled registry policy q r s claimed r' s') (hids : (q.map Record.id).Nodup)
    (hw : w ∈ claimed) {f : Failure} (hf : instantiate registry w = .error f) :
    s'.store.record? w.id
        = some ((w.running r.node s.clock.toInstant).rejected f s.clock.toInstant)
      ∧ r'.find? w.id = r.find? w.id := by
  have hlaunched := h.launched w hw
  rw [Record.launched, hf] at hlaunched
  refine ⟨hlaunched, h.untracked w.id fun x hx heq => ?_⟩
  have hqueued : ∀ x ∈ claimed, x ∈ q := fun x hx => List.mem_of_mem_filter (h.inOrder.subset hx)
  have hsame : x = w := List.inj_on_of_nodup_map hids (hqueued x hx) (hqueued w hw) heq
  rw [hsame, Record.run?, hf]

end Filled

/-- Going along a queue of records that the store holds, whose ids are distinct. -/
theorem filled_fill {registry : Registry} {policy : FailoverPolicy} {q : List Record} {r : Runner}
    {s : Shared} (hids : (q.map Record.id).Nodup)
    (hrecords : ∀ w ∈ q, s.store.record? w.id = some w) :
    let out := fill registry policy q r s
    Filled registry policy q r s out.1 out.2.1 out.2.2 := by
  induction q generalizing r s with
  | nil => exact .refl [] r s
  | cons w q ih =>
    obtain ⟨hid, hids⟩ := List.nodup_cons.mp hids
    have hrecord := hrecords w List.mem_cons_self
    have hne : ∀ x ∈ q, x.id ≠ w.id := fun x hx heq => hid (heq ▸ List.mem_map_of_mem hx)
    have hrest : ∀ x ∈ q, s.store.record? x.id = some x :=
      fun x hx => hrecords x (List.mem_cons_of_mem w hx)
    cases hfull : r.isFull with
    | true =>
      rw [fill_of_isFull hfull]
      exact .refl _ r s
    | false =>
    cases hw : w.mayStart policy with
    | true =>
      rw [fill_cons_of_mayStart hfull hw]
      refine Filled.cons_of_mayStart hid (ih hids fun x hx => ?_) hfull hw hrecord
      exact (record?_takeUp_of_ne (hne x hx)).trans (hrest x hx)
    | false =>
      rw [fill_cons_of_not_mayStart hfull hw]
      refine Filled.cons_of_not_mayStart hw hrecord (ih hids fun x hx => ?_)
      have hwrite : (s.store.write w.givenUp).record? x.id = s.store.record? x.id :=
        Store.record?_write_of_ne (hne x hx)
      exact hwrite.trans (hrest x hx)

/-! ### Starting tasks -/

/-- **Starting tasks fills the node and leaks nothing.** If the next claim succeeds and reports do,
then no bound on the number of claims beyond the number of records makes a difference. A runner that
is full does nothing. Otherwise it claims the oldest tasks that may start: each ends up running
under a claim that the runner tracks with a new run of its work, or, exactly if its work cannot be
made, with an error and without a run. In the end the runner is full or nothing is left to claim. -/
theorem starts_fill_node (registry : Registry) (r : Runner) (s : Shared)
    (hclaim : r.isFull = false → ∃ a, (s.call r.connection (.claim r.node)).1 = .ok a)
    (hreport : .changeFor ∉ (s.connection r.connection).failing)
    (hcountable : ∀ id x, s.store.record? id = some x → x.Countable) :
    let policy := s.policy r.connection
    let now := s.clock.toInstant
    ∃ waiting claimed r' s',
      startTasks registry r s = (.ok (), r', s')
      ∧ (∀ fuel, s.store.size < fuel → startUpTo registry fuel r s = (.ok (), r', s'))
      ∧ (r.isFull = true → claimed = [] ∧ r' = r ∧ s' = s)
      ∧ (r.isFull = false → s.store.Offers (s.connection r.connection) waiting)
      ∧ Filled registry policy (Record.queue r.node policy now waiting) r s claimed r' s'
      ∧ claimed.Pairwise (fun a b => a.createdAt.lt b.createdAt = true
          ∨ a.createdAt = b.createdAt ∧ [a, b].Sublist waiting)
      ∧ (∀ w ∈ claimed, ∀ work, instantiate registry w = .ok work →
          s'.store.record? w.id = some (w.running r.node now)
            ∧ ∃ n, r'.find? w.id = some n ∧ s.runs.length ≤ n
              ∧ s'.runs[n]? = some ⟨⟨r.node, w.runCount + 1⟩, Execution.spawn w.id work,
                r.connection⟩)
      ∧ (∀ w ∈ claimed, ∀ f, instantiate registry w = .error f →
          s'.store.record? w.id = some ((w.running r.node now).rejected f now)
            ∧ r'.find? w.id = r.find? w.id)
      ∧ (r'.isFull = true
        ∨ claimed = Record.startable policy (Record.queue r.node policy now waiting)
          ∧ (s'.call r.connection (.claim r.node)).1 = .ok none) := by
  intro policy now
  cases hfull : r.isFull with
  | true =>
    refine ⟨[], [], r, s, startUpTo_of_isFull hfull _, fun fuel _ => startUpTo_of_isFull hfull fuel,
      fun _ => ⟨rfl, rfl, rfl⟩, ?_, .refl _ r s, .nil, ?_, ?_, Or.inl hfull⟩
    · intro hnot
      cases hnot
    · intro w hw
      cases hw
    · intro w hw
      cases hw
  | false =>
  obtain ⟨a, ha⟩ := hclaim hfull
  have hclaim : .claim ∉ (s.connection r.connection).failing := Store.not_failing_of_ok ha
  obtain ⟨waiting, hoffers⟩ := Store.exists_offers ha
  have hcountable' : ∀ x ∈ waiting, x.Countable :=
    fun x hx => hcountable x.id x (hoffers.record? hx)
  let queue := Record.queue r.node policy now waiting
  let out := fill registry policy queue r s
  have hloop : ∀ fuel, s.store.size ≤ fuel → startUpTo registry (fuel + 1) r s = (.ok (), out.2)
      ∧ (out.2.1.isFull = true ∨ out.1 = Record.startable policy queue
        ∧ (out.2.2.call r.connection (.claim r.node)).1 = .ok none) := by
    intro fuel hfuel
    exact startUpTo_eq_fill hclaim hreport hoffers hcountable' rfl rfl rfl rfl rfl
      ((Record.length_queue_le waiting).trans (hoffers.length_le_size.trans hfuel))
  have hids : (queue.map Record.id).Nodup := Record.nodup_ids_queue hoffers.nodup_ids
  have hfilled : Filled registry policy queue r s out.1 out.2.1 out.2.2 :=
    filled_fill hids fun w hw => hoffers.record? (Record.mem_queue.mp hw).1
  have hordered : queue.Pairwise fun a b => a.createdAt.lt b.createdAt = true
      ∨ a.createdAt = b.createdAt ∧ [a, b].Sublist waiting :=
    (Record.pairwise_oldestFirst (.of_map _ hoffers.nodup_ids)).sublist List.filter_sublist
  have hsublist : out.1.Sublist queue := hfilled.inOrder.sublist.trans List.filter_sublist
  refine ⟨waiting, out.1, out.2.1, out.2.2, (hloop _ (Nat.le_refl _)).1, ?_, ?_, fun _ => hoffers,
    hfilled, hordered.sublist hsublist, ?_, ?_, (hloop _ (Nat.le_refl _)).2⟩
  · intro fuel hfuel
    obtain ⟨fuel, rfl⟩ := Nat.exists_eq_add_one_of_ne_zero (Nat.ne_zero_of_lt hfuel)
    exact (hloop fuel (Nat.le_of_lt_succ hfuel)).1
  · intro hnot
    cases hnot
  · intro w hw work hwork
    exact hfilled.started hw hwork
  · intro w hw f hf
    exact hfilled.ended hids hw hf

/-- There is room for three tasks. The work of `a` cannot be made, so `a` ends with an error and `b`
runs, and nothing is left to claim. -/
theorem starts_fill_node_of_two :
    let task (id taskType : String) : Record :=
      Record.fresh id taskType none ClockTime.epoch.toInstant
    let a : Record := task "a" "ghost"
    let b : Record := task "b" "noop"
    let m : Memory := ⟨[a, b], by decide⟩
    let s : Shared := { store := .memory m, connections := [{}], clock := .epoch }
    let r : Runner := { node := "n", settings := { maxRunning := 3 }, connection := 0 }
    let now := ClockTime.epoch.toInstant
    ∃ r' s' n, startTasks .builtin r s = (.ok (), r', s')
      ∧ s'.store.record? "a" = some ((a.running "n" now).rejected (.unsupportedTask "ghost") now)
      ∧ s'.store.record? "b" = some (b.running "n" now)
      ∧ r'.find? "b" = some n
      ∧ s'.runs[n]? = some ⟨⟨"n", 1⟩, Execution.spawn "b" noopWork, 0⟩
      ∧ (s'.call 0 (.claim "n")).1 = .ok none := by
  intro task a b m s r now
  have hcountable : ∀ id x, s.store.record? id = some x → x.Countable := by
    intro id x hx hnew
    have hall : ∀ x ∈ m.records, x.runCount = 0 := by decide
    simp [hall x (Memory.mem_of_get? hx)]
  have hoffers : s.store.Offers (s.connection 0) [a, b] := .memory m
  have hclaim : ∃ x, (s.call 0 (.claim "n")).1 = .ok x := by
    have hcall := hoffers.call_claim (fun x hx => hcountable x.id x (hoffers.record? hx))
      (by decide) "n" .epoch
    exact ⟨_, congrArg Prod.fst (Shared.call_eq_of_store hcall)⟩
  obtain ⟨waiting, claimed, r', s', hstart, -, -, hwaiting, hfilled, -, hruns, hends, hend⟩ :=
    starts_fill_node .builtin r s (fun _ => hclaim) (by decide) hcountable
  obtain rfl : waiting = [a, b] := (hwaiting rfl).unique hoffers
  have hsorted : Record.oldestFirst [a, b] = [a, b] :=
    List.mergeSort_of_pairwise (by decide +kernel)
  have hstartable : Record.startable (s.policy 0) (Record.queue "n" (s.policy 0) now [a, b])
      = [a, b] := by
    rw [Record.queue, hsorted]
    decide +kernel
  have hroom : r'.isFull = false := by
    have hclaimed := (hstartable ▸ hfilled.inOrder).length_le
    have hlength := hfilled.length_le
    have hmax : r'.settings.maxRunning = 3 := by rw [hfilled.runner_eq]
    have htracked : r.tracked.length = 0 := rfl
    simp only [List.length_cons, List.length_nil] at hclaimed
    simp only [isFull, hmax, decide_eq_false_iff_not]
    omega
  rcases hend with hfull | ⟨hclaimed, hnone⟩
  · simp [hroom] at hfull
  have hall : claimed = [a, b] := hclaimed.trans hstartable
  have hghost : instantiate .builtin a = .error (.unsupportedTask "ghost") := by rfl
  have hnoop : instantiate .builtin b = .ok noopWork := by rfl
  obtain ⟨hrunning, n, hfind, -, hrun⟩ := hruns b (by simp [hall]) _ hnoop
  obtain ⟨hrejected, -⟩ := hends a (by simp [hall]) _ hghost
  exact ⟨r', s', n, hstart, hrejected, hrunning, hfind, hrun, hnone⟩

end Runner

end TaskCluster
