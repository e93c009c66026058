import Mathlib
import TaskCluster.Proofs.Cluster.Iteration
import TaskCluster.Proofs.Store.Fencing
import TaskCluster.Proofs.Store.Passage

/-!
# How a runner tends to its claims

A runner looks after the claims that it has made: as long as a record runs under one of them, the
runner minds a run that works for the task under that claim (`Tends`). What others do to the store
cannot break this. A record that has left a claim never comes back to it, because every later claim
of the task counts one run more (`Passage.claim_runs`).

So it is enough to look at the runner itself. It signals runs and forgets only what has ended, and a
record that was handed out to it is in its hand until it has launched a run for it
(`Tends.launch`) or ended the task with an error (`Tends.refuse`).
-/

namespace TaskCluster

/-! ### Claims and the records that they are of -/

namespace Claim

/-- The record of the task is at the run of the claim. -/
def Runs (c : Claim) (r : Option Record) : Prop := ∃ x ∈ r, x.isRunningUnder c = true

/-- The run of the claim is counted in the record of the task. -/
def IsCounted (c : Claim) (r : Option Record) : Prop := ∃ x ∈ r, c.runCount ≤ x.runCount

end Claim

namespace Record

variable {r : Record} {c : Claim}

theorem isRunningUnder_iff :
    r.isRunningUnder c = true ↔ r.status = .running ∧ r.runCount = c.runCount
      ∧ r.node = some c.node := by
  simp [isRunningUnder, and_assoc]

/-- After the report of an end the record does not run under the claim, whatever it did before. -/
theorem not_isRunningUnder_of_report {next : Status}
    (hnext : Status.running.canChangeTo next = true) (message : Option String) (now : Instant) :
    ¬ (r.changeStatusFor c next message now).2.isRunningUnder c = true := by
  by_cases hunder : r.isRunningUnder c = true
  · have hstatus := (isRunningUnder_iff.mp hunder).1
    rw [changeStatusFor, if_pos hunder, changeStatus, hstatus, if_pos hnext]
    intro h
    have hleft : next = .running := (isRunningUnder_iff.mp h).1
    rw [hleft] at hnext
    cases hnext
  · rw [changeStatusFor, if_neg hunder]
    exact hunder

end Record

/-- The count of a record that is taken is beyond that of all claims before. -/
theorem Claim.IsCounted.lt_of_taken {c : Claim} {old new : Record} (h : c.runCount ≤ old.runCount)
    {node : String} {policy : FailoverPolicy} {now : Instant}
    (htaken : old.offer node policy now = .taken new) : c.runCount < new.runCount := by
  obtain ⟨-, rfl, hlt⟩ := Record.of_offer_taken htaken
  rw [UInt32.lt_iff_toNat_lt, Record.toNat_runCount_running hlt]
  exact Nat.lt_succ_of_le (UInt32.le_iff_toNat_le.mp h)

namespace Passage

variable {id : String} {answer : Option Answer} {moment : Option Moment}
  {before after : Option Record} {c : Claim}

/-- What is counted stays counted. -/
theorem claim_isCounted (h : Passage id answer moment before after) (hc : c.IsCounted before) :
    c.IsCounted after := by
  obtain ⟨old, hold, hle⟩ := hc
  cases h with
  | absent => cases hold
  | created => cases hold
  | kept _ hrun | dropped _ _ hrun | begunByHand _ _ _ hrun | ended _ hrun =>
    cases hold
    exact ⟨_, rfl, hrun.runCount ▸ hle⟩
  | begun _ _ htaken =>
    cases hold
    exact ⟨_, rfl, UInt32.le_of_lt (Claim.IsCounted.lt_of_taken hle htaken)⟩

/-- A run under a claim that was made before has been going on: nobody begins it again. -/
theorem claim_runs (h : Passage id answer moment before after)
    (hhand : ∀ message, answer ≠ some ⟨.change id .running message, .ok true⟩)
    (hc : c.IsCounted before) (hafter : c.Runs after) : c.Runs before := by
  obtain ⟨old, hold, hle⟩ := hc
  obtain ⟨new, hnew, hunder⟩ := hafter
  obtain ⟨hstatus, hcount, hnode⟩ := Record.isRunningUnder_iff.mp hunder
  cases h with
  | absent => cases hold
  | created => cases hold
  | kept hsame hrun =>
    cases hold
    cases hnew
    exact ⟨_, rfl, Record.isRunningUnder_iff.mpr
      ⟨hsame.symm.trans hstatus, hrun.runCount.symm.trans hcount, hrun.node.symm.trans hnode⟩⟩
  | dropped _ hcanceled =>
    cases hnew
    cases hcanceled.symm.trans hstatus
  | begun _ _ htaken =>
    cases hold
    cases hnew
    have hlt := Claim.IsCounted.lt_of_taken hle htaken
    rw [hcount] at hlt
    exact absurd hlt (UInt32.lt_irrefl _)
  | begunByHand message _ _ _ hanswer => exact absurd hanswer (hhand message)
  | ended _ hrun =>
    cases hnew
    exact absurd hstatus hrun.after.1

end Passage

namespace Memory

/-- After the report of an end the task does not run under the claim. -/
theorem not_runs_of_report (policy : FailoverPolicy) (clock : Readings) (m : Memory) (id : String)
    (c : Claim) {next : Status} (hnext : Status.running.canChangeTo next = true)
    (message : Option String) :
    ¬ c.Runs ((m.performAt policy clock (.changeFor id c next message)).2.get? id) := by
  have hsame : ∀ r : Record,
      (r.changeStatusFor c next message (clock id).toInstant).2.id = r.id := fun r =>
    (r.sameTask_changeStatusFor c next message _).id
  rintro ⟨new, hnew, hunder⟩
  dsimp only [performAt] at hnew
  rw [get?_update hsame, if_pos rfl] at hnew
  obtain ⟨r, -, rfl⟩ := Option.map_eq_some_iff.mp hnew
  exact Record.not_isRunningUnder_of_report hnext message _ hunder

end Memory

/-- A call of a counted memory lets the run of each task pass. -/
theorem Memory.Counted.passage {m : Memory} (h : m.Counted) (policy : FailoverPolicy)
    (now : ClockTime) {c : Call} (hfresh : ∀ id ∈ c.created?, m.get? id = none) (id : String) :
    Passage id (some ⟨c, (m.perform policy now c).1⟩) (some ⟨policy, now⟩) (m.get? id)
      ((m.perform policy now c).2.get? id) := by
  have hturn := m.turn_performAt policy (fun _ => now) c hfresh id
  refine hturn.passage (fun r hr => Memory.id_of_get? hr) fun r hr => ?_
  exact (h r (Memory.mem_of_get? hr)).offer_ne_overflowed

/-! ### Tending -/

/-- For each claim of a runner that a record runs under, the runner minds a run that works under it,
but for the newest one, which it may have in hand. All of them are counted. -/
structure Tends (claims : List (String × Claim)) (hand : Option (String × Claim))
    (minded : String → Nat → Prop) (s : Shared) (reported : List Nat) (m : Memory) : Prop where
  serves : s.Serves m
  reported_lt : ∀ n ∈ reported, n < s.runs.length
  counted : ∀ id c, (id, c) ∈ hand.toList ++ claims → c.IsCounted (m.get? id)
  newest : ∀ id c c', hand = some (id, c) → (id, c') ∈ claims → c'.runCount < c.runCount
  working : ∀ id c, (id, c) ∈ claims → c.Runs (m.get? id) →
    ∃ n, minded id n ∧ s.worker? reported n = some (id, c)

/-- The runner tracks the run for the task. -/
def Runner.Tracks (r : Runner) (id : String) (n : Nat) : Prop := (id, n) ∈ r.tracked

namespace Tends

variable {claims : List (String × Claim)} {hand : Option (String × Claim)}
  {minded : String → Nat → Prop} {s : Shared} {reported : List Nat} {m : Memory}

/-- A runner may mind others, as long as it minds those that work. -/
theorem mono (h : Tends claims hand minded s reported m) {minded' : String → Nat → Prop}
    (hmono : ∀ id n c, (id, c) ∈ claims → s.worker? reported n = some (id, c) → minded id n →
      minded' id n) : Tends claims hand minded' s reported m where
  serves := h.serves
  reported_lt := h.reported_lt
  counted := h.counted
  newest := h.newest
  working := by
    intro id c hmem hruns
    obtain ⟨n, hminded, hworker⟩ := h.working id c hmem hruns
    exact ⟨n, hmono id n c hmem hworker hminded, hworker⟩

/-- A signal that neither ends a run nor wakes up one that has ended breaks nothing. -/
theorem signal (h : Tends claims hand minded s reported m) {n : Nat} {f : Execution → Execution}
    (hf : ∀ run, s.runs[n]? = some run → (f run.execution).task = run.execution.task
      ∧ (f run.execution).isAlive = run.execution.isAlive) :
    Tends claims hand minded (s.signal n f) reported m where
  serves := ⟨h.serves.holds, h.serves.healthy, h.serves.unique, h.serves.unborn⟩
  reported_lt := by
    intro k hk
    dsimp only [Shared.signal]
    rw [List.length_modify]
    exact h.reported_lt k hk
  counted := h.counted
  newest := h.newest
  working := by
    rw [Shared.worker?_signal hf]
    exact h.working

theorem interruptAll (h : Tends claims hand minded s reported m) (r : Runner) :
    Tends claims hand minded (r.interruptAll s).2 reported m := by
  unfold Runner.interruptAll
  dsimp only
  induction r.tracked.filter fun t => s.isAlive t.2 generalizing s with
  | nil => exact h
  | cons t ts ih => exact ih (h.signal fun _ _ => ⟨rfl, rfl⟩)

/-! ### Calls -/

/-- What lets the runs of all tasks pass breaks nothing, as long as it begins none by hand. -/
theorem of_passage (h : Tends claims hand minded s reported m) {answer : Option Answer}
    {moment : Option Moment} {m' : Memory}
    (hpassage : ∀ id, Passage id answer moment (m.get? id) (m'.get? id))
    (hhand : ∀ a ∈ answer, a.1.startsByHand = false) {s' : Shared} (hserves : s'.Serves m')
    (hruns : s'.runs = s.runs) : Tends claims hand minded s' reported m' where
  serves := hserves
  reported_lt := by
    rw [hruns]
    exact h.reported_lt
  counted := fun id c hmem => (hpassage id).claim_isCounted (h.counted id c hmem)
  newest := h.newest
  working := by
    intro id c hmem hafter
    have hworker : s'.worker? reported = s.worker? reported := by
      unfold Shared.worker?
      rw [hruns]
    rw [hworker]
    refine h.working id c hmem ?_
    refine (hpassage id).claim_runs ?_ (h.counted id c (List.mem_append_right _ hmem)) hafter
    intro message hanswer
    cases hhand _ hanswer

/-- A call breaks nothing, whatever it creates, as long as it does not begin a run by hand. -/
theorem of_perform (h : Tends claims hand minded s reported m) {policy : FailoverPolicy}
    {now : ClockTime} {c : Call} (hfresh : ∀ id ∈ c.created?, m.get? id = none)
    (hhand : c.startsByHand = false) {s' : Shared} (hserves : s'.Serves (m.perform policy now c).2)
    (hruns : s'.runs = s.runs) :
    Tends claims hand minded s' reported (m.perform policy now c).2 := by
  refine h.of_passage (h.serves.counted.passage policy now hfresh) ?_ hserves hruns
  intro a ha
  obtain rfl := Option.some.inj ha
  exact hhand

/-- A look breaks nothing. -/
theorem look (h : Tends claims hand minded s reported m) (policy : FailoverPolicy)
    (now : ClockTime) (call : Underway) :
    ∃ store m', (s.look policy now call).2 = { s with store }
      ∧ Tends claims hand minded { s with store } reported m'
      ∧ Shown m (s.look policy now call).1 m' := by
  rcases h.serves.look policy now call with hnothing | ⟨store, heq, hserves⟩
  · rw [hnothing]
    exact ⟨s.store, m, rfl, h, .nothing (fun _ ha => nomatch ha)⟩
  · have hpassage : ∀ id, Passage id (Traffic.lookAt policy now.toInstant m call).1
        (some ⟨policy, now⟩) (m.get? id)
        ((Traffic.lookAt policy now.toInstant m call).2.2.get? id) := by
      intro id
      refine (Traffic.turn_lookAt policy now m call id).passage
        (fun r hr => Memory.id_of_get? hr) fun r hr => ?_
      exact (h.serves.counted r (Memory.mem_of_get? hr)).offer_ne_overflowed
    -- What ends with a look is a claim or a heartbeat.
    have hhand : ∀ a ∈ (Traffic.lookAt policy now.toInstant m call).1,
        a.1.startsByHand = false := by
      intro a ha
      obtain ⟨c, result⟩ := a
      rcases Traffic.operation_of_lookAt policy now.toInstant m call _ ha with hop | hop
      · cases c <;> cases hop
        rfl
      · cases c <;> cases hop
        rfl
    rw [heq]
    exact ⟨store, _, rfl, h.of_passage hpassage hhand hserves rfl,
      Traffic.shown_lookAt policy now.toInstant m call⟩

theorem call (h : Tends claims hand minded s reported m) (k : Nat) {c : Call}
    (hc : c.created? = none) (hhand : c.startsByHand = false) :
    ∃ store, s.call k c = ((m.perform (s.policy k) s.clock c).1, { s with store })
      ∧ Tends claims hand minded { s with store } reported
          (m.perform (s.policy k) s.clock c).2 := by
  have hfresh : ∀ id ∈ c.created?, m.get? id = none := by
    rw [hc]
    exact nofun
  obtain ⟨store, heq, hserves⟩ := h.serves.call k hc
  exact ⟨store, heq, h.of_perform hfresh hhand hserves rfl⟩

theorem create (h : Tends claims hand minded s reported m) (k : Nat) (taskType : String)
    (config : Config) :
    ∃ store m', (s.create k taskType config).2 = { s with store, created := s.created + 1 }
      ∧ Tends claims hand minded { s with store, created := s.created + 1 } reported m' := by
  obtain ⟨store, heq, hserves⟩ := h.serves.create k taskType config
  have hfree : m.get? (s.supply (s.created + 1)) = none := h.serves.unborn _ (Nat.lt_succ_self _)
  refine ⟨store, _, congrArg Prod.snd heq, h.of_perform ?_ rfl hserves rfl⟩
  intro id hid
  obtain rfl := Option.some.inj hid
  exact hfree

/-- No call of a healthy connection overflows. -/
theorem call_ne_overflow (h : Tends claims hand minded s reported m) (k : Nat) {c : Call}
    (hc : c.created? = none) (o : Overflow) : (s.call k c).1 ≠ .error (.overflow o) := by
  obtain ⟨store, heq, -⟩ := h.serves.call k hc
  rw [heq]
  exact Memory.performAt_ne_overflow _ (fun _ => s.clock) h.serves.counted c o

/-- A report of an end is carried out, and the task does not run under the claim any more. -/
theorem report (h : Tends claims hand minded s reported m) (k : Nat) (id : String) (c : Claim)
    {next : Status} (hnext : Status.running.canChangeTo next = true) (message : Option String) :
    ∃ store m', (s.call k (.changeFor id c next message)).2 = { s with store }
      ∧ Tends claims hand minded { s with store } reported m' ∧ ¬ c.Runs (m'.get? id) := by
  obtain ⟨store, heq, hcall⟩ := h.call k
    (show (Call.changeFor id c next message).created? = none from rfl) rfl
  exact ⟨store, _, congrArg Prod.snd heq, hcall,
    m.not_runs_of_report (s.policy k) (fun _ => s.clock) id c hnext message⟩

/-! ### What a runner claims -/

/-- A record that is handed out is taken in hand: it is at a later run than the claims of its task
that were made before. -/
theorem take (h : Tends claims none minded s reported m) {s' : Shared} {m' : Memory}
    (h' : Tends claims none minded s' reported m') {node : String} {record : Record} {c : Claim}
    (hshown : Shown m (some ⟨.claim node, .ok (some record)⟩) m') (hc : record.claim? = some c) :
    Tends claims (some (record.id, c)) minded s' reported m' := by
  obtain ⟨old, policy, now, hold, htaken, hnew⟩ := hshown.claimed h.serves.counted
  have hcount : c.runCount = record.runCount := by
    obtain ⟨-, -, hclaim⟩ := Record.lease?_of_taken htaken
    cases hclaim.symm.trans hc
    rfl
  refine ⟨h'.serves, h'.reported_lt, ?_, ?_, h'.working⟩
  · intro id c' hmem
    rcases List.mem_cons.mp hmem with hthis | hbefore
    · obtain ⟨rfl, rfl⟩ := Prod.mk.inj hthis
      exact ⟨record, hnew, UInt32.le_of_eq hcount⟩
    · exact h'.counted id c' hbefore
  · intro id c₁ c' hhand hmem
    obtain ⟨rfl, rfl⟩ := Prod.mk.inj (Option.some.inj hhand)
    obtain ⟨old', hold', hle⟩ := h.counted record.id c' hmem
    obtain rfl := Option.some.inj (hold.symm.trans hold')
    rw [hcount]
    exact Claim.IsCounted.lt_of_taken hle htaken

/-- A claim that is answered at once hands out a record. -/
theorem claim (h : Tends claims none minded s reported m) (k : Nat) {node : String}
    {record : Record} {c : Claim} (hanswer : (s.call k (.claim node)).1 = .ok (some record))
    (hc : record.claim? = some c) :
    ∃ store m', (s.call k (.claim node)).2 = { s with store }
      ∧ Tends claims (some (record.id, c)) minded { s with store } reported m' := by
  obtain ⟨store, heq, hcall⟩ := h.call k (show (Call.claim node).created? = none from rfl) rfl
  rw [heq] at hanswer
  have hshown := Shown.call (m := m) (s.policy k) (fun _ => s.clock) (.claim node) rfl nofun
  have hresult : (m.performAt (s.policy k) (fun _ => s.clock) (.claim node)).1
      = .ok (some record) := hanswer
  rw [hresult] at hshown
  exact ⟨store, _, congrArg Prod.snd heq, h.take hcall hshown hc⟩

/-- The run of a record in hand is launched, and tracked from then on. -/
theorem launch {r : Runner} {record : Record} {c : Claim}
    (h : Tends claims (some (record.id, c)) r.Tracks s reported m) (work : Work) :
    Tends ((record.id, c) :: claims) none (r.launch record c work s).1.Tracks
      (r.launch record c work s).2 reported m where
  serves := ⟨h.serves.holds, h.serves.healthy, h.serves.unique, h.serves.unborn⟩
  reported_lt := by
    intro n hn
    dsimp only [Runner.launch, Shared.spawn]
    rw [List.length_append]
    exact Nat.lt_add_right _ (h.reported_lt n hn)
  counted := h.counted
  newest := nofun
  working := by
    have halive : (Execution.spawn record.id work).isAlive = true := rfl
    have hworker : (r.launch record c work s).2.worker? reported
        = Function.update (s.worker? reported) s.runs.length (some (record.id, c)) :=
      Shared.worker?_spawn h.reported_lt halive
    rw [hworker]
    intro id c' hmem hruns
    rcases List.mem_cons.mp hmem with hthis | hbefore
    · obtain ⟨rfl, rfl⟩ := Prod.mk.inj hthis
      exact ⟨_, Runner.mem_track.mpr (Or.inl ⟨rfl, rfl⟩), Function.update_self ..⟩
    · -- The record has left the claims of its task from before, so this one is of another task.
      have hne : id ≠ record.id := by
        rintro rfl
        obtain ⟨x, hx, hle⟩ := h.counted record.id c List.mem_cons_self
        obtain ⟨x', hx', hunder⟩ := hruns
        obtain rfl := Option.some.inj (hx.symm.trans hx')
        have hlt := h.newest record.id c c' rfl hbefore
        rw [← (Record.isRunningUnder_iff.mp hunder).2.1] at hlt
        exact absurd hle (UInt32.not_le.mpr hlt)
      obtain ⟨n, htracked, hn⟩ := h.working id c' hbefore hruns
      have hold : n ≠ s.runs.length := by
        rintro rfl
        rw [Shared.worker?_length] at hn
        cases hn
      refine ⟨n, Runner.mem_track.mpr (Or.inr ⟨hne, htracked⟩), ?_⟩
      rw [Function.update_of_ne hold]
      exact hn

/-- A record in hand that cannot be run ends with an error. -/
theorem refuse {record : Record} {c : Claim}
    (h : Tends claims (some (record.id, c)) minded s reported m) (k : Nat)
    (message : Option String) :
    ∃ store m', (s.call k (.changeFor record.id c .finishedError message)).2 = { s with store }
      ∧ Tends ((record.id, c) :: claims) none minded { s with store } reported m' := by
  obtain ⟨store, m', heq, hreport, hleft⟩ := h.report k record.id c
    (show Status.running.canChangeTo .finishedError = true from rfl) message
  refine ⟨store, m', heq, hreport.serves, hreport.reported_lt, hreport.counted, nofun, ?_⟩
  intro id c' hmem hruns
  rcases List.mem_cons.mp hmem with hthis | hbefore
  · obtain ⟨rfl, rfl⟩ := Prod.mk.inj hthis
    exact absurd hruns hleft
  · exact hreport.working id c' hbefore hruns

end Tends

end TaskCluster
