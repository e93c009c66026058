import Mathlib
import TaskCluster.Proofs.Cluster.Course
import TaskCluster.Proofs.Cluster.Tending
import TaskCluster.Proofs.Cluster.Tracking

/-!
# A clean shutdown leaves no orphan

One loop is watched here from its first start on (`Watched`), among nodes that call the store as
they like, jobs that log and end in any way, and a clock that shows anything. Whatever happens until
the loop is asked to stop, each record that runs under a claim of its runner has a run that works
for it and is tracked (`Tends`). The shutdown hands these runs over to a list that the loop waits
for.

Then it is a matter of time. All runs on the list that still work are interrupted, and the loop
waits for a millisecond at least. Jobs that end in the millisecond in which they are interrupted let
no time pass before they have reported, so nothing works any more when the wait is over
(`Watched.Minded.settle`).
-/

namespace TaskCluster

namespace RunnerLoop

/-- May the runner claim tasks? Not when its loop has been stopped. -/
def mayClaim (l : RunnerLoop) : Bool :=
  match l.phase with
  | .stopping .. | .ended => false
  | _ => true

/-- The loop when its runner has gone on. -/
def withRunner (l : RunnerLoop) (runner : Runner) : RunnerLoop := { l with runner }

/-- The runs that a loop minds for the claims of its runner: those that are tracked, then those that
it waits for, and none when it has ended. -/
def Minds (l : RunnerLoop) : String → Nat → Prop :=
  match l.phase with
  | .stopping _ runs => fun _ n => n ∈ runs
  | .ended => fun _ _ => False
  | _ => l.runner.Tracks

theorem minds_of_mayClaim {l : RunnerLoop} (h : l.mayClaim = true) : l.Minds = l.runner.Tracks := by
  unfold mayClaim at h
  unfold Minds
  cases hphase : l.phase with
  | idle | starting | waiting => rfl
  | stopping | ended =>
    rw [hphase] at h
    cases h

theorem not_stopped_of_mayClaim {l : RunnerLoop} (h : l.mayClaim = true) :
    l.phase ≠ .ended ∧ ∀ till runs, l.phase ≠ .stopping till runs := by
  unfold mayClaim at h
  refine ⟨?_, ?_⟩
  · intro hphase
    rw [hphase] at h
    cases h
  · intro till runs hphase
    rw [hphase] at h
    cases h

theorem mayClaim_of_isLooping {l : RunnerLoop} (h : l.isLooping = true) : l.mayClaim = true := by
  unfold isLooping at h
  unfold mayClaim
  cases hphase : l.phase with
  | idle | starting | waiting => rfl
  | stopping | ended =>
    rw [hphase] at h
    cases h

end RunnerLoop

/-- A run under one of some claims has work to do. -/
structure Shared.Busy (s : Shared) (claims : List (String × Claim)) (reported : List Nat) (n : Nat)
    (run : Run) : Prop where
  member : s.runs[n]? = some run
  alive : run.execution.isAlive = true
  unreported : n ∉ reported
  claimed : (run.execution.task, run.claim) ∈ claims

namespace Shared

variable {s : Shared} {claims : List (String × Claim)} {reported : List Nat} {n : Nat}

theorem Busy.worker? {run : Run} (h : s.Busy claims reported n run) :
    s.worker? reported n = some (run.execution.task, run.claim) :=
  worker?_eq_some_iff.mpr ⟨h.unreported, run, h.member, h.alive, rfl, rfl⟩

theorem busy_of_worker? {id : String} {c : Claim} (hmem : (id, c) ∈ claims)
    (h : s.worker? reported n = some (id, c)) :
    ∃ run, s.Busy claims reported n run ∧ run.execution.task = id ∧ run.claim = c := by
  obtain ⟨hreported, run, hrun, halive, rfl, rfl⟩ := worker?_eq_some_iff.mp h
  exact ⟨run, ⟨hrun, halive, hreported, hmem⟩, rfl, rfl⟩

end Shared

/-- A loop and what the nodes share, with the claims that its runner has made and the runs that have
reported their end. -/
structure Watched where
  loop : RunnerLoop
  shared : Shared
  /-- The claims that the runner has dealt with. -/
  claims : List (String × Claim) := []
  /-- What was handed out to the runner for its newest claim, until it has dealt with it. -/
  hand : Option (Record × Claim) := none
  reported : List Nat := []

namespace Watched

/-- The claim in hand. -/
def pending (x : Watched) : Option (String × Claim) := x.hand.map fun p => (p.1.id, p.2)

/-- All claims that the runner has made. -/
def made (x : Watched) : List (String × Claim) := x.pending.toList ++ x.claims

/-- A run under a claim of the runner has work to do. -/
abbrev Busy (x : Watched) : Nat → Run → Prop := x.shared.Busy x.claims x.reported

/-- What may happen next. The runner takes its iterations apart: between any two of its calls others
make theirs, and jobs go on. In a memory the same goes for the looks of claims and heartbeats. -/
inductive Step (x : Watched) : Watched → Prop where
  | start (inactive : x.loop.isActive = false) (free : x.hand = none) :
    Step x { x with loop := x.loop.start x.shared }
  | stop : Step x { x with loop := x.loop.stop }
  | notify (notified : Bool) :
    Step x { x with loop := x.loop.withRunner { x.loop.runner with notified } }
  /-- The runner takes down when its last heartbeat succeeded. The heartbeat itself is a call. -/
  | beat (lastHeartbeat : Option Nat) :
    Step x { x with loop := x.loop.withRunner { x.loop.runner with lastHeartbeat } }
  | forget : Step x { x with loop := x.loop.withRunner (x.loop.runner.forgetEnded x.shared) }
  | claim (serving : x.loop.mayClaim = true) (free : x.hand = none) (record : Record) (c : Claim)
    (answer : (x.shared.call x.loop.runner.connection (.claim x.loop.runner.node)).1
      = .ok (some record))
    (claimed : record.claim? = some c) :
    Step x
      { x with
        shared := (x.shared.call x.loop.runner.connection (.claim x.loop.runner.node)).2
        hand := some (record, c) }
  /-- A claim of the runner that has been under way in a memory is handed out at its last look. -/
  | take (serving : x.loop.mayClaim = true) (free : x.hand = none) (policy : FailoverPolicy)
    (now : ClockTime) (call : Underway) (record : Record) (c : Claim)
    (answer : (x.shared.look policy now call).1
      = some ⟨.claim x.loop.runner.node, .ok (some record)⟩)
    (claimed : record.claim? = some c) :
    Step x
      { x with
        shared := (x.shared.look policy now call).2
        hand := some (record, c) }
  | launch (record : Record) (c : Claim) (inHand : x.hand = some (record, c)) (work : Work) :
    Step x
      { x with
        loop := x.loop.withRunner (x.loop.runner.launch record c work x.shared).1
        shared := (x.loop.runner.launch record c work x.shared).2
        claims := (record.id, c) :: x.claims
        hand := none }
  | refuse (record : Record) (c : Claim) (inHand : x.hand = some (record, c))
    (message : Option String) :
    Step x
      { x with
        shared := (x.shared.call x.loop.runner.connection
          (.changeFor record.id c .finishedError message)).2
        claims := (record.id, c) :: x.claims
        hand := none }
  /-- An iteration is over. -/
  | rest (looping : x.loop.isLooping = true) (free : x.hand = none) (till : Nat) :
    Step x { x with loop := { x.loop with phase := .waiting till } }
  /-- An iteration overflows, and the loop ends at once. -/
  | overflow (o : Overflow)
    (cause : x.loop.runner.settings.failoverTimeout? = none
      ∨ ∃ k c, c.created? = none ∧ (x.shared.call k c).1 = .error (.overflow o)) :
    Step x { x with loop := { x.loop with phase := .ended } }
  | windDown (looping : x.loop.isLooping = true) (stopped : x.loop.stopped = true)
    (free : x.hand = none) :
    Step x { x with
      loop := (x.loop.windDown x.shared).1
      shared := (x.loop.windDown x.shared).2 }
  | settle : Step x { x with loop := x.loop.settle x.shared }
  /-- A call by anyone. No run is begun by hand. -/
  | call (k : Nat) (c : Call) (created : c.created? = none) (byHand : c.startsByHand = false) :
    Step x { x with shared := (x.shared.call k c).2 }
  /-- A claim or a heartbeat of anyone that is under way in a memory looks at its next record. -/
  | look (policy : FailoverPolicy) (now : ClockTime) (call : Underway) :
    Step x { x with shared := (x.shared.look policy now call).2 }
  | create (k : Nat) (taskType : String) (config : Config) :
    Step x { x with shared := (x.shared.create k taskType config).2 }
  /-- A busy run goes on in any way, or is asked to cancel. What has interrupted it stays. -/
  | work (n : Nat) (run : Run) (busy : x.Busy n run) (y : Execution)
    (task : y.task = run.execution.task) (alive : y.isAlive = true)
    (interrupted : run.execution.signals.interrupted = true → y.signals.interrupted = true) :
    Step x { x with shared := x.shared.signal n fun _ => y }
  /-- The work of a busy run ends in any way, and the run reports it. -/
  | report (n : Nat) (run : Run) (busy : x.Busy n run) (e : Ending) :
    Step x
      { x with
        shared := x.shared.effect run (run.execution.finish e).2
        reported := n :: x.reported }
  /-- Connections come, the clock is set, runs of others start, go on and end, and runs that have
  reported end. -/
  | aside (s : Shared) (store : s.store = x.shared.store) (created : s.created = x.shared.created)
    (supply : s.supply = x.shared.supply) (timer : s.timer = x.shared.timer)
    (healthy : ∀ k, (s.connection k).Healthy ∨ s.connection k = x.shared.connection k)
    (length : x.shared.runs.length ≤ s.runs.length)
    (busy : ∀ n run, s.Busy x.claims x.reported n run ↔ x.Busy n run) :
    Step x { x with shared := s }
  /-- Time passes, but not while a busy run is interrupted. -/
  | pass (millis : Nat) (prompt : 0 < millis → ∀ n run, x.Busy n run →
      run.execution.signals.interrupted = false) :
    Step x { x with shared := x.shared.pass millis }

abbrev Steps : Watched → Watched → Prop := Relation.ReflTransGen Step

/-- Nothing has happened yet, and calls succeed. -/
structure Fresh (x : Watched) : Prop where
  idle : x.loop.phase = .idle
  made : x.made = []
  reported : x.reported = []
  serves : ∃ m, x.shared.Serves m

/-! ### The invariant -/

/-- The loop minds a run for each claim that a record runs under. Once it has been stopped, those
that are busy are interrupted, and there is time left to wait for them. -/
structure Minded (x : Watched) : Prop where
  timeout : ∃ timeout, x.loop.runner.settings.failoverTimeout? = some timeout
  patient : 0 < x.loop.runner.settings.shutdownGrace.timerMillis
  tends : ∃ m, Tends x.claims x.pending x.loop.Minds x.shared x.reported m
  mayClaim : x.hand ≠ none → x.loop.mayClaim = true
  grace : ∀ till runs, x.loop.phase = .stopping till runs → ∀ n ∈ runs, ∀ run, x.Busy n run →
    run.execution.signals.interrupted = true ∧ x.shared.timer < till

variable {x : Watched}

theorem Fresh.minded (h : x.Fresh)
    (htimeout : ∃ timeout, x.loop.runner.settings.failoverTimeout? = some timeout)
    (hpatient : 0 < x.loop.runner.settings.shutdownGrace.timerMillis) : x.Minded where
  timeout := htimeout
  patient := hpatient
  tends := by
    obtain ⟨m, hserves⟩ := h.serves
    obtain ⟨hpending, hclaims⟩ := List.append_eq_nil_iff.mp h.made
    refine ⟨m, hserves, ?_, ?_, ?_, ?_⟩
    · rw [h.reported]
      exact nofun
    · rw [hpending, hclaims]
      exact nofun
    · rw [hclaims]
      exact nofun
    · rw [hclaims]
      exact nofun
  mayClaim := by
    intro _
    unfold RunnerLoop.mayClaim
    rw [h.idle]
  grace := by
    intro till runs hphase
    rw [h.idle] at hphase
    cases hphase

namespace Minded

/-- A change of the loop alone. -/
theorem reloop (h : x.Minded) {l : RunnerLoop}
    (hsettings : l.runner.settings = x.loop.runner.settings)
    (hminds : ∀ n run, x.Busy n run → x.loop.Minds run.execution.task n →
      l.Minds run.execution.task n)
    (hclaim : x.hand ≠ none → x.loop.mayClaim = true → l.mayClaim = true)
    (hphase : ∀ till runs, l.phase = .stopping till runs → x.loop.phase = .stopping till runs) :
    Minded { x with loop := l } where
  timeout := by
    rw [hsettings]
    exact h.timeout
  patient := by
    rw [hsettings]
    exact h.patient
  tends := by
    obtain ⟨m, htends⟩ := h.tends
    refine ⟨m, htends.mono fun id n c hmem hn => ?_⟩
    obtain ⟨run, hbusy, rfl, rfl⟩ := Shared.busy_of_worker? hmem hn
    exact hminds n run hbusy
  mayClaim := fun hhand => hclaim hhand (h.mayClaim hhand)
  grace := fun till runs hl n hn run hbusy => h.grace till runs (hphase till runs hl) n hn run hbusy

/-- A change of what is shared that leaves the runs and the timers alone. -/
theorem reshare (h : x.Minded) {s : Shared} {m : Memory}
    (htends : Tends x.claims x.pending x.loop.Minds s x.reported m)
    (hruns : s.runs = x.shared.runs) (htimer : s.timer = x.shared.timer) :
    Minded { x with shared := s } where
  timeout := h.timeout
  patient := h.patient
  tends := ⟨m, htends⟩
  mayClaim := h.mayClaim
  grace := by
    intro till runs hphase n hn run hbusy
    dsimp only
    rw [htimer]
    exact h.grace till runs hphase n hn run
      ⟨hruns ▸ hbusy.member, hbusy.alive, hbusy.unreported, hbusy.claimed⟩

/-! ### What the runner does -/

theorem start (h : x.Minded) (hinactive : x.loop.isActive = false) (hfree : x.hand = none) :
    Minded { x with loop := x.loop.start x.shared } := by
  refine h.reloop rfl ?_ (fun hhand => absurd hfree hhand) nofun
  intro n run _ hminds
  unfold RunnerLoop.isActive at hinactive
  unfold RunnerLoop.Minds at hminds
  cases hphase : x.loop.phase with
  | idle =>
    rw [hphase] at hminds
    exact hminds
  | ended =>
    rw [hphase] at hminds
    exact hminds.elim
  | starting | waiting | stopping =>
    rw [hphase] at hinactive
    cases hinactive

theorem forget (h : x.Minded) :
    Minded { x with loop := x.loop.withRunner (x.loop.runner.forgetEnded x.shared) } := by
  refine h.reloop rfl ?_ (fun _ hclaim => hclaim) fun _ _ hphase => hphase
  intro n run hbusy hminds
  have halive : x.shared.isAlive n = true := (Shared.isAlive_eq hbusy.member).trans hbusy.alive
  unfold RunnerLoop.Minds at hminds ⊢
  dsimp only [RunnerLoop.withRunner]
  cases hphase : x.loop.phase with
  | idle | starting | waiting =>
    rw [hphase] at hminds
    exact List.mem_filter.mpr ⟨hminds, halive⟩
  | stopping | ended =>
    rw [hphase] at hminds
    exact hminds

/-- A runner that may claim has a record in hand. -/
theorem inHand (h : x.Minded) (hserving : x.loop.mayClaim = true) {s : Shared} {m : Memory}
    {record : Record} {c : Claim}
    (htends : Tends x.claims (some (record.id, c)) x.loop.Minds s x.reported m) :
    Minded { x with shared := s, hand := some (record, c) } where
  timeout := h.timeout
  patient := h.patient
  tends := ⟨m, htends⟩
  mayClaim := fun _ => hserving
  grace := fun till runs hphase =>
    absurd hphase ((RunnerLoop.not_stopped_of_mayClaim hserving).2 till runs)

/-- The runner takes what is handed out to it in hand. -/
theorem claim (h : x.Minded) (hserving : x.loop.mayClaim = true) (hfree : x.hand = none)
    {record : Record} {c : Claim}
    (hanswer : (x.shared.call x.loop.runner.connection (.claim x.loop.runner.node)).1
      = .ok (some record)) (hc : record.claim? = some c) :
    Minded { x with
      shared := (x.shared.call x.loop.runner.connection (.claim x.loop.runner.node)).2
      hand := some (record, c) } := by
  obtain ⟨m, htends⟩ := h.tends
  rw [pending, hfree] at htends
  obtain ⟨store, m', heq, hclaim⟩ := htends.claim x.loop.runner.connection hanswer hc
  rw [heq]
  exact h.inHand hserving hclaim

/-- What the last look of its claim hands out comes in hand in the same way. -/
theorem take (h : x.Minded) (hserving : x.loop.mayClaim = true) (hfree : x.hand = none)
    {policy : FailoverPolicy} {now : ClockTime} {call : Underway} {record : Record} {c : Claim}
    (hanswer : (x.shared.look policy now call).1
      = some ⟨.claim x.loop.runner.node, .ok (some record)⟩) (hc : record.claim? = some c) :
    Minded { x with
      shared := (x.shared.look policy now call).2
      hand := some (record, c) } := by
  obtain ⟨m, htends⟩ := h.tends
  rw [pending, hfree] at htends
  obtain ⟨store, m', heq, hlook, hshown⟩ := htends.look policy now call
  rw [hanswer] at hshown
  rw [heq]
  exact h.inHand hserving (htends.take hlook hshown hc)

/-- While the runner has something in hand, its loop minds what it tracks. -/
theorem tracks_of_hand (h : x.Minded) {record : Record} {c : Claim}
    (hhand : x.hand = some (record, c)) :
    x.loop.mayClaim = true
      ∧ ∃ m, Tends x.claims (some (record.id, c)) x.loop.runner.Tracks x.shared x.reported m := by
  have hserving : x.loop.mayClaim = true := h.mayClaim (by rw [hhand]; exact nofun)
  obtain ⟨m, htends⟩ := h.tends
  rw [pending, hhand, RunnerLoop.minds_of_mayClaim hserving] at htends
  exact ⟨hserving, m, htends⟩

theorem launch (h : x.Minded) {record : Record} {c : Claim} (hhand : x.hand = some (record, c))
    (work : Work) :
    Minded { x with
      loop := x.loop.withRunner (x.loop.runner.launch record c work x.shared).1
      shared := (x.loop.runner.launch record c work x.shared).2
      claims := (record.id, c) :: x.claims
      hand := none } := by
  obtain ⟨hserving, m, htends⟩ := h.tracks_of_hand hhand
  have hsettings : (x.loop.runner.launch record c work x.shared).1.settings
      = x.loop.runner.settings := Runner.settings_track ..
  refine ⟨?_, ?_, ⟨m, ?_⟩, fun hnone => absurd rfl hnone, ?_⟩
  · dsimp only [RunnerLoop.withRunner]
    rw [hsettings]
    exact h.timeout
  · dsimp only [RunnerLoop.withRunner]
    rw [hsettings]
    exact h.patient
  · have hlaunch := htends.launch work
    have hserving' : (x.loop.withRunner
        (x.loop.runner.launch record c work x.shared).1).mayClaim = true := hserving
    dsimp only
    rw [RunnerLoop.minds_of_mayClaim hserving']
    exact hlaunch
  · intro till runs hphase
    exact absurd hphase ((RunnerLoop.not_stopped_of_mayClaim hserving).2 till runs)

theorem refuse (h : x.Minded) {record : Record} {c : Claim} (hhand : x.hand = some (record, c))
    (message : Option String) :
    Minded { x with
      shared := (x.shared.call x.loop.runner.connection
        (.changeFor record.id c .finishedError message)).2
      claims := (record.id, c) :: x.claims
      hand := none } := by
  obtain ⟨hserving, m, htends⟩ := h.tracks_of_hand hhand
  obtain ⟨store, m', heq, hrefuse⟩ := htends.refuse x.loop.runner.connection message
  rw [heq]
  refine ⟨h.timeout, h.patient, ⟨m', ?_⟩, fun hnone => absurd rfl hnone, ?_⟩
  · rw [RunnerLoop.minds_of_mayClaim hserving]
    exact hrefuse
  · intro till runs hphase
    exact absurd hphase ((RunnerLoop.not_stopped_of_mayClaim hserving).2 till runs)

theorem rest (h : x.Minded) (hlooping : x.loop.isLooping = true) (till : Nat) :
    Minded { x with loop := { x.loop with phase := .waiting till } } := by
  refine h.reloop rfl ?_ (fun _ _ => rfl) nofun
  intro n run _ hminds
  rw [RunnerLoop.minds_of_mayClaim (RunnerLoop.mayClaim_of_isLooping hlooping)] at hminds
  exact hminds

/-- No iteration overflows. -/
theorem not_overflow (h : x.Minded) {o : Overflow}
    (hcause : x.loop.runner.settings.failoverTimeout? = none
      ∨ ∃ k c, c.created? = none ∧ (x.shared.call k c).1 = .error (.overflow o)) : False := by
  rcases hcause with hnone | ⟨k, c, hc, hover⟩
  · obtain ⟨timeout, htimeout⟩ := h.timeout
    cases hnone.symm.trans htimeout
  · obtain ⟨m, htends⟩ := h.tends
    exact htends.call_ne_overflow k hc o hover

/-! ### The shutdown -/

/-- A tracked run that works has been interrupted by an interrupt of all, which tells of it. -/
theorem interrupted_of_busy {r : Runner} {s : Shared} {claims : List (String × Claim)}
    {reported : List Nat} {id : String} {n : Nat} {run : Run} (htracked : (id, n) ∈ r.tracked)
    (hbusy : (r.interruptAll s).2.Busy claims reported n run) :
    (r.interruptAll s).1 = true ∧ run.execution.signals.interrupted = true := by
  have hmember := hbusy.member
  unfold Runner.interruptAll at hmember ⊢
  dsimp only at hmember ⊢
  rw [Runner.getElem?_interrupt_all] at hmember
  obtain ⟨old, hold, rfl⟩ := Option.map_eq_some_iff.mp hmember
  have halive : s.isAlive n = true := by
    have hnew := hbusy.alive
    rw [Shared.isAlive_eq hold]
    split at hnew <;> exact hnew
  have hmem : (id, n) ∈ r.tracked.filter fun t => s.isAlive t.2 :=
    List.mem_filter.mpr ⟨htracked, halive⟩
  refine ⟨?_, ?_⟩
  · rw [List.isEmpty_eq_false_iff.mpr (List.ne_nil_of_mem hmem)]
    rfl
  · rw [if_pos (List.mem_map.mpr ⟨(id, n), hmem, rfl⟩)]
    rfl

/-- All tracked runs that work are handed over, interrupted, and there is time to wait for them. -/
theorem windDown (h : x.Minded) (hlooping : x.loop.isLooping = true) (hfree : x.hand = none) :
    Minded { x with
      loop := (x.loop.windDown x.shared).1
      shared := (x.loop.windDown x.shared).2 } := by
  obtain ⟨m, htends⟩ := h.tends
  rw [RunnerLoop.minds_of_mayClaim (RunnerLoop.mayClaim_of_isLooping hlooping)] at htends
  have hend := htends.interruptAll x.loop.runner
  have hreached : ∀ id n run, (id, n) ∈ x.loop.runner.tracked →
      (x.loop.runner.interruptAll x.shared).2.Busy x.claims x.reported n run →
        (x.loop.runner.interruptAll x.shared).1 = true
          ∧ run.execution.signals.interrupted = true := fun _ _ _ => interrupted_of_busy
  unfold RunnerLoop.windDown
  rcases hout : x.loop.runner.interruptAll x.shared with ⟨any, s⟩
  rw [hout] at hend hreached
  dsimp only at hend hreached ⊢
  cases any with
  | true =>
    refine ⟨h.timeout, h.patient, ⟨m, hend.mono ?_⟩, fun hhand => absurd hfree hhand, ?_⟩
    · intro id n c _ _ htracked
      exact List.mem_map.mpr ⟨(id, n), htracked, rfl⟩
    · rintro till runs ⟨⟩ n hn run hbusy
      obtain ⟨⟨id, n⟩, htracked, rfl⟩ := List.mem_map.mp hn
      exact ⟨(hreached id n run htracked hbusy).2, Nat.lt_add_of_pos_right h.patient⟩
  | false =>
    refine ⟨h.timeout, h.patient, ⟨m, hend.mono ?_⟩, fun hhand => absurd hfree hhand, nofun⟩
    intro id n c hmem hn htracked
    obtain ⟨run, hbusy, rfl, rfl⟩ := Shared.busy_of_worker? hmem hn
    cases (hreached _ n run htracked hbusy).1

/-- **When the wait is over, no run works under a claim of the runner.** -/
theorem settle (h : x.Minded) : Minded { x with loop := x.loop.settle x.shared } := by
  unfold RunnerLoop.settle
  split
  case h_2 => exact h
  case h_1 till runs hphase =>
    split
    case isFalse => exact h
    case isTrue hover =>
      refine h.reloop rfl ?_ (fun _ hserving =>
        absurd hphase ((RunnerLoop.not_stopped_of_mayClaim hserving).2 till runs)) nofun
      intro n run hbusy hminds
      unfold RunnerLoop.Minds at hminds
      rw [hphase] at hminds
      obtain ⟨-, htime⟩ := h.grace till runs hphase n hminds run hbusy
      rcases Bool.or_eq_true_iff.mp hover with hlate | hnone
      · have hle : till ≤ x.shared.timer := of_decide_eq_true hlate
        omega
      · have halive : x.shared.isAlive n = true :=
          (Shared.isAlive_eq hbusy.member).trans hbusy.alive
        have hany : runs.any x.shared.isAlive = true := List.any_eq_true.mpr ⟨n, hminds, halive⟩
        rw [hany] at hnone
        cases hnone

/-! ### What happens around the loop -/

theorem call (h : x.Minded) (k : Nat) {c : Call} (hc : c.created? = none)
    (hhand : c.startsByHand = false) : Minded { x with shared := (x.shared.call k c).2 } := by
  obtain ⟨m, htends⟩ := h.tends
  obtain ⟨store, heq, hcall⟩ := htends.call k hc hhand
  rw [heq]
  exact h.reshare hcall rfl rfl

theorem look (h : x.Minded) (policy : FailoverPolicy) (now : ClockTime) (call : Underway) :
    Minded { x with shared := (x.shared.look policy now call).2 } := by
  obtain ⟨m, htends⟩ := h.tends
  obtain ⟨store, m', heq, hlook, -⟩ := htends.look policy now call
  rw [heq]
  exact h.reshare hlook rfl rfl

theorem create (h : x.Minded) (k : Nat) (taskType : String) (config : Config) :
    Minded { x with shared := (x.shared.create k taskType config).2 } := by
  obtain ⟨m, htends⟩ := h.tends
  obtain ⟨store, m', heq, hcreate⟩ := htends.create k taskType config
  rw [heq]
  exact h.reshare hcreate rfl rfl

/-- A busy run works on, and if it is interrupted it stays so. -/
theorem work (h : x.Minded) {n : Nat} {run : Run} (hbusy : x.Busy n run) {y : Execution}
    (htask : y.task = run.execution.task) (halive : y.isAlive = true)
    (hinterrupted : run.execution.signals.interrupted = true → y.signals.interrupted = true) :
    Minded { x with shared := x.shared.signal n fun _ => y } where
  timeout := h.timeout
  patient := h.patient
  mayClaim := h.mayClaim
  tends := by
    obtain ⟨m, htends⟩ := h.tends
    refine ⟨m, htends.signal (f := fun _ => y) fun run' hrun' => ?_⟩
    obtain rfl := Option.some.inj (hbusy.member.symm.trans hrun')
    exact ⟨htask, halive.trans hbusy.alive.symm⟩
  grace := by
    intro till runs hphase k hk run' hbusy'
    have hmember := hbusy'.member
    dsimp only at hmember
    rw [Shared.getElem?_signal] at hmember
    obtain ⟨old, hold, rfl⟩ := Option.map_eq_some_iff.mp hmember
    by_cases hkn : k = n
    · subst hkn
      obtain rfl := Option.some.inj (hbusy.member.symm.trans hold)
      rw [if_pos rfl]
      exact (h.grace till runs hphase k hk run hbusy).imp_left hinterrupted
    · rw [if_neg hkn] at hbusy' ⊢
      exact h.grace till runs hphase k hk old
        ⟨hold, hbusy'.alive, hbusy'.unreported, hbusy'.claimed⟩

/-- A busy run reports its end, and the record of its task leaves the claim. -/
theorem report (h : x.Minded) {n : Nat} {run : Run} (hbusy : x.Busy n run) (e : Ending) :
    Minded { x with
      shared := x.shared.effect run (run.execution.finish e).2
      reported := n :: x.reported } := by
  obtain ⟨m, htends⟩ := h.tends
  obtain ⟨store, m', heq, hreport, hleft⟩ := htends.report run.connection
    run.execution.task run.claim (e.canChangeTo_report run.execution.signals)
    (e.report run.execution.signals).2
  have heffect : x.shared.effect run (run.execution.finish e).2 = { x.shared with store } := heq
  rw [heffect]
  refine ⟨h.timeout, h.patient, ⟨m', hreport.serves, ?_, hreport.counted, hreport.newest, ?_⟩,
    h.mayClaim, ?_⟩
  · intro k hk
    rcases List.mem_cons.mp hk with rfl | hk
    · exact (List.getElem?_eq_some_iff.mp hbusy.member).1
    · exact hreport.reported_lt k hk
  · intro id c hmem hruns
    obtain ⟨k, hminds, hk⟩ := hreport.working id c hmem hruns
    -- The run that has reported worked for the one record that does not run under its claim now.
    have hkn : k ≠ n := by
      rintro rfl
      have hsame : x.shared.worker? x.reported k = some (id, c) := hk
      obtain ⟨rfl, rfl⟩ := Prod.mk.inj (Option.some.inj (hsame.symm.trans hbusy.worker?))
      exact hleft hruns
    refine ⟨k, hminds, ?_⟩
    rw [Sound.worker?_report, Function.update_of_ne hkn]
    exact hk
  · intro till runs hphase k hk run' hbusy'
    have hunreported : k ∉ x.reported := fun hmem =>
      hbusy'.unreported (List.mem_cons_of_mem n hmem)
    exact h.grace till runs hphase k hk run'
      ⟨hbusy'.member, hbusy'.alive, hunreported, hbusy'.claimed⟩

theorem aside (h : x.Minded) {s : Shared} (hstore : s.store = x.shared.store)
    (hcreated : s.created = x.shared.created) (hsupply : s.supply = x.shared.supply)
    (htimer : s.timer = x.shared.timer)
    (hhealthy : ∀ k, (s.connection k).Healthy ∨ s.connection k = x.shared.connection k)
    (hlength : x.shared.runs.length ≤ s.runs.length)
    (hsame : ∀ n run, s.Busy x.claims x.reported n run ↔ x.Busy n run) :
    Minded { x with shared := s } where
  timeout := h.timeout
  patient := h.patient
  mayClaim := h.mayClaim
  tends := by
    obtain ⟨m, htends⟩ := h.tends
    have hserves : s.Serves m := by
      refine ⟨hstore ▸ htends.serves.holds, fun k => ?_, ?_, ?_⟩
      · rcases hhealthy k with hnew | hold
        · exact hnew
        · rw [hold]
          exact htends.serves.healthy k
      · unfold Shared.UniqueIds
        rw [hsupply]
        exact htends.serves.unique
      · rw [hcreated, hsupply]
        exact htends.serves.unborn
    refine ⟨m, hserves, fun n hn => (htends.reported_lt n hn).trans_le hlength, htends.counted,
      htends.newest, ?_⟩
    intro id c hmem hruns
    obtain ⟨n, hminds, hn⟩ := htends.working id c hmem hruns
    have hclaimed : (id, c) ∈ x.claims := hmem
    obtain ⟨run, hbusy, rfl, rfl⟩ := Shared.busy_of_worker? hclaimed hn
    exact ⟨n, hminds, ((hsame n run).mpr hbusy).worker?⟩
  grace := by
    intro till runs hphase n hn run hbusy
    dsimp only
    rw [htimer]
    exact h.grace till runs hphase n hn run ((hsame n run).mp hbusy)

/-- While a busy run is interrupted no time passes, so none is when some has passed. -/
theorem pass (h : x.Minded) {millis : Nat} (hprompt : 0 < millis → ∀ n run, x.Busy n run →
      run.execution.signals.interrupted = false) :
    Minded { x with shared := x.shared.pass millis } where
  timeout := h.timeout
  patient := h.patient
  mayClaim := h.mayClaim
  tends := by
    obtain ⟨m, htends⟩ := h.tends
    exact ⟨m, ⟨htends.serves.holds, htends.serves.healthy, htends.serves.unique,
      htends.serves.unborn⟩, htends.reported_lt, htends.counted, htends.newest, htends.working⟩
  grace := by
    intro till runs hphase n hn run hbusy
    have hbusy' : x.Busy n run :=
      ⟨hbusy.member, hbusy.alive, hbusy.unreported, hbusy.claimed⟩
    obtain ⟨hinterrupted, htime⟩ := h.grace till runs hphase n hn run hbusy'
    refine ⟨hinterrupted, ?_⟩
    rcases Nat.eq_zero_or_pos millis with rfl | hpos
    · exact htime
    · rw [hprompt hpos n run hbusy'] at hinterrupted
      cases hinterrupted

/-! ### Any number of steps -/

theorem step (h : x.Minded) {y : Watched} (hstep : Step x y) : y.Minded := by
  cases hstep with
  | start hinactive hfree => exact h.start hinactive hfree
  | stop | notify | beat =>
    exact h.reloop rfl (fun _ _ _ hminds => hminds) (fun _ hclaim => hclaim)
      fun _ _ hphase => hphase
  | forget => exact h.forget
  | claim hserving hfree record c hanswer hc => exact h.claim hserving hfree hanswer hc
  | take hserving hfree policy now call record c hanswer hc =>
    exact h.take hserving hfree hanswer hc
  | launch record c hhand work => exact h.launch hhand work
  | refuse record c hhand message => exact h.refuse hhand message
  | rest hlooping hfree till => exact h.rest hlooping till
  | overflow o hcause => exact (h.not_overflow hcause).elim
  | windDown hlooping hstopped hfree => exact h.windDown hlooping hfree
  | settle => exact h.settle
  | call k c hc hhand => exact h.call k hc hhand
  | look policy now call => exact h.look policy now call
  | create k taskType config => exact h.create k taskType config
  | work n run hbusy y htask halive hinterrupted => exact h.work hbusy htask halive hinterrupted
  | report n run hbusy e => exact h.report hbusy e
  | aside s hstore hcreated hsupply htimer hhealthy hlength hsame =>
    exact h.aside hstore hcreated hsupply htimer hhealthy hlength hsame
  | pass millis hprompt => exact h.pass hprompt

theorem steps (h : x.Minded) {y : Watched} (hsteps : Steps x y) : y.Minded := by
  induction hsteps with
  | refl => exact h
  | tail _ hstep ih => exact ih.step hstep

end Minded

/-- **A clean shutdown leaves no orphan.** A loop whose wait for its runs lasts a millisecond or
more, whose failover timeout is in range, and whose jobs end in the millisecond in which they are
interrupted has been stopped at any moment and has ended. Then no record runs under a claim that its
runner has made. -/
theorem shutdown_leaves_no_orphan {x₀ : Watched} (hfresh : x₀.Fresh)
    (htimeout : x₀.loop.runner.settings.failoverTimeout? ≠ none)
    (hgrace : nanosPerMilli ≤ x₀.loop.runner.settings.shutdownGrace.nanos)
    (hsteps : Steps x₀ x) (hended : x.loop.phase = .ended) :
    ∀ id c, (id, c) ∈ x.made → ∀ r, x.shared.store.record? id = some r →
      r.isRunningUnder c = false := by
  have hpatient : 0 < x₀.loop.runner.settings.shutdownGrace.timerMillis := by
    unfold Duration.timerMillis
    simp only [nanosPerMilli] at hgrace ⊢
    omega
  have hminded := (hfresh.minded (Option.ne_none_iff_exists'.mp htimeout) hpatient).steps hsteps
  obtain ⟨m, htends⟩ := hminded.tends
  have hfree : x.hand = none := by
    by_contra hhand
    exact (RunnerLoop.not_stopped_of_mayClaim (hminded.mayClaim hhand)).1 hended
  intro id c hmade r hr
  have hmem : (id, c) ∈ x.claims := by
    rw [made, pending, hfree] at hmade
    exact hmade
  rw [htends.serves.record?_eq] at hr
  refine Bool.eq_false_iff.mpr fun hunder => ?_
  obtain ⟨n, hminds, -⟩ := htends.working id c hmem ⟨r, hr, hunder⟩
  unfold RunnerLoop.Minds at hminds
  rw [hended] at hminds
  exact hminds

section OneJob

/-- A loop at rest, next to an empty store. -/
def atRest : Watched where
  loop := { runner := { node := "a", connection := 0 } }
  shared := { store := .memory {}, clock := .epoch }

/-- The loop is started, and a task is created. -/
def atWork : Watched :=
  { atRest with
    loop := atRest.loop.start atRest.shared
    shared := (atRest.shared.create 0 "job" none).2 }

/-- The record that is handed out to the runner. -/
def handedOut : Record :=
  (Record.fresh (taskId 1) "job" none ClockTime.epoch.toInstant).running "a"
    ClockTime.epoch.toInstant

/-- A job that does nothing before it is interrupted. -/
def waiting : Work := .script [.waitInterrupt, .finish .completed]

/-- The runner has launched a run for the record. -/
def launched : Watched :=
  let s := (atWork.shared.call 0 (.claim "a")).2
  { atWork with
    loop := atWork.loop.withRunner (atWork.loop.runner.launch handedOut ⟨"a", 1⟩ waiting s).1
    shared := (atWork.loop.runner.launch handedOut ⟨"a", 1⟩ waiting s).2
    claims := [(taskId 1, ⟨"a", 1⟩)] }

/-- The loop was stopped, and waits for the run. -/
def windingDown : Watched :=
  { launched with
    loop := (launched.loop.stop.windDown launched.shared).1
    shared := (launched.loop.stop.windDown launched.shared).2 }

/-- The run that the loop waits for. -/
def interruptedRun : Run := ⟨⟨"a", 1⟩, (Execution.spawn (taskId 1) waiting).interrupt, 0⟩

/-- The run has reported its end. -/
def reportedIn : Watched :=
  { windingDown with
    shared := windingDown.shared.effect interruptedRun
      (interruptedRun.execution.finish .completed).2
    reported := [0] }

/-- The run has ended, and so has the loop. -/
def ended : Watched :=
  let s := reportedIn.shared.signal 0 fun y => { y with phase := .ended }
  { reportedIn with loop := reportedIn.loop.settle s, shared := s }

theorem atRest_fresh : atRest.Fresh where
  idle := rfl
  made := rfl
  reported := rfl
  serves := by
    refine ⟨⟨[], List.nodup_nil⟩, .memory ?_, fun _ => ⟨rfl, rfl⟩, taskId_injective,
      fun _ _ => rfl⟩
    exact fun r hr => nomatch hr

theorem steps_atRest_launched : Steps atRest launched := by
  have hstart := Step.start (x := atRest) rfl rfl
  have hcreate := Step.create (x := { atRest with loop := atWork.loop }) 0 "job" none
  have hanswer : (atWork.shared.call 0 (.claim "a")).1 = .ok (some handedOut) := by
    have hsome : (atWork.shared.call 0 (.claim "a")).1.toOption = some (some handedOut) := by
      decide +kernel
    cases hresult : (atWork.shared.call 0 (.claim "a")).1 with
    | error e =>
      rw [hresult] at hsome
      cases hsome
    | ok answer =>
      rw [hresult] at hsome
      exact congrArg Except.ok (Option.some.inj hsome)
  have hclaim := Step.claim (x := atWork) rfl rfl handedOut ⟨"a", 1⟩ hanswer rfl
  have hlaunch := Step.launch (x := { atWork with
    shared := (atWork.shared.call 0 (.claim "a")).2
    hand := some (handedOut, ⟨"a", 1⟩) }) handedOut ⟨"a", 1⟩ rfl waiting
  exact (((Relation.ReflTransGen.single hstart).tail hcreate).tail hclaim).tail hlaunch

theorem steps_launched_ended : Steps launched ended := by
  have hstop := Step.stop (x := launched)
  have hwind := Step.windDown (x := { launched with loop := launched.loop.stop }) rfl rfl rfl
  have hreport := Step.report (x := windingDown) 0 interruptedRun
    ⟨by decide +kernel, rfl, List.not_mem_nil, List.mem_singleton_self _⟩ .completed
  have hend : Step reportedIn { reportedIn with
      shared := reportedIn.shared.signal 0 fun y => { y with phase := .ended } } := by
    refine .aside _ rfl rfl rfl rfl (fun _ => Or.inr rfl) (by decide +kernel) fun n run => ?_
    -- The only run has reported, so none is busy, before and after.
    have hlength : ∀ s : Shared, s.runs.length = 1 → ¬ s.Busy reportedIn.claims [0] n run := by
      intro s hs h
      have hlt := (List.getElem?_eq_some_iff.mp h.member).1
      obtain rfl : n = 0 := by omega
      exact h.unreported List.mem_cons_self
    exact ⟨fun h => absurd h (hlength _ (by decide +kernel)),
      fun h => absurd h (hlength _ (by decide +kernel))⟩
  have hsettle := Step.settle (x := { reportedIn with
    shared := reportedIn.shared.signal 0 fun y => { y with phase := .ended } })
  exact ((((Relation.ReflTransGen.single hstop).tail hwind).tail hreport).tail hend).tail hsettle

/-- A job is interrupted by the shutdown of its loop and reports in time. -/
theorem shutdown_leaves_no_orphan_for_one_job :
    atRest.Fresh ∧ Steps atRest ended ∧ ended.loop.phase = .ended
      ∧ ended.made = [(taskId 1, ⟨"a", 1⟩)]
      ∧ ∀ r, ended.shared.store.record? (taskId 1) = some r →
        r.isRunningUnder ⟨"a", 1⟩ = false := by
  have hsteps := steps_atRest_launched.trans steps_launched_ended
  have hended : ended.loop.phase = .ended := by decide +kernel
  exact ⟨atRest_fresh, hsteps, hended, rfl, shutdown_leaves_no_orphan atRest_fresh
    (by decide +kernel) (by decide +kernel) hsteps hended _ _ List.mem_cons_self⟩

end OneJob

end Watched

end TaskCluster
