import Mathlib
import TaskCluster.Proofs.Record.LogLines
import TaskCluster.Proofs.Store.ClaimScan

/-!
# A heartbeat sweep, exactly

A sweep looks at every record that runs. What it makes of a record depends on that record alone, so
its effect is one function over all records (`Record.swept`): a run that the node owns and lists is
refreshed, any other run that is overdue is lost, and everything else stays. The program compares
with numbers of 64 bits that stop at their limits; within the calendar this is the comparison of
exact integers (`Record.isStale_iff`).

The database sweeps the rows of the running records and writes those that changed, which comes to
the same (`Keeps.heartbeat`). A run that was refreshed is held still, and a run that was lost does
not run any more, so a second sweep at the same time finds nothing to do.
-/

namespace TaskCluster

namespace Record

/-- The node owns the record and lists it among its tasks. -/
def HeldBy (r : Record) (node : String) (ids : List String) : Prop :=
  r.id ∈ ids ∧ r.node = some node

instance (r : Record) (node : String) (ids : List String) : Decidable (r.HeldBy node ids) :=
  inferInstanceAs (Decidable (_ ∧ _))

/-- The last sign of life is further back than the timeout, in whole milliseconds. A timeout counts
no further than 64 bits go. -/
def Overdue (r : Record) (timeout : Duration) (now : Instant) : Prop :=
  min (timeout.millis : Int) (2 ^ 63 - 1) < now.millis - r.heartbeat.toInt

instance (r : Record) (timeout : Duration) (now : Instant) : Decidable (r.Overdue timeout now) :=
  inferInstanceAs (Decidable (_ < _))

/-- The record with a new sign of life. -/
def refreshed (r : Record) (now : Instant) : Record := { r with heartbeat := Int64.ofInt now.millis }

/-- The record after a node gave up its run. -/
def lost (r : Record) (node : String) (now : Instant) : Record :=
  { r with
    status := .failover
    finishedAt := some now
    log := some (Log.fit (Log.joined r.log (r.staleMessage node now))) }

/-- A record after a sweep of the node. -/
def swept (r : Record) (node : String) (ids : List String) (timeout : Duration) (now : Instant) :
    Record :=
  if r.status ≠ .running then r
  else if r.HeldBy node ids then r.refreshed now
  else if r.Overdue timeout now then r.lost node now
  else r

/-! ### One record -/

section Swept

variable (r : Record) (node : String) (ids : List String) (timeout : Duration) (now : Instant)

/-- No difference of times reaches the lower limit of 64 bits before the sign of life does. -/
theorem isStale_iff : r.isStale timeout now = true ↔ r.Overdue timeout now := by
  have hmin := now.min_le
  have hmax := now.le_max
  have hnanos := now.nanos_lt
  have hbeat := r.heartbeat.le_toInt
  have hmillis : (now.millis : Int) = now.seconds * 1000 + (now.nanos / 1000000 : Nat) := rfl
  have hlow : Int64.minValue.toInt = -2 ^ 63 := by decide
  have hhigh : Int64.maxValue.toInt = 2 ^ 63 - 1 := by decide
  simp only [minSecond, maxSecond, nanosPerSecond] at hmin hmax hnanos
  simp only [isStale, clampMillis, Duration.clockMillis, Duration.maxMillis, Overdue, hlow, hhigh,
    decide_eq_true_eq]
  omega

theorem isBlank_staleMessage : Text.isBlank (r.staleMessage node now) = false := by
  have hstart : Text.isBlank "Failover necessity detected by node '" = false := by decide
  unfold staleMessage
  refine Log.isBlank_append (Log.isBlank_append (Log.isBlank_append (Log.isBlank_append ?_ _) _) _) _
  exact Log.isBlank_append hstart node

/-- A stale run fails over, with a line about it. -/
theorem changeStatus_failover (h : r.status = .running) :
    r.changeStatus .failover (some (r.staleMessage node now)) now = (true, r.lost node now) := by
  have hline := r.isBlank_staleMessage node now
  simp [changeStatus, moved, lost, h, Status.canChangeTo, Log.append?, Log.append, hline]

theorem checkHeartbeat_eq_swept :
    (r.checkHeartbeat node ids timeout now).2 = r.swept node ids timeout now := by
  have hheld : (ids.contains r.id = true ∧ r.node = some node) ↔ r.HeldBy node ids := by
    simp [HeldBy]
  unfold checkHeartbeat swept
  by_cases hrun : r.status = .running
  · simp only [hheld, isStale_iff, r.changeStatus_failover node now hrun]
    split_ifs <;> rfl
  · simp [hrun]

@[simp] theorem id_swept : (r.swept node ids timeout now).id = r.id := by
  unfold swept refreshed lost
  split_ifs <;> rfl

variable {r node ids timeout now}

theorem swept_of_heldBy (hrun : r.status = .running) (h : r.HeldBy node ids) :
    r.swept node ids timeout now = r.refreshed now := by
  simp [swept, hrun, h]

/-- What a record is swept to is swept to itself. -/
theorem swept_swept :
    (r.swept node ids timeout now).swept node ids timeout now = r.swept node ids timeout now := by
  by_cases hrun : r.status = .running
  · by_cases hheld : r.HeldBy node ids
    · have hstill : (r.refreshed now).HeldBy node ids := hheld
      have hruns : (r.refreshed now).status = .running := hrun
      rw [swept_of_heldBy hrun hheld, swept_of_heldBy hruns hstill]
      rfl
    · by_cases hover : r.Overdue timeout now
      · simp [swept, hrun, hheld, hover, lost]
      · simp [swept, hrun, hheld, hover]
  · simp [swept, hrun]

/-- The list of a node says nothing about a record that the node does not own. -/
theorem swept_of_node_ne (h : r.node ≠ some node) (ids' : List String) :
    r.swept node ids timeout now = r.swept node ids' timeout now := by
  simp [swept, HeldBy, h]

end Swept

end Record

/-! ### The sweep of a memory -/

namespace Memory

variable (m : Memory) (node : String) (ids : List String) (timeout : Duration)
  (policy : FailoverPolicy) (clock : Readings)

theorem heartbeat_records :
    (m.performAt policy clock (.heartbeat node ids timeout)).2.records
      = m.records.map fun r => r.swept node ids timeout (clock r.id).toInstant :=
  (sweep_records clock m).trans
    (List.map_congr_left fun r _ => r.checkHeartbeat_eq_swept node ids timeout _)

/-- A second sweep with the same readings of the clock changes nothing. -/
theorem heartbeat_again :
    let swept := (m.performAt policy clock (.heartbeat node ids timeout)).2
    (swept.performAt policy clock (.heartbeat node ids timeout)).2 = swept := by
  intro swept
  refine eq_of_records_eq ?_
  rw [heartbeat_records, m.heartbeat_records node ids timeout policy clock, List.map_map]
  refine List.map_congr_left fun r _ => ?_
  simp [Record.swept_swept]

end Memory

/-! ### Either kind of store -/

namespace Store

section Heartbeat

variable {s : Store} {m : Memory} (node : String) (ids : List String) (timeout : Duration)
  (policy : FailoverPolicy) (clock : Readings)

/-- A sweep never fails, does what that of the memory does, and changes the store only if it changes
that. -/
theorem Keeps.heartbeat (h : s.Keeps m) :
    let m' := (m.performAt policy clock (.heartbeat node ids timeout)).2
    ∃ s', s.performAt policy clock (.heartbeat node ids timeout) = (.ok (), s') ∧ s'.Keeps m'
      ∧ (m' = m → s' = s) := by
  intro m'
  cases h with
  | memory m => exact ⟨.memory m', rfl, .memory m', congrArg Store.memory⟩
  | @database m t hmirrors =>
    have hwork : ∃ t', Transaction.heartbeat node ids timeout clock t = .ok ((), t')
        ∧ Mirrors m' t' := by
      refine ⟨_, ?_, sweep_mirrors node ids timeout clock m.oldestFirst hmirrors
        m.current_oldestFirst⟩
      unfold Transaction.heartbeat
      rw [hmirrors.records]
      rfl
    obtain ⟨t', hdone, hmirrors'⟩ := hwork
    refine ⟨.database ⟨t', false⟩, ?_, .database hmirrors', ?_⟩
    · exact congrArg (fun p => (p.1, Store.database p.2)) (Database.write_ok hdone (.ok ()))
    · intro hsame
      rw [hsame] at hmirrors'
      rw [hmirrors'.unique hmirrors]

/-- **A heartbeat sweep, exactly.** A run that the node owns and lists gets a new sign of life, any
other run that is overdue is lost, and no other record changes. So what the node lists without
owning it is neither refreshed nor spared, what it lists and owns is never lost, and a second sweep
at the same time does nothing. -/
theorem sweeps_exactly (h : s.Keeps m) :
    ∃ s' m', s.performAt policy clock (.heartbeat node ids timeout) = (.ok (), s')
      ∧ s'.Keeps m'
      ∧ m'.records = m.records.map (fun r => r.swept node ids timeout (clock r.id).toInstant)
      ∧ (∀ r ∈ m.records, r.status = .running → r.HeldBy node ids →
          (r.swept node ids timeout (clock r.id).toInstant).status = .running
            ∧ (r.swept node ids timeout (clock r.id).toInstant).heartbeat.toInt
              = (clock r.id).millis)
      ∧ (∀ r ∈ m.records, r.node ≠ some node →
          r.swept node ids timeout (clock r.id).toInstant
            = r.swept node [] timeout (clock r.id).toInstant)
      ∧ s'.performAt policy clock (.heartbeat node ids timeout) = (.ok (), s') := by
  obtain ⟨s', hcall, hkeeps, -⟩ := h.heartbeat node ids timeout policy clock
  obtain ⟨s'', hagain, -, hsame⟩ := hkeeps.heartbeat node ids timeout policy clock
  refine ⟨s', _, hcall, hkeeps, m.heartbeat_records node ids timeout policy clock, ?_, ?_, ?_⟩
  · intro r _ hrun hheld
    rw [Record.swept_of_heldBy hrun hheld]
    refine ⟨hrun, ?_⟩
    rw [Record.refreshed, ClockTime.millis_toInstant, ClockTime.toInt_ofInt_millis]
  · intro r _ hnode
    exact Record.swept_of_node_ne hnode []
  · rw [hagain, hsame (m.heartbeat_again node ids timeout policy clock)]

/-- Of three runs that are overdue the node owns and lists `a` alone, so `b` and `c` are lost. `d`
is not overdue, and `e` does not run. -/
theorem sweeps_exactly_five :
    let now : ClockTime := .clamp 20000
    let run (id node : String) : Record :=
      (Record.fresh id "noop" none ClockTime.epoch.toInstant).running node ClockTime.epoch.toInstant
    let a := run "a" "n"
    let b := run "b" "other"
    let c := run "c" "n"
    let d : Record := { run "d" "other" with heartbeat := 10000 }
    let e := Record.fresh "e" "noop" none ClockTime.epoch.toInstant
    let m : Memory := ⟨[a, b, c, d, e], by decide⟩
    let t : Table := ⟨m.records.map Row.ofRecord, by decide⟩
    let sweep : Call := .heartbeat "n" ["a", "b", "e"] (.ofMillis 10000)
    ∃ s' m', (Store.database ⟨t, false⟩).performAt {} (fun _ => now) sweep = (.ok (), s')
      ∧ s'.Keeps m'
      ∧ m'.records = [a.refreshed now.toInstant, b.lost "n" now.toInstant,
          c.lost "n" now.toInstant, d, e]
      ∧ s'.performAt {} (fun _ => now) sweep = (.ok (), s') := by
  intro now run a b c d e m t sweep
  have htimes : ∀ r ∈ m.records, r.createdAt = ClockTime.epoch.toInstant ∧ r.finishedAt = none
      ∧ (r.startedAt = none ∨ r.startedAt = some ClockTime.epoch.toInstant) := by
    decide +kernel
  have hwhole : ∀ r ∈ m.records, r.Whole := by
    intro r hr
    obtain ⟨hcreated, hfinished, hstarted⟩ := htimes r hr
    refine ⟨⟨.epoch, hcreated⟩, ?_, by simp [hfinished]⟩
    intro t ht
    rcases hstarted with hnone | hsome
    · simp [hnone] at ht
    · rw [hsome] at ht
      exact ⟨.epoch, (Option.some.inj ht).symm⟩
  have hkeeps : (Store.database ⟨t, false⟩).Keeps m := .database ⟨rfl, hwhole⟩
  obtain ⟨s', m', hcall, hkeeps', hrecords, -, -, hagain⟩ :=
    sweeps_exactly "n" ["a", "b", "e"] (.ofMillis 10000) {} (fun _ => now) hkeeps
  refine ⟨s', m', hcall, hkeeps', ?_, hagain⟩
  rw [hrecords]
  decide +kernel

end Heartbeat

end Store

end TaskCluster
