import Mathlib
import TaskCluster.Proofs.Store.Outcome
import TaskCluster.Proofs.Store.RunFields

/-!
# Backoff

A task that lost its run waits for a cool-down before it is started again; only after its first run
may it move to another node at once. A node looks for that at the time that the record notes as the
end of its last run, and a record without such a time would not wait at all. So what carries the
proof is that every record in failover notes the time of the very event that ended its last run
(`ended`), whatever operation that was. The rest is one look of a claim scan.

Both times are clock readings, so the difference that the node computes is that of the readings, and
it lies far below the bound at which cool-downs are cut.
-/

namespace TaskCluster

/-! ### Cool-downs on the clock -/

namespace ClockTime

theorem isLeap_toInstant (t : ClockTime) : t.toInstant.isLeap = false := by
  refine decide_eq_false ?_
  simp only [toInstant, nanosPerSecond, nanosPerMilli]
  omega

/-- Clock readings are no leap seconds, so their distance is a plain difference. -/
theorem millisSince_toInstant (later earlier : ClockTime) :
    later.toInstant.millisSince earlier.toInstant = later.millis - earlier.millis := by
  have hleap : Instant.leapBetween later.toInstant earlier.toInstant = 0 := by
    simp [Instant.leapBetween, isLeap_toInstant]
  have hnanos : later.toInstant.nanosSince earlier.toInstant
      = (later.millis - earlier.millis) * nanosPerMilli := by
    rw [Instant.nanosSince, hleap]
    simp only [toInstant, nanosPerSecond, nanosPerMilli]
    omega
  rw [Instant.millisSince, hnanos]
  exact Int.mul_tdiv_cancel _ (by decide)

end ClockTime

/-- Within the calendar a cool-down is compared in full. -/
theorem Duration.millis_le_of_clockMillis_le {d : Duration} {now earlier : ClockTime}
    (h : d.clockMillis ≤ now.toInstant.millisSince earlier.toInstant) :
    (d.millis : Int) ≤ now.millis - earlier.millis := by
  rw [ClockTime.millisSince_toInstant] at h
  have hlatest := now.le_max
  have hearliest := earlier.min_le
  have hmax : maxMillis = 9223372036854775807 := by decide
  simp only [minSecond, maxSecond] at hlatest hearliest
  simp only [clockMillis, hmax] at h
  omega

namespace Record

/-- A task in failover that is not passed over has waited for its cool-down, or it moves to another
node after its first run. -/
theorem waited_of_offer {r : Record} {node : String} {policy : FailoverPolicy}
    {now finished : ClockTime} (h : r.offer node policy now.toInstant ≠ .passed)
    (hstatus : r.status = .failover) (hfinished : r.finishedAt = some finished.toInstant) :
    ((policy.cooldown r.runCount).millis : Int) ≤ now.millis - finished.millis
      ∨ r.runCount ≤ 1 ∧ r.node ≠ some node := by
  have hrunnable : r.isRunnableNow node policy now.toInstant = true := by
    by_contra hnot
    exact h (if_neg hnot)
  unfold isRunnableNow at hrunnable
  rw [hstatus] at hrunnable
  dsimp only at hrunnable
  split at hrunnable
  case isTrue hmoves => exact Or.inr hmoves
  case isFalse =>
    rw [hfinished] at hrunnable
    exact Or.inl (Duration.millis_le_of_clockMillis_le (of_decide_eq_true hrunnable))

end Record

namespace Traffic

variable {s : Traffic} {events : List Event}

/-- The last run of an id that is over before the `i`-th event was ended by the `j`-th. -/
structure EndedAt (s : Traffic) (events : List Event) (id : String) (i j : Nat) : Prop where
  lt : j < i
  on : (s.before events j).Runs id
  off : ∀ k, j < k → k ≤ i → ¬ (s.before events k).Runs id

theorem EndedAt.unique {id : String} {i j k : Nat} (hj : s.EndedAt events id i j)
    (hk : s.EndedAt events id i k) : j = k := by
  rcases Nat.lt_trichotomy j k with hlt | heq | hlt
  · exact absurd hk.on (hj.off k hlt (Nat.le_of_lt hk.lt))
  · exact heq
  · exact absurd hj.on (hk.off j hlt (Nat.le_of_lt hj.lt))

/-- A run that is over stays ended by the same event. -/
theorem EndedAt.succ {id : String} {i j : Nat} (h : s.EndedAt events id i j)
    (hoff : ¬ (s.before events (i + 1)).Runs id) : s.EndedAt events id (i + 1) j where
  lt := Nat.lt_succ_of_lt h.lt
  on := h.on
  off := by
    intro k hjk hk
    rcases Nat.le_succ_iff.mp hk with hk | rfl
    · exact h.off k hjk hk
    · exact hoff

/-- The node that looks at a record with the `i`-th event keeps to its backoff: since the event that
ended the last run of the task, the cool-down of the node's policy has passed in whole milliseconds,
or that was the first run and on another node. -/
def BackedOff (s : Traffic) (events : List Event) (i : Nat) (node : String) (r : Record) : Prop :=
  ∃ j left look, s.EndedAt events r.id i j
    ∧ momentAt events r.id j = some left ∧ momentAt events r.id i = some look
    ∧ (((look.policy.cooldown r.runCount).millis : Int) ≤ look.now.millis - left.now.millis
      ∨ r.runCount ≤ 1 ∧ r.node ≠ some node)

namespace FromScratch

variable (h : FromScratch s events)

include h

/-- What carries the induction over the events: a record in failover notes the time of the event
that ended its last run. -/
theorem ended {id : String} {i : Nat} {r : Record} (hr : s.recordAt events id i = some r)
    (hstatus : r.status = .failover) :
    ∃ j m, s.EndedAt events id i j ∧ momentAt events id j = some m
      ∧ r.finishedAt = some m.now.toInstant := by
  induction i generalizing r with
  | zero =>
    rw [h.recordAt_zero] at hr
    cases hr
  | succ i ih =>
    have hpassage := h.passage id i
    have hoff : ¬ (s.before events (i + 1)).Runs id := by
      rintro ⟨r', hr', hrun⟩
      obtain rfl := Option.some.inj (hr.symm.trans hr')
      rw [hstatus] at hrun
      cases hrun
    rw [hr] at hpassage
    cases hbefore : s.recordAt events id i with
    | none =>
      rw [hbefore] at hpassage
      cases hpassage with
      | created => cases hstatus
    | some old =>
      rw [hbefore] at hpassage
      cases hpassage with
      | kept hsame hrun =>
        obtain ⟨j, m, hended, hmoment, hfinished⟩ := ih hbefore (hsame ▸ hstatus)
        exact ⟨j, m, hended.succ hoff, hmoment, hrun.finishedAt.trans hfinished⟩
      | dropped _ hafter =>
        rw [hafter] at hstatus
        cases hstatus
      | begun node _ htaken =>
        obtain ⟨-, rfl, -⟩ := Record.of_offer_taken htaken
        cases hstatus
      | begunByHand message _ hafter =>
        rw [hafter] at hstatus
        cases hstatus
      | @ended _ _ m hmoment hrun =>
        refine ⟨i, m, ⟨Nat.lt_succ_self i, ⟨old, hbefore, hrun.before⟩, ?_⟩, hmoment,
          hrun.finishedAt⟩
        intro k hik hk
        obtain rfl : k = i + 1 := Nat.le_antisymm hk hik
        exact hoff

/-- A claim that changes a record in failover starts or cancels it, and keeps to the backoff. -/
theorem backedOff_of_scan {id node : String} {i : Nat} {r new : Record}
    (hscan : s.ScansFor events i node) (hr : s.recordAt events id i = some r)
    (hstatus : r.status = .failover) (hnew : s.recordAt events id (i + 1) = some new)
    (hne : new ≠ r) :
    (new.status = .running ∨ new.status = .canceled) ∧ s.BackedOff events i node r := by
  obtain ⟨a, ha, hclaim⟩ := scansFor_iff.mp hscan
  have hturn := h.distinct.turn_outcome id i
  rw [ha, hr, hnew] at hturn
  obtain ⟨look, hlook, hoffered⟩ := hturn.of_claim hclaim (fun heq => hne (Option.some.inj heq))
  obtain rfl := Option.some.inj hoffered
  obtain ⟨j, left, hended, hleft, hfinished⟩ := h.ended hr hstatus
  have hnotPassed : r.offer node look.policy look.now.toInstant ≠ .passed := by
    intro hpassed
    rw [Record.offered, hpassed] at hne
    exact hne rfl
  have hid : r.id = id := Store.id_of_record? hr
  refine ⟨?_, j, left, look, hid ▸ hended, hid ▸ hleft, hid ▸ hlook,
    Record.waited_of_offer hnotPassed hstatus hfinished⟩
  unfold Record.offered
  cases ho : r.offer node look.policy look.now.toInstant with
  | passed => exact absurd ho hnotPassed
  | canceled new => exact Or.inr (Record.of_offer_canceled ho).2.1
  | taken new =>
    obtain ⟨-, rfl, -⟩ := Record.of_offer_taken ho
    exact Or.inl rfl
  | overflowed new =>
    exact absurd ho ((h.counted id i r hr).offer_ne_overflowed node look.policy _ new)

/-- A claim that is handed out changed the record of its task. -/
theorem recordAt_of_claimed {node : String} {i : Nat} {new : Record}
    (hanswer : s.answer events i = some ⟨.claim node, .ok (some new)⟩) :
    s.recordAt events new.id (i + 1) = some new ∧ new.status = .running := by
  have hclaimed : (s.answer events i).bind (Answer.claimed? new.id) = some new := by
    rw [hanswer]
    exact if_pos rfl
  rcases (h.passage new.id i).runsOf_eq_or_taken with
    ⟨hnone, -⟩ | ⟨m, scanner, old, taken, -, -, hafter, htaken, hoffer⟩
  · rw [hnone] at hclaimed
    cases hclaimed
  · obtain rfl := Option.some.inj (htaken.symm.trans hclaimed)
    obtain ⟨-, hrunning, -⟩ := Record.of_offer_taken hoffer
    exact ⟨hafter, hrunning ▸ rfl⟩

/-- **Backoff is honoured over whole runs**, in any traffic from an empty store. A record in
failover notes the time of the one event that ended its last run, whatever that was. Whenever a claim
changes such a record, be it that the scan cancels the task on its way or that it takes it, and so
whenever such a task is handed out, the node has kept to its backoff. -/
theorem backoff_honoured :
    (∀ id i r, s.recordAt events id i = some r → r.status = .failover →
      ∃! j, s.EndedAt events id i j
        ∧ ∃ m, momentAt events id j = some m ∧ r.finishedAt = some m.now.toInstant)
    ∧ (∀ id i node r new, s.ScansFor events i node → s.recordAt events id i = some r →
        r.status = .failover → s.recordAt events id (i + 1) = some new → new ≠ r →
        (new.status = .running ∨ new.status = .canceled) ∧ s.BackedOff events i node r)
    ∧ (∀ i node new r, s.answer events i = some ⟨.claim node, .ok (some new)⟩ →
        s.recordAt events new.id i = some r → r.status = .failover →
        s.BackedOff events i node r) := by
  refine ⟨?_, fun id i node r new => h.backedOff_of_scan, ?_⟩
  · intro id i r hr hstatus
    obtain ⟨j, m, hended, hmoment, hfinished⟩ := h.ended hr hstatus
    exact ⟨j, ⟨hended, m, hmoment, hfinished⟩, fun k hk => hk.1.unique hended⟩
  · intro i node new r hanswer hr hstatus
    obtain ⟨hnew, hrunning⟩ := h.recordAt_of_claimed hanswer
    have hne : new ≠ r := by
      rintro rfl
      rw [hstatus] at hrunning
      cases hrunning
    have hscan : s.ScansFor events i node :=
      scansFor_iff.mpr ⟨_, outcomeAt_of_answer hanswer, rfl⟩
    exact (h.backedOff_of_scan hscan hr hstatus hnew hne).2

end FromScratch

/-- A run on `a` fails over at 500 ms. With a cool-down of one second `a` passes the task over at
1499 ms and starts it again at 1500 ms. -/
theorem backoff_honoured_to_the_millisecond :
    let s : Traffic := ⟨.memory {}, []⟩
    let policy : FailoverPolicy := ({} : FailoverPolicy).withFixedDelay (.ofSeconds 1)
    let clock (millis : Int) : Readings := fun _ => .clamp millis
    let events : List Event :=
      [.call policy (clock 0) (.create "t" "noop" none),
        .call policy (clock 0) (.claim "a"), .look policy (.clamp 0) 0,
        .call policy (clock 500) (.change "t" .failover none),
        .call policy (clock 1499) (.claim "a"), .look policy (.clamp 1499) 0,
        .look policy (.clamp 1500) 0,
        .call policy (clock 1500) (.claim "a"), .look policy (.clamp 1500) 0]
    FromScratch s events ∧ s.recordAt events "t" 7 = s.recordAt events "t" 4
      ∧ ∃ r, s.recordAt events "t" 8 = some r ∧ r.status = .failover
        ∧ s.BackedOff events 8 "a" r := by
  intro s policy clock events
  have h : FromScratch s events := ⟨rfl, by decide⟩
  have hscan : s.ScansFor events 8 "a" := by
    have hunder : (s.before events 8).underway[0]? = some (.claim "a" ["t"]) := by decide +kernel
    exact congrArg (Option.map Underway.call) hunder
  have hlost : (s.recordAt events "t" 8).map Record.status = some .failover := by decide +kernel
  have hagain : (s.recordAt events "t" 9).map Record.status = some .running := by decide +kernel
  obtain ⟨r, hr, hstatus⟩ := Option.map_eq_some_iff.mp hlost
  obtain ⟨new, hnew, hrunning⟩ := Option.map_eq_some_iff.mp hagain
  have hne : new ≠ r := by
    rintro rfl
    rw [hstatus] at hrunning
    cases hrunning
  refine ⟨h, by decide +kernel, r, hr, hstatus, ?_⟩
  exact ((FromScratch.backoff_honoured h).2.1 "t" 8 "a" r new hscan hr hstatus hnew hne).2

end Traffic

end TaskCluster
