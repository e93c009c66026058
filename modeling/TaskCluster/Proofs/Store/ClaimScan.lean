import Mathlib
import TaskCluster.Proofs.Store.Lifecycle

/-!
# A claim scan, exactly

A claim offers the node one record after the other, oldest first. What it answers and what it makes
of every record can be said without the loop, in terms of the list of the records that may be run
now: the first of them whose task may start is taken, those before it are canceled, and nothing else
changes (`Memory.scan_eq`). The database answers the same over the rows of such records, so the
statement holds of either kind of store (`Store.claims_oldest_startable`).

Nothing is assumed about the records but that no new task has used up its counter. A lost task needs
no such assumption: one with the greatest count is beyond every limit of attempts.
-/

namespace TaskCluster

namespace Record

/-! ### Offers of records that may be run now -/

/-- May the task be started once its record may be run now? Nobody has asked it to stop, and it was
not lost too often. -/
def mayStart (r : Record) (policy : FailoverPolicy) : Bool :=
  !r.cancelRequested && !(r.status == .failover && policy.maxAttempts ≤ r.runCount)

/-- The record after a scan has canceled its task. The log says so if it was lost too often, and not
if it was asked to stop. -/
def givenUp (r : Record) : Record :=
  { r with
    status := .canceled
    log := if r.cancelRequested then r.log else Log.append r.log tooManyAttempts }

/-- The counter of runs of a new task is not used up. -/
def Countable (r : Record) : Prop := r.status = .new → r.runCount.toNat ≠ 2 ^ 32 - 1

variable {r : Record} {node : String} {policy : FailoverPolicy} {now : Instant}

theorem offer_passed (h : r.isRunnableNow node policy now = false) :
    r.offer node policy now = .passed := by
  rw [offer, if_neg (by simp [h])]

theorem offer_givenUp (h : r.isRunnableNow node policy now = true)
    (hstart : r.mayStart policy = false) : r.offer node policy now = .canceled r.givenUp := by
  have hrun := isRunnable_of_isRunnableNow h
  rw [offer, if_pos h, start, if_neg (by simp [hrun])]
  by_cases hc : r.cancelRequested = true
  · rw [if_pos hc]
    simp [givenUp, hc]
  · have hlimit : r.status = .failover ∧ policy.maxAttempts ≤ r.runCount := by
      simpa [mayStart, hc] using hstart
    rw [if_neg hc, if_pos hlimit]
    simp [givenUp, hc, appendLog]

/-- A run that may start is counted: the counter of a new task is not used up, and that of a lost
task is below the limit of attempts. -/
theorem lt_of_mayStart (hr : r.Countable) (h : r.isRunnableNow node policy now = true)
    (hstart : r.mayStart policy = true) : r.runCount.toNat + 1 < UInt32.size := by
  have hcount : r.runCount.toNat < 2 ^ 32 := r.runCount.toNat_lt
  have hmax : policy.maxAttempts.toNat < 2 ^ 32 := policy.maxAttempts.toNat_lt
  have hrun := isRunnable_of_isRunnableNow h
  simp only [UInt32.size]
  cases hs : r.status with
  | new =>
    have hne := hr hs
    omega
  | failover =>
    have hlimit : r.runCount < policy.maxAttempts := by
      have hparts : r.cancelRequested = false ∧ r.runCount < policy.maxAttempts := by
        simpa [mayStart, hs] using hstart
      exact hparts.2
    rw [UInt32.lt_iff_toNat_lt] at hlimit
    omega
  | _ => simp [hs, Status.isRunnable] at hrun

theorem offer_running (hr : r.Countable) (h : r.isRunnableNow node policy now = true)
    (hstart : r.mayStart policy = true) :
    r.offer node policy now = .taken (r.running node now) := by
  have hrun := isRunnable_of_isRunnableNow h
  have hlt := lt_of_mayStart hr h hstart
  have hparts : r.cancelRequested = false
      ∧ ¬ (r.status = .failover ∧ policy.maxAttempts ≤ r.runCount) := by
    simp only [mayStart, Bool.and_eq_true, Bool.not_eq_true', Bool.and_eq_false_iff] at hstart
    refine ⟨hstart.1, ?_⟩
    intro hlimit
    simp [hlimit] at hstart
  rw [offer, if_pos h, start, if_neg (by simp [hrun]), if_neg (by simp [hparts.1]),
    if_neg hparts.2, if_pos hlt]

theorem offer_ne_overflowed (hr : r.Countable) (new : Record) :
    r.offer node policy now ≠ .overflowed new := by
  cases h : r.isRunnableNow node policy now with
  | false =>
    rw [offer_passed h]
    exact nofun
  | true =>
    cases hstart : r.mayStart policy with
    | false =>
      rw [offer_givenUp h hstart]
      exact nofun
    | true =>
      rw [offer_running hr h hstart]
      exact nofun

/-! ### The order of creation -/

/-- Records in the order of their creation, those of one time in the order in which they stood. -/
def oldestFirst (rs : List Record) : List Record :=
  rs.mergeSort fun a b => a.createdAt.le b.createdAt

theorem filter_oldestFirst (p : Record → Bool) (rs : List Record) :
    (oldestFirst rs).filter p = oldestFirst (rs.filter p) :=
  filter_mergeSort (fun a b c => Instant.le_trans a.createdAt b.createdAt c.createdAt)
    (fun a b => Instant.le_total a.createdAt b.createdAt) p rs

theorem pairwise_oldestFirst {rs : List Record} (h : rs.Nodup) :
    (oldestFirst rs).Pairwise fun a b =>
      a.createdAt.lt b.createdAt = true ∨ a.createdAt = b.createdAt ∧ [a, b].Sublist rs := by
  rw [List.pairwise_iff_forall_sublist]
  intro a b hpair
  obtain ⟨hle, hstable⟩ := pair_sublist_of_mergeSort
    (fun a b c : Record => Instant.le_trans a.createdAt b.createdAt c.createdAt)
    (fun a b => Instant.le_total a.createdAt b.createdAt) h hpair
  cases hback : b.createdAt.le a.createdAt with
  | false => exact Or.inl (by rw [Instant.lt, hback]; rfl)
  | true => exact Or.inr ⟨Instant.eq_of_le_of_le hle hback, hstable hback⟩

end Record

/-! ### What a scan makes of the records

In this section `runnable` are the records that may be run now, oldest first. -/

section Claimed

variable (policy : FailoverPolicy) (runnable : List Record)

/-- The record whose task is started. -/
def Record.winner? : Option Record := runnable.find? fun r => r.mayStart policy

/-- The records whose tasks are canceled on the way to the winner, or all if there is none. -/
def Record.passedOver : List Record := runnable.takeWhile fun r => !r.mayStart policy

/-- A record after a claim of the node. -/
def Record.claimed (node : String) (clock : Readings) (r : Record) : Record :=
  if r ∈ passedOver policy runnable then r.givenUp
  else if winner? policy runnable = some r then r.running node (clock r.id).toInstant
  else r

end Claimed

namespace Record

variable {node : String} {policy : FailoverPolicy} {clock : Readings} {runnable : List Record}
  {r x : Record}

/-- A record that may not be run now is left alone. -/
theorem claimed_of_notMem (h : r ∉ runnable) : r.claimed policy runnable node clock = r := by
  have hpassed : r ∉ passedOver policy runnable := fun hr => h (List.takeWhile_subset _ hr)
  have hwinner : winner? policy runnable ≠ some r := fun hw => h (List.mem_of_find?_eq_some hw)
  rw [claimed, if_neg hpassed, if_neg hwinner]

theorem winner?_cons_of_not_mayStart (h : r.mayStart policy = false) :
    winner? policy (r :: runnable) = winner? policy runnable :=
  List.find?_cons_of_neg (by simp [h])

theorem passedOver_cons_of_not_mayStart (h : r.mayStart policy = false) :
    passedOver policy (r :: runnable) = r :: passedOver policy runnable :=
  List.takeWhile_cons_of_pos (by simp [h])

theorem claimed_cons_of_not_mayStart (h : r.mayStart policy = false) :
    x.claimed policy (r :: runnable) node clock
      = if x = r then r.givenUp else x.claimed policy runnable node clock := by
  unfold claimed
  rw [passedOver_cons_of_not_mayStart h, winner?_cons_of_not_mayStart h]
  by_cases hx : x = r
  · subst hx
    simp
  · simp [hx]

theorem winner?_cons_of_mayStart (h : r.mayStart policy = true) :
    winner? policy (r :: runnable) = some r := List.find?_cons_of_pos h

theorem claimed_cons_of_mayStart (h : r.mayStart policy = true) :
    x.claimed policy (r :: runnable) node clock
      = if x = r then r.running node (clock r.id).toInstant else x := by
  have hpassed : passedOver policy (r :: runnable) = [] :=
    List.takeWhile_cons_of_neg (by simp [h])
  unfold claimed
  rw [hpassed, winner?_cons_of_mayStart h]
  by_cases hx : x = r
  · subst hx
    simp
  · have hne : r ≠ x := fun heq => hx heq.symm
    simp [hx, hne]

theorem passedOver_of_winner?_eq_none (h : winner? policy runnable = none) :
    passedOver policy runnable = runnable := by
  refine List.takeWhile_eq_self_iff.mpr ?_
  intro r hr
  have hnot := List.find?_eq_none.mp h r hr
  simpa using hnot

/-- A scan leaves no new task with another counter. -/
theorem countable_claimed (h : r.Countable) :
    (r.claimed policy runnable node clock).Countable := by
  unfold claimed
  split
  · intro hnew
    cases hnew
  split
  · intro hnew
    cases hnew
  · exact h

end Record

/-! ### The scan of a memory -/

namespace Memory

section Scan

variable (node : String) (policy : FailoverPolicy) (clock : Readings)

/-- The records that may be run on the node now, oldest first. -/
def runnable (m : Memory) : List Record :=
  m.oldestFirst.filter fun r => r.isRunnableNow node policy (clock r.id).toInstant

/-- A scan over current records, without the loop. -/
theorem scan_current (rs : List Record) {m : Memory} (hrs : Current m rs)
    (hcountable : ∀ r ∈ rs, r.Countable) :
    let runnable := rs.filter fun r => r.isRunnableNow node policy (clock r.id).toInstant
    (m.scan node policy clock (rs.map Record.id)).1
        = .ok ((Record.winner? policy runnable).map fun w =>
            w.running node (clock w.id).toInstant)
      ∧ (m.scan node policy clock (rs.map Record.id)).2.records
        = m.records.map fun r => r.claimed policy runnable node clock := by
  induction rs generalizing m with
  | nil =>
    refine ⟨rfl, ((List.map_congr_left fun r _ => ?_).trans (List.map_id _)).symm⟩
    exact Record.claimed_of_notMem List.not_mem_nil
  | cons r rs ih =>
    have hget := hrs.get? r List.mem_cons_self
    have hmem := mem_of_get? hget
    have hrest := fun x hx => hcountable x (List.mem_cons_of_mem r hx)
    intro runnable
    rw [List.map_cons, scan, scanOne, hget]
    dsimp only
    cases hnow : r.isRunnableNow node policy (clock r.id).toInstant with
    | false =>
      have hrunnable : runnable
          = rs.filter fun r => r.isRunnableNow node policy (clock r.id).toInstant :=
        List.filter_cons_of_neg (by simp [hnow])
      rw [Record.offer_passed hnow, hrunnable]
      exact ih hrs.tail hrest
    | true =>
      have hrunnable : runnable
          = r :: rs.filter fun r => r.isRunnableNow node policy (clock r.id).toInstant :=
        List.filter_cons_of_pos hnow
      rw [hrunnable]
      cases hstart : r.mayStart policy with
      | true =>
        rw [Record.offer_running (hcountable r List.mem_cons_self) hnow hstart,
          Record.winner?_cons_of_mayStart hstart]
        refine ⟨rfl, ?_⟩
        dsimp only
        rw [records_replace]
        refine List.map_congr_left fun x hx => ?_
        rw [Record.claimed_cons_of_mayStart hstart]
        by_cases hid : x.id = r.id
        · obtain rfl := eq_of_id_eq hx hmem hid
          have hsame : x.id = (x.running node (clock x.id).toInstant).id := rfl
          rw [if_pos hsame, if_pos rfl]
        · have hne : x ≠ r := fun heq => hid (congrArg Record.id heq)
          rw [if_neg hne]
          exact if_neg hid
      | false =>
        have hcurrent : Current (m.replace r.givenUp) rs := hrs.tail_replace rfl
        obtain ⟨hanswer, hrecords⟩ := ih hcurrent hrest
        rw [Record.offer_givenUp hnow hstart, Record.winner?_cons_of_not_mayStart hstart]
        refine ⟨hanswer, ?_⟩
        dsimp only
        rw [hrecords, records_replace, List.map_map]
        refine List.map_congr_left fun x hx => ?_
        rw [Record.claimed_cons_of_not_mayStart hstart]
        simp only [Function.comp_apply]
        by_cases hid : x.id = r.id
        -- The ids are distinct, so no later look comes back to the canceled record.
        · obtain rfl := eq_of_id_eq hx hmem hid
          have hnew : x.givenUp ∉ rs.filter fun r =>
              r.isRunnableNow node policy (clock r.id).toInstant := by
            intro hin
            have hin' := List.mem_map_of_mem (f := Record.id) (List.mem_of_mem_filter hin)
            exact (List.nodup_cons.mp hrs.nodup).1 hin'
          have hsame : x.id = x.givenUp.id := rfl
          rw [if_pos hsame, if_pos rfl, Record.claimed_of_notMem hnew]
        · have hne : x ≠ r := fun heq => hid (congrArg Record.id heq)
          have hother : ¬ x.id = r.givenUp.id := hid
          rw [if_neg hother, if_neg hne]

variable (m : Memory)

/-- A claim of the memory, without the loop. -/
theorem claim_eq (hcountable : ∀ r ∈ m.records, r.Countable) :
    (m.performAt policy clock (.claim node)).1
        = .ok ((Record.winner? policy (m.runnable node policy clock)).map fun w =>
            w.running node (clock w.id).toInstant)
      ∧ (m.performAt policy clock (.claim node)).2.records
        = m.records.map fun r => r.claimed policy (m.runnable node policy clock) node clock :=
  scan_current node policy clock m.oldestFirst m.current_oldestFirst fun r hr =>
    hcountable r (m.oldestFirst_perm.mem_iff.mp hr)

/-! ### The order of the records that may be run -/

variable {m node policy clock}

theorem mem_runnable {r : Record} : r ∈ m.runnable node policy clock
    ↔ r ∈ m.records ∧ r.isRunnableNow node policy (clock r.id).toInstant = true := by
  rw [runnable, List.mem_filter, m.oldestFirst_perm.mem_iff]

/-- A record was created before another one, or at the same time and stored before it. -/
def Precedes (m : Memory) (a b : Record) : Prop :=
  a.createdAt.lt b.createdAt = true ∨ a.createdAt = b.createdAt ∧ [a, b].Sublist m.records

theorem pairwise_runnable : (m.runnable node policy clock).Pairwise m.Precedes :=
  (Record.pairwise_oldestFirst (.of_map _ m.ids_nodup)).sublist List.filter_sublist

/-! ### A scan that takes nothing -/

/-- What is canceled may not be run, so a scan that takes nothing leaves nothing to run. -/
theorem runnable_claim_eq_nil (hcountable : ∀ r ∈ m.records, r.Countable)
    (hnone : Record.winner? policy (m.runnable node policy clock) = none) :
    (m.performAt policy clock (.claim node)).2.runnable node policy clock = [] := by
  refine List.filter_eq_nil_iff.mpr ?_
  intro r hr
  rw [(oldestFirst_perm _).mem_iff, (claim_eq node policy clock m hcountable).2] at hr
  obtain ⟨x, hx, rfl⟩ := List.mem_map.mp hr
  by_cases hrun : x ∈ m.runnable node policy clock
  · have hpassed := Record.passedOver_of_winner?_eq_none hnone
    rw [Record.claimed, hpassed, if_pos hrun]
    simp [Record.givenUp, Record.isRunnableNow]
  · rw [Record.claimed_of_notMem hrun]
    intro hnow
    exact hrun (mem_runnable.mpr ⟨hx, hnow⟩)

/-- A scan with nothing to run does nothing. -/
theorem claim_of_runnable_eq_nil (hcountable : ∀ r ∈ m.records, r.Countable)
    (h : m.runnable node policy clock = []) :
    m.performAt policy clock (.claim node) = (.ok none, m) := by
  obtain ⟨hanswer, hrecords⟩ := claim_eq node policy clock m hcountable
  rw [h] at hanswer hrecords
  refine Prod.ext hanswer (eq_of_records_eq (hrecords.trans ?_))
  refine (List.map_congr_left fun r _ => ?_).trans (List.map_id _)
  exact Record.claimed_of_notMem List.not_mem_nil

theorem countable_claim (hcountable : ∀ r ∈ m.records, r.Countable) :
    ∀ r ∈ (m.performAt policy clock (.claim node)).2.records, r.Countable := by
  intro r hr
  rw [(claim_eq node policy clock m hcountable).2] at hr
  obtain ⟨x, hx, rfl⟩ := List.mem_map.mp hr
  exact Record.countable_claimed (hcountable x hx)

end Scan

end Memory

/-! ### Either kind of store -/

namespace Store

/-- The store keeps the records of a memory: it is that memory, or a database that has a row for
each of them, as it writes rows, and whose write lock is free. -/
inductive Keeps : Store → Memory → Prop where
  | memory (m : Memory) : Keeps (.memory m) m
  | database {m : Memory} {t : Table} (mirrors : Mirrors m t) : Keeps (.database ⟨t, false⟩) m

section Claim

variable {s : Store} {m : Memory} (node : String) (policy : FailoverPolicy) (clock : Readings)

/-- A claim answers as that of the memory does, and changes the store only if it changes that. -/
theorem Keeps.claim (h : s.Keeps m) (hcountable : ∀ r ∈ m.records, r.Countable) :
    ∃ s', s.performAt policy clock (.claim node)
        = ((m.performAt policy clock (.claim node)).1, s')
      ∧ s'.Keeps (m.performAt policy clock (.claim node)).2
      ∧ ((m.performAt policy clock (.claim node)).2 = m → s' = s) := by
  cases h with
  | memory m => exact ⟨_, rfl, .memory _, congrArg Store.memory⟩
  | @database m t hmirrors =>
    have hfit : ∀ r ∈ m.oldestFirst, ∀ new,
        r.offer node policy (clock r.id).toInstant ≠ .overflowed new := by
      intro r hr
      exact Record.offer_ne_overflowed (hcountable r (m.oldestFirst_perm.mem_iff.mp hr))
    obtain ⟨a, t', hoffer, hscan, hmirrors'⟩ :=
      offerAll_mirrors node policy clock m.oldestFirst hmirrors m.current_oldestFirst hfit
    have hclaim : Transaction.claim node policy clock t = .ok (a, t') := by
      unfold Transaction.claim
      rw [hmirrors.records]
      exact hoffer
    have hanswer : (m.performAt policy clock (.claim node)).1 = .ok a := hscan
    refine ⟨.database ⟨t', false⟩, ?_, .database hmirrors', ?_⟩
    · rw [hanswer]
      exact congrArg (fun p => (p.1, Store.database p.2)) (Database.write_ok hclaim (.ok none))
    · intro hsame
      have hmirrors' : Mirrors m t' := hsame ▸ hmirrors'
      rw [hmirrors'.unique hmirrors]

/-- **A claim scan, exactly.** Of the records that may be run now, in the order of their creation
and, within one time, of their insertion, the first whose task may start is returned in its new run
and stored as such, the records before it are canceled, and no other record changes. If there is no
such record then nothing is returned, all that may be run now are canceled, and the same claim once
more finds and changes nothing. -/
theorem claims_oldest_startable (h : s.Keeps m) (hcountable : ∀ r ∈ m.records, r.Countable) :
    let runnable := m.runnable node policy clock
    let winner := Record.winner? policy runnable
    (∀ r, r ∈ runnable ↔ r ∈ m.records ∧ r.isRunnableNow node policy (clock r.id).toInstant = true)
      ∧ runnable.Pairwise m.Precedes
      ∧ ∃ s' m', s.performAt policy clock (.claim node)
            = (.ok (winner.map fun w => w.running node (clock w.id).toInstant), s')
          ∧ s'.Keeps m'
          ∧ m'.records = m.records.map (fun r => r.claimed policy runnable node clock)
          ∧ (∀ w ∈ winner, (w.running node (clock w.id).toInstant).runCount.toNat
              = w.runCount.toNat + 1)
          ∧ (winner = none → Record.passedOver policy runnable = runnable
              ∧ s'.performAt policy clock (.claim node) = (.ok none, s')) := by
  intro runnable winner
  obtain ⟨hanswer, hrecords⟩ := Memory.claim_eq node policy clock m hcountable
  obtain ⟨s', hcall, hkeeps, -⟩ := h.claim node policy clock hcountable
  refine ⟨fun r => Memory.mem_runnable, Memory.pairwise_runnable, s', _,
    hcall.trans (by rw [hanswer]), hkeeps, hrecords, ?_, ?_⟩
  · intro w hw
    obtain ⟨hmem, hnow⟩ := Memory.mem_runnable.mp (List.mem_of_find?_eq_some hw)
    have hstart := List.find?_some hw
    exact Record.toNat_runCount_running (Record.lt_of_mayStart (hcountable w hmem) hnow hstart) ..
  · intro hnone
    refine ⟨Record.passedOver_of_winner?_eq_none hnone, ?_⟩
    have hcountable' : ∀ r ∈ (m.performAt policy clock (.claim node)).2.records, r.Countable :=
      Memory.countable_claim hcountable
    have hagain := Memory.claim_of_runnable_eq_nil hcountable'
      (Memory.runnable_claim_eq_nil hcountable hnone)
    obtain ⟨s'', hcall', -, hsame⟩ := hkeeps.claim node policy clock hcountable'
    rw [hcall', hagain] at *
    rw [hsame rfl]

/-- `a` was asked to stop and `b` was lost too often, so the claim cancels both and takes `c`, which
was stored before `d` at the same time. `e` cools down. -/
theorem claims_oldest_startable_of_five :
    let task (id : String) : Record := Record.fresh id "noop" none ClockTime.epoch.toInstant
    let a : Record := { task "a" with cancelRequested := true }
    let b : Record := { task "b" with status := .failover, runCount := 1 }
    let e : Record := { task "e" with
      status := .failover, finishedAt := some ClockTime.epoch.toInstant, node := some "n" }
    let m : Memory := ⟨[a, b, task "c", task "d", e], by decide⟩
    let t : Table := ⟨m.records.map Row.ofRecord, by decide⟩
    let policy : FailoverPolicy := { maxAttempts := 1 }
    let clock : Readings := fun _ => .epoch
    Record.winner? policy (m.runnable "n" policy clock) = some (task "c")
      ∧ Record.passedOver policy (m.runnable "n" policy clock) = [a, b]
      ∧ ∃ s', (Store.database ⟨t, false⟩).performAt policy clock (.claim "n")
          = (.ok (some ((task "c").running "n" ClockTime.epoch.toInstant)), s') := by
  intro task a b e m t policy clock
  have htimes : ∀ r ∈ m.records, r.createdAt = ClockTime.epoch.toInstant ∧ r.startedAt = none
      ∧ (r.finishedAt = none ∨ r.finishedAt = some ClockTime.epoch.toInstant) := by
    decide +kernel
  have hwhole : ∀ r ∈ m.records, r.Whole := by
    intro r hr
    obtain ⟨hcreated, hstarted, hfinished⟩ := htimes r hr
    refine ⟨⟨.epoch, hcreated⟩, by simp [hstarted], ?_⟩
    intro t ht
    rcases hfinished with hnone | hsome
    · simp [hnone] at ht
    · rw [hsome] at ht
      exact ⟨.epoch, (Option.some.inj ht).symm⟩
  have hkeeps : (Store.database ⟨t, false⟩).Keeps m := .database ⟨rfl, hwhole⟩
  have hsorted : m.oldestFirst = m.records := List.mergeSort_of_pairwise (by decide +kernel)
  have hrunnable : m.runnable "n" policy clock = [a, b, task "c", task "d"] := by
    rw [Memory.runnable, hsorted]
    decide +kernel
  have hwinner : Record.winner? policy (m.runnable "n" policy clock) = some (task "c") := by
    rw [hrunnable]
    decide +kernel
  have hpassed : Record.passedOver policy (m.runnable "n" policy clock) = [a, b] := by
    rw [hrunnable]
    decide +kernel
  have hcountable : ∀ r ∈ m.records, r.status = .new → r.runCount = 0 := by decide +kernel
  obtain ⟨-, -, s', -, hcall, -⟩ := claims_oldest_startable "n" policy clock hkeeps
    fun r hr hnew => by simp [hcountable r hr hnew]
  rw [hwinner] at hcall
  exact ⟨hwinner, hpassed, s', hcall⟩

end Claim

end Store

end TaskCluster
