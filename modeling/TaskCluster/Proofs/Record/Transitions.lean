import Mathlib
import TaskCluster.Record.Basic

/-!
# What the transitions of a record keep

The transitions of `Record.Basic` are inverted here once, so that no later proof unfolds them.
Three facts are read off each of them: it stays with its task (`SameTask`), a task that nobody has
claimed has no run behind it (`Counted`), and its **epoch** moves the right way.

The epoch is twice the count of runs, and one more while no run is on. It grows by one when a run
begins and by one when that run ends, and nothing else moves it. That single number carries all
that is said about claims later on: the claim that produced the count `n` leaves the epoch `2 * n`
behind, and a report about that run needs to find it still there.
-/

namespace TaskCluster

namespace Record

/-! ### Staying with the task -/

/-- The two records are of one task: what never changes about a task is the same. -/
structure SameTask (old new : Record) : Prop where
  id : new.id = old.id
  taskType : new.taskType = old.taskType
  config : new.config = old.config
  createdAt : new.createdAt = old.createdAt

theorem SameTask.refl (r : Record) : SameTask r r := ⟨rfl, rfl, rfl, rfl⟩

theorem sameTask_appendLog (r : Record) (line : String) : SameTask r (r.appendLog line) :=
  ⟨rfl, rfl, rfl, rfl⟩

theorem sameTask_requestCancel (r : Record) : SameTask r r.requestCancel.2 := by
  unfold requestCancel
  split <;> exact ⟨rfl, rfl, rfl, rfl⟩

theorem sameTask_changeStatus (r : Record) (next : Status) (message : Option String)
    (now : Instant) : SameTask r (r.changeStatus next message now).2 := by
  unfold changeStatus
  split <;> exact ⟨rfl, rfl, rfl, rfl⟩

theorem sameTask_changeStatusFor (r : Record) (c : Claim) (next : Status)
    (message : Option String) (now : Instant) :
    SameTask r (r.changeStatusFor c next message now).2 := by
  unfold changeStatusFor
  split
  · exact sameTask_changeStatus r next message now
  · exact .refl r

theorem sameTask_checkHeartbeat (r : Record) (node : String) (ids : List String)
    (timeout : Duration) (now : Instant) :
    SameTask r (r.checkHeartbeat node ids timeout now).2 := by
  have hchange := sameTask_changeStatus r .failover (some (r.staleMessage node now)) now
  unfold checkHeartbeat
  split
  · exact .refl r
  split
  · exact ⟨rfl, rfl, rfl, rfl⟩
  split
  · dsimp only
    split <;> exact hchange
  · exact .refl r

/-! ### Offers

What a claim scan makes of a record, case by case. `offered` is the record as the scan leaves
it. -/

/-- The record as a claim scan leaves it. -/
def offered (r : Record) (node : String) (policy : FailoverPolicy) (now : Instant) : Record :=
  match r.offer node policy now with
  | .passed => r
  | .canceled new | .taken new | .overflowed new => new

theorem isRunnable_of_isRunnableNow {r : Record} {node : String} {policy : FailoverPolicy}
    {now : Instant} (h : r.isRunnableNow node policy now = true) : r.status.isRunnable = true := by
  unfold isRunnableNow at h
  cases hs : r.status <;> simp [hs, Status.isRunnable] at h ⊢

theorem offer_of_not_isRunnable {r : Record} (node : String) (policy : FailoverPolicy)
    (now : Instant) (h : r.status.isRunnable = false) : r.offer node policy now = .passed := by
  unfold offer
  by_cases hn : r.isRunnableNow node policy now = true
  · rw [isRunnable_of_isRunnableNow hn] at h
    cases h
  · rw [if_neg hn]

/-- Inverts an attempt to start a run, refusals included. -/
theorem start_cases (r : Record) (node : String) (maxAttempts : UInt32) (now : Instant)
    (h : r.status.isRunnable = true) :
    (r.start node maxAttempts now = (.refused, { r with status := .canceled })
        ∧ r.cancelRequested = true)
    ∨ (r.start node maxAttempts now
          = (.refused, { r with status := .canceled }.appendLog tooManyAttempts)
        ∧ r.status = .failover ∧ maxAttempts ≤ r.runCount)
    ∨ (r.start node maxAttempts now = (.started, r.running node now)
        ∧ r.cancelRequested = false ∧ (r.status = .failover → ¬ maxAttempts ≤ r.runCount)
        ∧ r.runCount.toNat + 1 < UInt32.size)
    ∨ (r.start node maxAttempts now = (.overflowed, r.begun now)
        ∧ (r.status = .failover → ¬ maxAttempts ≤ r.runCount)
        ∧ ¬ r.runCount.toNat + 1 < UInt32.size) := by
  unfold start
  rw [if_neg (by simp [h])]
  by_cases hc : r.cancelRequested = true
  · exact Or.inl ⟨if_pos hc, hc⟩
  rw [if_neg hc]
  by_cases hf : r.status = .failover ∧ maxAttempts ≤ r.runCount
  · exact Or.inr (Or.inl ⟨if_pos hf, hf.1, hf.2⟩)
  rw [if_neg hf]
  have hlimit : r.status = .failover → ¬ maxAttempts ≤ r.runCount := fun hs hm => hf ⟨hs, hm⟩
  by_cases hn : r.runCount.toNat + 1 < UInt32.size
  · exact Or.inr (Or.inr (Or.inl ⟨if_pos hn, by simpa using hc, hlimit, hn⟩))
  · exact Or.inr (Or.inr (Or.inr ⟨if_neg hn, hlimit, hn⟩))

/-- A run that begins is counted. -/
theorem toNat_runCount_running {r : Record} (h : r.runCount.toNat + 1 < UInt32.size)
    (node : String) (now : Instant) :
    (r.running node now).runCount.toNat = r.runCount.toNat + 1 := by
  change (r.runCount + 1).toNat = r.runCount.toNat + 1
  rw [UInt32.toNat_add]
  exact Nat.mod_eq_of_lt h

/-- Inverts an offer. -/
theorem offer_cases (r : Record) (node : String) (policy : FailoverPolicy) (now : Instant) :
    r.offer node policy now = .passed
    ∨ (r.offer node policy now = .canceled { r with status := .canceled }
        ∧ r.status.isRunnable = true ∧ r.cancelRequested = true)
    ∨ (r.offer node policy now
          = .canceled ({ r with status := .canceled }.appendLog tooManyAttempts)
        ∧ r.status.isRunnable = true ∧ r.status = .failover ∧ policy.maxAttempts ≤ r.runCount)
    ∨ (r.offer node policy now = .taken (r.running node now)
        ∧ r.status.isRunnable = true ∧ r.cancelRequested = false
        ∧ (r.status = .failover → ¬ policy.maxAttempts ≤ r.runCount)
        ∧ r.runCount.toNat + 1 < UInt32.size)
    ∨ (r.offer node policy now = .overflowed (r.begun now)
        ∧ r.status.isRunnable = true
        ∧ (r.status = .failover → ¬ policy.maxAttempts ≤ r.runCount)
        ∧ ¬ r.runCount.toNat + 1 < UInt32.size) := by
  unfold offer
  by_cases hn : r.isRunnableNow node policy now = true
  · rw [if_pos hn]
    have hr := isRunnable_of_isRunnableNow hn
    rcases start_cases r node policy.maxAttempts now hr with
      ⟨hs, hcancel⟩ | ⟨hs, hlimit⟩ | ⟨hs, hstart⟩ | ⟨hs, hfull⟩ <;> rw [hs]
    · exact Or.inr (Or.inl ⟨rfl, hr, hcancel⟩)
    · exact Or.inr (Or.inr (Or.inl ⟨rfl, hr, hlimit⟩))
    · exact Or.inr (Or.inr (Or.inr (Or.inl ⟨rfl, hr, hstart⟩)))
    · exact Or.inr (Or.inr (Or.inr (Or.inr ⟨rfl, hr, hfull⟩)))
  · exact Or.inl (if_neg hn)

/-- Inverts an offer that cancels the task. -/
theorem of_offer_canceled {r new : Record} {node : String} {policy : FailoverPolicy}
    {now : Instant} (h : r.offer node policy now = .canceled new) :
    r.status.isRunnable = true ∧ new.status = .canceled ∧ new.runCount = r.runCount
      ∧ new.startedAt = r.startedAt ∧ new.finishedAt = r.finishedAt ∧ SameTask r new := by
  rcases r.offer_cases node policy now with
    ho | ⟨ho, hr, -⟩ | ⟨ho, hr, -⟩ | ⟨ho, -⟩ | ⟨ho, -⟩ <;> rw [ho] at h
  · cases h
  · obtain rfl := Offer.canceled.inj h
    exact ⟨hr, rfl, rfl, rfl, rfl, rfl, rfl, rfl, rfl⟩
  · obtain rfl := Offer.canceled.inj h
    exact ⟨hr, rfl, rfl, rfl, rfl, rfl, rfl, rfl, rfl⟩
  · cases h
  · cases h

/-- Inverts an offer that the node takes. -/
theorem of_offer_taken {r new : Record} {node : String} {policy : FailoverPolicy}
    {now : Instant} (h : r.offer node policy now = .taken new) :
    r.status.isRunnable = true ∧ new = r.running node now
      ∧ r.runCount.toNat + 1 < UInt32.size := by
  rcases r.offer_cases node policy now with
    ho | ⟨ho, -⟩ | ⟨ho, -⟩ | ⟨ho, hr, -, -, hlt⟩ | ⟨ho, -⟩ <;> rw [ho] at h
  · cases h
  · cases h
  · cases h
  · exact ⟨hr, (Offer.taken.inj h).symm, hlt⟩
  · cases h

/-- Only a task that nobody asked to stop, and that was not lost too often, is taken. -/
theorem limit_of_offer_taken {r new : Record} {node : String} {policy : FailoverPolicy}
    {now : Instant} (h : r.offer node policy now = .taken new) :
    r.cancelRequested = false ∧ (r.status = .failover → r.runCount < policy.maxAttempts) := by
  rcases r.offer_cases node policy now with
    ho | ⟨ho, -⟩ | ⟨ho, -⟩ | ⟨-, -, hcancel, hlimit, -⟩ | ⟨ho, -⟩
  · rw [ho] at h
    cases h
  · rw [ho] at h
    cases h
  · rw [ho] at h
    cases h
  · exact ⟨hcancel, fun hs => UInt32.not_le.mp (hlimit hs)⟩
  · rw [ho] at h
    cases h

/-- Inverts an offer that meets the limit of the counter. -/
theorem of_offer_overflowed {r new : Record} {node : String} {policy : FailoverPolicy}
    {now : Instant} (h : r.offer node policy now = .overflowed new) : new = r.begun now := by
  rcases r.offer_cases node policy now with
    ho | ⟨ho, -⟩ | ⟨ho, -⟩ | ⟨ho, -⟩ | ⟨ho, -⟩ <;> rw [ho] at h
  · cases h
  · cases h
  · cases h
  · cases h
  · exact (Offer.overflowed.inj h).symm

theorem sameTask_offered (r : Record) (node : String) (policy : FailoverPolicy) (now : Instant) :
    SameTask r (r.offered node policy now) := by
  unfold offered
  cases h : r.offer node policy now with
  | passed => exact .refl r
  | canceled new => exact (of_offer_canceled h).2.2.2.2.2
  | taken new =>
    obtain ⟨-, rfl, -⟩ := of_offer_taken h
    exact ⟨rfl, rfl, rfl, rfl⟩
  | overflowed new =>
    obtain rfl := of_offer_overflowed h
    exact ⟨rfl, rfl, rfl, rfl⟩

/-! ### Counted runs -/

/-- A task that nobody has claimed has no run behind it. -/
def Counted (r : Record) : Prop := r.status = .new → r.runCount = 0

/-- The counter of a counted record never overflows: a new task has no run behind it, and one in
failover with the greatest count is canceled under every limit. -/
theorem Counted.offer_ne_overflowed {r : Record} (hr : r.Counted) (node : String)
    (policy : FailoverPolicy) (now : Instant) (new : Record) :
    r.offer node policy now ≠ .overflowed new := by
  intro h
  rcases r.offer_cases node policy now with
    ho | ⟨ho, -⟩ | ⟨ho, -⟩ | ⟨ho, -⟩ | ⟨ho, hrun, hlimit, hfull⟩ <;> rw [ho] at h
  · cases h
  · cases h
  · cases h
  · cases h
  · have hcount : r.runCount.toNat < 2 ^ 32 := r.runCount.toNat_lt
    have hmax : policy.maxAttempts.toNat < 2 ^ 32 := policy.maxAttempts.toNat_lt
    simp only [UInt32.size] at hfull
    cases hst : r.status with
    | new =>
      rw [hr hst] at hfull
      simp at hfull
    | failover =>
      have hlt := hlimit hst
      rw [UInt32.le_iff_toNat_le] at hlt
      omega
    | _ => simp [hst, Status.isRunnable] at hrun

theorem counted_fresh (id taskType : String) (config : Option Json.Object) (now : Instant) :
    (fresh id taskType config now).Counted := fun _ => rfl

theorem counted_requestCancel {r : Record} (h : r.Counted) : r.requestCancel.2.Counted := by
  unfold requestCancel
  split <;> exact h

/-- The transition table leads nowhere back to a new task. -/
theorem counted_changeStatus {r : Record} (h : r.Counted) (next : Status)
    (message : Option String) (now : Instant) : (r.changeStatus next message now).2.Counted := by
  unfold changeStatus
  split
  case isTrue hc =>
    intro hnew
    obtain rfl : next = .new := hnew
    cases hs : r.status <;> simp [hs, Status.canChangeTo] at hc
  case isFalse => exact h

theorem counted_changeStatusFor {r : Record} (h : r.Counted) (c : Claim) (next : Status)
    (message : Option String) (now : Instant) :
    (r.changeStatusFor c next message now).2.Counted := by
  unfold changeStatusFor
  split
  · exact counted_changeStatus h next message now
  · exact h

theorem counted_checkHeartbeat {r : Record} (h : r.Counted) (node : String) (ids : List String)
    (timeout : Duration) (now : Instant) :
    (r.checkHeartbeat node ids timeout now).2.Counted := by
  have hchange := counted_changeStatus h .failover (some (r.staleMessage node now)) now
  unfold checkHeartbeat
  split
  · exact h
  split
  · exact h
  split
  · dsimp only
    split <;> exact hchange
  · exact h

/-- An offer ends in another status or leaves the record alone. -/
theorem counted_offered {r : Record} (h : r.Counted) (node : String) (policy : FailoverPolicy)
    (now : Instant) : (r.offered node policy now).Counted := by
  unfold offered
  cases ho : r.offer node policy now with
  | passed => exact h
  | canceled new =>
    intro hnew
    rw [(of_offer_canceled ho).2.1] at hnew
    cases hnew
  | taken new =>
    obtain ⟨-, rfl, -⟩ := of_offer_taken ho
    intro hnew
    cases hnew
  | overflowed new => exact absurd ho (h.offer_ne_overflowed node policy now new)

/-! ### Refusals

A transition that answers that it did nothing has done nothing. -/

theorem requestCancel_refused {r : Record} (h : r.requestCancel.1 = false) :
    r.requestCancel.2 = r := by
  unfold requestCancel at h ⊢
  split at h
  case isTrue hc => rw [if_pos hc]
  case isFalse => cases h

theorem changeStatus_refused {r : Record} {next : Status} {message : Option String}
    {now : Instant} (h : (r.changeStatus next message now).1 = false) :
    (r.changeStatus next message now).2 = r := by
  unfold changeStatus at h ⊢
  split at h
  case isTrue => cases h
  case isFalse hc => rw [if_neg hc]

theorem changeStatusFor_refused {r : Record} {c : Claim} {next : Status}
    {message : Option String} {now : Instant}
    (h : (r.changeStatusFor c next message now).1 = false) :
    (r.changeStatusFor c next message now).2 = r := by
  unfold changeStatusFor at h ⊢
  split at h
  case isTrue hc =>
    rw [if_pos hc]
    exact changeStatus_refused h
  case isFalse hc => rw [if_neg hc]

theorem checkHeartbeat_untouched {r : Record} {node : String} {ids : List String}
    {timeout : Duration} {now : Instant}
    (h : (r.checkHeartbeat node ids timeout now).1 = .untouched) :
    (r.checkHeartbeat node ids timeout now).2 = r := by
  unfold checkHeartbeat at h ⊢
  split at h
  case isTrue hs => rw [if_pos hs]
  case isFalse hs =>
    rw [if_neg hs]
    split at h
    case isTrue => cases h
    case isFalse hn =>
      rw [if_neg hn]
      split at h
      case isFalse hold => rw [if_neg hold]
      case isTrue hold =>
        rw [if_pos hold]
        dsimp only at h ⊢
        split at h
        case isTrue => cases h
        case isFalse hc =>
          rw [if_neg hc]
          exact changeStatus_refused (by simpa using hc)

theorem checkHeartbeat_of_not_running {r : Record} (h : r.status ≠ .running) (node : String)
    (ids : List String) (timeout : Duration) (now : Instant) :
    r.checkHeartbeat node ids timeout now = (.untouched, r) := if_pos h

/-! ### Epochs -/

/-- Twice the count of runs, and one more while no run is on. -/
def epoch (r : Record) : Nat := 2 * r.runCount.toNat + if r.status = .running then 0 else 1

theorem epoch_of_running {r : Record} (h : r.status = .running) :
    r.epoch = 2 * r.runCount.toNat := by simp [epoch, h]

theorem epoch_of_not_running {r : Record} (h : r.status ≠ .running) :
    r.epoch = 2 * r.runCount.toNat + 1 := by simp [epoch, h]

/-- A run is on exactly in the even epochs. -/
theorem running_iff_even (r : Record) : r.status = .running ↔ r.epoch % 2 = 0 := by
  by_cases h : r.status = .running
  · simp [epoch_of_running h, h]
  · have he := epoch_of_not_running h
    constructor
    · exact fun hr => absurd hr h
    · intro hm
      omega

/-- The epoch stays or goes on by one. -/
def Advances (old new : Record) : Prop := old.epoch ≤ new.epoch ∧ new.epoch ≤ old.epoch + 1

theorem Advances.refl (r : Record) : Advances r r := ⟨Nat.le_refl _, Nat.le_succ _⟩

theorem Advances.of_epoch_eq {old new : Record} (h : new.epoch = old.epoch) :
    Advances old new := ⟨Nat.le_of_eq h.symm, by omega⟩

theorem advances_requestCancel (r : Record) : Advances r r.requestCancel.2 := by
  unfold requestCancel
  split <;> exact .of_epoch_eq rfl

theorem advances_appendLog (r : Record) (line : String) : Advances r (r.appendLog line) :=
  .of_epoch_eq rfl

/-- A change of status ends a run or touches none, unless it begins one by hand. -/
theorem advances_changeStatus {next : Status} (hnext : next ≠ .running) (r : Record)
    (message : Option String) (now : Instant) :
    Advances r (r.changeStatus next message now).2 := by
  unfold changeStatus
  split
  case isTrue =>
    have hnew : (r.moved next message now).epoch = 2 * r.runCount.toNat + 1 :=
      epoch_of_not_running hnext
    refine ⟨?_, ?_⟩ <;> rw [hnew] <;> unfold epoch <;> split <;> omega
  case isFalse => exact .refl r

theorem advances_checkHeartbeat (r : Record) (node : String) (ids : List String)
    (timeout : Duration) (now : Instant) :
    Advances r (r.checkHeartbeat node ids timeout now).2 := by
  have hnext : Status.failover ≠ .running := by decide
  have hchange := advances_changeStatus hnext r (some (r.staleMessage node now)) now
  unfold checkHeartbeat
  split
  · exact .refl r
  split
  · exact .of_epoch_eq rfl
  split
  · dsimp only
    split <;> exact hchange
  · exact .refl r

/-- No run is on before an offer that is answered. -/
theorem not_running_of_isRunnable {r : Record} (h : r.status.isRunnable = true) :
    r.status ≠ .running := by
  intro hs
  simp [hs, Status.isRunnable] at h

theorem epoch_of_offer_canceled {r new : Record} {node : String} {policy : FailoverPolicy}
    {now : Instant} (h : r.offer node policy now = .canceled new) : new.epoch = r.epoch := by
  obtain ⟨hr, hs, hcount, -⟩ := of_offer_canceled h
  rw [epoch_of_not_running (by simp [hs]), hcount,
    epoch_of_not_running (not_running_of_isRunnable hr)]

/-- A claim opens the epoch of its own count. -/
theorem epoch_of_offer_taken {r new : Record} {node : String} {policy : FailoverPolicy}
    {now : Instant} (h : r.offer node policy now = .taken new) :
    new.epoch = 2 * new.runCount.toNat ∧ r.epoch + 1 = 2 * new.runCount.toNat := by
  obtain ⟨hr, rfl, hlt⟩ := of_offer_taken h
  refine ⟨epoch_of_running rfl, ?_⟩
  rw [epoch_of_not_running (not_running_of_isRunnable hr), toNat_runCount_running hlt]
  omega

theorem advances_offered {r : Record} (h : r.Counted) (node : String) (policy : FailoverPolicy)
    (now : Instant) : Advances r (r.offered node policy now) := by
  unfold offered
  cases ho : r.offer node policy now with
  | passed => exact .refl r
  | canceled new => exact .of_epoch_eq (epoch_of_offer_canceled ho)
  | taken new =>
    obtain ⟨hnew, hold⟩ := epoch_of_offer_taken ho
    have hstep : r.epoch ≤ new.epoch ∧ new.epoch ≤ r.epoch + 1 := by omega
    exact hstep
  | overflowed new => exact absurd ho (h.offer_ne_overflowed node policy now new)

/-- An accepted report ends the run that it is about. -/
theorem of_changeStatusFor {r : Record} {c : Claim} {next : Status} {message : Option String}
    {now : Instant} (h : (r.changeStatusFor c next message now).1 = true) :
    r.isRunningUnder c = true ∧ (r.changeStatusFor c next message now).2.status = next
      ∧ next ≠ .running := by
  unfold changeStatusFor at h ⊢
  split at h
  case isFalse => cases h
  case isTrue hc =>
    have hrun : r.status = .running := by
      simp only [isRunningUnder, Bool.and_eq_true, beq_iff_eq] at hc
      exact hc.1.1
    rw [if_pos hc]
    unfold changeStatus at h ⊢
    split at h
    case isFalse => cases h
    case isTrue ht =>
      rw [if_pos ht]
      refine ⟨hc, rfl, ?_⟩
      rintro rfl
      simp [hrun, Status.canChangeTo] at ht

theorem advances_changeStatusFor (r : Record) (c : Claim) (next : Status)
    (message : Option String) (now : Instant) :
    Advances r (r.changeStatusFor c next message now).2 := by
  by_cases hc : r.isRunningUnder c = true
  · have heq : r.changeStatusFor c next message now = r.changeStatus next message now :=
      if_pos hc
    rw [heq]
    by_cases hnext : next = .running
    · have hrun : r.status = .running := by
        simp only [isRunningUnder, Bool.and_eq_true, beq_iff_eq] at hc
        exact hc.1.1
      -- A run cannot be entered from itself, so this change is refused.
      have hsame : r.changeStatus next message now = (false, r) :=
        if_neg (by simp [hrun, hnext, Status.canChangeTo])
      rw [hsame]
      exact .refl r
    · exact advances_changeStatus hnext r message now
  · have heq : r.changeStatusFor c next message now = (false, r) := if_neg hc
    rw [heq]
    exact .refl r

end Record

end TaskCluster
