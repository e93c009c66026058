import Mathlib
import TaskCluster.Proofs.Store.Passage

/-!
# The budget of attempts

In traffic from an empty store the claims of a task carry the counts 1, 2, 3 and so on, the record
keeps the last of them, and no count exceeds the greatest limit of attempts that a node looks with,
or one if that is zero. The limit is only tested for a task in failover, and the bound holds because
any other task that is taken is new, and a new task has no run behind it.

A call overflows only where it offers a record whose counter is at its limit
(`Traffic.offered_of_overflow`), so no call does.
-/

namespace TaskCluster

/-! ### Calls without a result

A call ends with a fault of the database, but for a line to the log of an unknown task and for a
claim that offers a record whose counter is at its limit. -/

theorem bind_eq_error_iff {ε α β : Type} {x : Except ε α} {f : α → Except ε β} {e : ε} :
    (x >>= f) = .error e ↔ x = .error e ∨ ∃ a, x = .ok a ∧ f a = .error e := by
  cases x <;> simp [bind, Except.bind]

theorem orFault_eq_error_iff {α : Type} {x : Except DatabaseFault α} {e : Abort} :
    orFault x = .error e ↔ ∃ fault, x = .error fault ∧ e = fault.abort := by
  cases x <;> simp [orFault, eq_comm]

theorem fault_of_orFault {α : Type} {x : Except DatabaseFault α} {e : Abort}
    (h : orFault x = .error e) : ∃ fault : DatabaseFault, e = fault.abort := by
  obtain ⟨fault, -, he⟩ := orFault_eq_error_iff.mp h
  exact ⟨fault, he⟩

namespace Transaction

variable {t : Table} {e : Abort}

theorem fault_of_insert {r : Record} (h : insert r t = .error e) :
    ∃ fault : DatabaseFault, e = fault.abort := by
  rcases bind_eq_error_iff.mp h with hinsert | ⟨t', -, hwrite⟩
  · exact fault_of_orFault hinsert
  · cases hwrite

theorem fault_of_change {α : Type} {id : String} {f : Record → Bool × α × Record}
    (h : change id f t = .error e) : ∃ fault : DatabaseFault, e = fault.abort := by
  unfold change at h
  split at h
  case h_1 => cases h
  case h_2 =>
    rcases bind_eq_error_iff.mp h with hread | ⟨r, -, hwrite⟩
    · exact fault_of_orFault hread
    · cases hwrite

theorem fault_of_changeIf {id : String} {f : Record → Bool × Record}
    (h : changeIf id f t = .error e) : ∃ fault : DatabaseFault, e = fault.abort := by
  rcases bind_eq_error_iff.mp h with hchange | ⟨p, -, hwrite⟩
  · exact fault_of_change hchange
  · cases hwrite

theorem fault_or_notFound_of_log {id line : String} (h : log id line t = .error e) :
    (∃ fault : DatabaseFault, e = fault.abort) ∨ e = .failure (.taskNotFound id) := by
  rcases bind_eq_error_iff.mp h with hchange | ⟨⟨a, t'⟩, -, hwrite⟩
  · exact .inl (fault_of_change hchange)
  · cases a with
    | some => cases hwrite
    | none => exact .inr (Except.error.inj hwrite).symm

theorem fault_of_heartbeat {node : String} {listed : List String} {timeout : Duration}
    {clock : Readings} (h : heartbeat node listed timeout clock t = .error e) :
    ∃ fault : DatabaseFault, e = fault.abort := by
  rcases bind_eq_error_iff.mp h with hrecords | ⟨rs, -, hwrite⟩
  · exact fault_of_orFault hrecords
  · cases hwrite

theorem overflow_of_offerAll {node : String} {policy : FailoverPolicy} {clock : Readings}
    {rs : List Record} (h : offerAll node policy clock rs t = .error e) :
    e = .overflow .counter ∧ ∃ r ∈ rs, ∃ now new, r.offer node policy now = .overflowed new := by
  induction rs generalizing t with
  | nil => cases h
  | cons r rs ih =>
    have hrest : ∀ {t'}, offerAll node policy clock rs t' = .error e → e = .overflow .counter
        ∧ ∃ r' ∈ r :: rs, ∃ now new, r'.offer node policy now = .overflowed new := by
      intro t' h'
      obtain ⟨he, r', hr', hoffer⟩ := ih h'
      exact ⟨he, r', List.mem_cons_of_mem r hr', hoffer⟩
    rw [offerAll] at h
    split at h
    case h_1 => exact hrest h
    case h_2 => exact hrest h
    case h_3 => cases h
    case h_4 new ho => exact ⟨(Except.error.inj h).symm, r, List.mem_cons_self, _, new, ho⟩

theorem fault_or_overflow_of_claim {node : String} {policy : FailoverPolicy} {clock : Readings}
    (h : claim node policy clock t = .error e) :
    (∃ fault : DatabaseFault, e = fault.abort) ∨ e = .overflow .counter
      ∧ ∃ rs r node policy now new, records [.new, .failover] t = .ok rs ∧ r ∈ rs
        ∧ r.offer node policy now = .overflowed new := by
  rcases bind_eq_error_iff.mp h with hrecords | ⟨rs, hrs, hoffer⟩
  · exact .inl (fault_of_orFault hrecords)
  · obtain ⟨he, r, hr, now, new, ho⟩ := overflow_of_offerAll hoffer
    exact .inr ⟨he, rs, r, node, policy, now, new, hrs, hr, ho⟩

end Transaction

/-- A transaction overflows only in its work. -/
theorem Database.of_write_overflow {α : Type} {d : Database} {busy : Except Abort α}
    {work : Transaction α} {o : Overflow} (h : (d.write busy work).1 = .error (.overflow o))
    (hbusy : busy ≠ .error (.overflow o)) : work d.table = .error (.overflow o) := by
  rcases d.write_cases busy work with ⟨-, heq⟩ | ⟨e, hwork, heq⟩ | ⟨a, t, -, heq⟩ <;> rw [heq] at h
  · exact absurd h hbusy
  · rw [hwork, Except.error.inj h]
  · cases h

/-- The database holds a record whose offer overflows, if a call does. -/
theorem Database.offered_of_overflow {d : Database} {policy : FailoverPolicy} {clock : Readings}
    {c : Call} {o : Overflow} (h : (d.performAt policy clock c).1 = .error (.overflow o)) :
    ∃ id r node policy now new,
      d.table.record? id = some r ∧ r.offer node policy now = .overflowed new := by
  have hfault : ¬ ∃ fault : DatabaseFault, (.overflow o : Abort) = fault.abort := nofun
  cases c with
  | create => exact absurd (Transaction.fault_of_insert (of_write_overflow h nofun)) hfault
  | list => exact absurd (fault_of_orFault h) hfault
  | get id =>
    dsimp only [performAt, get] at h
    split at h
    · cases h
    · exact absurd (fault_of_orFault h) hfault
  | requestCancel | change | changeFor =>
    exact absurd (Transaction.fault_of_changeIf (of_write_overflow h nofun)) hfault
  | log =>
    rcases Transaction.fault_or_notFound_of_log (of_write_overflow h nofun) with hf | hnone
    · exact absurd hf hfault
    · cases hnone
  | heartbeat => exact absurd (Transaction.fault_of_heartbeat (of_write_overflow h nofun)) hfault
  | claim node =>
    rcases Transaction.fault_or_overflow_of_claim (of_write_overflow h nofun) with
      hf | ⟨-, rs, r, node, policy, now, new, hrs, hr, ho⟩
    · exact absurd hf hfault
    · exact ⟨r.id, r, node, policy, now, new, (Transaction.current_records hrs).record? r hr, ho⟩

namespace Traffic

/-- A look of a call that is under way overflows only at the record that it looks at. -/
theorem offered_of_lookAt {policy : FailoverPolicy} {now : Instant} {m : Memory} {call : Underway}
    {c : Call} {o : Overflow}
    (h : (lookAt policy now m call).1 = some ⟨c, .error (.overflow o)⟩) :
    ∃ id r node new, m.get? id = some r ∧ r.offer node policy now = .overflowed new := by
  cases call with
  | claim node ids =>
    cases ids with
    | nil => cases h
    | cons id ids =>
      have hlook := Memory.scanOne_fst_eq node policy now m id
      rw [lookAt] at h
      split at h
      case h_1 => cases h
      case h_2 result m' heq =>
        rw [heq] at hlook
        obtain ⟨r, hr, hresult⟩ := Option.bind_eq_some_iff.mp hlook.symm
        obtain ⟨rfl, hanswer⟩ := Sigma.mk.inj_iff.mp (Option.some.inj h)
        cases ho : r.offer node policy now with
        | passed | canceled =>
          rw [ho] at hresult
          cases hresult
        | taken new =>
          rw [ho] at hresult
          obtain rfl := Option.some.inj hresult
          cases eq_of_heq hanswer
        | overflowed new => exact ⟨id, r, node, new, hr, ho⟩
  | heartbeat node listed timeout ids =>
    cases ids with
    | nil => cases h
    | cons id ids => cases h

/-- A call overflows only where a record is offered whose counter is at its limit. -/
theorem offered_of_overflow {s : Traffic} {e : Event} {c : Call} {o : Overflow}
    (h : (s.step e).1 = some ⟨c, .error (.overflow o)⟩) :
    ∃ id r node policy now new,
      s.store.record? id = some r ∧ r.offer node policy now = .overflowed new := by
  obtain ⟨store, underway⟩ := s
  cases e with
  | call policy clock c' =>
    cases store with
    | memory m =>
      cases c' with
      | log id line =>
        obtain ⟨rfl, hanswer⟩ := Sigma.mk.inj_iff.mp (Option.some.inj h)
        have hresult : (m.performAt policy clock (.log id line)).1 = .error (.overflow o) :=
          (eq_of_heq hanswer)
        dsimp only [Memory.performAt] at hresult
        split at hresult <;> cases hresult
      | _ => cases h
    | database d =>
      obtain ⟨rfl, hanswer⟩ := Sigma.mk.inj_iff.mp (Option.some.inj h)
      obtain ⟨id, r, node, policy', now, new, hr, ho⟩ :=
        Database.offered_of_overflow (eq_of_heq hanswer)
      exact ⟨id, r, node, policy', now, new, (Store.record?_database d id).trans hr, ho⟩
  | look policy now n =>
    dsimp only [step] at h
    split at h
    case h_1 =>
      obtain ⟨id, r, node, new, hr, ho⟩ := offered_of_lookAt h
      exact ⟨id, r, node, policy, _, new, hr, ho⟩
    case h_2 => cases h
  | skip n =>
    dsimp only [step] at h
    split at h <;> cases h
  | lock locked => cases h

end Traffic

/-! ### Counts of claims -/

/-- A claim counts its run, within the limit of attempts. -/
theorem Record.Counted.runCount_of_taken {r new : Record} (hr : r.Counted) {node : String}
    {policy : FailoverPolicy} {now : Instant} (h : r.offer node policy now = .taken new) :
    new.runCount.toNat = r.runCount.toNat + 1
      ∧ new.runCount.toNat ≤ max 1 policy.maxAttempts.toNat := by
  obtain ⟨hrunnable, rfl, hlt⟩ := of_offer_taken h
  obtain ⟨-, hlimit⟩ := limit_of_offer_taken h
  have hcount := toNat_runCount_running hlt node now
  refine ⟨hcount, ?_⟩
  rw [hcount]
  cases hs : r.status with
  | new =>
    rw [hr hs]
    exact le_max_left 1 _
  | failover =>
    have hle := UInt32.lt_iff_toNat_lt.mp (hlimit hs)
    exact le_trans hle (le_max_right 1 _)
  | _ =>
    rw [hs] at hrunnable
    cases hrunnable

/-- Runs are counted by claims alone, one by each. -/
theorem Passage.runs {id : String} {answer : Option Answer} {moment : Option Moment}
    {before after : Option Record} (h : Passage id answer moment before after)
    (hbefore : ∀ r ∈ before, r.Counted) :
    (answer.bind (Answer.claimed? id) = none ∧ Record.runsOf after = Record.runsOf before)
    ∨ ∃ m new, moment = some m ∧ answer.bind (Answer.claimed? id) = some new ∧ after = some new
        ∧ new.runCount.toNat = Record.runsOf before + 1
        ∧ new.runCount.toNat ≤ max 1 m.policy.maxAttempts.toNat := by
  rcases h.runsOf_eq_or_taken with
    hkept | ⟨m, node, old, new, hmoment, rfl, hafter, hclaimed, htaken⟩
  · exact Or.inl hkept
  · obtain ⟨hcount, hle⟩ := (hbefore old rfl).runCount_of_taken htaken
    exact Or.inr ⟨m, new, hmoment, hclaimed, hafter, hcount, hle⟩

namespace Traffic

/-- The policy of the node that an event is about. -/
def Event.policy? : Event → Option FailoverPolicy
  | .call policy _ _ | .look policy _ _ => some policy
  | .skip _ | .lock _ => none

/-- The counts of the claims of an id that were handed out before the `i`-th event, in order. -/
def countsAt (s : Traffic) (events : List Event) (id : String) (i : Nat) : List Nat :=
  (List.range i).filterMap fun j =>
    ((s.answer events j).bind (Answer.claimed? id)).map fun r => r.runCount.toNat

variable {s : Traffic} {events : List Event}

theorem countsAt_succ (id : String) (i : Nat) :
    s.countsAt events id (i + 1) = s.countsAt events id i
      ++ (((s.answer events i).bind (Answer.claimed? id)).map
        fun r => r.runCount.toNat).toList := by
  unfold countsAt
  rw [List.range_succ, List.filterMap_append]
  rfl

theorem policy?_of_momentAt {id : String} {i : Nat} {m : Moment}
    (h : momentAt events id i = some m) : ∃ e ∈ events, e.policy? = some m.policy := by
  obtain ⟨e, he, hm⟩ := Option.bind_eq_some_iff.mp h
  refine ⟨e, List.mem_of_getElem? he, ?_⟩
  cases e with
  | call | look =>
    obtain rfl := Option.some.inj hm
    rfl
  | _ => cases hm

namespace FromScratch

variable (h : FromScratch s events)

include h

/-- What carries the induction over the events: the claims so far carry the counts up to that of the
record. -/
theorem countsAt_eq (id : String) (i : Nat) :
    s.countsAt events id i = List.range' 1 (Record.runsOf (s.recordAt events id i)) := by
  induction i with
  | zero =>
    rw [h.recordAt_zero]
    rfl
  | succ i ih =>
    rw [countsAt_succ, ih]
    rcases (h.passage id i).runs (h.counted id i) with
      ⟨hnone, hruns⟩ | ⟨m, new, -, hclaimed, hafter, hcount, -⟩
    · rw [hnone, hruns]
      exact List.append_nil _
    · have hruns : Record.runsOf (s.recordAt events id (i + 1)) = new.runCount.toNat := by
        rw [hafter]
        rfl
      rw [hclaimed, hruns, hcount, List.range'_1_concat, Nat.add_comm 1]
      simp [hcount]

theorem length_countsAt (id : String) (i : Nat) :
    (s.countsAt events id i).length = Record.runsOf (s.recordAt events id i) := by
  rw [h.countsAt_eq, List.length_range']

theorem runsOf_le {limit : UInt32} (hlimit : ∀ e ∈ events, ∀ p ∈ e.policy?, p.maxAttempts ≤ limit)
    (id : String) (i : Nat) : Record.runsOf (s.recordAt events id i) ≤ max 1 limit.toNat := by
  induction i with
  | zero =>
    rw [h.recordAt_zero]
    exact Nat.zero_le _
  | succ i ih =>
    rcases (h.passage id i).runs (h.counted id i) with
      ⟨-, hruns⟩ | ⟨m, new, hmoment, -, hafter, -, hle⟩
    · rw [hruns]
      exact ih
    · obtain ⟨e, he, hpolicy⟩ := policy?_of_momentAt hmoment
      have hmax := UInt32.le_iff_toNat_le.mp (hlimit e he _ hpolicy)
      rw [hafter]
      exact le_trans hle (max_le_max_left 1 hmax)

/-- No call ever overflows. -/
theorem answer_ne_overflow (i : Nat) (c : Call) (o : Overflow) :
    s.answer events i ≠ some ⟨c, .error (.overflow o)⟩ := by
  intro hanswer
  obtain ⟨e, -, hstep⟩ := Option.bind_eq_some_iff.mp hanswer
  obtain ⟨id, r, node, policy, now, new, hr, ho⟩ := offered_of_overflow hstep
  exact (h.counted id i r hr).offer_ne_overflowed node policy now new ho

/-- **Tasks are started within their budget.** In any traffic from an empty store, of nodes that
look with some limit of attempts at most, the claims of each task carry the counts 1, 2, 3 and so
on, the record counts as many runs as claims were handed out, these are no more than the limit
allows, or one, and no counter overflows. -/
theorem starts_within_budget {limit : UInt32}
    (hlimit : ∀ e ∈ events, ∀ p ∈ e.policy?, p.maxAttempts ≤ limit) :
    (∀ id i, s.countsAt events id i = List.range' 1 (s.countsAt events id i).length
        ∧ (s.countsAt events id i).length ≤ max 1 limit.toNat)
    ∧ (∀ id i r, s.recordAt events id i = some r →
        r.runCount.toNat = (s.countsAt events id i).length)
    ∧ (∀ i r, s.Claims events i r →
        r.runCount.toNat = (s.countsAt events r.id i).length + 1
          ∧ s.recordAt events r.id (i + 1) = some r)
    ∧ (∀ i c o, s.answer events i ≠ some ⟨c, .error (.overflow o)⟩) := by
  refine ⟨fun id i => ⟨?_, ?_⟩, ?_, ?_, h.answer_ne_overflow⟩
  · rw [h.length_countsAt]
    exact h.countsAt_eq id i
  · rw [h.length_countsAt]
    exact h.runsOf_le hlimit id i
  · intro id i r hr
    rw [h.length_countsAt, hr]
    rfl
  · rintro i r ⟨node, hanswer⟩
    have hclaims : (s.answer events i).bind (Answer.claimed? r.id) = some r := by
      rw [hanswer]
      exact if_pos rfl
    rcases (h.passage r.id i).runs (h.counted r.id i) with
      ⟨hnone, -⟩ | ⟨m, new, -, hclaimed, hafter, hcount, -⟩
    · rw [hnone] at hclaims
      cases hclaims
    · obtain rfl := Option.some.inj (hclaimed.symm.trans hclaims)
      rw [h.length_countsAt]
      exact ⟨hcount, hafter⟩

end FromScratch

/-- With no attempts at all there is still one start: after it the task fails over, is started again
by hand, fails over again, and a claim cancels it. -/
theorem starts_within_budget_for_no_attempts :
    let s : Traffic := ⟨.database {}, []⟩
    let clock : Readings := fun _ => .epoch
    let never : FailoverPolicy := { maxAttempts := 0 }
    let events : List Event :=
      [.call never clock (.create "t" "noop" none), .call never clock (.claim "a"),
        .call never clock (.change "t" .failover none),
        .call never clock (.change "t" .running none),
        .call never clock (.change "t" .failover none), .call never clock (.claim "b")]
    FromScratch s events ∧ (∀ e ∈ events, ∀ p ∈ e.policy?, p.maxAttempts ≤ 0)
      ∧ s.countsAt events "t" 6 = [1]
      ∧ (∀ i, (s.countsAt events "t" i).length ≤ 1)
      ∧ ∀ r, s.recordAt events "t" 6 = some r → r.runCount.toNat = 1 := by
  intro s clock never events
  have h : FromScratch s events := ⟨rfl, by decide⟩
  have hlimit : ∀ e ∈ events, ∀ p ∈ e.policy?, p.maxAttempts ≤ 0 := by
    simp [events, Event.policy?, never]
  have hcounts : s.countsAt events "t" 6 = [1] := by decide +kernel
  obtain ⟨hbudget, hrecord, -⟩ := FromScratch.starts_within_budget h hlimit
  refine ⟨h, hlimit, hcounts, fun i => (hbudget "t" i).2, ?_⟩
  intro r hr
  rw [hrecord "t" 6 r hr, hcounts]
  rfl

end Traffic

end TaskCluster
