import Mathlib
import TaskCluster.Cluster.Manager
import TaskCluster.Proofs.Store.Passage

/-!
# Cancellation is final and granted once

A request to stop a task is granted by setting a mark on its record. No turn takes the mark away,
and a claim scan that may start a marked task cancels it instead, whatever the limits are. So a task
whose request was granted is never handed out again, and every later request is refused. The store
may hold anything at the beginning; only the ids that are created must be new.
-/

namespace TaskCluster

theorem Status.of_isCancelable {s : Status} (h : s.isCancelable = true) :
    s = .new ∨ s = .running ∨ s = .failover := by
  cases s <;> simp [Status.isCancelable] at h ⊢

/-! ### Marked records -/

namespace Record

/-- A task that was asked to stop is canceled where it would be started. -/
theorem offer_of_cancelRequested {r : Record} (h : r.cancelRequested = true) (node : String)
    (policy : FailoverPolicy) (now : Instant) :
    r.offer node policy now
      = if r.isRunnableNow node policy now then .canceled { r with status := .canceled }
        else .passed := by
  unfold offer
  split
  case isTrue hnow =>
    unfold start
    rw [isRunnable_of_isRunnableNow hnow, Bool.not_true, if_neg Bool.false_ne_true, if_pos h]
  case isFalse => rfl

theorem requestCancel_of_granted {r : Record} (h : r.requestCancel.1 = true) :
    r.cancelRequested = false ∧ r.status.isCancelable = true
      ∧ r.requestCancel.2 = { r with cancelRequested := true } := by
  unfold requestCancel at h ⊢
  split at h
  case isTrue => cases h
  case isFalse hc =>
    simp only [Bool.or_eq_true, Bool.not_eq_true', not_or, Bool.not_eq_true,
      Bool.not_eq_false] at hc
    rw [if_neg (by simp [hc])]
    exact ⟨hc.1, hc.2, rfl⟩

end Record

namespace Turn

variable {id : String} {answer : Option Answer} {moment : Option Moment}

/-- A request that is granted finds a record which is not marked and may be canceled, and marks
it. -/
theorem of_granted {before after : Option Record}
    (h : Turn id (some ⟨.requestCancel id, .ok true⟩) moment before after) :
    ∃ r, before = some r ∧ r.cancelRequested = false ∧ r.status.isCancelable = true
      ∧ after = some { r with cancelRequested := true } := by
  cases h with
  | idle hnot =>
    have hgranted := hnot _ rfl
    simp [Answer.affirms] at hgranted
  | @cancelRequested m r hrequest =>
    have hsame := eq_of_heq (Sigma.mk.inj_iff.mp (Option.some.inj hrequest)).2
    obtain ⟨hunmarked, hcancelable, hmarked⟩ :=
      Record.requestCancel_of_granted (Except.ok.inj hsame).symm
    exact ⟨r, rfl, hunmarked, hcancelable, congrArg some hmarked⟩
  | created _ _ hcreate => cases hcreate
  | changed _ _ hchange => cases hchange
  | reported _ _ _ hreport => cases hreport
  | logged _ hlog => cases hlog
  | offered node hcall => cases hcall _ rfl
  | checked node listed timeout hcall => cases hcall _ rfl

/-- A turn of a marked record: it stays marked and its runs stay as many, and neither is it handed
out nor another request granted. -/
theorem of_cancelRequested {r : Record} {after : Option Record}
    (h : Turn id answer moment (some r) after) (hid : r.id = id) (hr : r.cancelRequested = true) :
    answer.bind (Answer.claimed? id) = none
      ∧ answer ≠ some ⟨.requestCancel id, .ok true⟩
      ∧ ∃ r', after = some r' ∧ r'.cancelRequested = true ∧ r'.runCount = r.runCount := by
  have hroom : ∀ node policy now new, r.offer node policy now ≠ .overflowed new := by
    intro node policy now new
    rw [Record.offer_of_cancelRequested hr]
    split <;> exact nofun
  have hgranted : answer ≠ some ⟨.requestCancel id, .ok true⟩ := by
    intro hanswer
    rw [hanswer] at h
    obtain ⟨r', hr', hunmarked, -⟩ := h.of_granted
    obtain rfl := Option.some.inj hr'
    rw [hr] at hunmarked
    cases hunmarked
  have hpassage := h.passage (by rintro r' ⟨⟩; exact hid) (by rintro r' ⟨⟩; exact hroom)
  obtain ⟨r', rfl, hlawful⟩ := h.lawful
  rcases hpassage.runsOf_eq_or_taken with
    ⟨hnone, hruns⟩ | ⟨m, node, old, new, -, hold, -, -, htaken⟩
  · exact ⟨hnone, hgranted, r', rfl, hlawful.cancelRequested hr, UInt32.toNat_inj.mp hruns⟩
  · obtain rfl := Option.some.inj hold
    rw [(Record.limit_of_offer_taken htaken).1] at hr
    cases hr

end Turn

/-! ### Scans that reach a marked task -/

/-- Offers cancel a record behind those that are offered before, if none of these is taken. -/
theorem Transaction.record?_offerAll {node : String} {policy : FailoverPolicy} {clock : Readings}
    {before after : List Record} {r new : Record} {t t' : Table} {a : Option Record}
    (hrs : Current t (before ++ r :: after))
    (hbefore : ∀ x ∈ before, ∀ y, x.offer node policy (clock x.id).toInstant ≠ .taken y)
    (hr : r.offer node policy (clock r.id).toInstant = .canceled new)
    (h : offerAll node policy clock (before ++ r :: after) t = .ok (a, t')) :
    t'.record? r.id = some new := by
  induction before generalizing t with
  | nil =>
    obtain ⟨hsame, hwhole⟩ := hrs.offered node policy clock
    unfold Record.offered at hsame hwhole
    rw [hr] at hsame hwhole
    rw [List.nil_append, offerAll, hr] at h
    rw [(offerAll_of_notMem hrs.head_notMem (hrs.tail_update hsame hwhole) h).1,
      Table.record?_update hrs.head hsame hwhole, if_pos rfl]
  | cons x before ih =>
    obtain ⟨hsame, hwhole⟩ := hrs.offered node policy clock
    have hrest := fun y hy => hbefore y (List.mem_cons_of_mem x hy)
    unfold Record.offered at hsame hwhole
    rw [List.cons_append, offerAll] at h
    split at h
    case h_1 => exact ih hrs.tail hrest h
    case h_2 ho =>
      rw [ho] at hsame hwhole
      exact ih (hrs.tail_update hsame hwhole) hrest h
    case h_3 y ho => exact absurd ho (hbefore x List.mem_cons_self y)
    case h_4 => cases h

namespace Store

/-- A request that is not granted leaves the whole store as it is, however it ends. -/
theorem requestCancel_not_granted (policy : FailoverPolicy) (clock : Readings) (s : Store)
    (id : String) (h : (s.performAt policy clock (.requestCancel id)).1 ≠ .ok true) :
    (s.performAt policy clock (.requestCancel id)).2 = s := by
  cases hresult : (s.performAt policy clock (.requestCancel id)).1 with
  | ok granted =>
    cases granted with
    | false => exact requestCancel_refused hresult
    | true => exact absurd hresult h
  | error e =>
    cases s with
    | memory m => cases hresult
    | database d =>
      have hcall : (Store.database d).performAt policy clock (.requestCancel id)
          = ((d.write (.ok false) (Transaction.changeIf id Record.requestCancel)).1,
              .database (d.write (.ok false) (Transaction.changeIf id Record.requestCancel)).2) :=
        rfl
      rw [hcall] at hresult ⊢
      rcases d.write_cases (.ok false) (Transaction.changeIf id Record.requestCancel) with
        ⟨-, heq⟩ | ⟨e', -, heq⟩ | ⟨a, t, -, heq⟩
      · rw [heq]
      · rw [heq]
      · rw [heq] at hresult
        cases hresult

/-- A request over a connection is the call of the store, or does not reach it. -/
theorem call_requestCancel (now : ClockTime) (s : Store) (k : Connection) (id : String) :
    ((s.call now k (.requestCancel id)).1 = .ok true →
      s.performAt k.settings.failover (fun _ => now) (.requestCancel id)
        = (.ok true, (s.call now k (.requestCancel id)).2.2))
    ∧ ((s.call now k (.requestCancel id)).1 ≠ .ok true →
      (s.call now k (.requestCancel id)).2.2 = s) := by
  unfold call
  split
  case isTrue => exact ⟨nofun, fun _ => rfl⟩
  case isFalse =>
    have hrefused := requestCancel_not_granted k.settings.failover (fun _ => now) s id
    cases s with
    | memory m => exact ⟨fun h => Prod.ext h rfl, hrefused⟩
    | database d =>
      dsimp only [onDatabase]
      split
      case isTrue => exact ⟨nofun, fun _ => rfl⟩
      case isFalse =>
        have hcall : (Store.database d).performAt k.settings.failover (fun _ => now)
            (.requestCancel id)
              = ((d.perform k.settings.failover now (.requestCancel id)).1,
                .database (d.perform k.settings.failover now (.requestCancel id)).2) := rfl
        rw [hcall] at hrefused ⊢
        split
        case h_1 heq =>
          rw [heq] at hrefused
          exact ⟨nofun, fun _ => hrefused nofun⟩
        case h_2 heq =>
          rw [heq] at hrefused ⊢
          exact ⟨fun h => Prod.ext h rfl, hrefused⟩

end Store

namespace Traffic

/-- A claim scan of a node reaches the record of an id: in a memory it is the next that a claim
under way looks at, and in a database it stands behind records none of which the claim takes, and
the claim is carried out. -/
inductive Reaches (id node : String) (m : Moment) : Traffic → Event → Prop where
  | look {memory : Memory} {underway : List Underway} {n : Nat} {ids : List String}
    (h : underway[n]? = some (.claim node (id :: ids))) :
    Reaches id node m ⟨.memory memory, underway⟩ (.look m.policy m.now n)
  | claim {t : Table} {underway : List Underway} {clock : Readings} {before after : List Record}
    {r : Record} {a : Option Record} (hclock : clock id = m.now) (hid : r.id = id)
    (hrecords : Transaction.records [.new, .failover] t = .ok (before ++ r :: after))
    (hbefore : ∀ x ∈ before, ∀ y, x.offer node m.policy (clock x.id).toInstant ≠ .taken y)
    (hanswer : (Database.performAt m.policy clock ⟨t, false⟩ (.claim node)).1 = .ok a) :
    Reaches id node m ⟨.database ⟨t, false⟩, underway⟩ (.call m.policy clock (.claim node))

/-- A scan that reaches a marked task which may be started now cancels it. -/
theorem Reaches.canceled {id node : String} {m : Moment} {s : Traffic} {e : Event}
    (h : Reaches id node m s e) {r : Record} (hr : s.store.record? id = some r)
    (hmarked : r.cancelRequested = true)
    (hnow : r.isRunnableNow node m.policy m.now.toInstant = true) :
    (s.step e).2.store.record? id = some { r with status := .canceled } := by
  have hoffer : r.offer node m.policy m.now.toInstant
      = .canceled { r with status := .canceled } := by
    rw [Record.offer_of_cancelRequested hmarked, if_pos hnow]
  cases h with
  | @look memory underway n ids hcall =>
    have hget := Memory.get?_scanOne node m.policy m.now.toInstant memory id id
    rw [show memory.get? id = some r from hr, Option.map_some, if_pos (Store.id_of_record? hr),
      Record.offered, hoffer] at hget
    simp only [step, hcall, lookAt]
    split
    case h_1 heq =>
      rw [heq] at hget
      exact hget
    case h_2 heq =>
      rw [heq] at hget
      exact hget
  | @claim t underway clock before after x a hclock hid hrecords hbefore hanswer =>
    have hrs := Transaction.current_records hrecords
    rw [Store.record?_database] at hr
    have hx : t.record? x.id = some x :=
      hrs.record? x (List.mem_append_right before List.mem_cons_self)
    rw [hid] at hx
    obtain rfl := Option.some.inj (hx.symm.trans hr)
    rw [← hclock, ← hid] at hoffer
    have hwork : Transaction.claim node m.policy clock t
        = Transaction.offerAll node m.policy clock (before ++ x :: after) t := by
      unfold Transaction.claim
      rw [hrecords]
      rfl
    rcases Database.write_cases ⟨t, false⟩ (.ok none) (Transaction.claim node m.policy clock) with
      ⟨hlocked, -⟩ | ⟨error, -, heq⟩ | ⟨b, t', hdone, heq⟩
    · cases hlocked
    · have hcall : Database.performAt m.policy clock ⟨t, false⟩ (.claim node)
          = (.error error, ⟨t, false⟩) := heq
      rw [hcall] at hanswer
      cases hanswer
    · have hcall : Database.performAt m.policy clock ⟨t, false⟩ (.claim node)
          = (.ok b, ⟨t', false⟩) := heq
      rw [hwork] at hdone
      rw [step_call_database, hcall, Store.record?_database, ← hid]
      exact Transaction.record?_offerAll hrs hbefore hoffer hdone

/-! ### Requests over time -/

variable {s : Traffic} {events : List Event} {id : String}

/-- The `i`-th event grants a request to stop a task. -/
def GrantsStop (s : Traffic) (events : List Event) (id : String) (i : Nat) : Prop :=
  s.answer events i = some ⟨.requestCancel id, .ok true⟩

/-- What carries the induction over the events: once a request is granted, the record stays marked
and its runs stay as many. -/
theorem Distinct.marked (h : Distinct s events) {i : Nat} (hgrant : s.GrantsStop events id i) :
    ∃ r, s.recordAt events id i = some r ∧ r.cancelRequested = false
      ∧ r.status.isCancelable = true
      ∧ ∀ j, i < j → ∃ r', s.recordAt events id j = some r' ∧ r'.cancelRequested = true
          ∧ r'.runCount = r.runCount := by
  have hturn := h.turn id i
  rw [show s.answer events i = some ⟨.requestCancel id, .ok true⟩ from hgrant] at hturn
  obtain ⟨r, hr, hunmarked, hcancelable, hafter⟩ := hturn.of_granted
  refine ⟨r, hr, hunmarked, hcancelable, ?_⟩
  intro j hij
  induction j, Nat.succ_le_of_lt hij using Nat.le_induction with
  | base => exact ⟨_, hafter, rfl, rfl⟩
  | succ j hle ih =>
    obtain ⟨r', hr', hmarked, hcount⟩ := ih hle
    have hturn := h.turn id j
    rw [hr'] at hturn
    obtain ⟨-, -, r'', hr'', hmarked', hcount'⟩ :=
      hturn.of_cancelRequested (Store.id_of_record? hr') hmarked
    exact ⟨r'', hr'', hmarked', hcount'.trans hcount⟩

/-- After a request was granted, no claim of the task is handed out and no other request granted. -/
theorem Distinct.refused (h : Distinct s events) {i j : Nat} (hgrant : s.GrantsStop events id i)
    (hij : i < j) : ¬ s.ClaimsId events id j ∧ ¬ s.GrantsStop events id j := by
  obtain ⟨r, -, -, -, hlater⟩ := h.marked hgrant
  obtain ⟨r', hr', hmarked, -⟩ := hlater j hij
  have hturn := h.turn id j
  rw [hr'] at hturn
  obtain ⟨hnone, hgrants, -⟩ := hturn.of_cancelRequested (Store.id_of_record? hr') hmarked
  refine ⟨?_, hgrants⟩
  rw [claimsId_iff, hnone]
  exact Bool.false_ne_true

/-! ### Requests through a manager -/

theorem step_call_requestCancel (store : Store) (underway : List Underway)
    (policy : FailoverPolicy) (clock : Readings) (id : String) :
    step ⟨store, underway⟩ (.call policy clock (.requestCancel id))
      = (some ⟨.requestCancel id, (store.performAt policy clock (.requestCancel id)).1⟩,
          ⟨(store.performAt policy clock (.requestCancel id)).2, underway⟩) := by
  cases store <;> rfl

/-- A manager that answers that a task was asked to stop has made one call of the store, which
granted the request; else the store is as it was. -/
theorem step_of_cancel (m : Manager) (id : String) (shared : Shared) (underway : List Underway) :
    ((m.cancel id shared).1 = .ok true →
        ∃ policy clock, step ⟨shared.store, underway⟩ (.call policy clock (.requestCancel id))
          = (some ⟨.requestCancel id, .ok true⟩, ⟨(m.cancel id shared).2.store, underway⟩))
    ∧ ((m.cancel id shared).1 ≠ .ok true → (m.cancel id shared).2.store = shared.store) := by
  have hcancelTask : ∀ (r : Runner) (s : Shared), (r.cancelTask id s).store = s.store := by
    intro r s
    unfold Runner.cancelTask
    split
    · rfl
    · split <;> rfl
  unfold Manager.cancel
  split
  case isTrue =>
    refine ⟨fun h => ?_, fun _ => rfl⟩
    cases h
  case isFalse =>
    obtain ⟨hgranted, hrefused⟩ := Store.call_requestCancel shared.clock shared.store
      (shared.connection m.connection) id
    generalize hcall : shared.call m.connection (.requestCancel id) = p
    have hresult : p.1 = (shared.store.call shared.clock (shared.connection m.connection)
        (.requestCancel id)).1 := by
      rw [← hcall]
      rfl
    have hstore : p.2.store = (shared.store.call shared.clock (shared.connection m.connection)
        (.requestCancel id)).2.2 := by
      rw [← hcall]
      rfl
    rw [← hresult, ← hstore] at hgranted
    rw [← hresult, ← hstore] at hrefused
    split
    case h_1 s' =>
      have hstep : ∃ policy clock, step ⟨shared.store, underway⟩
          (.call policy clock (.requestCancel id))
            = (some ⟨.requestCancel id, .ok true⟩, ⟨s'.store, underway⟩) := by
        refine ⟨(shared.connection m.connection).settings.failover, fun _ => shared.clock, ?_⟩
        rw [step_call_requestCancel, hgranted rfl]
      -- The run that hears of the request leaves the store alone.
      split
      · exact ⟨fun _ => hstep, fun h => absurd rfl h⟩
      · dsimp only
        rw [hcancelTask]
        exact ⟨fun _ => hstep, fun h => absurd rfl h⟩
    case h_2 result s' hnot =>
      have hne : result ≠ .ok true := by
        rintro rfl
        exact hnot rfl
      exact ⟨fun h => absurd h hne, fun _ => hrefused hne⟩

/-! ### Cancellations over time -/

/-- **Cancellation is final and granted once**, whatever the store holds at the beginning. At most
one request to stop a task is granted, and only for a task that has not ended. From then on the
task is never handed out and its runs stay as many; the first scan to reach it that could start it
cancels it. A manager asks for no more than one such request. -/
theorem cancellation_final (h : Distinct s events) (id : String) :
    (∀ i j, s.GrantsStop events id i → s.GrantsStop events id j → i = j)
    ∧ (∀ i, s.GrantsStop events id i → ∃ r, s.recordAt events id i = some r
        ∧ (r.status = .new ∨ r.status = .running ∨ r.status = .failover)
        ∧ ∀ j, i < j → ¬ s.ClaimsId events id j ∧ ∃ r', s.recordAt events id j = some r'
            ∧ r'.cancelRequested = true ∧ r'.runCount = r.runCount)
    ∧ (∀ i j e node m r, s.GrantsStop events id i → i < j → events[j]? = some e →
        Reaches id node m (s.before events j) e → s.recordAt events id j = some r →
        r.isRunnableNow node m.policy m.now.toInstant = true →
        s.recordAt events id (j + 1) = some { r with status := .canceled })
    ∧ (∀ (manager : Manager) (shared : Shared) (underway : List Underway),
        ((manager.cancel id shared).1 = .ok true →
          ∃ policy clock, step ⟨shared.store, underway⟩ (.call policy clock (.requestCancel id))
            = (some ⟨.requestCancel id, .ok true⟩, ⟨(manager.cancel id shared).2.store, underway⟩))
        ∧ ((manager.cancel id shared).1 ≠ .ok true →
          (manager.cancel id shared).2.store = shared.store)) := by
  refine ⟨?_, ?_, ?_, fun manager => step_of_cancel manager id⟩
  · intro i j hi hj
    rcases Nat.lt_trichotomy i j with hij | hij | hij
    · exact absurd hj (h.refused hi hij).2
    · exact hij
    · exact absurd hi (h.refused hj hij).2
  · intro i hi
    obtain ⟨r, hr, -, hcancelable, hlater⟩ := h.marked hi
    exact ⟨r, hr, Status.of_isCancelable hcancelable,
      fun j hij => ⟨(h.refused hi hij).1, hlater j hij⟩⟩
  · intro i j e node m r hi hij he hreaches hr hnow
    obtain ⟨_, -, -, -, hlater⟩ := h.marked hi
    obtain ⟨r', hr', hmarked, -⟩ := hlater j hij
    obtain rfl := Option.some.inj (hr.symm.trans hr')
    unfold recordAt
    rw [before_succ he]
    exact hreaches.canceled hr hmarked hnow

/-- A task is asked to stop after a claim has taken its snapshot, and canceled when the claim
reaches it. -/
theorem cancellation_final_during_scan :
    let s : Traffic := ⟨.memory {}, []⟩
    let clock : Readings := fun _ => .epoch
    let events : List Event :=
      [.call {} clock (.create "t" "noop" none), .call {} clock (.claim "a"),
        .call {} clock (.requestCancel "t"), .look {} .epoch 0,
        .call {} clock (.requestCancel "t")]
    Distinct s events ∧ s.GrantsStop events "t" 2
      ∧ (∀ i, s.GrantsStop events "t" i → i = 2)
      ∧ (∀ j, 2 < j → ¬ s.ClaimsId events "t" j)
      ∧ ∃ r, s.recordAt events "t" 3 = some r
        ∧ s.recordAt events "t" 4 = some { r with status := .canceled } := by
  intro s clock events
  have h : Distinct s events := ⟨by decide, fun _ _ => rfl⟩
  have hgrant : s.GrantsStop events "t" 2 := rfl
  obtain ⟨honce, hgranted, hreached, -⟩ := cancellation_final h "t"
  obtain ⟨r, hr, -, hlater⟩ := hgranted 2 hgrant
  obtain ⟨-, r', hr', -⟩ := hlater 3 (by decide)
  have hsnapshot : (Memory.put {} (Record.fresh "t" "noop" none ClockTime.epoch.toInstant)).snapshot
      = ["t"] := by decide +kernel
  have hscan : (s.before events 3).underway[0]? = some (.claim "a" ["t"]) :=
    congrArg (fun ids => some (Underway.claim "a" ids)) hsnapshot
  have hreaches : Reaches "t" "a" ⟨{}, .epoch⟩ (s.before events 3) (.look {} .epoch 0) :=
    .look hscan
  have hnow : (s.recordAt events "t" 3).map
      (fun r => r.isRunnableNow "a" {} ClockTime.epoch.toInstant) = some true := by decide +kernel
  rw [hr'] at hnow
  exact ⟨h, hgrant, fun i hi => honce i 2 hi hgrant, fun j hj => (hlater j hj).1, r', hr',
    hreached 2 3 _ "a" _ r' hgrant (by decide) rfl hreaches hr' (Option.some.inj hnow)⟩

end Traffic

end TaskCluster
