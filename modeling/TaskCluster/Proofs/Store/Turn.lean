import Mathlib
import TaskCluster.Proofs.Store.Agreement

/-!
# What a call does to the record of one id

`Turn` says all that can happen to the record of an id at once, together with what is answered: the
record is left alone, or created, or it goes through one of the transitions of records, under one
policy and one reading of the clock. Every call of a memory makes one turn at each id, whatever the
memory holds (`Memory.turn_performAt`). So a fact about all records after any calls is a fact about
the cases of `Turn`, and no later proof opens a loop over records again.

The loop of a claim is an induction over the ids that it has still to look at. Its turn at an id is
made where it meets the id; before that and behind it the record is left alone, because the ids are
distinct.
-/

namespace TaskCluster

/-- Under what a call looks at a record: the policy of its node and a reading of the clock. -/
structure Moment where
  policy : FailoverPolicy
  now : ClockTime

/-- Does an answer say that something was done to the task of an id? -/
def Answer.affirms (id : String) : Answer → Bool
  | ⟨.create id' .., .ok _⟩ => id' == id
  | ⟨.log id' _, .ok _⟩ => id' == id
  | ⟨.requestCancel id', .ok true⟩ => id' == id
  | ⟨.change id' .., .ok true⟩ => id' == id
  | ⟨.changeFor id' .., .ok true⟩ => id' == id
  | ⟨.claim _, .ok (some r)⟩ => r.id == id
  | _ => false

theorem Answer.affirms_claim {id node : String} {result : Except Abort (Option Record)}
    (h : ∀ new, result = .ok (some new) → new.id ≠ id) :
    Answer.affirms id ⟨.claim node, result⟩ = false := by
  match result with
  | .error e => rfl
  | .ok none => rfl
  | .ok (some new) => exact beq_eq_false_iff_ne.mpr (h new rfl)

/-- What happens to the record of an id, with the answer of the call that ends with it, if one
does. -/
inductive Turn (id : String) (answer : Option Answer) :
    Option Moment → Option Record → Option Record → Prop where
  /-- Nothing is done to the record, and no answer says so. -/
  | idle {moment : Option Moment} {r : Option Record} (h : ∀ a ∈ answer, a.affirms id = false) :
    Turn id answer moment r r
  | created {m : Moment} (taskType : String) (config : Config)
    (h : answer = some ⟨.create id taskType config, .ok ()⟩) :
    Turn id answer (some m) none (some (Record.fresh id taskType config m.now.toInstant))
  | cancelRequested {m : Moment} {r : Record}
    (h : answer = some ⟨.requestCancel id, .ok r.requestCancel.1⟩) :
    Turn id answer (some m) (some r) (some r.requestCancel.2)
  | changed {m : Moment} {r : Record} (next : Status) (message : Option String)
    (h : answer = some ⟨.change id next message,
      .ok (r.changeStatus next message m.now.toInstant).1⟩) :
    Turn id answer (some m) (some r) (some (r.changeStatus next message m.now.toInstant).2)
  | reported {m : Moment} {r : Record} (c : Claim) (next : Status) (message : Option String)
    (h : answer = some ⟨.changeFor id c next message,
      .ok (r.changeStatusFor c next message m.now.toInstant).1⟩) :
    Turn id answer (some m) (some r) (some (r.changeStatusFor c next message m.now.toInstant).2)
  | logged {m : Moment} {r : Record} (line : String)
    (h : answer = some ⟨.log id line, .ok ()⟩) :
    Turn id answer (some m) (some r) (some (r.appendLog line))
  /-- A claim scan looks at the record; it ends there exactly if the node takes the record. -/
  | offered {m : Moment} {r : Record} (node : String) (hcall : ∀ a ∈ answer, a.1 = .claim node)
    (htaken : ∀ new, r.offer node m.policy m.now.toInstant = .taken new →
      answer = some ⟨.claim node, .ok (some new)⟩)
    (hother : (∀ new, r.offer node m.policy m.now.toInstant ≠ .taken new) →
      ∀ a ∈ answer, a.affirms id = false) :
    Turn id answer (some m) (some r) (some (r.offered node m.policy m.now.toInstant))
  /-- A heartbeat sweep looks at the record. -/
  | checked {m : Moment} {r : Record} (node : String) (listed : List String) (timeout : Duration)
    (hcall : ∀ a ∈ answer, a.1 = .heartbeat node listed timeout) :
    Turn id answer (some m) (some r)
      (some (r.checkHeartbeat node listed timeout m.now.toInstant).2)

/-! ### A change of one record -/

/-- How the change of one record shows in all records, and whether it was made. -/
inductive Amended (target : String) (f : Record → Bool × Record)
    (before after : String → Option Record) : Bool → Prop where
  | found {r : Record} (h : before target = some r)
    (hafter : ∀ id, after id = if id = target then some (f r).2 else before id) :
    Amended target f before after (f r).1
  | missed (hafter : ∀ id, after id = before id) : Amended target f before after false

namespace Amended

variable {target : String} {before after : String → Option Record} {done : Bool}

/-- A change makes a turn at its id if its answer says what was done. -/
theorem turn {f : Record → Bool × Record} (h : Amended target f before after done)
    (moment : String → Option Moment) {answer : Option Answer}
    (haffirms : ∀ a ∈ answer, ∀ id, a.affirms id = (done && target == id))
    (hfound : ∀ r, (f r).1 = done → Turn target answer (moment target) (some r) (some (f r).2))
    (id : String) : Turn id answer (moment id) (before id) (after id) := by
  cases h with
  | @found r hr hafter =>
    rw [hafter]
    split
    case isTrue hid =>
      rw [hid, hr]
      exact hfound r rfl
    case isFalse hid =>
      refine .idle fun a ha => ?_
      rw [haffirms a ha, beq_eq_false_iff_ne.mpr (Ne.symm hid), Bool.and_false]
  | missed hafter =>
    rw [hafter]
    exact .idle fun a ha => haffirms a ha id

variable (moment : String → Moment)

theorem turn_requestCancel (h : Amended target Record.requestCancel before after done)
    (id : String) :
    Turn id (some ⟨.requestCancel target, .ok done⟩) (some (moment id)) (before id) (after id) := by
  refine h.turn (fun id => some (moment id)) ?_ ?_ id
  · rintro a ⟨⟩ id
    cases done <;> rfl
  · rintro r rfl
    exact .cancelRequested rfl

theorem turn_change {next : Status} {message : Option String}
    (h : Amended target (fun r => r.changeStatus next message (moment target).now.toInstant)
      before after done) (id : String) :
    Turn id (some ⟨.change target next message, .ok done⟩) (some (moment id)) (before id)
      (after id) := by
  refine h.turn (fun id => some (moment id)) ?_ ?_ id
  · rintro a ⟨⟩ id
    cases done <;> rfl
  · rintro r rfl
    exact .changed next message rfl

theorem turn_changeFor {c : Claim} {next : Status} {message : Option String}
    (h : Amended target
      (fun r => r.changeStatusFor c next message (moment target).now.toInstant)
      before after done) (id : String) :
    Turn id (some ⟨.changeFor target c next message, .ok done⟩) (some (moment id)) (before id)
      (after id) := by
  refine h.turn (fun id => some (moment id)) ?_ ?_ id
  · rintro a ⟨⟩ id
    cases done <;> rfl
  · rintro r rfl
    exact .reported c next message rfl

/-- A line is logged for a task that is found. -/
theorem turn_log {line : String} (h : Amended target (fun r => (true, r.appendLog line))
      before after done) {result : Except Abort Unit}
    (hresult : result = if done then .ok () else .error (.failure (.taskNotFound target)))
    (id : String) :
    Turn id (some ⟨.log target line, result⟩) (some (moment id)) (before id) (after id) := by
  refine h.turn (fun id => some (moment id)) ?_ ?_ id
  · rintro a ⟨⟩ id
    rw [hresult]
    cases done <;> rfl
  · rintro r rfl
    rw [hresult]
    exact .logged line rfl

end Amended

/-! ### Calls of a memory -/

namespace Memory

theorem amended_update {f : Record → Bool × Record} (hf : ∀ r, (f r).2.id = r.id) (m : Memory)
    (target : String) :
    Amended target f m.get? (m.update target f).2.get? ((m.update target f).1.getD false) := by
  rw [update_fst]
  cases hr : m.get? target with
  | none =>
    refine .missed fun id => ?_
    rw [get?_update hf]
    split
    case isTrue hid =>
      subst hid
      rw [hr]
      rfl
    case isFalse => rfl
  | some r =>
    refine .found hr fun id => ?_
    rw [get?_update hf]
    by_cases hid : id = target
    · subst hid
      rw [if_pos rfl, if_pos rfl, hr]
      rfl
    · rw [if_neg hid, if_neg (fun heq => hid heq.symm)]

section Scan

variable (node : String) (policy : FailoverPolicy)

/-- A look of a claim scan ends the scan if it takes the record or overflows. -/
theorem scanOne_fst_eq (now : Instant) (m : Memory) (id : String) :
    (scanOne node policy now m id).1 = (m.get? id).bind fun r =>
      match r.offer node policy now with
      | .passed | .canceled _ => none
      | .taken new => some (.ok new)
      | .overflowed _ => some (.error (.overflow .counter)) := by
  unfold scanOne
  cases m.get? id with
  | none => rfl
  | some r =>
    rw [Option.bind_some]
    dsimp only
    cases r.offer node policy now <;> rfl

/-- Inverts a look that takes a record. -/
theorem taken_of_scanOne {now : Instant} {m : Memory} {id : String} {new : Record}
    (h : (scanOne node policy now m id).1 = some (.ok new)) :
    ∃ r, m.get? id = some r ∧ r.offer node policy now = .taken new := by
  rw [scanOne_fst_eq] at h
  obtain ⟨r, hr, h⟩ := Option.bind_eq_some_iff.mp h
  refine ⟨r, hr, ?_⟩
  cases ho : r.offer node policy now with
  | taken new' =>
    rw [ho] at h
    obtain rfl := Except.ok.inj (Option.some.inj h)
    rfl
  | _ =>
    rw [ho] at h
    cases h

/-- The record that a look takes is that of its id. -/
theorem id_of_scanOne {now : Instant} {m : Memory} {id : String} {new : Record}
    (h : (scanOne node policy now m id).1 = some (.ok new)) : new.id = id := by
  obtain ⟨r, hr, ho⟩ := taken_of_scanOne node policy h
  obtain ⟨-, rfl, -⟩ := Record.of_offer_taken ho
  have hid : r.id = id := id_of_get? hr
  exact hid

theorem get?_scanOne_of_ne (now : Instant) (m : Memory) {target id : String} (h : id ≠ target) :
    (scanOne node policy now m target).2.get? id = m.get? id := by
  rw [get?_scanOne]
  cases hr : m.get? id with
  | none => rfl
  | some r =>
    have hne : ¬ r.id = target := fun heq => h ((id_of_get? hr).symm.trans heq)
    rw [Option.map_some, if_neg hne]

/-- A look of a claim scan at any record. -/
theorem turn_scanOne (now : ClockTime) (m : Memory) (target id : String) :
    Turn id ((scanOne node policy now.toInstant m target).1.map fun result =>
        ⟨.claim node, result.map some⟩)
      (some ⟨policy, now⟩) (m.get? id)
      ((scanOne node policy now.toInstant m target).2.get? id) := by
  by_cases hid : id = target
  · subst hid
    rw [get?_scanOne, scanOne_fst_eq]
    cases hr : m.get? id with
    | none => exact .idle (by rintro a ⟨⟩)
    | some r =>
      rw [Option.map_some, Option.bind_some, if_pos (id_of_get? hr)]
      refine .offered node ?_ ?_ ?_
      · intro a ha
        obtain ⟨result, -, rfl⟩ := Option.map_eq_some_iff.mp ha
        rfl
      · intro new htaken
        dsimp only at htaken ⊢
        rw [htaken]
        rfl
      · intro hnot a ha
        obtain ⟨result, hresult, rfl⟩ := Option.map_eq_some_iff.mp ha
        cases ho : r.offer node policy now.toInstant with
        | taken new => exact absurd ho (hnot new)
        | overflowed new =>
          rw [ho] at hresult
          obtain rfl := Option.some.inj hresult
          rfl
        | _ =>
          rw [ho] at hresult
          cases hresult
  · rw [get?_scanOne_of_ne node policy now.toInstant m hid]
    refine .idle ?_
    intro a ha
    obtain ⟨result, hresult, rfl⟩ := Option.map_eq_some_iff.mp ha
    refine Answer.affirms_claim ?_
    intro new hnew
    cases result with
    | error e => cases hnew
    | ok new' =>
      obtain rfl := Option.some.inj (Except.ok.inj hnew)
      exact fun heq => hid (heq.symm.trans (id_of_scanOne node policy hresult))

/-- A scan leaves the records alone that are not among its ids, and takes none of them. -/
theorem scan_of_notMem (clock : Readings) {ids : List String} {id : String} (h : id ∉ ids)
    (m : Memory) :
    (scan node policy clock ids m).2.get? id = m.get? id
      ∧ ∀ new, (scan node policy clock ids m).1 = .ok (some new) → new.id ≠ id := by
  induction ids generalizing m with
  | nil => exact ⟨rfl, by rintro new ⟨⟩⟩
  | cons target ids ih =>
    rw [List.mem_cons, not_or] at h
    have hkept := get?_scanOne_of_ne node policy (clock target).toInstant m h.1
    rw [scan]
    split
    case h_1 m' heq =>
      rw [heq] at hkept
      rw [← hkept]
      exact ih h.2 m'
    case h_2 result m' heq =>
      rw [heq] at hkept
      refine ⟨hkept, ?_⟩
      intro new hnew hid
      cases result with
      | error e => cases hnew
      | ok new' =>
        obtain rfl := Option.some.inj (Except.ok.inj hnew)
        exact h.1 (hid.symm.trans (id_of_scanOne node policy (congrArg Prod.fst heq)))

/-- A scan over distinct ids makes one turn at each id. -/
theorem turn_scan (clock : Readings) {ids : List String} (h : ids.Nodup) (m : Memory)
    (id : String) :
    Turn id (some ⟨.claim node, (scan node policy clock ids m).1⟩) (some ⟨policy, clock id⟩)
      (m.get? id) ((scan node policy clock ids m).2.get? id) := by
  induction ids generalizing m with
  | nil => exact .idle (by rintro a ⟨⟩; rfl)
  | cons target ids ih =>
    obtain ⟨htarget, hids⟩ := List.nodup_cons.mp h
    have hlook := turn_scanOne node policy (clock target) m target id
    by_cases hid : id = target
    · subst hid
      have hfst := scanOne_fst_eq node policy (clock id).toInstant m id
      have hget := get?_scanOne node policy (clock id).toInstant m id id
      rw [scan]
      split
      case h_1 m' heq =>
        -- The scan goes on behind the id, so this look was the only one at it.
        rw [heq] at hget hfst
        obtain ⟨hrest, hclaimed⟩ := scan_of_notMem node policy clock htarget m'
        rw [hrest, hget]
        have hnone : ∀ a ∈ some (⟨.claim node, (scan node policy clock ids m').1⟩ : Answer),
            Answer.affirms id a = false := by
          rintro a ⟨⟩
          exact Answer.affirms_claim hclaimed
        cases hr : m.get? id with
        | none => exact .idle hnone
        | some r =>
          rw [hr, Option.bind_some] at hfst
          rw [Option.map_some, if_pos (id_of_get? hr)]
          refine .offered node (by rintro a ⟨⟩; rfl) ?_ fun _ => hnone
          intro new htaken
          dsimp only at htaken
          rw [htaken] at hfst
          cases hfst
      case h_2 result m' heq =>
        rw [heq] at hlook
        exact hlook
    · have hkept := get?_scanOne_of_ne node policy (clock target).toInstant m hid
      rw [scan]
      split
      case h_1 m' heq =>
        rw [heq] at hkept
        rw [← hkept]
        exact ih hids m'
      case h_2 result m' heq =>
        rw [heq] at hkept
        rw [hkept]
        refine .idle ?_
        rintro a ⟨⟩
        refine Answer.affirms_claim ?_
        intro new hnew
        cases result with
        | error e => cases hnew
        | ok new' =>
          obtain rfl := Option.some.inj (Except.ok.inj hnew)
          exact fun heq' =>
            hid (heq'.symm.trans (id_of_scanOne node policy (congrArg Prod.fst heq)))

end Scan

theorem turn_log (policy : FailoverPolicy) (clock : Readings) (m : Memory) (target line : String)
    (id : String) :
    Turn id (some ⟨.log target line, (m.performAt policy clock (.log target line)).1⟩)
      (some ⟨policy, clock id⟩) (m.get? id)
      ((m.performAt policy clock (.log target line)).2.get? id) := by
  have hstore : (m.performAt policy clock (.log target line)).2
      = (m.update target fun r => (true, r.appendLog line)).2 := by
    dsimp only [performAt, update]
    cases m.get? target <;> rfl
  rw [hstore]
  refine (amended_update (f := fun r => (true, r.appendLog line))
    (fun r => (r.sameTask_appendLog line).id) m target).turn_log
      (fun id => ⟨policy, clock id⟩) ?_ id
  cases hr : m.get? target <;> simp only [performAt, update, hr] <;> rfl

/-- A sweep over all records makes one turn at each id. -/
theorem turn_sweep (policy : FailoverPolicy) (clock : Readings) (node : String)
    (listed : List String) (timeout : Duration) (m : Memory) (id : String) :
    Turn id (some ⟨.heartbeat node listed timeout, .ok ()⟩) (some ⟨policy, clock id⟩) (m.get? id)
      ((sweep node listed timeout clock m.snapshot m).get? id) := by
  rw [get?_of_records_eq (fun r => (r.sameTask_checkHeartbeat node listed timeout _).id)
    (sweep_records clock m)]
  cases hr : m.get? id with
  | none => exact .idle (by rintro a ⟨⟩; rfl)
  | some r =>
    obtain rfl := id_of_get? hr
    exact .checked node listed timeout (by rintro a ⟨⟩; rfl)

/-- A call makes one turn at each id, whatever the memory holds. -/
theorem turn_performAt (policy : FailoverPolicy) (clock : Readings) (m : Memory) (c : Call)
    (hfresh : ∀ id ∈ c.created?, m.get? id = none) (id : String) :
    Turn id (some ⟨c, (m.performAt policy clock c).1⟩) (some ⟨policy, clock id⟩) (m.get? id)
      ((m.performAt policy clock c).2.get? id) := by
  cases c with
  | create target taskType config =>
    have habsent := hfresh target rfl
    have hnew : (Record.fresh target taskType config (clock target).toInstant).id = target := rfl
    dsimp only [performAt]
    rw [get?_put habsent, hnew]
    by_cases hid : target = id
    · subst hid
      rw [if_pos rfl, habsent]
      exact .created taskType config rfl
    · rw [if_neg hid]
      refine .idle ?_
      rintro a ⟨⟩
      exact beq_eq_false_iff_ne.mpr hid
  | list | get => exact .idle (by rintro a ⟨⟩; rfl)
  | requestCancel target =>
    exact (amended_update (fun r => r.sameTask_requestCancel.id) m target).turn_requestCancel
      (fun id => ⟨policy, clock id⟩) id
  | change target next message =>
    exact (amended_update (fun r => (r.sameTask_changeStatus next message _).id)
      m target).turn_change (fun id => ⟨policy, clock id⟩) id
  | changeFor target claim next message =>
    exact (amended_update (fun r => (r.sameTask_changeStatusFor claim next message _).id)
      m target).turn_changeFor (fun id => ⟨policy, clock id⟩) id
  | log target line => exact turn_log policy clock m target line id
  | claim node => exact turn_scan node policy clock m.snapshot_nodup m id
  | heartbeat node ids timeout => exact turn_sweep policy clock node ids timeout m id

end Memory

end TaskCluster
