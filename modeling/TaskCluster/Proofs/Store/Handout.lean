import Mathlib
import TaskCluster.Proofs.Store.Budget
import TaskCluster.Proofs.Store.Waiting

/-!
# Claims one by one, among calls that fail

A node that starts tasks calls the store again and again, and any of the calls may fail. Unless the
counter of a new task is used up (`Store.Countable`), a call that fails changes nothing and is no
overflow (`Store.call_of_error`). A claim that succeeds takes one record at most, and all others are
passed by (`Record.PassedBy`): they stay as they are, or they waited and are given up.

So the tasks that wait become fewer with each claim that takes one (`Store.length_waiting_lt`),
whatever becomes of the record afterwards, as long as it does not wait again.
-/

namespace TaskCluster

/-! ### Counters that are not used up -/

/-- No new task that can be read has used up its counter. -/
def Store.Countable (s : Store) : Prop := ∀ id r, s.record? id = some r → r.Countable

theorem Turn.passage_of_countable {id : String} {answer : Option Answer} {moment : Option Moment}
    {before after : Option Record} (h : Turn id answer moment before after)
    (hid : ∀ r ∈ before, r.id = id) (hbefore : ∀ r ∈ before, r.Countable) :
    Passage id answer moment before after :=
  h.passage hid fun r hr _ _ _ => Record.offer_ne_overflowed (hbefore r hr)

/-- A new task keeps its count of runs. -/
theorem Passage.countable {id : String} {answer : Option Answer} {moment : Option Moment}
    {before after : Option Record} (h : Passage id answer moment before after)
    (hbefore : ∀ r ∈ before, r.Countable) : ∀ r ∈ after, r.Countable := by
  intro new hnew hs
  cases h with
  | absent => cases hnew
  | created taskType config now =>
    obtain rfl := Option.some.inj hnew
    exact Nat.ne_of_beq_eq_false rfl
  | @kept old _ hstatus hrun =>
    obtain rfl := Option.some.inj hnew
    rw [hrun.runCount]
    exact hbefore old rfl (hstatus.symm.trans hs)
  | dropped _ hafter =>
    obtain rfl := Option.some.inj hnew
    cases hafter.symm.trans hs
  | begun node _ htaken =>
    obtain rfl := Option.some.inj hnew
    obtain ⟨-, rfl, -⟩ := Record.of_offer_taken htaken
    cases hs
  | begunByHand _ _ hafter =>
    obtain rfl := Option.some.inj hnew
    cases hafter.symm.trans hs
  | ended _ hrun =>
    obtain rfl := Option.some.inj hnew
    exact absurd hs hrun.after.2

/-- A heartbeat begins no run: what runs after it ran before, under the same claim. -/
theorem Passage.running_of_heartbeat {id node : String} {listed : List String}
    {timeout : Duration} {result : Except Abort Unit} {moment : Option Moment}
    {before : Option Record} {new : Record}
    (h : Passage id (some ⟨.heartbeat node listed timeout, result⟩) moment before (some new))
    (hruns : new.status = .running) :
    ∃ old, before = some old ∧ old.status = .running ∧ old.claim? = new.claim? := by
  cases h with
  | created => cases hruns
  | @kept old _ hstatus hrun =>
    refine ⟨old, rfl, hstatus.symm.trans hruns, ?_⟩
    rw [Record.claim?, Record.claim?, hrun.node, hrun.runCount]
  | dropped _ hafter => cases hafter.symm.trans hruns
  | begun _ _ _ _ hanswer => cases hanswer
  | begunByHand _ _ _ _ hanswer => cases hanswer
  | ended _ hrun => exact absurd hruns hrun.after.1

/-! ### Calls that fail -/

/-- A call of a memory fails only where it says that it does not know a task. -/
theorem Memory.performAt_of_error {policy : FailoverPolicy} {clock : Readings} {m : Memory}
    (hcountable : ∀ r ∈ m.records, r.Countable) {c : Call} {e : Abort}
    (h : (m.performAt policy clock c).1 = .error e) :
    (m.performAt policy clock c).2 = m ∧ ∃ id, e = .failure (.taskNotFound id) := by
  cases c with
  | log id line =>
    cases hget : m.get? id with
    | none =>
      have hlog : m.performAt policy clock (.log id line)
          = (.error (.failure (.taskNotFound id)), m) := by
        simp [performAt, update, hget]
      rw [hlog] at h ⊢
      exact ⟨rfl, id, (Except.error.inj h).symm⟩
    | some r => simp [performAt, update, hget] at h
  | claim node =>
    rw [(claim_eq node policy clock m hcountable).1] at h
    cases h
  | _ => cases h

namespace Store

/-- A call that fails changes nothing, also of its connection, and is no overflow. -/
theorem call_of_error {s : Store} (hcountable : s.Countable) {now : ClockTime} {k : Connection}
    {c : Call} {e : Abort} (h : (s.call now k c).1 = .error e) :
    s.call now k c = (.error e, k, s) ∧ ∃ f, e = .failure f := by
  unfold call at h ⊢
  split
  case isTrue hfailing =>
    rw [if_pos hfailing] at h
    obtain rfl := Except.error.inj h
    exact ⟨rfl, _, rfl⟩
  case isFalse hfailing =>
  rw [if_neg hfailing] at h
  cases s with
  | memory m =>
    have hrecords : ∀ r ∈ m.records, r.Countable :=
      fun r hr => hcountable r.id r (Memory.get?_of_mem hr)
    obtain ⟨hsame, id, rfl⟩ := Memory.performAt_of_error hrecords h
    exact ⟨Prod.ext h (Prod.ext rfl (congrArg Store.memory hsame)), _, rfl⟩
  | database d =>
    dsimp only [onDatabase] at h ⊢
    split
    case isTrue hbroken =>
      rw [if_pos hbroken] at h
      obtain rfl := Except.error.inj h
      exact ⟨rfl, _, rfl⟩
    case isFalse hbroken =>
    rw [if_neg hbroken] at h
    -- An overflow would need a record whose counter is used up.
    have hoverflow : ∀ o, (d.perform k.settings.failover now c).1 ≠ .error (.overflow o) := by
      intro o ho
      obtain ⟨id, r, node, policy, now, new, hr, hoffer⟩ := Database.offered_of_overflow ho
      rw [← record?_database] at hr
      exact Record.offer_ne_overflowed (hcountable id r hr) new hoffer
    have hsame : ∀ e, (d.perform k.settings.failover now c).1 = .error e →
        (d.perform k.settings.failover now c).2 = d := fun _ => Database.performAt_of_error
    rcases hend : d.perform k.settings.failover now c with ⟨(f | o) | a, d'⟩ <;>
      rw [hend] at h hoverflow hsame
    · obtain rfl := Except.error.inj h
      obtain rfl : d' = d := hsame _ rfl
      exact ⟨rfl, f, rfl⟩
    · exact absurd rfl (hoverflow o)
    · cases h

end Store

/-! ### What a claim does to each record -/

/-- What a claim makes of a record that it does not take. -/
inductive Record.PassedBy : Option Record → Option Record → Prop where
  | left (r : Option Record) : PassedBy r r
  | givenUp {r : Record} (waits : r.status.isRunnable = true) : PassedBy (some r) (some r.givenUp)

namespace Record.PassedBy

variable {before after : Option Record}

/-- What is given up does not wait any more. -/
theorem trans {later : Option Record} (h : PassedBy before after) (h' : PassedBy after later) :
    PassedBy before later := by
  cases h with
  | left => exact h'
  | givenUp waits =>
    cases h' with
    | left => exact .givenUp waits
    | givenUp waits' => cases waits'

theorem eq_of_not_isRunnable {r : Record} (h : PassedBy (some r) after)
    (hr : r.status.isRunnable = false) : after = some r := by
  cases h with
  | left => rfl
  | givenUp waits => cases hr.symm.trans waits

/-- What waits afterwards waited before and is the same. -/
theorem eq_of_isRunnable {r : Record} (h : PassedBy before (some r))
    (hr : r.status.isRunnable = true) : before = some r := by
  cases h with
  | left => rfl
  | givenUp => cases hr

theorem countable {r : Record} (h : PassedBy before (some r))
    (hbefore : ∀ x ∈ before, x.Countable) : r.Countable := by
  cases h with
  | left => exact hbefore r rfl
  | givenUp =>
    intro hs
    cases hs

/-- What runs afterwards ran before. -/
theorem eq_of_running {r : Record} (h : PassedBy before (some r)) (hr : r.status = .running) :
    before = some r := by
  cases h with
  | left => rfl
  | givenUp => cases hr

end Record.PassedBy

/-- A claim takes the record of an id and hands it out, or passes it by. -/
theorem Turn.of_claim_ok {id node : String} {answer : Option Record} {m : Moment}
    {before after : Option Record}
    (h : Turn id (some ⟨.claim node, .ok answer⟩) (some m) before after)
    (hbefore : ∀ r ∈ before, r.Countable) :
    (∀ x ∈ answer, x.id ≠ id) ∧ Record.PassedBy before after
    ∨ ∃ w, before = some w ∧ w.status.isRunnable = true
        ∧ answer = some (w.running node m.now.toInstant) ∧ after = answer := by
  have hid (haffirms : Answer.affirms id ⟨.claim node, .ok answer⟩ = false) :
      ∀ x ∈ answer, x.id ≠ id := by
    intro x hx
    rw [Option.mem_def.mp hx] at haffirms
    exact beq_eq_false_iff_ne.mp haffirms
  cases h with
  | idle haffirms => exact Or.inl ⟨hid (haffirms _ rfl), .left _⟩
  | created _ _ hanswer => cases hanswer
  | cancelRequested hanswer => cases hanswer
  | changed _ _ hanswer => cases hanswer
  | reported _ _ _ hanswer => cases hanswer
  | logged _ hanswer => cases hanswer
  | checked _ _ _ hcall => cases hcall _ rfl
  | @offered _ r node' hcall htaken hother =>
    obtain rfl : node = node' := Call.claim.inj (hcall _ rfl)
    -- An offer that is not taken says nothing about the answer but that it is not this record.
    unfold Record.offered
    cases hnow : r.isRunnableNow node m.policy m.now.toInstant with
    | false =>
      have ho := Record.offer_passed hnow
      have hnot : ∀ new, Record.Offer.passed ≠ .taken new := fun _ => Record.Offer.noConfusion
      rw [ho] at hother ⊢
      exact Or.inl ⟨hid (hother hnot _ rfl), .left _⟩
    | true =>
    have hwaits := Record.isRunnable_of_isRunnableNow hnow
    cases hstart : r.mayStart m.policy with
    | false =>
      have ho := Record.offer_givenUp hnow hstart
      have hnot : ∀ new, Record.Offer.canceled r.givenUp ≠ .taken new :=
        fun _ => Record.Offer.noConfusion
      rw [ho] at hother ⊢
      exact Or.inl ⟨hid (hother hnot _ rfl), .givenUp hwaits⟩
    | true =>
      have ho := Record.offer_running (hbefore r rfl) hnow hstart
      have hanswer := htaken _ ho
      rw [ho]
      obtain ⟨-, hok⟩ := Sigma.mk.inj_iff.mp (Option.some.inj hanswer)
      have hsome : answer = some (r.running node m.now.toInstant) := Except.ok.inj (eq_of_heq hok)
      exact Or.inr ⟨r, rfl, hwaits, hsome, hsome.symm⟩

namespace Store

variable {s : Store} {k : Connection} {now : ClockTime}

section Claim

variable {node : String} {answer : Option Record}

theorem turn_of_claim (h : (s.call now k (.claim node)).1 = .ok answer) (id : String) :
    Turn id (some ⟨.claim node, .ok answer⟩) (some ⟨k.settings.failover, now⟩) (s.record? id)
      ((s.call now k (.claim node)).2.2.record? id) := by
  have hcall := call_of_ok h
  rw [hcall] at h ⊢
  have hturn := s.turn_performAt k.settings.failover (fun _ => now) (.claim node) nofun id
  rwa [h] at hturn

/-- What a claim does not hand out is passed by. -/
theorem passedBy_of_claim (hcountable : s.Countable)
    (h : (s.call now k (.claim node)).1 = .ok answer) {id : String}
    (hid : ∀ x ∈ answer, x.id ≠ id) :
    Record.PassedBy (s.record? id) ((s.call now k (.claim node)).2.2.record? id) := by
  rcases (turn_of_claim h id).of_claim_ok (hcountable id) with ⟨-, hpassed⟩ | ⟨w, hw, -, hanswer, -⟩
  · exact hpassed
  · exact absurd (id_of_record? hw) (hid (w.running node now.toInstant) hanswer)

/-- What a claim hands out waited, and it is in its next run. -/
theorem taken_of_claim (hcountable : s.Countable) {r : Record}
    (h : (s.call now k (.claim node)).1 = .ok (some r)) :
    ∃ w, s.record? w.id = some w ∧ w.status.isRunnable = true ∧ r = w.running node now.toInstant
      ∧ (s.call now k (.claim node)).2.2.record? w.id = some r := by
  rcases (turn_of_claim h r.id).of_claim_ok (hcountable r.id) with
    ⟨hid, -⟩ | ⟨w, hw, hwaits, hanswer, hafter⟩
  · exact absurd rfl (hid r rfl)
  · obtain rfl := Option.some.inj hanswer
    exact ⟨w, hw, hwaits, rfl, hafter⟩

end Claim

/-- A report that is answered reaches a store that is not locked. -/
theorem answers_of_changeFor {id : String} {c : Claim} {next : Status} {message : Option String}
    {done : Bool} (h : (s.call now k (.changeFor id c next message)).1 = .ok done) :
    s.Answers k := by
  cases s with
  | memory m => exact .memory m
  | database d =>
    obtain ⟨t, locked⟩ := d
    have hbroken := not_broken_of_ok h
    cases locked with
    | false => exact .database t hbroken
    | true =>
      rw [call_of_ok h] at h
      cases h

/-! ### The tasks that wait -/

/-- The ids of the tasks that wait for a run. -/
def waiting (s : Store) : List String :=
  (s.entries.map Entry.id).filter fun id => (s.record? id).any fun r => r.status.isRunnable

theorem length_waiting_le (s : Store) : s.waiting.length ≤ s.size := by
  refine (List.length_filter_le _ _).trans ?_
  cases s <;> simp [entries, Memory.entries, Table.entries, size]

theorem mem_ids_of_record? {id : String} {r : Record} (h : s.record? id = some r) :
    id ∈ s.entries.map Entry.id := by
  cases s with
  | memory m =>
    refine List.mem_map.mpr ⟨.record r, List.mem_map_of_mem (Memory.mem_of_get? h), ?_⟩
    exact Memory.id_of_get? h
  | database d =>
    rw [record?_database] at h
    obtain ⟨row, hrow, hread⟩ := Table.record?_eq_some_iff.mp h
    refine List.mem_map.mpr ⟨.row row, List.mem_map_of_mem (List.mem_of_find?_eq_some hrow), ?_⟩
    exact (Row.of_read hread).1.symm.trans (Table.id_of_record? h)

/-- What is amended keeps its ids. -/
theorem map_id_of_amends {old new : List Entry} (h : Amends old new) :
    new.map Entry.id = old.map Entry.id := by
  unfold Amends at h
  induction h with
  | nil => rfl
  | cons hsame _ ih => rw [List.map_cons, List.map_cons, hsame.id, ih]

section Gone

variable {s' : Store} {w : Record}
  (hgone : ∀ r, s'.record? w.id = some r → r.status.isRunnable = false)
  (hothers : ∀ id, id ≠ w.id → Record.PassedBy (s.record? id) (s'.record? id))
include hgone hothers

/-- No counter is used up where one task does not wait any more and the others are passed by. -/
theorem countable_of_passedBy (hcountable : s.Countable) : s'.Countable := by
  intro id r hr
  by_cases hid : id = w.id
  · subst hid
    intro hnew
    have hwaits := hgone r hr
    rw [hnew] at hwaits
    cases hwaits
  · have hpassed := hothers id hid
    rw [hr] at hpassed
    exact hpassed.countable (hcountable id)

/-- Fewer tasks wait then. -/
theorem length_waiting_lt (hamends : Amends s.entries s'.entries) (hw : s.record? w.id = some w)
    (hwaits : w.status.isRunnable = true) : s'.waiting.length < s.waiting.length := by
  let waits (s : Store) (id : String) : Bool := (s.record? id).any fun r => r.status.isRunnable
  have hsub : ∀ id, waits s' id = true → waits s id = true ∧ id ≠ w.id := by
    intro id hid
    obtain ⟨r, hr, hrun⟩ := (Option.any_eq_true _ _).mp hid
    have hne : id ≠ w.id := by
      intro heq
      subst heq
      cases (hgone r hr).symm.trans hrun
    have hpassed := hothers id hne
    rw [hr] at hpassed
    exact ⟨(Option.any_eq_true _ _).mpr ⟨r, hpassed.eq_of_isRunnable hrun, hrun⟩, hne⟩
  -- The ids stand where they stood, so only the filter differs.
  have hfilter : s'.waiting = s.waiting.filter (waits s') := by
    unfold waiting
    rw [map_id_of_amends hamends, List.filter_filter]
    refine List.filter_congr fun id _ => ?_
    cases hid : waits s' id with
    | false => exact hid
    | true => exact hid.trans (Bool.and_eq_true_iff.mpr ⟨rfl, (hsub id hid).1⟩).symm
  have hmem : w.id ∈ s.waiting := by
    refine List.mem_filter.mpr ⟨mem_ids_of_record? hw, ?_⟩
    exact (Option.any_eq_true _ _).mpr ⟨w, hw, hwaits⟩
  rw [hfilter]
  refine List.length_filter_lt_length_iff_exists.mpr ⟨w.id, hmem, ?_⟩
  exact fun hw' => (hsub w.id hw').2 rfl

end Gone

end Store

end TaskCluster
