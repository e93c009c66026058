import Mathlib
import TaskCluster.Proofs.Store.Traffic

/-!
# Claims are exclusive, and late reports are fenced off

The epoch of a task (`Record.epoch`) is all that is needed. In any traffic from an empty store it
never falls and never jumps. A claim that produces the count `n` takes the epoch from `2 * n - 1` to
`2 * n`, and a report that is accepted for that claim finds the epoch `2 * n` and leaves a greater
one. Two such events can then not be about the same claim, whatever lies between them.
-/

namespace TaskCluster

/-! ### Epochs of ids -/

/-- The epoch of a record that may be missing: before a task is created it is zero. -/
def Record.epochOf : Option Record → Nat
  | none => 0
  | some r => r.epoch

theorem Record.epochOf_map {old : Option Record} {g : Record → Record}
    (h : ∀ r ∈ old, Advances r (g r)) :
    epochOf old ≤ epochOf (old.map g) ∧ epochOf (old.map g) ≤ epochOf old + 1 := by
  cases old with
  | none => exact ⟨Nat.le_refl _, Nat.le_succ _⟩
  | some r => exact h r rfl

section Shown

variable {m m' : Memory} {answer : Option Answer}

/-- An event moves the epoch of every id on by one at most. -/
theorem Shown.epoch_advances (h : Shown m answer m') (hm : m.Counted) (id : String) :
    Record.epochOf (m.get? id) ≤ Record.epochOf (m'.get? id)
      ∧ Record.epochOf (m'.get? id) ≤ Record.epochOf (m.get? id) + 1 := by
  cases h with
  | nothing => exact ⟨Nat.le_refl _, Nat.le_succ _⟩
  | call policy clock c hhand hfresh =>
    by_cases hcreate : c.operation = .create
    · cases c with
      | create id' taskType config =>
        have habsent := hfresh id' rfl
        change _ ≤ Record.epochOf ((m.put _).get? id) ∧ Record.epochOf ((m.put _).get? id) ≤ _
        rw [Memory.get?_put habsent]
        split
        case isTrue hid =>
          have hid' : id' = id := hid
          rw [← hid', habsent]
          exact ⟨Nat.zero_le _, Nat.le_refl _⟩
        case isFalse => exact ⟨Nat.le_refl _, Nat.le_succ _⟩
      | _ => cases hcreate
    · obtain ⟨reached, hrecords⟩ := Memory.performAt_records policy clock hm hcreate
      rw [Memory.get?_of_records_eq
        (fun r => (Record.sameTask_after policy clock reached c r).id) hrecords]
      refine Record.epochOf_map fun r hr => Record.advances_after policy clock reached c ?_
        (hm r (Memory.mem_of_get? hr))
      rintro id message rfl
      cases hhand
  | offered node policy now id' =>
    rw [Memory.get?_scanOne]
    refine Record.epochOf_map fun r hr => ?_
    split
    · exact Record.advances_offered (hm r (Memory.mem_of_get? hr)) node policy now
    · exact .refl r
  | checked node listed timeout now id' =>
    rw [Memory.get?_sweepOne]
    refine Record.epochOf_map fun r _ => ?_
    split
    · exact r.advances_checkHeartbeat node listed timeout now
    · exact .refl r

/-- An event brings up no id but the one that it creates. -/
theorem Shown.get?_eq_none (h : Shown m answer m') (hm : m.Counted) {id : String}
    (hid : m.get? id = none) (hnew : ∀ a ∈ answer, a.1.created? ≠ some id) :
    m'.get? id = none := by
  cases h with
  | nothing => exact hid
  | call policy clock c => exact Memory.get?_performAt_eq_none policy clock hm (hnew _ rfl) hid
  | offered node policy now id' =>
    rw [Memory.get?_scanOne, hid]
    rfl
  | checked node listed timeout now id' =>
    rw [Memory.get?_sweepOne, hid]
    rfl

/-- No event makes a record disappear. -/
theorem Shown.get?_isSome (h : Shown m answer m') (hm : m.Counted) {id : String}
    (hid : (m.get? id).isSome) : (m'.get? id).isSome := by
  cases h with
  | nothing => exact hid
  | call policy clock c hhand hfresh =>
    by_cases hcreate : c.operation = .create
    · cases c with
      | create id' taskType config =>
        change ((m.put _).get? id).isSome
        rw [Memory.get?_put (hfresh id' rfl)]
        split
        · rfl
        · exact hid
      | _ => cases hcreate
    · obtain ⟨reached, hrecords⟩ := Memory.performAt_records policy clock hm hcreate
      rw [Memory.get?_of_records_eq
        (fun r => (Record.sameTask_after policy clock reached c r).id) hrecords, Option.isSome_map]
      exact hid
  | offered node policy now id' =>
    rw [Memory.get?_scanOne, Option.isSome_map]
    exact hid
  | checked node listed timeout now id' =>
    rw [Memory.get?_sweepOne, Option.isSome_map]
    exact hid

/-- The record that a call takes is in the store as it was taken. -/
theorem Memory.performAt_claimed {policy : FailoverPolicy} {clock : Readings} {node : String}
    {new : Record} (hm : m.Counted)
    (h : (m.performAt policy clock (.claim node)).1 = .ok (some new)) :
    ∃ old, m.get? new.id = some old
      ∧ old.offer node policy (clock old.id).toInstant = .taken new
      ∧ (m.performAt policy clock (.claim node)).2.get? new.id = some new := by
  obtain ⟨reached, hrecords, hend⟩ := performAt_claim policy clock hm node
  rw [h] at hend
  cases hend with
  | @found old _ before hmem hlast htaken hnone =>
    have hid : new.id = old.id := by
      obtain ⟨-, rfl, -⟩ := Record.of_offer_taken htaken
      rfl
    have hget := get?_of_mem hmem
    have hafter : old.after policy clock reached (.claim node) = new := by
      dsimp only [Record.after, Record.offered]
      rw [if_pos (by simp [hlast]), htaken]
    refine ⟨old, hid ▸ hget, htaken, ?_⟩
    rw [get?_of_records_eq
      (fun r => (Record.sameTask_after policy clock reached (.claim node) r).id) hrecords,
      hid, hget]
    exact congrArg some hafter

/-- A claim that is handed out is that of a record which the node has just taken. -/
theorem Shown.claimed {node : String} {new : Record}
    (h : Shown m (some ⟨.claim node, .ok (some new)⟩) m') (hm : m.Counted) :
    ∃ old policy now, m.get? new.id = some old ∧ old.offer node policy now = .taken new
      ∧ m'.get? new.id = some new := by
  generalize hanswer : some (⟨.claim node, .ok (some new)⟩ : Answer) = answer at h
  cases h with
  | nothing hnot =>
    have hgrants := hnot _ hanswer.symm
    cases hgrants
  | call policy clock c =>
    obtain ⟨rfl, heq⟩ := Sigma.mk.inj_iff.mp (Option.some.inj hanswer)
    obtain ⟨old, hget, htaken, hnew⟩ :=
      Memory.performAt_claimed hm (eq_of_heq heq).symm
    exact ⟨old, policy, _, hget, htaken, hnew⟩
  | offered node' policy now id =>
    rcases Memory.scanOne_fst node' policy hm now id with
      ⟨hnone, -⟩ | ⟨old, new', hget, htaken, hsome⟩
    · rw [hnone] at hanswer
      cases hanswer
    · rw [hsome] at hanswer
      obtain ⟨hcall, heq⟩ := Sigma.mk.inj_iff.mp (Option.some.inj hanswer)
      obtain rfl := Call.claim.inj hcall
      obtain rfl := Option.some.inj (Except.ok.inj (eq_of_heq heq))
      obtain rfl := Memory.id_of_get? hget
      have hid : new.id = old.id := by
        obtain ⟨-, rfl, -⟩ := Record.of_offer_taken htaken
        rfl
      have hoffered : old.offered node policy now = new := by
        rw [Record.offered, htaken]
      refine ⟨old, policy, now, hid ▸ hget, htaken, ?_⟩
      rw [Memory.get?_scanOne, hid, hget]
      simp [hoffered]
  | checked => cases hanswer

/-- A report that is accepted finds the record under its claim and takes it out of its run. -/
theorem Shown.reported {id : String} {c : Claim} {next : Status} {message : Option String}
    (h : Shown m (some ⟨.changeFor id c next message, .ok true⟩) m') :
    ∃ old new, m.get? id = some old ∧ old.isRunningUnder c = true
      ∧ m'.get? id = some new ∧ new.status ≠ .running := by
  generalize hanswer : some (⟨.changeFor id c next message, .ok true⟩ : Answer) = answer at h
  cases h with
  | nothing hnot =>
    have hgrants := hnot _ hanswer.symm
    cases hgrants
  | call policy clock call =>
    obtain ⟨rfl, heq⟩ := Sigma.mk.inj_iff.mp (Option.some.inj hanswer)
    have hdone : (m.update id fun r => r.changeStatusFor c next message (clock id).toInstant).1.getD
        false = true := (Except.ok.inj (eq_of_heq heq)).symm
    rw [Memory.update_fst] at hdone
    cases hget : m.get? id with
    | none =>
      rw [hget] at hdone
      cases hdone
    | some old =>
      rw [hget] at hdone
      obtain ⟨hunder, hstatus, hnext⟩ := Record.of_changeStatusFor hdone
      refine ⟨old, _, rfl, hunder, ?_, hstatus ▸ hnext⟩
      have hnew := Memory.get?_update
        (f := fun r => r.changeStatusFor c next message (clock id).toInstant)
        (fun r => (r.sameTask_changeStatusFor c next message _).id) m id id
      rw [if_pos rfl, hget] at hnew
      exact hnew
  | offered node' policy now id' =>
    cases hone : (m.scanOne node' policy now id').1 with
    | none =>
      rw [hone] at hanswer
      cases hanswer
    | some result =>
      rw [hone] at hanswer
      cases hanswer
  | checked => cases hanswer

end Shown

/-! ### Rejected reports -/

theorem Memory.update_refused {m : Memory} {id : String} {f : Record → Bool × Record}
    (hsame : ∀ r, (f r).1 = false → (f r).2 = r) (h : (m.update id f).1.getD false = false) :
    (m.update id f).2 = m := by
  rw [update] at h ⊢
  cases hget : m.get? id with
  | none => rfl
  | some r =>
    rw [hget] at h
    dsimp only
    rw [hsame r h]
    exact replace_self (mem_of_get? hget)

theorem Transaction.changeIf_refused {t t' : Table} {id : String} {f : Record → Bool × Record}
    (h : changeIf id f t = .ok (false, t')) : t' = t := by
  unfold changeIf change at h
  cases hfind : t.find? id with
  | none =>
    rw [hfind] at h
    cases h
    rfl
  | some row =>
    rw [hfind] at h
    dsimp only at h
    cases hread : row.read with
    | error e =>
      rw [hread] at h
      cases h
    | ok r =>
      rw [hread] at h
      have hpair := Except.ok.inj h
      have hdone : (f r).1 = false := congrArg Prod.fst hpair
      have htable : (if (f r).1 then t.update (f r).2 else t) = t' := congrArg Prod.snd hpair
      rw [← htable]
      exact if_neg (by simp [hdone])

theorem Database.write_refused {d : Database} {busy : Except Abort Bool}
    {work : Transaction Bool} (hwork : ∀ t t', work t = .ok (false, t') → t' = t)
    (h : (d.write busy work).1 = .ok false) : (d.write busy work).2 = d := by
  unfold write at h ⊢
  split
  case isTrue => rfl
  case isFalse hlock =>
    rw [if_neg hlock] at h
    cases hdone : work d.table with
    | error e => rfl
    | ok pair =>
      rw [hdone] at h
      obtain ⟨a, t'⟩ := pair
      obtain rfl : a = false := Except.ok.inj h
      rw [hwork _ _ hdone]

/-- A report that is rejected leaves the whole store as it is, whatever the store holds. -/
theorem Traffic.rejected_report {s : Traffic} {e : Traffic.Event} {id : String} {c : Claim}
    {next : Status} {message : Option String}
    (h : (s.step e).1 = some ⟨.changeFor id c next message, .ok false⟩) :
    (s.step e).2.store = s.store := by
  rcases call_of_answer h with ⟨policy, clock, rfl⟩ | ⟨-, hop⟩
  · obtain ⟨store, underway⟩ := s
    cases store with
    | memory m =>
      have hanswer := eq_of_heq (Sigma.mk.inj_iff.mp (Option.some.inj h)).2
      exact congrArg Store.memory (Memory.update_refused
        (fun r => Record.changeStatusFor_refused) (Except.ok.inj hanswer))
    | database d =>
      have hanswer := eq_of_heq (Sigma.mk.inj_iff.mp (Option.some.inj h)).2
      exact congrArg Store.database (Database.write_refused
        (fun t t' hwork => Transaction.changeIf_refused hwork) hanswer)
  · rcases hop with hop | hop <;> cases hop

/-! ### Runs of traffic -/

namespace Traffic

/-- The traffic before the `i`-th of some events, once those before it have happened. -/
def before (s : Traffic) (events : List Event) (i : Nat) : Traffic :=
  (events.take i).foldl (fun s e => (s.step e).2) s

/-- The answer of the call that the `i`-th event ends, if it ends one. -/
def answer (s : Traffic) (events : List Event) (i : Nat) : Option Answer :=
  events[i]?.bind fun e => ((s.before events i).step e).1

/-- The `i`-th event hands out a claim of a record. -/
def Claims (s : Traffic) (events : List Event) (i : Nat) (r : Record) : Prop :=
  ∃ node, s.answer events i = some ⟨.claim node, .ok (some r)⟩

/-- The `i`-th event answers a report about a claim. -/
def Reports (s : Traffic) (events : List Event) (i : Nat) (id : String) (c : Claim)
    (accepted : Bool) : Prop :=
  ∃ next message, s.answer events i = some ⟨.changeFor id c next message, .ok accepted⟩

/-- A run of the task is on. -/
def Runs (s : Traffic) (id : String) : Prop :=
  ∃ r, s.store.record? id = some r ∧ r.status = .running

/-- The run of a claim is on. -/
def RunsUnder (s : Traffic) (id : String) (c : Claim) : Prop :=
  ∃ r, s.store.record? id = some r ∧ r.isRunningUnder c = true

/-- Traffic from an empty store with distinct new ids, in which no call begins a run by hand. -/
structure FromEmpty (s : Traffic) (events : List Event) : Prop where
  empty : s.store.size = 0
  created_nodup : (events.filterMap Event.created?).Nodup
  claimed_only : ∀ e ∈ events, ∀ c ∈ e.call?, c.startsByHand = false

variable {s : Traffic} {events : List Event}

theorem before_succ {i : Nat} {e : Event} (h : events[i]? = some e) :
    s.before events (i + 1) = ((s.before events i).step e).2 := by
  unfold before
  rw [List.take_add_one, h, List.foldl_append]
  rfl

theorem before_of_length_le {i : Nat} (h : events.length ≤ i) :
    s.before events i = s.before events events.length := by
  unfold before
  rw [List.take_of_length_le h, List.take_length]

theorem lt_length_of_answer {i : Nat} {a : Answer} (h : s.answer events i = some a) :
    i < events.length := by
  by_contra hlen
  rw [answer, List.getElem?_eq_none (Nat.le_of_not_lt hlen)] at h
  cases h

/-! ### What the records show after some events -/

theorem shows_of_size_eq_zero {store : Store} (h : store.size = 0) : store.Shows {} := by
  cases store with
  | memory m =>
    have hrecords : m.records = [] := List.eq_nil_of_length_eq_zero h
    obtain rfl : m = {} := Memory.eq_of_records_eq hrecords
    exact .memory Agrees.empty.counted
  | database d =>
    obtain ⟨t, locked⟩ := d
    have hrows : t.rows = [] := List.eq_nil_of_length_eq_zero h
    exact .database locked ⟨hrows, Agrees.empty.whole, Agrees.empty.counted⟩

/-- The ids that are still to be created: that of the next event, and those behind it. -/
theorem filterMap_created?_drop {i : Nat} {e : Event} (h : events[i]? = some e) :
    (events.drop i).filterMap Event.created?
      = e.created?.toList ++ (events.drop (i + 1)).filterMap Event.created? := by
  obtain ⟨hi, rfl⟩ := List.getElem?_eq_some_iff.mp h
  rw [List.drop_eq_getElem_cons hi, List.filterMap_cons]
  cases events[i].created? <;> rfl

/-- What carries an induction over the events: the store shows some records, and the ids that are
still to be created are not among them. -/
theorem FromEmpty.shows_before (h : FromEmpty s events) (i : Nat) (hi : i ≤ events.length) :
    ∃ m, (s.before events i).store.Shows m
      ∧ ∀ id ∈ (events.drop i).filterMap Event.created?, m.get? id = none := by
  induction i with
  | zero => exact ⟨{}, shows_of_size_eq_zero h.empty, fun _ _ => rfl⟩
  | succ i ih =>
    obtain ⟨m, hshows, hfresh⟩ := ih (Nat.le_of_succ_le hi)
    have hget : events[i]? = some events[i] := List.getElem?_eq_getElem hi
    have hdrop := filterMap_created?_drop hget
    rw [hdrop] at hfresh
    have hnodup : ((events.drop i).filterMap Event.created?).Nodup :=
      h.created_nodup.sublist ((List.drop_sublist i events).filterMap _)
    rw [hdrop] at hnodup
    obtain ⟨m', hshows', hshown⟩ := step_shown hshows events[i]
      (h.claimed_only _ (List.getElem_mem hi))
      (fun id hid => hfresh id (List.mem_append_left _ (Option.mem_toList.mpr hid)))
    rw [before_succ hget]
    refine ⟨m', hshows', ?_⟩
    intro id hid
    refine hshown.get?_eq_none hshows.counted (hfresh id (List.mem_append_right _ hid)) ?_
    intro a ha hcreated
    rw [created?_of_answer ha] at hcreated
    exact (List.nodup_append.mp hnodup).2.2 id (Option.mem_toList.mpr hcreated) id hid rfl

/-- The records before and after an event, and how the event shows in them. -/
theorem FromEmpty.shown (h : FromEmpty s events) {i : Nat} (hi : i < events.length) :
    ∃ m m', (s.before events i).store.Shows m ∧ (s.before events (i + 1)).store.Shows m'
      ∧ Shown m (s.answer events i) m' := by
  obtain ⟨m, hshows, hfresh⟩ := h.shows_before i (Nat.le_of_lt hi)
  have hget : events[i]? = some events[i] := List.getElem?_eq_getElem hi
  obtain ⟨m', hshows', hshown⟩ := step_shown hshows events[i]
    (h.claimed_only _ (List.getElem_mem hi)) (by
      intro id hid
      refine hfresh id ?_
      rw [filterMap_created?_drop hget]
      exact List.mem_append_left _ (Option.mem_toList.mpr hid))
  refine ⟨m, m', hshows, ?_, ?_⟩
  · rw [before_succ hget]
    exact hshows'
  · rw [answer, hget]
    exact hshown

/-! ### The epoch of an id over time -/

/-- The epoch of an id before the `i`-th event. -/
def epochAt (s : Traffic) (events : List Event) (id : String) (i : Nat) : Nat :=
  Record.epochOf ((s.before events i).store.record? id)

theorem FromEmpty.epochAt_mono (h : FromEmpty s events) (id : String) :
    Monotone (s.epochAt events id) := by
  refine monotone_nat_of_le_succ fun i => ?_
  by_cases hi : i < events.length
  · obtain ⟨m, m', hshows, hshows', hshown⟩ := h.shown hi
    unfold epochAt
    rw [hshows.record?_eq, hshows'.record?_eq]
    exact (hshown.epoch_advances hshows.counted id).1
  · have hlen : events.length ≤ i := Nat.le_of_not_lt hi
    unfold epochAt
    rw [before_of_length_le hlen, before_of_length_le (Nat.le_succ_of_le hlen)]

theorem epochAt_of_runsUnder {id : String} {c : Claim} {i : Nat}
    (h : (s.before events i).RunsUnder id c) : s.epochAt events id i = 2 * c.runCount.toNat := by
  obtain ⟨r, hr, hunder⟩ := h
  simp only [Record.isRunningUnder, Bool.and_eq_true, beq_iff_eq] at hunder
  obtain ⟨⟨hstatus, hcount⟩, -⟩ := hunder
  unfold epochAt
  rw [hr, ← hcount]
  exact Record.epoch_of_running hstatus

/-- What a claim that is handed out does: no run was on, the run of the claim is on, and the epoch
went up to that of the claim. -/
theorem FromEmpty.of_claims (h : FromEmpty s events) {i : Nat} {r : Record}
    (hr : s.Claims events i r) :
    ¬ (s.before events i).Runs r.id
      ∧ (∃ c, r.claim? = some c ∧ (s.before events (i + 1)).RunsUnder r.id c)
      ∧ s.epochAt events r.id i + 1 = 2 * r.runCount.toNat
      ∧ s.epochAt events r.id (i + 1) = 2 * r.runCount.toNat := by
  obtain ⟨node, hanswer⟩ := hr
  obtain ⟨m, m', hshows, hshows', hshown⟩ := h.shown (lt_length_of_answer hanswer)
  rw [hanswer] at hshown
  obtain ⟨old, policy, now, hold, htaken, hnew⟩ := hshown.claimed hshows.counted
  obtain ⟨hepoch', hepoch⟩ := Record.epoch_of_offer_taken htaken
  obtain ⟨hrunnable, hrunning, -⟩ := Record.of_offer_taken htaken
  have hbefore : (s.before events i).store.record? r.id = some old := by
    rw [hshows.record?_eq, hold]
  have hafter : (s.before events (i + 1)).store.record? r.id = some r := by
    rw [hshows'.record?_eq, hnew]
  unfold epochAt
  rw [hbefore, hafter]
  refine ⟨?_, ?_, hepoch, hepoch'⟩
  · rintro ⟨x, hx, hstatus⟩
    obtain rfl := Option.some.inj (hbefore.symm.trans hx)
    exact Record.not_running_of_isRunnable hrunnable hstatus
  · have hnode : ∃ node, r.node = some node ∧ r.status = .running := by
      rw [hrunning]
      exact ⟨_, rfl, rfl⟩
    obtain ⟨node, hnode, hstatus⟩ := hnode
    refine ⟨⟨node, r.runCount⟩, ?_, r, hafter, ?_⟩
    · rw [Record.claim?, hnode]
      rfl
    · simp [Record.isRunningUnder, hstatus, hnode]

/-- What an accepted report does: the run of the claim was on, and the epoch leaves it. -/
theorem FromEmpty.of_reports (h : FromEmpty s events) {i : Nat} {id : String} {c : Claim}
    (hr : s.Reports events i id c true) :
    s.epochAt events id i = 2 * c.runCount.toNat
      ∧ 2 * c.runCount.toNat < s.epochAt events id (i + 1) := by
  obtain ⟨next, message, hanswer⟩ := hr
  obtain ⟨m, m', hshows, hshows', hshown⟩ := h.shown (lt_length_of_answer hanswer)
  rw [hanswer] at hshown
  obtain ⟨old, new, hold, hunder, hnew, hstatus⟩ := hshown.reported
  have hbefore : s.epochAt events id i = 2 * c.runCount.toNat :=
    epochAt_of_runsUnder ⟨old, by rw [hshows.record?_eq, hold], hunder⟩
  have hmono := h.epochAt_mono id (Nat.le_succ i)
  have hafter : s.epochAt events id (i + 1) = new.epoch := by
    unfold epochAt
    rw [hshows'.record?_eq, hnew]
    rfl
  -- The epoch after the report is odd, since no run is on.
  have hodd : new.epoch % 2 ≠ 0 := fun heven => hstatus (new.running_iff_even.mpr heven)
  refine ⟨hbefore, ?_⟩
  rw [hafter] at hmono ⊢
  omega

/-- Once the run of a claim has ended, the epoch has left it. -/
theorem FromEmpty.of_ended (h : FromEmpty s events) {i : Nat} {id : String} {c : Claim}
    (hon : (s.before events i).RunsUnder id c) (hoff : ¬ (s.before events (i + 1)).Runs id) :
    2 * c.runCount.toNat < s.epochAt events id (i + 1) := by
  have hbefore := epochAt_of_runsUnder hon
  have hmono := h.epochAt_mono id (Nat.le_succ i)
  by_cases hi : i < events.length
  · obtain ⟨m, m', hshows, hshows', hshown⟩ := h.shown hi
    obtain ⟨r, hr, -⟩ := hon
    rw [hshows.record?_eq] at hr
    have hthere : (m.get? id).isSome := by
      rw [hr]
      rfl
    obtain ⟨new, hnew⟩ := Option.isSome_iff_exists.mp (hshown.get?_isSome hshows.counted hthere)
    have hrecord : (s.before events (i + 1)).store.record? id = some new := by
      rw [hshows'.record?_eq, hnew]
    have hafter : s.epochAt events id (i + 1) = new.epoch := by
      unfold epochAt
      rw [hrecord]
      rfl
    have hodd : new.epoch % 2 ≠ 0 := fun heven =>
      hoff ⟨new, hrecord, new.running_iff_even.mpr heven⟩
    rw [hafter] at hmono ⊢
    omega
  · -- Nothing happens any more, so the run would still be on.
    have hlen : events.length ≤ i := Nat.le_of_not_lt hi
    rw [before_of_length_le (Nat.le_succ_of_le hlen), ← before_of_length_le hlen] at hoff
    obtain ⟨r, hr, hunder⟩ := hon
    simp only [Record.isRunningUnder, Bool.and_eq_true, beq_iff_eq] at hunder
    exact absurd ⟨r, hr, hunder.1.1⟩ hoff

/-- A run that is on at first and not at last has ended at some event between. -/
theorem exists_end_of_run {P : Nat → Prop} {i j : Nat} (hij : i ≤ j) (hi : P i) (hj : ¬ P j) :
    ∃ k, i ≤ k ∧ k < j ∧ P k ∧ ¬ P (k + 1) := by
  induction j, hij using Nat.le_induction with
  | base => exact absurd hi hj
  | succ j hle ih =>
    by_cases hpj : P j
    · exact ⟨j, hle, Nat.lt_succ_self j, hpj, hj⟩
    · obtain ⟨k, hik, hkj, hk, hk'⟩ := ih hpj
      exact ⟨k, hik, Nat.lt_succ_of_lt hkj, hk, hk'⟩

/-! ### Exclusive claims and fenced reports -/

/-- **Claims are exclusive and late reports are fenced off**, in any traffic from an empty store:
a claim that is handed out runs; no two claims of a task have the same count; between two claims of
a task its run has ended; at most one report about a claim is accepted, and none once the run has
ended; and a report that is rejected changes nothing. -/
theorem claims_exclusive_and_fenced (h : FromEmpty s events) :
    (∀ i r, s.Claims events i r →
        ∃ c, r.claim? = some c ∧ (s.before events (i + 1)).RunsUnder r.id c)
    ∧ (∀ i j r r', s.Claims events i r → s.Claims events j r' → r.id = r'.id →
        r.runCount = r'.runCount → i = j)
    ∧ (∀ i j r r', s.Claims events i r → s.Claims events j r' → r.id = r'.id → i < j →
        ∃ k, i < k ∧ k < j ∧ (s.before events k).Runs r.id ∧ ¬ (s.before events (k + 1)).Runs r.id)
    ∧ (∀ i j id c, s.Reports events i id c true → s.Reports events j id c true → i = j)
    ∧ (∀ i j id c, (s.before events i).RunsUnder id c → ¬ (s.before events (i + 1)).Runs id →
        i < j → ¬ s.Reports events j id c true)
    ∧ (∀ i id c, s.Reports events i id c false →
        (s.before events (i + 1)).store = (s.before events i).store) := by
  refine ⟨fun i r hr => (h.of_claims hr).2.1, ?_, ?_, ?_, ?_, ?_⟩
  · -- The later claim would find an epoch below the one that the earlier left.
    have hlt : ∀ i j r r', s.Claims events i r → s.Claims events j r' → r.id = r'.id →
        r.runCount = r'.runCount → ¬ i < j := by
      intro i j r r' hr hr' hid hcount hij
      obtain ⟨-, -, -, hleft⟩ := h.of_claims hr
      obtain ⟨-, -, hfound, -⟩ := h.of_claims hr'
      have hmono := h.epochAt_mono r.id hij
      rw [← hid, ← hcount] at hfound
      have hle : s.epochAt events r.id (i + 1) ≤ s.epochAt events r.id j := hmono
      omega
    intro i j r r' hr hr' hid hcount
    rcases Nat.lt_trichotomy i j with hij | hij | hij
    · exact absurd hij (hlt i j r r' hr hr' hid hcount)
    · exact hij
    · exact absurd hij (hlt j i r' r hr' hr hid.symm hcount.symm)
  · intro i j r r' hr hr' hid hij
    obtain ⟨-, ⟨c, -, x, hx, hunder⟩, -⟩ := h.of_claims hr
    obtain ⟨hnot, -⟩ := h.of_claims hr'
    simp only [Record.isRunningUnder, Bool.and_eq_true, beq_iff_eq] at hunder
    have hon : (s.before events (i + 1)).Runs r.id := ⟨x, hx, hunder.1.1⟩
    -- The run is on behind the first claim and off before the second.
    obtain ⟨k, hik, hkj, hk, hk'⟩ := exists_end_of_run
      (P := fun k => (s.before events k).Runs r.id) (Nat.succ_le_of_lt hij) hon (hid ▸ hnot)
    exact ⟨k, hik, hkj, hk, hk'⟩
  -- An accepted report leaves the epoch beyond the claim, and the next would need it there.
  · have hlt : ∀ i j id c, s.Reports events i id c true → s.Reports events j id c true →
        ¬ i < j := by
      intro i j id c hi hj hij
      obtain ⟨-, hleft⟩ := h.of_reports hi
      obtain ⟨hfound, -⟩ := h.of_reports hj
      have hle : s.epochAt events id (i + 1) ≤ s.epochAt events id j := h.epochAt_mono id hij
      omega
    intro i j id c hi hj
    rcases Nat.lt_trichotomy i j with hij | hij | hij
    · exact absurd hij (hlt i j id c hi hj)
    · exact hij
    · exact absurd hij (hlt j i id c hj hi)
  · intro i j id c hon hoff hij hj
    have hleft := h.of_ended hon hoff
    obtain ⟨hfound, -⟩ := h.of_reports hj
    have hle : s.epochAt events id (i + 1) ≤ s.epochAt events id j := h.epochAt_mono id hij
    omega
  · rintro i id c ⟨next, message, hanswer⟩
    have hi := lt_length_of_answer hanswer
    have hget : events[i]? = some events[i] := List.getElem?_eq_getElem hi
    rw [answer, hget] at hanswer
    rw [before_succ hget]
    exact rejected_report hanswer

/-- Two nodes look for the same task at the same time, and both report about a first run. -/
theorem claims_exclusive_and_fenced_for_two_nodes :
    let s : Traffic := ⟨.memory {}, []⟩
    let clock : Readings := fun _ => .epoch
    let events : List Event :=
      [.call {} clock (.create "t" "noop" none), .call {} clock (.claim "a"),
        .call {} clock (.claim "b"), .look {} .epoch 1, .look {} .epoch 0,
        .call {} clock (.changeFor "t" ⟨"a", 1⟩ .finishedOk none),
        .call {} clock (.changeFor "t" ⟨"b", 1⟩ .finishedOk none)]
    FromEmpty s events
      ∧ (∀ i j r r', s.Claims events i r → s.Claims events j r' → r.id = r'.id →
          r.runCount = r'.runCount → i = j)
      ∧ ∀ i j id c, s.Reports events i id c true → s.Reports events j id c true → i = j := by
  intro s clock events
  have h : FromEmpty s events :=
    ⟨rfl, by decide, by simp [events, Event.call?, Call.startsByHand]⟩
  obtain ⟨-, hclaims, -, hreports, -⟩ := claims_exclusive_and_fenced h
  exact ⟨h, hclaims, hreports⟩

end Traffic

end TaskCluster
