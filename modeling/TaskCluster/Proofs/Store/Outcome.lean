import Mathlib
import TaskCluster.Proofs.Store.Timeline

/-!
# Whose look it was

A turn at an id tells under which answer the record was changed. A look of a memory that leaves its
call under way answers nothing, so it does not tell which node looked. `Traffic.outcome` fills the
gap: it is the answer of the call that an event is part of (`callOf`), or what that call would
answer if it ended there. Every event makes its turn under its outcome too (`turn_outcome`), and so
each change of a record by a claim or a heartbeat, ended or not, is known with its node.
-/

namespace TaskCluster

/-- What a claim scan changes was offered to its node. -/
theorem Turn.of_claim {id node : String} {a : Answer} {moment : Option Moment} {old : Record}
    {after : Option Record} (h : Turn id (some a) moment (some old) after)
    (hclaim : a.1 = .claim node) (hne : after ≠ some old) :
    ∃ m, moment = some m ∧ after = some (old.offered node m.policy m.now.toInstant) := by
  have hno : ∀ {c : Call} {result : Except Abort c.Result}, c ≠ .claim node →
      some a ≠ some ⟨c, result⟩ := by
    intro c result hc heq
    obtain rfl := Option.some.inj heq
    exact hc hclaim
  cases h with
  | idle => exact absurd rfl hne
  | cancelRequested hanswer => exact absurd hanswer (hno nofun)
  | changed _ _ hanswer => exact absurd hanswer (hno nofun)
  | reported _ _ _ hanswer => exact absurd hanswer (hno nofun)
  | logged _ hanswer => exact absurd hanswer (hno nofun)
  | @offered m _ scanner hcall =>
    obtain rfl := Call.claim.inj ((hcall a rfl).symm.trans hclaim)
    exact ⟨m, rfl, rfl⟩
  | checked _ _ _ hcall => cases (hcall a rfl).symm.trans hclaim

/-- What a call that is under way answers if it ends now. -/
def Underway.ending : Underway → Answer
  | .claim node _ => ⟨.claim node, .ok none⟩
  | .heartbeat node listed timeout _ => ⟨.heartbeat node listed timeout, .ok ()⟩

/-- The call that is under way. -/
def Underway.call (u : Underway) : Call := u.ending.1

theorem Underway.affirms_ending (u : Underway) (id : String) :
    u.ending.affirms id = false := by
  cases u <;> rfl

deriving instance DecidableEq for Underway

/-- A look that does not end a claim scan is a turn at every record, of which it takes none. -/
theorem Memory.turn_scanOne_of_none (node : String) (policy : FailoverPolicy) (now : ClockTime)
    (m : Memory) (target id : String)
    (h : (scanOne node policy now.toInstant m target).1 = none) :
    Turn id (some ⟨.claim node, .ok none⟩) (some ⟨policy, now⟩) (m.get? id)
      ((scanOne node policy now.toInstant m target).2.get? id) := by
  by_cases hid : id = target
  · subst hid
    rw [scanOne_fst_eq] at h
    rw [get?_scanOne]
    cases hr : m.get? id with
    | none => exact .idle (by rintro a ⟨⟩; rfl)
    | some r =>
      rw [hr, Option.bind_some] at h
      rw [Option.map_some, if_pos (id_of_get? hr)]
      refine .offered node (by rintro a ⟨⟩; rfl) ?_ (fun _ => by rintro a ⟨⟩; rfl)
      intro new htaken
      dsimp only at htaken
      rw [htaken] at h
      cases h
  · rw [get?_scanOne_of_ne node policy now.toInstant m hid]
    exact .idle (by rintro a ⟨⟩; rfl)

namespace Traffic

/-- The call that an event leaves under way, or would leave there if it did not end it. -/
def rest? (s : Traffic) : Event → Option Underway
  | .call _ _ (.claim node) => some (.claim node [])
  | .call _ _ (.heartbeat node listed timeout) => some (.heartbeat node listed timeout [])
  | .look _ _ n | .skip n => s.underway[n]?
  | _ => none

/-- The answer of the call that an event is part of, or what it would answer if it ended there. -/
def outcome (s : Traffic) (e : Event) : Option Answer :=
  (s.step e).1 <|> (s.rest? e).map Underway.ending

/-- The call that an event is part of. -/
def callOf (s : Traffic) : Event → Option Call
  | .call _ _ c => some c
  | .look _ _ n | .skip n => s.underway[n]?.map Underway.call
  | .lock _ => none

theorem outcome_of_answer {s : Traffic} {e : Event} {a : Answer} (h : (s.step e).1 = some a) :
    s.outcome e = some a := by
  rw [outcome, h]
  rfl

theorem outcome_of_rest {s : Traffic} {e : Event} {u : Underway} (h : (s.step e).1 = none)
    (hrest : s.rest? e = some u) : s.outcome e = some u.ending := by
  rw [outcome, h, hrest]
  rfl

/-- A look that ends a call ends the one that is under way. -/
theorem call_of_lookAt {policy : FailoverPolicy} {now : Instant} {m : Memory} {u : Underway}
    {a : Answer} (h : (lookAt policy now m u).1 = some a) : a.1 = u.call := by
  cases u with
  | claim node ids =>
    cases ids with
    | nil =>
      obtain rfl := Option.some.inj h
      rfl
    | cons target ids =>
      dsimp only [lookAt] at h
      split at h
      · cases h
      · obtain rfl := Option.some.inj h
        rfl
  | heartbeat node listed timeout ids =>
    cases ids with
    | nil =>
      obtain rfl := Option.some.inj h
      rfl
    | cons target ids => cases h

/-- An event has an outcome exactly if it is part of a call, and it is one of that call. -/
theorem map_fst_outcome (s : Traffic) (e : Event) :
    (s.outcome e).map Sigma.fst = s.callOf e := by
  obtain ⟨store, underway⟩ := s
  cases e with
  | call policy clock c =>
    cases store with
    | memory m => cases c <;> rfl
    | database d => rfl
  | look policy now n =>
    cases hu : underway[n]? with
    | none => cases store <;> simp [outcome, callOf, step, rest?, hu]
    | some u =>
      have hcall : callOf ⟨store, underway⟩ (.look policy now n) = some u.call := by
        rw [callOf, hu]
        rfl
      rw [hcall]
      cases hanswer : (step ⟨store, underway⟩ (.look policy now n)).1 with
      | none =>
        rw [outcome_of_rest hanswer hu]
        rfl
      | some a =>
        rw [outcome_of_answer hanswer]
        cases store with
        | memory m =>
          simp only [step, hu] at hanswer
          exact congrArg some (call_of_lookAt hanswer)
        | database d => cases hanswer
  | skip n => cases hu : underway[n]? <;> simp [outcome, callOf, step, rest?, hu, Underway.call]
  | lock locked => rfl

/-- A look that leaves its call under way makes a turn at each id under the call. -/
theorem turn_lookAt_of_none {policy : FailoverPolicy} {now : ClockTime} {m : Memory}
    {u : Underway} (h : (lookAt policy now.toInstant m u).1 = none) (id : String) :
    Turn id (some u.ending) (some ⟨policy, now⟩) (m.get? id)
      ((lookAt policy now.toInstant m u).2.2.get? id) := by
  cases u with
  | claim node ids =>
    cases ids with
    | nil => cases h
    | cons target ids =>
      have hlook := Memory.turn_scanOne_of_none node policy now m target id
      dsimp only [lookAt] at h ⊢
      split at h
      case h_1 m' heq =>
        rw [heq] at hlook
        exact hlook rfl
      case h_2 => cases h
  | heartbeat node listed timeout ids =>
    cases ids with
    | nil => cases h
    | cons target ids =>
      dsimp only [lookAt]
      rw [Memory.get?_sweepOne]
      cases m.get? id with
      | none => exact .idle (by rintro a ⟨⟩; rfl)
      | some r =>
        rw [Option.map_some]
        split
        · exact .checked node listed timeout (by rintro a ⟨⟩; rfl)
        · exact .idle (by rintro a ⟨⟩; rfl)

/-- Every event makes one turn at each id under its outcome. -/
theorem turn_outcome (s : Traffic) (e : Event)
    (hfresh : ∀ id ∈ e.created?, s.store.record? id = none) (id : String) :
    Turn id (s.outcome e) (e.moment? id) (s.store.record? id)
      ((s.step e).2.store.record? id) := by
  have hstep := turn_step s e hfresh id
  cases hanswer : (s.step e).1 with
  | some a =>
    rw [hanswer] at hstep
    rw [outcome_of_answer hanswer]
    exact hstep
  | none =>
    cases hrest : s.rest? e with
    | none =>
      rw [hanswer] at hstep
      rw [outcome, hanswer, hrest]
      exact hstep
    | some u =>
      rw [outcome_of_rest hanswer hrest]
      have hidle : ∀ {moment : Option Moment} {r : Option Record},
          Turn id (some u.ending) moment r r :=
        .idle (by rintro a ⟨⟩; exact u.affirms_ending id)
      obtain ⟨store, underway⟩ := s
      cases e with
      | call policy clock c =>
        cases store with
        | memory m =>
          -- A memory has only taken the snapshot.
          cases c with
          | claim | heartbeat => exact hidle
          | _ => cases hrest
        | database d => cases hanswer
      | look policy now n =>
        cases store with
        | memory m =>
          have hunder : underway[n]? = some u := hrest
          simp only [step, hunder] at hanswer ⊢
          exact turn_lookAt_of_none hanswer id
        | database d => exact hidle
      | skip n =>
        dsimp only [step]
        split <;> exact hidle
      | lock locked => cases hrest

/-- An event that is no part of a call leaves all records alone. -/
theorem record?_of_outcome_none {s : Traffic} {e : Event} (h : s.outcome e = none) (id : String) :
    (s.step e).2.store.record? id = s.store.record? id := by
  have hcall : s.callOf e = none := by rw [← map_fst_outcome, h, Option.map_none]
  obtain ⟨store, underway⟩ := s
  cases e with
  | call => cases hcall
  | look policy now n =>
    have hunder : underway[n]? = none := Option.map_eq_none_iff.mp hcall
    cases store with
    | memory m => simp only [step, hunder]
    | database d => rfl
  | skip n =>
    dsimp only [step]
    split <;> rfl
  | lock locked =>
    cases store with
    | memory m => rfl
    | database d =>
      dsimp only [step, Store.setLock]
      rw [Store.record?_database, Store.record?_database]

/-! ### Outcomes over time -/

/-- The outcome of the `i`-th event. -/
def outcomeAt (s : Traffic) (events : List Event) (i : Nat) : Option Answer :=
  events[i]?.bind (s.before events i).outcome

variable {s : Traffic} {events : List Event}

theorem outcomeAt_of_answer {i : Nat} {a : Answer} (h : s.answer events i = some a) :
    s.outcomeAt events i = some a := by
  obtain ⟨e, he, hstep⟩ := Option.bind_eq_some_iff.mp h
  rw [outcomeAt, he]
  exact outcome_of_answer hstep

/-- The `i`-th event is part of a claim by a node. -/
def ScansFor (s : Traffic) (events : List Event) (i : Nat) (node : String) : Prop :=
  events[i]?.bind (s.before events i).callOf = some (.claim node)

theorem scansFor_iff {i : Nat} {node : String} :
    s.ScansFor events i node ↔ ∃ a, s.outcomeAt events i = some a ∧ a.1 = .claim node := by
  have hcall : events[i]?.bind (s.before events i).callOf
      = (s.outcomeAt events i).map Sigma.fst := by
    rw [outcomeAt, Option.map_bind]
    exact congrArg events[i]?.bind (funext fun e => ((s.before events i).map_fst_outcome e).symm)
  rw [ScansFor, hcall, Option.map_eq_some_iff]

/-- At every time one turn under the outcome leads from the record of an id to the next. -/
theorem Distinct.turn_outcome (h : Distinct s events) (id : String) (i : Nat) :
    Turn id (s.outcomeAt events i) (momentAt events id i) (s.recordAt events id i)
      (s.recordAt events id (i + 1)) := by
  unfold outcomeAt momentAt recordAt
  cases hget : events[i]? with
  | none =>
    have hlen := List.getElem?_eq_none_iff.mp hget
    rw [before_of_length_le hlen, before_of_length_le (Nat.le_succ_of_le hlen)]
    exact .idle (by rintro a ⟨⟩)
  | some e =>
    rw [before_succ hget]
    exact Traffic.turn_outcome (s.before events i) e (h.unknown_created hget) id

theorem recordAt_succ_of_outcome_none {i : Nat} (h : s.outcomeAt events i = none) (id : String) :
    s.recordAt events id (i + 1) = s.recordAt events id i := by
  unfold outcomeAt at h
  unfold recordAt
  cases hget : events[i]? with
  | none =>
    have hlen := List.getElem?_eq_none_iff.mp hget
    rw [before_of_length_le hlen, before_of_length_le (Nat.le_succ_of_le hlen)]
  | some e =>
    rw [hget] at h
    rw [before_succ hget]
    exact record?_of_outcome_none h id

end Traffic

end TaskCluster
