import Mathlib
import TaskCluster.Proofs.Store.Timeline

/-!
# How runs begin and end

A turn is looked at here for the run of the record alone: `Passage` has one case for each thing that
can happen to it. A run begins with a claim, which counts it and sets all that describes a run, or
by a change of the status by hand, which sets the status and nothing else. It ends when the record
leaves the status, and then the end is noted. Whatever else a turn does leaves the run as it is. The
budget of a task and the fields of its runs are read off these cases.

From an empty store every record is counted, so its counter never meets its limit, and every turn is
such a passage (`FromScratch.passage`).
-/

namespace TaskCluster

/-- The edges of the table that begin a run or cancel a task before one, and those that end a
run. -/
theorem Status.of_canChangeTo {s next : Status} (h : s.canChangeTo next = true) :
    s.isRunnable = true ∧ (next = .running ∨ next = .canceled)
    ∨ s = .running ∧ next ≠ .running ∧ next ≠ .new := by
  cases s <;> cases next <;> simp [Status.canChangeTo, Status.isRunnable] at h ⊢

/-- The record of an id that an answer hands out, if the claim of a task is handed out. -/
def Answer.claimed? (id : String) : Answer → Option Record
  | ⟨.claim _, .ok (some r)⟩ => if r.id = id then some r else none
  | _ => none

theorem Answer.claimed?_eq_some_iff {id : String} {a : Answer} {r : Record} :
    a.claimed? id = some r ↔ r.id = id ∧ ∃ node, a = ⟨.claim node, .ok (some r)⟩ := by
  constructor
  · intro h
    obtain ⟨c, result⟩ := a
    cases c with
    | claim node =>
      match result with
      | .error e => cases h
      | .ok none => cases h
      | .ok (some r') =>
        obtain ⟨hid, heq⟩ := Option.ite_none_right_eq_some.mp h
        obtain rfl := Option.some.inj heq
        exact ⟨hid, node, rfl⟩
    | _ => cases h
  · rintro ⟨hid, node, rfl⟩
    exact if_pos hid

theorem Answer.claimed?_of_affirms {id : String} {a : Answer} (h : a.affirms id = false) :
    a.claimed? id = none := by
  obtain ⟨c, result⟩ := a
  cases c with
  | claim node =>
    match result with
    | .error e => rfl
    | .ok none => rfl
    | .ok (some r) => exact if_neg (beq_eq_false_iff_ne.mp h)
  | _ => rfl

namespace Record

/-- The two records tell the same about the run that is on, or was on last. -/
structure SameRun (old new : Record) : Prop where
  runCount : new.runCount = old.runCount
  node : new.node = old.node
  startedAt : new.startedAt = old.startedAt
  finishedAt : new.finishedAt = old.finishedAt

theorem SameRun.refl (r : Record) : SameRun r r := ⟨rfl, rfl, rfl, rfl⟩

/-- The run of the old record has ended in the new one, which notes the time. -/
structure RunEnded (now : Instant) (old new : Record) : Prop where
  before : old.status = .running
  after : new.status ≠ .running ∧ new.status ≠ .new
  runCount : new.runCount = old.runCount
  node : new.node = old.node
  startedAt : new.startedAt = old.startedAt
  finishedAt : new.finishedAt = some now

/-- How many runs are counted of a task; none before it is created. -/
def runsOf : Option Record → Nat
  | none => 0
  | some r => r.runCount.toNat

end Record

/-- What happens to the run of the record of an id. -/
inductive Passage (id : String) (answer : Option Answer) (moment : Option Moment) :
    Option Record → Option Record → Prop where
  | absent (h : ∀ a ∈ answer, a.claimed? id = none) : Passage id answer moment none none
  | created (taskType : String) (config : Config) (now : Instant)
    (h : ∀ a ∈ answer, a.claimed? id = none) :
    Passage id answer moment none (some (Record.fresh id taskType config now))
  | kept {old new : Record} (hstatus : new.status = old.status) (hrun : Record.SameRun old new)
    (h : ∀ a ∈ answer, a.claimed? id = none) : Passage id answer moment (some old) (some new)
  | dropped {old new : Record} (hbefore : old.status.isRunnable = true)
    (hafter : new.status = .canceled) (hrun : Record.SameRun old new)
    (h : ∀ a ∈ answer, a.claimed? id = none) : Passage id answer moment (some old) (some new)
  | begun {old new : Record} {m : Moment} (node : String) (hmoment : moment = some m)
    (htaken : old.offer node m.policy m.now.toInstant = .taken new) (hid : new.id = id)
    (h : answer = some ⟨.claim node, .ok (some new)⟩) :
    Passage id answer moment (some old) (some new)
  | begunByHand {old new : Record} (message : Option String)
    (hbefore : old.status.isRunnable = true) (hafter : new.status = .running)
    (hrun : Record.SameRun old new) (h : answer = some ⟨.change id .running message, .ok true⟩) :
    Passage id answer moment (some old) (some new)
  | ended {old new : Record} {m : Moment} (hmoment : moment = some m)
    (hrun : Record.RunEnded m.now.toInstant old new) (h : ∀ a ∈ answer, a.claimed? id = none) :
    Passage id answer moment (some old) (some new)

namespace Passage

variable {id : String} {answer : Option Answer} {m : Moment}

/-- A change of the status that is no claim of its own. It begins a run only by hand. -/
theorem of_changeStatus {r : Record} {next : Status} {message : Option String}
    (hunclaimed : ∀ a ∈ answer, a.claimed? id = none)
    (hhand : r.status = .running ∨ ∃ message', answer = some ⟨.change id next message',
      .ok (r.changeStatus next message m.now.toInstant).1⟩) :
    Passage id answer (some m) (some r)
      (some (r.changeStatus next message m.now.toInstant).2) := by
  unfold Record.changeStatus at hhand ⊢
  split
  case isFalse => exact .kept rfl (.refl r) hunclaimed
  case isTrue hedge =>
    rw [if_pos hedge] at hhand
    rcases Status.of_canChangeTo hedge with ⟨hrunnable, hnext⟩ | ⟨hrun, hnext⟩
    · have hstill : r.status ≠ .running := by
        intro hs
        rw [hs] at hrunnable
        cases hrunnable
      have hsame : Record.SameRun r (r.moved next message m.now.toInstant) :=
        ⟨rfl, rfl, rfl, if_neg hstill⟩
      rcases hnext with rfl | rfl
      · obtain hs | ⟨message', hanswer⟩ := hhand
        · exact absurd hs hstill
        · exact .begunByHand message' hrunnable rfl hsame hanswer
      · exact .dropped hrunnable rfl hsame hunclaimed
    · exact .ended rfl ⟨hrun, hnext, rfl, rfl, rfl, if_pos hrun⟩ hunclaimed

theorem of_changeStatusFor {r : Record} {c : Claim} {next : Status} {message : Option String}
    (hunclaimed : ∀ a ∈ answer, a.claimed? id = none) :
    Passage id answer (some m) (some r)
      (some (r.changeStatusFor c next message m.now.toInstant).2) := by
  unfold Record.changeStatusFor
  split
  case isTrue hunder =>
    simp only [Record.isRunningUnder, Bool.and_eq_true, beq_iff_eq] at hunder
    exact of_changeStatus hunclaimed (Or.inl hunder.1.1)
  case isFalse => exact .kept rfl (.refl r) hunclaimed

theorem of_checkHeartbeat {r : Record} {node : String} {listed : List String} {timeout : Duration}
    (hunclaimed : ∀ a ∈ answer, a.claimed? id = none) :
    Passage id answer (some m) (some r)
      (some (r.checkHeartbeat node listed timeout m.now.toInstant).2) := by
  unfold Record.checkHeartbeat
  split
  case isTrue => exact .kept rfl (.refl r) hunclaimed
  case isFalse hrun =>
    split
    case isTrue => exact .kept rfl ⟨rfl, rfl, rfl, rfl⟩ hunclaimed
    case isFalse =>
      split
      case isTrue =>
        have hchange : Passage id answer (some m) (some r)
            (some (r.changeStatus .failover (some (r.staleMessage node m.now.toInstant))
              m.now.toInstant).2) := of_changeStatus hunclaimed (Or.inl (not_not.mp hrun))
        dsimp only
        split <;> exact hchange
      case isFalse => exact .kept rfl (.refl r) hunclaimed

theorem of_offered {r : Record} (hid : r.id = id) (node : String)
    (hroom : ∀ new, r.offer node m.policy m.now.toInstant ≠ .overflowed new)
    (htaken : ∀ new, r.offer node m.policy m.now.toInstant = .taken new →
      answer = some ⟨.claim node, .ok (some new)⟩)
    (hother : (∀ new, r.offer node m.policy m.now.toInstant ≠ .taken new) →
      ∀ a ∈ answer, a.affirms id = false) :
    Passage id answer (some m) (some r)
      (some (r.offered node m.policy m.now.toInstant)) := by
  have hunclaimed : (∀ new, r.offer node m.policy m.now.toInstant ≠ .taken new) →
      ∀ a ∈ answer, a.claimed? id = none :=
    fun hnot a ha => Answer.claimed?_of_affirms (hother hnot a ha)
  unfold Record.offered
  rcases r.offer_cases node m.policy m.now.toInstant with
    ho | ⟨ho, hrunnable, -⟩ | ⟨ho, hrunnable, -⟩ | ⟨ho, -⟩ | ⟨ho, -⟩
  · rw [ho] at hunclaimed ⊢
    exact .kept rfl (.refl r) (hunclaimed (by rintro new ⟨⟩))
  · rw [ho] at hunclaimed ⊢
    exact .dropped hrunnable rfl ⟨rfl, rfl, rfl, rfl⟩ (hunclaimed (by rintro new ⟨⟩))
  · rw [ho] at hunclaimed ⊢
    exact .dropped hrunnable rfl ⟨rfl, rfl, rfl, rfl⟩ (hunclaimed (by rintro new ⟨⟩))
  · have hbegun : Passage id answer (some m) (some r)
        (some (r.running node m.now.toInstant)) := .begun node rfl ho hid (htaken _ ho)
    rw [ho]
    exact hbegun
  · exact absurd ho (hroom _)

end Passage

/-- Every turn is a passage of the run, unless the counter meets its limit. -/
theorem Turn.passage {id : String} {answer : Option Answer} {moment : Option Moment}
    {before after : Option Record} (h : Turn id answer moment before after)
    (hid : ∀ r ∈ before, r.id = id)
    (hroom : ∀ r ∈ before, ∀ node policy now new, r.offer node policy now ≠ .overflowed new) :
    Passage id answer moment before after := by
  cases h with
  | idle hnot =>
    have hunclaimed : ∀ a ∈ answer, a.claimed? id = none :=
      fun a ha => Answer.claimed?_of_affirms (hnot a ha)
    cases before with
    | none => exact .absent hunclaimed
    | some r => exact .kept rfl (.refl r) hunclaimed
  | created taskType config hanswer =>
    exact .created taskType config _ (by rw [hanswer]; rintro a ⟨⟩; rfl)
  | @cancelRequested _ r hanswer =>
    have hsame : Record.SameRun r r.requestCancel.2 ∧ r.requestCancel.2.status = r.status := by
      unfold Record.requestCancel
      split <;> exact ⟨⟨rfl, rfl, rfl, rfl⟩, rfl⟩
    exact .kept hsame.2 hsame.1 (by rw [hanswer]; rintro a ⟨⟩; rfl)
  | changed next message hanswer =>
    exact .of_changeStatus (by rw [hanswer]; rintro a ⟨⟩; rfl) (Or.inr ⟨message, hanswer⟩)
  | reported c next message hanswer =>
    exact .of_changeStatusFor (by rw [hanswer]; rintro a ⟨⟩; rfl)
  | logged line hanswer =>
    exact .kept rfl ⟨rfl, rfl, rfl, rfl⟩ (by rw [hanswer]; rintro a ⟨⟩; rfl)
  | offered node hcall htaken hother =>
    exact .of_offered (hid _ rfl) node (hroom _ rfl node _ _) htaken hother
  | checked node listed timeout hcall =>
    refine .of_checkHeartbeat fun a ha => ?_
    obtain ⟨c, result⟩ := a
    obtain rfl : c = _ := hcall _ ha
    rfl

/-- A record is handed out when it is taken; in every other passage the count stays. -/
theorem Passage.runsOf_eq_or_taken {id : String} {answer : Option Answer}
    {moment : Option Moment} {before after : Option Record}
    (h : Passage id answer moment before after) :
    (answer.bind (Answer.claimed? id) = none ∧ Record.runsOf after = Record.runsOf before)
    ∨ ∃ m node old new, moment = some m ∧ before = some old ∧ after = some new
        ∧ answer.bind (Answer.claimed? id) = some new
        ∧ old.offer node m.policy m.now.toInstant = .taken new := by
  have hnone : (∀ a ∈ answer, a.claimed? id = none) → answer.bind (Answer.claimed? id) = none :=
    Option.bind_eq_none_iff.mpr
  cases h with
  | absent hnot => exact Or.inl ⟨hnone hnot, rfl⟩
  | created _ _ _ hnot => exact Or.inl ⟨hnone hnot, rfl⟩
  | kept _ hrun hnot => exact Or.inl ⟨hnone hnot, congrArg UInt32.toNat hrun.runCount⟩
  | dropped _ _ hrun hnot => exact Or.inl ⟨hnone hnot, congrArg UInt32.toNat hrun.runCount⟩
  | ended _ hrun hnot => exact Or.inl ⟨hnone hnot, congrArg UInt32.toNat hrun.runCount⟩
  | begunByHand message _ _ hrun hanswer =>
    exact Or.inl ⟨by rw [hanswer]; rfl, congrArg UInt32.toNat hrun.runCount⟩
  | @begun old new m node hmoment htaken hid hanswer =>
    exact Or.inr ⟨m, node, old, new, hmoment, rfl, rfl, by rw [hanswer]; exact if_pos hid, htaken⟩

/-! ### Passages over time -/

/-- A turn keeps a record counted. -/
theorem Turn.counted {id : String} {answer : Option Answer} {moment : Option Moment}
    {before after : Option Record} (h : Turn id answer moment before after)
    (hbefore : ∀ r ∈ before, r.Counted) : ∀ r ∈ after, r.Counted := by
  cases h with
  | idle => exact hbefore
  | created taskType config =>
    rintro r ⟨⟩
    exact Record.counted_fresh id taskType config _
  | cancelRequested =>
    rintro r ⟨⟩
    exact Record.counted_requestCancel (hbefore _ rfl)
  | changed next message =>
    rintro r ⟨⟩
    exact Record.counted_changeStatus (hbefore _ rfl) next message _
  | reported c next message =>
    rintro r ⟨⟩
    exact Record.counted_changeStatusFor (hbefore _ rfl) c next message _
  | @logged _ old line =>
    rintro r ⟨⟩
    exact hbefore old rfl
  | offered node =>
    rintro r ⟨⟩
    exact Record.counted_offered (hbefore _ rfl) node _ _
  | checked node listed timeout =>
    rintro r ⟨⟩
    exact Record.counted_checkHeartbeat (hbefore _ rfl) node listed timeout _

theorem Store.id_of_record? {s : Store} {id : String} {r : Record} (h : s.record? id = some r) :
    r.id = id := by
  cases s with
  | memory m => exact Memory.id_of_get? h
  | database d =>
    rw [record?_database] at h
    exact Table.id_of_record? h

namespace Traffic

variable {s : Traffic} {events : List Event}

/-- The `i`-th event hands out a claim of an id. -/
def ClaimsId (s : Traffic) (events : List Event) (id : String) (i : Nat) : Prop :=
  ∃ r, s.Claims events i r ∧ r.id = id

theorem claimsId_iff {id : String} {i : Nat} :
    s.ClaimsId events id i ↔ ((s.answer events i).bind (Answer.claimed? id)).isSome := by
  rw [Option.isSome_iff_exists]
  constructor
  · rintro ⟨r, ⟨node, hanswer⟩, hid⟩
    exact ⟨r, by rw [hanswer]; exact if_pos hid⟩
  · rintro ⟨r, hr⟩
    obtain ⟨a, ha, hclaimed⟩ := Option.bind_eq_some_iff.mp hr
    obtain ⟨hid, node, rfl⟩ := Answer.claimed?_eq_some_iff.mp hclaimed
    exact ⟨r, ⟨node, ha⟩, hid⟩

/-- Traffic from an empty store with distinct new ids. -/
structure FromScratch (s : Traffic) (events : List Event) : Prop where
  empty : s.store.size = 0
  created_nodup : (events.filterMap Event.created?).Nodup

namespace FromScratch

variable (h : FromScratch s events)

include h

theorem distinct : Distinct s events where
  nodup := h.created_nodup
  unknown := fun id _ => (shows_of_size_eq_zero h.empty).record?_eq id

theorem recordAt_zero (id : String) : s.recordAt events id 0 = none :=
  (shows_of_size_eq_zero h.empty).record?_eq id

theorem counted (id : String) (i : Nat) : ∀ r ∈ s.recordAt events id i, r.Counted := by
  induction i with
  | zero =>
    rw [h.recordAt_zero]
    rintro r ⟨⟩
  | succ i ih => exact (h.distinct.turn id i).counted ih

/-- At every time one passage leads from the run of an id to the next. -/
theorem passage (id : String) (i : Nat) :
    Passage id (s.answer events i) (momentAt events id i) (s.recordAt events id i)
      (s.recordAt events id (i + 1)) :=
  (h.distinct.turn id i).passage (fun _ => Store.id_of_record?)
    fun r hr => (h.counted id i r hr).offer_ne_overflowed

end FromScratch

end Traffic

end TaskCluster
