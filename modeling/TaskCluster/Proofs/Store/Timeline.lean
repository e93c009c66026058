import Mathlib
import TaskCluster.Proofs.Store.Lifecycle

/-!
# The record of one id over time

Every event of traffic makes one turn at each id, whatever the store holds (`Traffic.turn_step`): a
call that is answered at once makes its turn as a whole, and one that is under way makes it with a
look. The ids that events create are new to the store and to each other (`Traffic.Distinct`), and
stay so until they are created; so at every time a turn leads from the record of an id to the next
(`Distinct.turn`). What is said about a task over time is read off these turns.
-/

namespace TaskCluster

/-- A turn brings up no record but that of a task which is created. -/
theorem Turn.eq_none {id : String} {answer : Option Answer} {moment : Option Moment}
    {before after : Option Record} (h : Turn id answer moment before after)
    (hbefore : before = none) (hnew : ∀ a ∈ answer, a.1.created? ≠ some id) : after = none := by
  cases h with
  | idle => exact hbefore
  | created taskType config hanswer => exact absurd rfl (hnew _ hanswer)
  | _ => cases hbefore

namespace Traffic

/-! ### Turns of events -/

/-- Under what an event looks at the record of an id, if it looks at records. -/
def Event.moment? (id : String) : Event → Option Moment
  | .call policy clock _ => some ⟨policy, clock id⟩
  | .look policy now _ => some ⟨policy, now⟩
  | .skip _ | .lock _ => none

/-- A look of a call that is under way makes one turn at each id. -/
theorem turn_lookAt (policy : FailoverPolicy) (now : ClockTime) (m : Memory) (call : Underway)
    (id : String) :
    Turn id (lookAt policy now.toInstant m call).1 (some ⟨policy, now⟩) (m.get? id)
      ((lookAt policy now.toInstant m call).2.2.get? id) := by
  cases call with
  | claim node ids =>
    cases ids with
    | nil => exact .idle (by rintro a ⟨⟩; rfl)
    | cons target ids =>
      have hlook := Memory.turn_scanOne node policy now m target id
      rw [lookAt]
      split
      case h_1 heq =>
        rw [heq] at hlook
        exact hlook
      case h_2 heq =>
        rw [heq] at hlook
        exact hlook
  | heartbeat node listed timeout ids =>
    cases ids with
    | nil => exact .idle (by rintro a ⟨⟩; rfl)
    | cons target ids =>
      dsimp only [lookAt]
      rw [Memory.get?_sweepOne]
      cases m.get? id with
      | none => exact .idle (by rintro a ⟨⟩)
      | some r =>
        rw [Option.map_some]
        split
        · exact .checked node listed timeout (by rintro a ⟨⟩)
        · exact .idle (by rintro a ⟨⟩)

/-- Every event makes one turn at each id, whatever the store holds. -/
theorem turn_step (s : Traffic) (e : Event) (hfresh : ∀ id ∈ e.created?, s.store.record? id = none)
    (id : String) :
    Turn id (s.step e).1 (e.moment? id) (s.store.record? id)
      ((s.step e).2.store.record? id) := by
  obtain ⟨store, underway⟩ := s
  cases e with
  | call policy clock c =>
    have hcall := Store.turn_performAt policy clock store c hfresh id
    cases store with
    | memory m =>
      -- A memory only takes a snapshot for a claim or a heartbeat; the looks come later.
      cases c with
      | claim | heartbeat => exact .idle (by rintro a ⟨⟩)
      | _ => exact hcall
    | database d => exact hcall
  | look policy now n =>
    cases store with
    | memory m =>
      cases hn : underway[n]? with
      | none =>
        simp only [step, hn]
        exact .idle (by rintro a ⟨⟩)
      | some call =>
        simp only [step, hn]
        exact turn_lookAt policy now m call id
    | database d => exact .idle (by rintro a ⟨⟩)
  | skip n =>
    dsimp only [step]
    split <;> exact .idle (by rintro a ⟨⟩)
  | lock locked =>
    cases store with
    | memory m => exact .idle (by rintro a ⟨⟩)
    | database d =>
      dsimp only [step, Store.setLock]
      rw [Store.record?_database, Store.record?_database]
      exact .idle (by rintro a ⟨⟩)

/-! ### Records over time -/

/-- The record of an id before the `i`-th event. -/
def recordAt (s : Traffic) (events : List Event) (id : String) (i : Nat) : Option Record :=
  (s.before events i).store.record? id

/-- Under what the `i`-th event looks at the record of an id. -/
def momentAt (events : List Event) (id : String) (i : Nat) : Option Moment :=
  events[i]?.bind (Event.moment? id)

/-- The ids that events create are new to the store and to each other. -/
structure Distinct (s : Traffic) (events : List Event) : Prop where
  nodup : (events.filterMap Event.created?).Nodup
  unknown : ∀ id ∈ events.filterMap Event.created?, s.store.record? id = none

variable {s : Traffic} {events : List Event}

namespace Distinct

/-- What carries the induction over the events: the ids that are still to be created are unknown. -/
theorem unknown_before (h : Distinct s events) (i : Nat) :
    ∀ id ∈ (events.drop i).filterMap Event.created?, s.recordAt events id i = none := by
  induction i with
  | zero => exact h.unknown
  | succ i ih =>
    intro id hid
    cases hget : events[i]? with
    | none =>
      rw [List.drop_eq_nil_of_le (Nat.le_succ_of_le (List.getElem?_eq_none_iff.mp hget))] at hid
      cases hid
    | some e =>
      have hdrop := filterMap_created?_drop hget
      rw [hdrop] at ih
      have hnodup : ((events.drop i).filterMap Event.created?).Nodup :=
        h.nodup.sublist ((List.drop_sublist i events).filterMap _)
      rw [hdrop] at hnodup
      have hturn := turn_step (s.before events i) e
        (fun x hx => ih x (List.mem_append_left _ (Option.mem_toList.mpr hx))) id
      rw [← before_succ hget] at hturn
      refine hturn.eq_none (ih id (List.mem_append_right _ hid)) ?_
      intro a ha hcreated
      rw [created?_of_answer ha] at hcreated
      exact (List.nodup_append.mp hnodup).2.2 id (Option.mem_toList.mpr hcreated) id hid rfl

/-- The id that an event creates is unknown before it. -/
theorem unknown_created (h : Distinct s events) {i : Nat} {e : Event} (hget : events[i]? = some e) :
    ∀ id ∈ e.created?, (s.before events i).store.record? id = none := by
  intro id hid
  refine h.unknown_before i id ?_
  rw [filterMap_created?_drop hget]
  exact List.mem_append_left _ (Option.mem_toList.mpr hid)

/-- At every time one turn leads from the record of an id to the next. -/
theorem turn (h : Distinct s events) (id : String) (i : Nat) :
    Turn id (s.answer events i) (momentAt events id i) (s.recordAt events id i)
      (s.recordAt events id (i + 1)) := by
  unfold answer momentAt recordAt
  cases hget : events[i]? with
  | none =>
    have hlen := List.getElem?_eq_none_iff.mp hget
    rw [before_of_length_le hlen, before_of_length_le (Nat.le_succ_of_le hlen)]
    exact .idle (by rintro a ⟨⟩)
  | some e =>
    rw [before_succ hget]
    exact turn_step (s.before events i) e (h.unknown_created hget) id

end Distinct

end Traffic

end TaskCluster
