import Mathlib
import TaskCluster.Proofs.Store.TableEffect
import TaskCluster.Proofs.Store.Turn

/-!
# What a call of a database does to the record of one id

Every call of a database makes one turn at each id (`Database.turn_performAt`), whatever the table
holds: rows that cannot be read, or a status in another spelling, only narrow down what a call looks
at. The loops of a claim and of a heartbeat run over records that were selected at the beginning.
They are `Transaction.Current`: what a loop writes lies behind it, so the table still holds those
that are to come.
-/

namespace TaskCluster

/-! ### Transactions -/

theorem orFault_eq_ok_iff {α : Type} {x : Except DatabaseFault α} {a : α} :
    orFault x = .ok a ↔ x = .ok a := by
  cases x <;> simp [orFault]

namespace Transaction

/-- Inverts a change of one record. -/
theorem of_change {α : Type} {target : String} {f : Record → Bool × α × Record} {t t' : Table}
    {a : Option α} (h : change target f t = .ok (a, t')) :
    a = none ∧ t' = t
    ∨ ∃ r, t.record? target = some r ∧ a = some (f r).2.1
        ∧ t' = if (f r).1 then t.update (f r).2.2 else t := by
  unfold change at h
  split at h
  case h_1 =>
    obtain ⟨rfl, rfl⟩ := Prod.mk.inj (Except.ok.inj h)
    exact Or.inl ⟨rfl, rfl⟩
  case h_2 row hrow =>
    cases hread : row.read with
    | error e =>
      rw [hread] at h
      cases h
    | ok r =>
      rw [hread] at h
      obtain ⟨rfl, rfl⟩ := Prod.mk.inj (Except.ok.inj h)
      exact Or.inr ⟨r, Table.record?_eq_some_iff.mpr ⟨row, hrow, hread⟩, rfl, rfl⟩

/-- A change that keeps the task and its whole times, and writes whatever it changed, shows as the
change of one record. -/
theorem amended_change {α : Type} {target : String} {f : Record → Bool × α × Record}
    {g : Record → Bool × Record} (hg : ∀ r, (g r).2 = (f r).2.2)
    (hsame : ∀ r, Record.SameTask r (f r).2.2) (hwhole : ∀ r, r.Whole → (f r).2.2.Whole)
    (hunwritten : ∀ r, (f r).1 = false → (f r).2.2 = r) {t t' : Table} {a : Option α}
    (h : change target f t = .ok (a, t')) :
    a = none ∧ Amended target g t.record? t'.record? false
    ∨ ∃ r, a = some (f r).2.1 ∧ Amended target g t.record? t'.record? (g r).1 := by
  rcases of_change h with ⟨ha, rfl⟩ | ⟨r, hr, ha, rfl⟩
  · exact Or.inl ⟨ha, .missed fun _ => rfl⟩
  · refine Or.inr ⟨r, ha, .found hr fun id => ?_⟩
    have hrid := Table.id_of_record? hr
    rw [hg]
    split
    case isTrue =>
      rw [← hrid] at hr ⊢
      exact Table.record?_update hr (hsame r) (hwhole r (Table.whole_of_record? hr)) id
    case isFalse hwritten =>
      rw [hunwritten r (by simpa using hwritten)]
      split
      case isTrue hid => rw [hid, hr]
      case isFalse => rfl

/-- A change that answers whether it was made shows as the change of one record. -/
theorem amended_changeIf {target : String} {f : Record → Bool × Record}
    (hsame : ∀ r, Record.SameTask r (f r).2) (hwhole : ∀ r, r.Whole → (f r).2.Whole)
    (hrefused : ∀ r, (f r).1 = false → (f r).2 = r) {t t' : Table} {done : Bool}
    (h : changeIf target f t = .ok (done, t')) :
    Amended target f t.record? t'.record? done := by
  obtain ⟨⟨a, t''⟩, hchange, h⟩ := bind_eq_ok_iff.mp h
  obtain ⟨rfl, rfl⟩ := Prod.mk.inj (Except.ok.inj h)
  rcases amended_change (fun _ => rfl) hsame hwhole hrefused hchange with
    ⟨rfl, hamended⟩ | ⟨r, rfl, hamended⟩
  · exact hamended
  · exact hamended

/-- A line that is logged shows as the change of one record, which was found. -/
theorem amended_log {target line : String} {t t' : Table} (h : log target line t = .ok ((), t')) :
    Amended target (fun r => (true, r.appendLog line)) t.record? t'.record? true := by
  obtain ⟨⟨a, t''⟩, hchange, h⟩ := bind_eq_ok_iff.mp h
  have hamended := amended_change (g := fun r => (true, r.appendLog line)) (fun _ => rfl)
    (fun r => r.sameTask_appendLog line)
    (fun r hr => ⟨hr.createdAt, hr.startedAt, hr.finishedAt⟩)
    (fun r hsame => by
      have hlog : (r.appendLog line).log = r.log := by simpa using hsame
      cases r
      simpa [Record.appendLog] using hlog) hchange
  rcases hamended with ⟨rfl, -⟩ | ⟨r, rfl, hamended⟩
  · cases h
  · obtain ⟨-, rfl⟩ := Prod.mk.inj (Except.ok.inj h)
    exact hamended

/-! ### Loops of transactions -/

/-- The table holds each of some records of distinct ids. -/
structure Current (t : Table) (rs : List Record) : Prop where
  nodup : (rs.map Record.id).Nodup
  record? : ∀ r ∈ rs, t.record? r.id = some r

namespace Current

variable {t : Table} {r : Record} {rs : List Record}

theorem head (h : Current t (r :: rs)) : t.record? r.id = some r :=
  h.record? r List.mem_cons_self

theorem tail (h : Current t (r :: rs)) : Current t rs :=
  ⟨(List.nodup_cons.mp h.nodup).2, fun x hx => h.record? x (List.mem_cons_of_mem r hx)⟩

theorem head_notMem (h : Current t (r :: rs)) : r.id ∉ rs.map Record.id :=
  (List.nodup_cons.mp h.nodup).1

/-- Writing the first record over leaves the others current. -/
theorem tail_update (h : Current t (r :: rs)) {new : Record} (hsame : Record.SameTask r new)
    (hnew : new.Whole) : Current (t.update new) rs where
  nodup := h.tail.nodup
  record? := by
    intro x hx
    have hne : ¬ x.id = r.id := fun heq => h.head_notMem (heq ▸ List.mem_map_of_mem hx)
    rw [Table.record?_update h.head hsame hnew, if_neg hne]
    exact h.tail.record? x hx

end Current

/-- The records that are selected are current. -/
theorem current_records {statuses : List Status} {t : Table} {rs : List Record}
    (h : records statuses t = .ok rs) : Current t rs := by
  obtain ⟨hids, hmem⟩ := Row.of_mapM_read (orFault_eq_ok_iff.mp h)
  have hperm : t.oldestFirst.Perm t.rows := List.mergeSort_perm _ _
  refine ⟨?_, ?_⟩
  · rw [hids]
    exact ((hperm.map Row.id).nodup_iff.mpr t.ids_nodup).sublist
      ((List.filter_sublist (l := t.oldestFirst)).map Row.id)
  · intro r hr
    obtain ⟨row, hrow, hread⟩ := hmem r hr
    have hin : row ∈ t.rows := hperm.mem_iff.mp (List.mem_of_mem_filter hrow)
    rw [(Row.of_read hread).1]
    exact Table.record?_eq_some_iff.mpr ⟨row, Table.find?_of_mem hin, hread⟩

/-- What an offer leaves of a record is of the same task and has whole times. -/
theorem Current.offered {t : Table} {r : Record} {rs : List Record} (h : Current t (r :: rs))
    (node : String) (policy : FailoverPolicy) (clock : Readings) :
    Record.SameTask r (r.offered node policy (clock r.id).toInstant)
      ∧ (r.offered node policy (clock r.id).toInstant).Whole :=
  ⟨r.sameTask_offered node policy _, Record.whole_offered (Table.whole_of_record? h.head) node
    policy (clock r.id).isReading_toInstant⟩

section OfferAll

variable {node : String} {policy : FailoverPolicy} {clock : Readings}

/-- Offers leave the records alone that are not among them, and take none of them. -/
theorem offerAll_of_notMem {rs : List Record} {id : String} (h : id ∉ rs.map Record.id)
    {t t' : Table} (hrs : Current t rs) {a : Option Record}
    (hoffer : offerAll node policy clock rs t = .ok (a, t')) :
    t'.record? id = t.record? id ∧ ∀ new, a = some new → new.id ≠ id := by
  induction rs generalizing t with
  | nil =>
    obtain ⟨rfl, rfl⟩ := Prod.mk.inj (Except.ok.inj hoffer)
    exact ⟨rfl, by rintro new ⟨⟩⟩
  | cons r rs ih =>
    rw [List.map_cons, List.mem_cons, not_or] at h
    obtain ⟨hsame, hwhole⟩ := hrs.offered node policy clock
    rw [offerAll] at hoffer
    unfold Record.offered at hsame hwhole
    split at hoffer
    case h_1 => exact ih h.2 hrs.tail hoffer
    case h_2 new ho =>
      rw [ho] at hsame hwhole
      obtain ⟨hkept, hnot⟩ := ih h.2 (hrs.tail_update hsame hwhole) hoffer
      rw [Table.record?_update hrs.head hsame hwhole, if_neg h.1] at hkept
      exact ⟨hkept, hnot⟩
    case h_3 new ho =>
      rw [ho] at hsame hwhole
      obtain ⟨rfl, rfl⟩ := Prod.mk.inj (Except.ok.inj hoffer)
      rw [Table.record?_update hrs.head hsame hwhole, if_neg h.1]
      refine ⟨rfl, ?_⟩
      intro new' hnew heq
      obtain rfl := Option.some.inj hnew
      exact h.1 (heq.symm.trans hsame.id)
    case h_4 => cases hoffer

/-- Offers of current records make one turn at each id. -/
theorem turn_offerAll {rs : List Record} {t t' : Table} (hrs : Current t rs) {a : Option Record}
    (hoffer : offerAll node policy clock rs t = .ok (a, t')) (id : String) :
    Turn id (some ⟨.claim node, .ok a⟩) (some ⟨policy, clock id⟩) (t.record? id)
      (t'.record? id) := by
  induction rs generalizing t with
  | nil =>
    obtain ⟨rfl, rfl⟩ := Prod.mk.inj (Except.ok.inj hoffer)
    exact .idle (by rintro a ⟨⟩; rfl)
  | cons r rs ih =>
    obtain ⟨hsame, hwhole⟩ := hrs.offered node policy clock
    have hoffered : ∀ {a : Option Record},
        (∀ new, r.offer node policy (clock r.id).toInstant = .taken new → a = some new) →
        ((∀ new, r.offer node policy (clock r.id).toInstant ≠ .taken new) →
          ∀ new, a = some new → new.id ≠ r.id) →
        Turn r.id (some ⟨.claim node, .ok a⟩) (some ⟨policy, clock r.id⟩) (some r)
          (some (r.offered node policy (clock r.id).toInstant)) := by
      intro a htaken hother
      refine .offered node (by rintro a ⟨⟩; rfl) ?_ ?_
      · intro new hnew
        rw [htaken new hnew]
      · rintro hnot a ⟨⟩
        refine Answer.affirms_claim fun new hnew => ?_
        exact hother hnot new (Except.ok.inj hnew)
    rw [offerAll] at hoffer
    unfold Record.offered at hsame hwhole hoffered
    split at hoffer
    case h_1 => exact ih hrs.tail hoffer
    case h_2 new ho =>
      simp only [ho] at hsame hwhole hoffered
      by_cases hid : id = r.id
      · -- The offers go on behind the record, so this was the only one of it.
        subst hid
        obtain ⟨hkept, hnot⟩ := offerAll_of_notMem hrs.head_notMem
          (hrs.tail_update hsame hwhole) hoffer
        rw [hkept, Table.record?_update hrs.head hsame hwhole, if_pos rfl, hrs.head]
        exact hoffered (by rintro new' ⟨⟩) fun _ => hnot
      · have hrest := ih (hrs.tail_update hsame hwhole) hoffer
        rw [Table.record?_update hrs.head hsame hwhole, if_neg hid] at hrest
        exact hrest
    case h_3 new ho =>
      simp only [ho] at hsame hwhole hoffered
      obtain ⟨rfl, rfl⟩ := Prod.mk.inj (Except.ok.inj hoffer)
      rw [Table.record?_update hrs.head hsame hwhole]
      by_cases hid : id = r.id
      · subst hid
        rw [if_pos rfl, hrs.head]
        refine hoffered ?_ fun hnot => absurd rfl (hnot new)
        intro new' hnew
        rw [Record.Offer.taken.inj hnew]
      · rw [if_neg hid]
        refine .idle ?_
        rintro a ⟨⟩
        refine Answer.affirms_claim fun new' hnew => ?_
        obtain rfl := Option.some.inj (Except.ok.inj hnew)
        exact fun heq => hid (heq.symm.trans hsame.id)
    case h_4 => cases hoffer

end OfferAll

section Sweep

variable (node : String) (listed : List String) (timeout : Duration) (clock : Readings)

/-- A look of a sweep replaces its record, and the records behind stay current. -/
theorem Current.sweepOne {t : Table} {r : Record} {rs : List Record} (h : Current t (r :: rs)) :
    Current (sweepOne node listed timeout clock t r) rs
      ∧ ∀ id, (Transaction.sweepOne node listed timeout clock t r).record? id
          = if id = r.id then some (r.checkHeartbeat node listed timeout (clock r.id).toInstant).2
            else t.record? id := by
  have hsame := r.sameTask_checkHeartbeat node listed timeout (clock r.id).toInstant
  have hwhole := Record.whole_checkHeartbeat (Table.whole_of_record? h.head) node listed timeout
    (clock r.id).isReading_toInstant
  unfold Transaction.sweepOne
  split
  case h_1 heq =>
    have hnew := Record.checkHeartbeat_untouched (congrArg Prod.fst heq)
    refine ⟨h.tail, fun id => ?_⟩
    rw [hnew]
    split
    case isTrue hid => rw [hid, h.head]
    case isFalse => rfl
  case h_2 new _ heq =>
    rw [heq] at hsame hwhole ⊢
    exact ⟨h.tail_update hsame hwhole, Table.record?_update h.head hsame hwhole⟩

/-- A sweep of current records checks each of them once and leaves the others alone. -/
theorem record?_sweep {rs : List Record} {t : Table} (hrs : Current t rs) (id : String) :
    (rs.foldl (Transaction.sweepOne node listed timeout clock) t).record? id
      = if id ∈ rs.map Record.id then
          (t.record? id).map fun r =>
            (r.checkHeartbeat node listed timeout (clock id).toInstant).2
        else t.record? id := by
  induction rs generalizing t with
  | nil => rfl
  | cons r rs ih =>
    obtain ⟨hcurrent, hlook⟩ := hrs.sweepOne node listed timeout clock
    rw [List.foldl_cons, ih hcurrent, hlook]
    by_cases hid : id = r.id
    · subst hid
      rw [if_neg hrs.head_notMem, if_pos rfl, List.map_cons, if_pos List.mem_cons_self, hrs.head]
      rfl
    · rw [if_neg hid]
      simp only [List.map_cons, List.mem_cons, hid, false_or]

end Sweep

end Transaction

/-! ### Calls of a database -/

namespace Database

/-- How a transaction ends: it is not begun under a lock, it leaves the database alone if it ends
without a result, and else its result and its table count. -/
theorem write_cases {α : Type} (d : Database) (busy : Except Abort α) (work : Transaction α) :
    (d.locked = true ∧ d.write busy work = (busy, d))
    ∨ (∃ e, work d.table = .error e ∧ d.write busy work = (.error e, d))
    ∨ ∃ a t, work d.table = .ok (a, t) ∧ d.write busy work = (.ok a, { d with table := t }) := by
  unfold write
  by_cases hlock : d.locked = true
  · exact Or.inl ⟨hlock, if_pos hlock⟩
  · rw [if_neg hlock]
    cases work d.table with
    | error e => exact Or.inr (Or.inl ⟨e, rfl, rfl⟩)
    | ok p => exact Or.inr (Or.inr ⟨p.1, p.2, rfl, rfl⟩)

/-- A transaction that ends with a result that no locked database gives was done. -/
theorem of_write_ok {α : Type} {d : Database} {busy : Except Abort α} {work : Transaction α} {a : α}
    (hbusy : d.locked = true → busy ≠ .ok a) (h : (d.write busy work).1 = .ok a) :
    ∃ t, work d.table = .ok (a, t) ∧ d.write busy work = (.ok a, { d with table := t }) := by
  rcases d.write_cases busy work with ⟨hlocked, heq⟩ | ⟨e, -, heq⟩ | ⟨b, t, hdone, heq⟩
  · exact absurd ((congrArg Prod.fst heq).symm.trans h) (hbusy hlocked)
  · cases (congrArg Prod.fst heq).symm.trans h
  · obtain rfl := Except.ok.inj ((congrArg Prod.fst heq).symm.trans h)
    exact ⟨t, hdone, heq⟩

/-- A call makes a turn at an id if its work makes one, and if it affirms nothing under a lock. -/
theorem turn_write {c : Call} {d : Database} {busy : Except Abort c.Result}
    {work : Transaction c.Result} {id : String} {moment : Option Moment}
    (hbusy : Answer.affirms id ⟨c, busy⟩ = false)
    (herror : ∀ e, Answer.affirms id ⟨c, .error e⟩ = false)
    (hwork : ∀ a t, work d.table = .ok (a, t) →
      Turn id (some ⟨c, .ok a⟩) moment (d.table.record? id) (t.record? id)) :
    Turn id (some ⟨c, (d.write busy work).1⟩) moment (d.table.record? id)
      ((d.write busy work).2.table.record? id) := by
  rcases d.write_cases busy work with ⟨-, heq⟩ | ⟨e, -, heq⟩ | ⟨a, t, hdone, heq⟩
  · rw [heq]
    exact .idle (by rintro a ⟨⟩; exact hbusy)
  · rw [heq]
    exact .idle (by rintro a ⟨⟩; exact herror e)
  · rw [heq]
    exact hwork a t hdone

variable (policy : FailoverPolicy) (clock : Readings)

/-- A call makes one turn at each id, whatever the database holds. -/
theorem turn_performAt (d : Database) (c : Call) (id : String) :
    Turn id (some ⟨c, (d.performAt policy clock c).1⟩) (some ⟨policy, clock id⟩)
      (d.table.record? id) ((d.performAt policy clock c).2.table.record? id) := by
  cases c with
  | create target taskType config =>
    refine turn_write (c := .create target taskType config) rfl (fun _ => rfl) ?_
    intro a t h
    obtain ⟨t', hinsert, h⟩ := bind_eq_ok_iff.mp h
    obtain ⟨-, rfl⟩ := Prod.mk.inj (Except.ok.inj h)
    have hinsert := orFault_eq_ok_iff.mp hinsert
    have hnew : (Record.fresh target taskType config (clock target).toInstant).id = target := rfl
    have habsent : d.table.record? target = none := by
      rw [Table.record?, show d.table.find? target = none from (Table.of_insert hinsert).1]
      rfl
    rw [Table.record?_insert hinsert (Record.whole_fresh target taskType config
      (clock target).isReading_toInstant), hnew]
    by_cases hid : id = target
    · subst hid
      rw [if_pos rfl, habsent]
      exact .created taskType config rfl
    · rw [if_neg hid]
      refine .idle ?_
      rintro a ⟨⟩
      exact beq_eq_false_iff_ne.mpr (Ne.symm hid)
  | list | get => exact .idle (by rintro a ⟨⟩; rfl)
  | requestCancel target =>
    refine turn_write (c := .requestCancel target) rfl (fun _ => rfl) ?_
    intro done t h
    exact (Transaction.amended_changeIf Record.sameTask_requestCancel
      (fun r => Record.whole_requestCancel) (fun r => Record.requestCancel_refused)
      h).turn_requestCancel (fun id => ⟨policy, clock id⟩) id
  | change target next message =>
    refine turn_write (c := .change target next message) rfl (fun _ => rfl) ?_
    intro done t h
    exact (Transaction.amended_changeIf (fun r => r.sameTask_changeStatus next message _)
      (fun r hr => Record.whole_changeStatus hr next message (clock target).isReading_toInstant)
      (fun r => Record.changeStatus_refused) h).turn_change (fun id => ⟨policy, clock id⟩) id
  | changeFor target claim next message =>
    refine turn_write (c := .changeFor target claim next message) rfl (fun _ => rfl) ?_
    intro done t h
    exact (Transaction.amended_changeIf (fun r => r.sameTask_changeStatusFor claim next message _)
      (fun r hr =>
        Record.whole_changeStatusFor hr claim next message (clock target).isReading_toInstant)
      (fun r => Record.changeStatusFor_refused) h).turn_changeFor (fun id => ⟨policy, clock id⟩) id
  | log target line =>
    refine turn_write (c := .log target line) rfl (fun _ => rfl) ?_
    intro done t h
    exact (Transaction.amended_log h).turn_log (fun id => ⟨policy, clock id⟩) rfl id
  | claim node =>
    refine turn_write (c := .claim node) rfl (fun _ => rfl) ?_
    intro a t h
    obtain ⟨rs, hrs, h⟩ := bind_eq_ok_iff.mp h
    exact Transaction.turn_offerAll (Transaction.current_records hrs) h id
  | heartbeat node listed timeout =>
    refine turn_write (c := .heartbeat node listed timeout) rfl (fun _ => rfl) ?_
    intro a t h
    obtain ⟨rs, hrs, h⟩ := bind_eq_ok_iff.mp h
    obtain ⟨-, rfl⟩ := Prod.mk.inj (Except.ok.inj h)
    rw [Transaction.record?_sweep node listed timeout clock (Transaction.current_records hrs)]
    split
    · cases d.table.record? id with
      | none => exact .idle (by rintro a ⟨⟩; rfl)
      | some r => exact .checked node listed timeout (by rintro a ⟨⟩; rfl)
    · exact .idle (by rintro a ⟨⟩; rfl)

end Database

end TaskCluster
