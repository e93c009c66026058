import Mathlib
import TaskCluster.Proofs.Store.Atomicity
import TaskCluster.Proofs.Store.Cancellation
import TaskCluster.Proofs.Store.Selection

/-!
# What a store holds, entry by entry

A memory holds records and a database holds rows, some of which may not be readable. The entries of
a store are either of them, in the order of their insertion, so that what a call does can be said of
both kinds of stores at once and of everything they hold, readable or not.

Every call but a creation maps the entries in place and leaves the task of each as it was: its id,
its type and its configuration (`Store.amends_call`). What a claim hands out is the task of an entry
(`Store.entry_of_claim`). A creation adds one entry behind all others (`Store.create_cases`), and a
request to cancel that is granted changes one mark of one entry (`Store.requestCancel_cases`).
-/

namespace TaskCluster

/-- What a store holds about a task. -/
inductive Entry where
  | record (r : Record)
  | row (row : Row)

namespace Entry

def id : Entry → String
  | .record r => r.id
  | .row x => x.id

def taskType : Entry → String
  | .record r => r.taskType
  | .row x => x.taskType

/-- The configuration of the task as JSON text. -/
def config : Entry → Option String
  | .record r => r.config
  | .row x => x.config

/-- The record that the store shows. -/
def read : Entry → Except DatabaseFault Record
  | .record r => .ok r
  | .row x => x.read

/-- The two entries are of one task. -/
structure SameTask (old new : Entry) : Prop where
  id : new.id = old.id
  taskType : new.taskType = old.taskType
  config : new.config = old.config

theorem SameTask.refl (e : Entry) : SameTask e e := ⟨rfl, rfl, rfl⟩

theorem SameTask.trans {a b c : Entry} (h : SameTask a b) (h' : SameTask b c) : SameTask a c :=
  ⟨h'.id.trans h.id, h'.taskType.trans h.taskType, h'.config.trans h.config⟩

theorem sameTask_record {old new : Record} (h : Record.SameTask old new) :
    SameTask (.record old) (.record new) := ⟨h.id, h.taskType, h.config⟩

/-- What is written over a row leaves its task alone. -/
theorem sameTask_write (row : Row) (r : Record) : SameTask (.row row) (.row (row.write r)) :=
  ⟨rfl, rfl, rfl⟩

theorem sameTask_read {e : Entry} {r : Record} (h : e.read = .ok r) : SameTask e (.record r) := by
  cases e with
  | record old =>
    obtain rfl : old = r := Except.ok.inj h
    exact .refl _
  | row old =>
    obtain ⟨hid, htype, hconfig, -⟩ := Row.of_read h
    exact ⟨hid, htype, hconfig⟩

end Entry

def Memory.entries (m : Memory) : List Entry := m.records.map .record

def Table.entries (t : Table) : List Entry := t.rows.map .row

/-- What a store holds, in the order of insertion. -/
def Store.entries : Store → List Entry
  | .memory m => m.entries
  | .database d => d.table.entries

/-- Entries that were changed in place, each within its task. -/
def Amends (old new : List Entry) : Prop := List.Forall₂ Entry.SameTask old new

namespace Amends

theorem refl (es : List Entry) : Amends es es := List.forall₂_same.mpr fun e _ => .refl e

theorem trans {a b c : List Entry} (h : Amends a b) (h' : Amends b c) : Amends a c := by
  induction h generalizing c with
  | nil => exact h'
  | cons hsame _ ih =>
    cases h' with
    | cons hsame' h' => exact .cons (hsame.trans hsame') (ih h')

/-- Each of the new entries is of the task of an old one. -/
theorem exists_of_mem {old new : List Entry} (h : Amends old new) {e' : Entry} (he : e' ∈ new) :
    ∃ e ∈ old, Entry.SameTask e e' := by
  induction h with
  | nil => cases he
  | @cons a b _ _ hsame _ ih =>
    rcases List.mem_cons.mp he with rfl | he
    · exact ⟨a, List.mem_cons_self, hsame⟩
    · obtain ⟨e, hmem, hsame⟩ := ih he
      exact ⟨e, List.mem_cons_of_mem a hmem, hsame⟩

end Amends

/-- The entry of an id, and no other, was marked as asked to stop. -/
def Marks (id : String) (old new : List Entry) : Prop :=
  ∃ before e e' after r, old = before ++ e :: after ∧ new = before ++ e' :: after
    ∧ e.read = .ok r ∧ r.id = id ∧ r.cancelRequested = false
    ∧ e'.read = .ok { r with cancelRequested := true }

/-! ### Calls amend what is there -/

namespace Memory

theorem amends_of_map {m m' : Memory} {g : Record → Record} (hg : ∀ r, Record.SameTask r (g r))
    (h : m'.records = m.records.map g) : Amends m.entries m'.entries := by
  unfold Amends entries
  rw [h, List.map_map, List.forall₂_map_left_iff, List.forall₂_map_right_iff]
  exact List.forall₂_same.mpr fun r _ => Entry.sameTask_record (hg r)

theorem amends_update {α : Type} {f : Record → α × Record}
    (hf : ∀ r, Record.SameTask r (f r).2) (m : Memory) (id : String) :
    Amends m.entries (m.update id f).2.entries := by
  refine amends_of_map (fun r => ?_) (update_records (fun r => (hf r).id) m id)
  split
  · exact hf r
  · exact .refl r

theorem amends_scanOne (node : String) (policy : FailoverPolicy) (now : Instant) (m : Memory)
    (id : String) : Amends m.entries (scanOne node policy now m id).2.entries := by
  refine amends_of_map (fun r => ?_) (scanOne_records node policy now m id)
  split
  · exact r.sameTask_offered node policy now
  · exact .refl r

theorem amends_sweepOne (node : String) (listed : List String) (timeout : Duration)
    (now : Instant) (m : Memory) (id : String) :
    Amends m.entries (sweepOne node listed timeout now m id).entries := by
  refine amends_of_map (fun r => ?_) (sweepOne_records now m id)
  split
  · exact r.sameTask_checkHeartbeat node listed timeout now
  · exact .refl r

/-- What a look of a scan takes is of the task of a record. -/
theorem entry_of_scanOne {node : String} {policy : FailoverPolicy} {now : Instant} {m : Memory}
    {id : String} {new : Record} (h : (scanOne node policy now m id).1 = some (.ok new)) :
    ∃ e ∈ m.entries, Entry.SameTask e (.record new) := by
  obtain ⟨r, hr, ho⟩ := taken_of_scanOne node policy h
  obtain ⟨-, rfl, -⟩ := Record.of_offer_taken ho
  exact ⟨.record r, List.mem_map_of_mem (mem_of_get? hr), ⟨rfl, rfl, rfl⟩⟩

/-- A scan amends the records, and what it hands out is of the task of one of them. -/
theorem amends_scan (node : String) (policy : FailoverPolicy) (clock : Readings)
    (ids : List String) (m : Memory) :
    Amends m.entries (m.scan node policy clock ids).2.entries
      ∧ ∀ new, (m.scan node policy clock ids).1 = .ok (some new) →
          ∃ e ∈ m.entries, Entry.SameTask e (.record new) := by
  induction ids generalizing m with
  | nil => exact ⟨.refl _, by rintro new ⟨⟩⟩
  | cons id ids ih =>
    have hlook := amends_scanOne node policy (clock id).toInstant m id
    cases hone : scanOne node policy (clock id).toInstant m id with
    | mk answer m' =>
      rw [hone] at hlook
      rw [scan, hone]
      cases answer with
      | none =>
        obtain ⟨hrest, hclaim⟩ := ih m'
        refine ⟨hlook.trans hrest, ?_⟩
        intro new hnew
        obtain ⟨e', he', hsame'⟩ := hclaim new hnew
        obtain ⟨e, he, hsame⟩ := hlook.exists_of_mem he'
        exact ⟨e, he, hsame.trans hsame'⟩
      | some result =>
        refine ⟨hlook, ?_⟩
        intro new hnew
        cases result with
        | error e => cases hnew
        | ok taken =>
          obtain rfl : taken = new := Option.some.inj (Except.ok.inj hnew)
          exact entry_of_scanOne (congrArg Prod.fst hone)

/-- A look of a call that is under way amends the records. -/
theorem amends_lookAt (policy : FailoverPolicy) (now : Instant) (m : Memory) (call : Underway) :
    Amends m.entries (Traffic.lookAt policy now m call).2.2.entries := by
  cases call with
  | claim node ids =>
    cases ids with
    | nil => exact .refl _
    | cons id ids =>
      have hlook := m.amends_scanOne node policy now id
      rw [Traffic.lookAt]
      split
      case h_1 heq => rwa [heq] at hlook
      case h_2 heq => rwa [heq] at hlook
  | heartbeat node listed timeout ids =>
    cases ids with
    | nil => exact .refl _
    | cons id ids => exact m.amends_sweepOne node listed timeout now id

/-- What a claim hands out with a look is of the task of a record. -/
theorem entry_of_lookAt {policy : FailoverPolicy} {now : Instant} {m : Memory} {call : Underway}
    {node : String} {new : Record}
    (h : (Traffic.lookAt policy now m call).1 = some ⟨.claim node, .ok (some new)⟩) :
    ∃ e ∈ m.entries, Entry.SameTask e (.record new) := by
  cases call with
  | claim node' ids =>
    cases ids with
    | nil =>
      obtain ⟨-, hnone⟩ := Sigma.mk.inj_iff.mp (Option.some.inj h)
      cases hnone
    | cons id ids =>
      rw [Traffic.lookAt] at h
      split at h
      case h_1 => cases h
      case h_2 result _ heq =>
        obtain ⟨hcall, hresult⟩ := Sigma.mk.inj_iff.mp (Option.some.inj h)
        obtain rfl := Call.claim.inj hcall
        have htaken : result = .ok new := by
          cases result with
          | error e => cases hresult
          | ok taken =>
            obtain rfl := Option.some.inj (Except.ok.inj (eq_of_heq hresult))
            rfl
        rw [htaken] at heq
        exact entry_of_scanOne (congrArg Prod.fst heq)
  | heartbeat node' listed timeout ids =>
    cases ids with
    | nil => cases (Sigma.mk.inj_iff.mp (Option.some.inj h)).1
    | cons id ids => cases h

variable (policy : FailoverPolicy) (clock : Readings)

/-- Every call but a creation amends the records. -/
theorem amends_performAt (m : Memory) {c : Call} (hc : c.operation ≠ .create) :
    Amends m.entries (m.performAt policy clock c).2.entries := by
  cases c with
  | create => exact absurd rfl hc
  | list | get => exact .refl _
  | requestCancel id => exact amends_update (fun r => r.sameTask_requestCancel) m id
  | change id next message =>
    exact amends_update (fun r => r.sameTask_changeStatus next message _) m id
  | changeFor id claim next message =>
    exact amends_update (fun r => r.sameTask_changeStatusFor claim next message _) m id
  | log id line =>
    have hlogged := amends_update (f := fun r => ((), r.appendLog line))
      (fun r => r.sameTask_appendLog line) m id
    dsimp only [performAt]
    split
    case h_1 heq => rwa [heq] at hlogged
    case h_2 heq => rwa [heq] at hlogged
  | claim node => exact (amends_scan node policy clock m.snapshot m).1
  | heartbeat node ids timeout =>
    exact amends_of_map (fun r => r.sameTask_checkHeartbeat node ids timeout _)
      (sweep_records clock m)

end Memory

namespace Table

theorem amends_update (t : Table) (r : Record) : Amends t.entries (t.update r).entries := by
  unfold Amends entries update modify
  rw [List.forall₂_map_left_iff, List.forall₂_map_right_iff, List.forall₂_map_right_iff]
  refine List.forall₂_same.mpr fun row _ => ?_
  split
  · exact Entry.sameTask_write row r
  · exact .refl _

/-- Inserting a row adds an entry behind all others. -/
theorem entries_of_insert {t t' : Table} {row : Row} (h : t.insert row = .ok t') :
    t'.entries = t.entries ++ [.row row] := by
  rw [entries, (of_insert h).2, List.map_append]
  rfl

end Table

namespace Transaction

theorem amends_change {α : Type} {id : String} {f : Record → Bool × α × Record} {t t' : Table}
    {a : Option α} (h : change id f t = .ok (a, t')) : Amends t.entries t'.entries := by
  rcases of_change h with ⟨-, rfl⟩ | ⟨r, -, -, rfl⟩
  · exact .refl _
  split
  · exact t.amends_update _
  · exact .refl _

theorem amends_changeIf {id : String} {f : Record → Bool × Record} {t t' : Table} {done : Bool}
    (h : changeIf id f t = .ok (done, t')) : Amends t.entries t'.entries := by
  obtain ⟨⟨a, t''⟩, hchange, h⟩ := bind_eq_ok_iff.mp h
  obtain ⟨-, rfl⟩ := Prod.mk.inj (Except.ok.inj h)
  exact amends_change hchange

theorem amends_log {id line : String} {t t' : Table} (h : log id line t = .ok ((), t')) :
    Amends t.entries t'.entries := by
  obtain ⟨⟨a, t''⟩, hchange, h⟩ := bind_eq_ok_iff.mp h
  cases a with
  | none => cases h
  | some _ =>
    obtain ⟨-, rfl⟩ := Prod.mk.inj (Except.ok.inj h)
    exact amends_change hchange

/-- Offers amend the rows, and what is handed out is of the task of one of the records offered. -/
theorem amends_offerAll {node : String} {policy : FailoverPolicy} {clock : Readings}
    {rs : List Record} {t t' : Table} {a : Option Record}
    (h : offerAll node policy clock rs t = .ok (a, t')) :
    Amends t.entries t'.entries ∧ ∀ new ∈ a, ∃ r ∈ rs, Record.SameTask r new := by
  induction rs generalizing t with
  | nil =>
    obtain ⟨rfl, rfl⟩ := Prod.mk.inj (Except.ok.inj h)
    exact ⟨.refl _, by rintro new ⟨⟩⟩
  | cons r rs ih =>
    have hlater : (∀ new ∈ a, ∃ x ∈ rs, Record.SameTask x new) →
        ∀ new ∈ a, ∃ x ∈ r :: rs, Record.SameTask x new := by
      intro hclaim new hnew
      obtain ⟨x, hx, hsame⟩ := hclaim new hnew
      exact ⟨x, List.mem_cons_of_mem r hx, hsame⟩
    rw [offerAll] at h
    cases ho : r.offer node policy (clock r.id).toInstant with
    | passed =>
      rw [ho] at h
      obtain ⟨hamends, hclaim⟩ := ih h
      exact ⟨hamends, hlater hclaim⟩
    | canceled new =>
      rw [ho] at h
      obtain ⟨hamends, hclaim⟩ := ih h
      exact ⟨(t.amends_update new).trans hamends, hlater hclaim⟩
    | taken new =>
      rw [ho] at h
      obtain ⟨rfl, rfl⟩ := Prod.mk.inj (Except.ok.inj h)
      refine ⟨t.amends_update new, ?_⟩
      rintro x ⟨⟩
      obtain ⟨-, rfl, -⟩ := Record.of_offer_taken ho
      exact ⟨r, List.mem_cons_self, ⟨rfl, rfl, rfl, rfl⟩⟩
    | overflowed new =>
      rw [ho] at h
      cases h

/-- The records that a transaction reads are of the tasks of rows. -/
theorem entry_of_records {statuses : List Status} {t : Table} {rs : List Record}
    (h : records statuses t = .ok rs) {r : Record} (hr : r ∈ rs) :
    ∃ e ∈ t.entries, Entry.SameTask e (.record r) := by
  obtain ⟨row, hrow, hread⟩ := (Row.of_mapM_read (orFault_eq_ok_iff.mp h)).2 r hr
  have hmem : row ∈ t.rows :=
    (List.mergeSort_perm _ _).mem_iff.mp (List.mem_of_mem_filter hrow)
  exact ⟨.row row, List.mem_map_of_mem hmem, Entry.sameTask_read hread⟩

theorem amends_claim {node : String} {policy : FailoverPolicy} {clock : Readings} {t t' : Table}
    {a : Option Record} (h : claim node policy clock t = .ok (a, t')) :
    Amends t.entries t'.entries
      ∧ ∀ new ∈ a, ∃ e ∈ t.entries, Entry.SameTask e (.record new) := by
  obtain ⟨rs, hrs, h⟩ := bind_eq_ok_iff.mp h
  obtain ⟨hamends, hclaim⟩ := amends_offerAll h
  refine ⟨hamends, ?_⟩
  intro new hnew
  obtain ⟨r, hr, hsame⟩ := hclaim new hnew
  obtain ⟨e, he, hsame'⟩ := entry_of_records hrs hr
  exact ⟨e, he, hsame'.trans (Entry.sameTask_record hsame)⟩

theorem amends_sweep (node : String) (listed : List String) (timeout : Duration) (clock : Readings)
    (rs : List Record) (t : Table) :
    Amends t.entries (rs.foldl (sweepOne node listed timeout clock) t).entries := by
  induction rs generalizing t with
  | nil => exact .refl _
  | cons r rs ih =>
    rw [List.foldl_cons]
    refine Amends.trans ?_ (ih _)
    unfold sweepOne
    split
    · exact .refl _
    · exact t.amends_update _

theorem amends_heartbeat {node : String} {listed : List String} {timeout : Duration}
    {clock : Readings} {t t' : Table}
    (h : heartbeat node listed timeout clock t = .ok ((), t')) : Amends t.entries t'.entries := by
  obtain ⟨rs, -, h⟩ := bind_eq_ok_iff.mp h
  obtain ⟨-, rfl⟩ := Prod.mk.inj (Except.ok.inj h)
  exact amends_sweep node listed timeout clock rs t

end Transaction

namespace Database

theorem amends_write {α : Type} {work : Transaction α}
    (hwork : ∀ t a t', work t = .ok (a, t') → Amends t.entries t'.entries) (d : Database)
    (busy : Except Abort α) : Amends d.table.entries (d.write busy work).2.table.entries := by
  rcases d.write_cases busy work with ⟨-, heq⟩ | ⟨e, -, heq⟩ | ⟨a, t, hdone, heq⟩ <;> rw [heq]
  · exact .refl _
  · exact .refl _
  · exact hwork _ _ _ hdone

variable (policy : FailoverPolicy) (clock : Readings)

/-- Every call but a creation amends the rows. -/
theorem amends_performAt (d : Database) {c : Call} (hc : c.operation ≠ .create) :
    Amends d.table.entries (d.performAt policy clock c).2.table.entries := by
  cases c with
  | create => exact absurd rfl hc
  | list | get => exact .refl _
  | requestCancel id => exact amends_write (fun _ _ _ => Transaction.amends_changeIf) d _
  | change id next message => exact amends_write (fun _ _ _ => Transaction.amends_changeIf) d _
  | changeFor id claim next message =>
    exact amends_write (fun _ _ _ => Transaction.amends_changeIf) d _
  | log id line => exact amends_write (fun _ _ _ => Transaction.amends_log) d _
  | claim node => exact amends_write (fun _ _ _ h => (Transaction.amends_claim h).1) d _
  | heartbeat node ids timeout =>
    exact amends_write (fun _ _ _ => Transaction.amends_heartbeat) d _

end Database

/-! ### Granted requests to cancel -/

/-- A change at the key of one member of a list leaves what is before and behind it. -/
theorem exists_map_eq_append {α : Type} {key : α → String} {l : List α} (hl : (l.map key).Nodup)
    {x : α} (hx : x ∈ l) (g : α → α) :
    ∃ before after, l = before ++ x :: after
      ∧ l.map (fun y => if key y = key x then g y else y) = before ++ g x :: after := by
  obtain ⟨before, after, rfl⟩ := List.append_of_mem hx
  refine ⟨before, after, rfl, ?_⟩
  rw [List.map_append, List.map_cons, List.nodup_append, List.nodup_cons] at hl
  obtain ⟨-, ⟨hafter, -⟩, hbefore⟩ := hl
  rw [List.map_append, List.map_cons, if_pos rfl]
  congr 1
  · refine (List.map_congr_left fun y hy => if_neg ?_).trans (List.map_id _)
    exact hbefore _ (List.mem_map_of_mem hy) _ List.mem_cons_self
  · congr 1
    refine (List.map_congr_left fun y hy => if_neg ?_).trans (List.map_id _)
    intro heq
    exact hafter (heq ▸ List.mem_map_of_mem hy)

theorem Memory.marks_of_requestCancel {m : Memory} {id : String}
    (h : (m.update id Record.requestCancel).1.getD false = true) :
    Marks id m.entries (m.update id Record.requestCancel).2.entries := by
  rw [update_fst] at h
  cases hr : m.get? id with
  | none => simp [hr] at h
  | some r =>
    have hgranted : r.requestCancel.1 = true := by simpa [hr] using h
    obtain ⟨hunmarked, -, hmarked⟩ := Record.requestCancel_of_granted hgranted
    obtain rfl := id_of_get? hr
    obtain ⟨before, after, hold, hnew⟩ := exists_map_eq_append m.ids_nodup (mem_of_get? hr)
      fun r => r.requestCancel.2
    rw [← update_records (fun r => r.sameTask_requestCancel.id) m r.id, hmarked] at hnew
    refine ⟨before.map .record, .record r, .record { r with cancelRequested := true },
      after.map .record, r, ?_, ?_, rfl, rfl, hunmarked, rfl⟩
    · rw [entries, hold, List.map_append, List.map_cons]
    · rw [entries, hnew, List.map_append, List.map_cons]

theorem Database.marks_of_requestCancel {d : Database} {id : String}
    (h : (d.write (.ok false) (Transaction.changeIf id Record.requestCancel)).1 = .ok true) :
    Marks id d.table.entries
      (d.write (.ok false) (Transaction.changeIf id Record.requestCancel)).2.table.entries := by
  obtain ⟨t, hdone, hend⟩ := of_write_ok (by simp) h
  rw [hend]
  obtain ⟨⟨a', t'⟩, hchange, hdone⟩ := bind_eq_ok_iff.mp hdone
  obtain ⟨htrue, rfl⟩ := Prod.mk.inj (Except.ok.inj hdone)
  rcases Transaction.of_change hchange with ⟨rfl, -⟩ | ⟨r, hr, rfl, rfl⟩
  · cases htrue
  have hgranted : r.requestCancel.1 = true := htrue
  obtain ⟨hunmarked, -, hmarked⟩ := Record.requestCancel_of_granted hgranted
  obtain ⟨row, hrow, hread⟩ := Table.record?_eq_some_iff.mp hr
  have hid : r.id = row.id := (Row.of_read hread).1
  obtain ⟨before, after, hold, hnew⟩ := exists_map_eq_append d.table.ids_nodup
    (List.mem_of_find?_eq_some hrow) fun x => { x.write r.requestCancel.2 with id := x.id }
  have hupdate : (d.table.update r.requestCancel.2).rows
      = before ++ row.write r.requestCancel.2 :: after := by
    have hsame : r.requestCancel.2.id = row.id := r.sameTask_requestCancel.id.trans hid
    unfold Table.update Table.modify
    rw [hsame]
    exact hnew
  refine ⟨before.map .row, .row row, .row (row.write r.requestCancel.2), after.map .row, r, ?_, ?_,
    hread, Table.id_of_record? hr, hunmarked, ?_⟩
  · rw [Table.entries, hold, List.map_append, List.map_cons]
  · rw [if_pos hgranted, Table.entries, hupdate, List.map_append, List.map_cons]
  · rw [← hmarked]
    exact Row.read_write hread r.sameTask_requestCancel
      (Record.whole_requestCancel (Row.whole_of_read hread))

/-! ### Calls over a connection -/

namespace Store

section Call

variable {α : Type} (now : ClockTime) (s : Store) (k : Connection)

/-- A call of a database that does nothing when it fails ends with a failure and does nothing, or it
ends as it is answered. -/
theorem onDatabase_cases {d : Database} {run : Database → Except Abort α × Database}
    (hrun : ∀ e, (run d).1 = .error e → (run d).2 = d) :
    (∃ e, (onDatabase k d run).1 = .error e ∧ (onDatabase k d run).2.2 = .database d)
    ∨ onDatabase k d run = ((run d).1, k, .database (run d).2) := by
  unfold onDatabase
  split
  · exact Or.inl ⟨_, rfl, rfl⟩
  rcases hend : run d with ⟨(⟨f⟩ | ⟨o⟩) | a, d'⟩ <;> rw [hend] at hrun
  · exact Or.inr rfl
  · exact Or.inl ⟨_, rfl, congrArg Store.database (hrun _ rfl)⟩
  · exact Or.inr rfl

/-- A call over a connection ends with a failure and does nothing to the store, or it ends as the
store answers it. -/
theorem call_cases (c : Call) :
    (∃ e, (s.call now k c).1 = .error e ∧ (s.call now k c).2.2 = s)
    ∨ s.call now k c
        = ((s.performAt k.settings.failover (fun _ => now) c).1, k,
          (s.performAt k.settings.failover (fun _ => now) c).2) := by
  unfold call
  split
  · exact Or.inl ⟨_, rfl, rfl⟩
  cases s with
  | memory m => exact Or.inr rfl
  | database d => exact onDatabase_cases k fun e => Database.performAt_of_error

variable {now s k} in
/-- A call that succeeds ends as the store answers it. -/
theorem call_of_ok {c : Call} {a : c.Result} (h : (s.call now k c).1 = .ok a) :
    s.call now k c
      = ((s.performAt k.settings.failover (fun _ => now) c).1, k,
        (s.performAt k.settings.failover (fun _ => now) c).2) := by
  rcases s.call_cases now k c with ⟨e, herror, -⟩ | heq
  · rw [herror] at h
    cases h
  · exact heq

/-- Every call but a creation amends what the store holds. -/
theorem amends_call {c : Call} (hc : c.operation ≠ .create) :
    Amends s.entries (s.call now k c).2.2.entries := by
  rcases s.call_cases now k c with ⟨e, -, hstore⟩ | heq
  · rw [hstore]
    exact .refl _
  · rw [heq]
    cases s with
    | memory m => exact m.amends_performAt _ _ hc
    | database d => exact d.amends_performAt _ _ hc

/-- What a claim hands out is of the task of an entry. -/
theorem entry_of_claim {node : String} {r : Record}
    (h : (s.call now k (.claim node)).1 = .ok (some r)) :
    ∃ e ∈ s.entries, Entry.SameTask e (.record r) := by
  rw [call_of_ok h] at h
  cases s with
  | memory m => exact (m.amends_scan node _ _ m.snapshot).2 r h
  | database d =>
    have hanswer : (d.write (.ok none) (Transaction.claim node k.settings.failover fun _ => now)).1
        = .ok (some r) := h
    obtain ⟨t, hdone, -⟩ := Database.of_write_ok (by simp) hanswer
    exact (Transaction.amends_claim hdone).2 r rfl

/-- Reading does nothing to the store. -/
theorem call_read {c : Call} (hc : c.operation = .list ∨ c.operation = .get) :
    (s.call now k c).2.2 = s := by
  rcases s.call_cases now k c with ⟨e, -, hstore⟩ | heq
  · exact hstore
  · rw [heq]
    cases c with
    | list l => exact congrArg Prod.snd (performAt_list _ _ s l)
    | get id => exact congrArg Prod.snd (performAt_get _ _ s id)
    | _ => rcases hc with hc | hc <;> cases hc

/-- A creation under an id that a memory does not hold adds one entry behind all others, and it
reads as a fresh record. A creation that fails does nothing. -/
theorem create_cases (id taskType : String) (config : Config)
    (hfree : ∀ m, s = .memory m → m.get? id = none) :
    (∃ e, (s.call now k (.create id taskType config)).1 = .error e
        ∧ (s.call now k (.create id taskType config)).2.2 = s)
    ∨ (s.call now k (.create id taskType config)).1 = .ok ()
        ∧ ∃ e, (s.call now k (.create id taskType config)).2.2.entries = s.entries ++ [e]
            ∧ e.read = .ok (Record.fresh id taskType config now.toInstant) := by
  rcases s.call_cases now k (.create id taskType config) with hfailed | heq
  · exact Or.inl hfailed
  rw [heq]
  cases s with
  | memory m =>
    refine Or.inr ⟨rfl, .record (Record.fresh id taskType config now.toInstant), ?_, rfl⟩
    have hrecords := Memory.records_put (r := Record.fresh id taskType config now.toInstant)
      (hfree m rfl)
    dsimp only [entries, performAt, Memory.performAt, Memory.entries]
    rw [hrecords, List.map_append]
    rfl
  | database d =>
    dsimp only [entries, performAt, Database.performAt]
    rcases d.write_cases Database.isLocked
        (Transaction.insert (Record.fresh id taskType config now.toInstant)) with
      ⟨-, hend⟩ | ⟨e, -, hend⟩ | ⟨a, t, hdone, hend⟩ <;> rw [hend]
    · exact Or.inl ⟨_, rfl, rfl⟩
    · exact Or.inl ⟨_, rfl, rfl⟩
    · obtain ⟨t', hinsert, hdone⟩ := bind_eq_ok_iff.mp hdone
      obtain ⟨-, rfl⟩ := Prod.mk.inj (Except.ok.inj hdone)
      refine Or.inr ⟨rfl, _, Table.entries_of_insert (orFault_eq_ok_iff.mp hinsert), ?_⟩
      exact Row.read_ofRecord (Record.whole_fresh id taskType config now.isReading_toInstant)

/-- A creation leaves no entry behind but those that were there and, if it succeeds, a fresh one,
which is the only one of its id. -/
theorem entry_of_create {id taskType : String} {config : Config} {e : Entry}
    (he : e ∈ (s.call now k (.create id taskType config)).2.2.entries) :
    e ∈ s.entries ∧ ((s.call now k (.create id taskType config)).1 = .ok () → e.id ≠ id)
    ∨ (s.call now k (.create id taskType config)).1 = .ok ()
      ∧ e.read = .ok (Record.fresh id taskType config now.toInstant) := by
  rcases s.call_cases now k (.create id taskType config) with ⟨_, herror, hstore⟩ | heq
  · rw [hstore] at he
    rw [herror]
    refine Or.inl ⟨he, ?_⟩
    intro hok
    cases hok
  rw [heq] at he ⊢
  cases s with
  | memory m =>
    obtain ⟨r, hr, rfl⟩ := List.mem_map.mp he
    dsimp only [performAt, Memory.performAt, Memory.put] at hr
    split at hr
    · rw [Memory.records_replace] at hr
      obtain ⟨x, hx, rfl⟩ := List.mem_map.mp hr
      split
      · exact Or.inr ⟨rfl, rfl⟩
      case isFalse hid => exact Or.inl ⟨List.mem_map_of_mem hx, fun _ => hid⟩
    case isFalse hid =>
      rcases List.mem_append.mp hr with hold | hnew
      · refine Or.inl ⟨List.mem_map_of_mem hold, fun _ heq => hid ?_⟩
        exact List.mem_map.mpr ⟨r, hold, heq⟩
      · rw [List.mem_singleton.mp hnew]
        exact Or.inr ⟨rfl, rfl⟩
  | database d =>
    dsimp only [entries, performAt, Database.performAt] at he ⊢
    rcases d.write_cases Database.isLocked
        (Transaction.insert (Record.fresh id taskType config now.toInstant)) with
      ⟨-, hend⟩ | ⟨_, -, hend⟩ | ⟨a, t, hdone, hend⟩ <;> rw [hend] at he ⊢
    · refine Or.inl ⟨he, ?_⟩
      intro hok
      cases hok
    · refine Or.inl ⟨he, ?_⟩
      intro hok
      cases hok
    · obtain ⟨t', hinsert, hdone⟩ := bind_eq_ok_iff.mp hdone
      obtain ⟨-, rfl⟩ := Prod.mk.inj (Except.ok.inj hdone)
      have hinsert := orFault_eq_ok_iff.mp hinsert
      rw [Table.entries_of_insert hinsert] at he
      rcases List.mem_append.mp he with hold | hnew
      · refine Or.inl ⟨hold, fun _ => ?_⟩
        obtain ⟨row, hrow, rfl⟩ := List.mem_map.mp hold
        have hnone := List.find?_eq_none.mp (Table.of_insert hinsert).1 row hrow
        simpa [Row.ofRecord, Record.fresh, Entry.id] using hnone
      · rw [List.mem_singleton.mp hnew]
        exact Or.inr ⟨rfl,
          Row.read_ofRecord (Record.whole_fresh id taskType config now.isReading_toInstant)⟩

/-- A request to cancel that is granted marks the entry of its id. Any other does nothing. -/
theorem requestCancel_cases (id : String) :
    ((s.call now k (.requestCancel id)).1 ≠ .ok true
        ∧ (s.call now k (.requestCancel id)).2.2 = s)
    ∨ (s.call now k (.requestCancel id)).1 = .ok true
        ∧ Marks id s.entries (s.call now k (.requestCancel id)).2.2.entries := by
  rcases s.call_cases now k (.requestCancel id) with ⟨e, herror, hstore⟩ | heq
  · refine Or.inl ⟨?_, hstore⟩
    rw [herror]
    exact nofun
  rw [heq]
  cases hanswer : (s.performAt k.settings.failover (fun _ => now) (.requestCancel id)).1 with
  | error e =>
    refine Or.inl ⟨nofun, ?_⟩
    cases s with
    | memory m => cases hanswer
    | database d =>
      have herror : (d.performAt k.settings.failover (fun _ => now) (.requestCancel id)).1
          = .error e := hanswer
      exact congrArg Store.database (Database.performAt_of_error herror)
  | ok done =>
    cases done with
    | false => exact Or.inl ⟨nofun, requestCancel_refused hanswer⟩
    | true =>
      refine Or.inr ⟨rfl, ?_⟩
      cases s with
      | memory m => exact m.marks_of_requestCancel (Except.ok.inj hanswer)
      | database d => exact d.marks_of_requestCancel hanswer

end Call

theorem entries_setLock (s : Store) (locked : Bool) : (s.setLock locked).entries = s.entries := by
  cases s <;> rfl

end Store

end TaskCluster
