import Mathlib
import TaskCluster.Proofs.Store.Selection

/-!
# Records put into a store

A put stores a record as it is, whatever its store knows about its id (`Store.Placed`): it is read
back, it is listed by its own time of creation, and all other records stay as they were, in the same
order. A memory puts whole records. A database that has a row of the id writes over it, but for the
type and the configuration: these stay, and what is placed is the record with them
(`Store.placed`). So a record is stored as it is exactly if no row of its id has another type or
configuration, and the two kinds of stores agree on puts that keep to that.
-/

namespace TaskCluster

/-! ### What a put changes

Both kinds of stores keep the items of all other ids, in their order; that alone says what is read
and listed of them. -/

section Others

variable {α : Type} {key : α → String} {items items' : List α} {id : String}

/-- Where all items but those of one id are the same, the others are found alike. -/
theorem find?_of_filter_eq
    (h : items'.filter (fun a => key a != id) = items.filter fun a => key a != id)
    {id' : String} (hne : id' ≠ id) :
    items'.find? (fun a => key a == id') = items.find? fun a => key a == id' := by
  have hcut : ∀ l : List α, l.find? (fun a => key a == id')
      = (l.filter fun a => key a != id).find? fun a => key a == id' := by
    intro l
    rw [List.find?_filter]
    congr 1
    funext a
    by_cases ha : key a = id' <;> simp [ha, hne]
  rw [hcut, h, ← hcut]

end Others

/-- A record with the type and the configuration of a row. -/
def Record.withKindOf (r : Record) (row : Row) : Record :=
  { r with taskType := row.taskType, config := row.config }

/-- The record that is placed by a put into a table. -/
def Table.placed (t : Table) (r : Record) : Record :=
  match t.find? r.id with
  | none => r
  | some row => r.withKindOf row

theorem Table.id_placed (t : Table) (r : Record) : (t.placed r).id = r.id := by
  unfold placed
  split <;> rfl

theorem Table.whole_placed {r : Record} (h : r.Whole) (t : Table) : (t.placed r).Whole := by
  unfold placed
  split
  · exact h
  · exact ⟨h.createdAt, h.startedAt, h.finishedAt⟩

namespace Table

theorem filter_modify (t : Table) (id : String) (f : Row → Row) :
    (t.modify id f).rows.filter (fun row => row.id != id)
      = t.rows.filter fun row => row.id != id := by
  change (t.rows.map _).filter _ = _
  induction t.rows with
  | nil => rfl
  | cons row rows ih =>
    rw [List.map_cons, List.filter_cons, List.filter_cons, ih]
    by_cases hid : row.id = id <;> simp [hid]

/-- A row of an unknown id is inserted. -/
theorem exists_insert {t : Table} (row : Row) (h : t.find? row.id = none) :
    ∃ t', t.insert row = .ok t' := by
  have hid : row.id ∉ t.rows.map Row.id := by
    intro hmem
    obtain ⟨x, hx, hxid⟩ := List.mem_map.mp hmem
    have hfound := find?_of_mem hx
    rw [hxid, h] at hfound
    cases hfound
  exact ⟨_, dif_neg hid⟩

end Table

/-- A record that is written over a row of its id, with its time of creation, leaves the row of the
record that is placed. -/
theorem Row.write_eq_ofRecord {row : Row} {r : Record} (h : row.id = r.id) :
    { row.write r with createdAt := Cell.ofTime r.createdAt } = ofRecord (r.withKindOf row) := by
  simp only [write, ofRecord, Record.withKindOf, h]

/-- A put into a table leaves the row of the record that is placed, and all other rows as they
were. -/
theorem Transaction.put_eq (t : Table) (r : Record) :
    ∃ t', Transaction.put r t = .ok ((), t')
      ∧ t'.find? r.id = some (Row.ofRecord (t.placed r))
      ∧ t'.rows.filter (fun row => row.id != r.id) = t.rows.filter fun row => row.id != r.id := by
  unfold Transaction.put Table.placed
  cases hfind : t.find? r.id with
  | none =>
    obtain ⟨t', hinsert⟩ := Table.exists_insert (Row.ofRecord r) hfind
    obtain ⟨-, hrows⟩ := Table.of_insert hinsert
    have hnone : t.rows.find? (fun row => row.id == r.id) = none := hfind
    refine ⟨t', ?_, ?_, ?_⟩
    · simp only [Transaction.insert, hinsert]
      rfl
    · rw [Table.find?, hrows, List.find?_append, hnone]
      simp [Row.ofRecord]
    · rw [hrows, List.filter_append]
      simp [Row.ofRecord]
  | some row =>
    refine ⟨_, rfl, ?_, ?_⟩
    · rw [Table.find?_modify, if_pos rfl, Table.find?_update, if_pos rfl, hfind]
      exact congrArg some (Row.write_eq_ofRecord (Table.id_of_find? hfind))
    · rw [Table.filter_modify, Table.update, Table.filter_modify]

/-- A put into a memory leaves the record, and all others as they were. -/
theorem Memory.put_eq (m : Memory) (r : Record) :
    (m.put r).get? r.id = some r
      ∧ (m.put r).records.filter (fun x => x.id != r.id)
        = m.records.filter fun x => x.id != r.id := by
  cases hget : m.get? r.id with
  | none =>
    refine ⟨by rw [get?_put hget, if_pos rfl], ?_⟩
    rw [records_put hget, List.filter_append]
    simp
  | some old =>
    have hmem : r.id ∈ m.records.map Record.id := by
      by_contra hnot
      rw [get?_eq_none_iff.mpr hnot] at hget
      cases hget
    have hput : m.put r = m.replace r := dif_pos hmem
    refine ⟨by rw [hput, get?_replace, if_pos rfl, hget]; rfl, ?_⟩
    rw [hput, records_replace]
    induction m.records with
    | nil => rfl
    | cons x records ih =>
      rw [List.map_cons, List.filter_cons, List.filter_cons, ih]
      by_cases hid : x.id = r.id <;> simp [hid]

/-! ### Placed records -/

namespace Store

/-- The row of an id, if the store is a database that has one. -/
def row? : Store → String → Option Row
  | .memory _, _ => none
  | .database d, id => d.table.find? id

/-- The record that is placed by a put: the record itself, but for the type and the configuration
if there is a row of its id. -/
def placed (s : Store) (r : Record) : Record :=
  match s with
  | .memory _ => r
  | .database d => d.table.placed r

/-- A record is placed in a store: it is read back, it is listed by its own time of creation, newest
first and page by page, and what the store answers about all other records stays the same, their
order included. -/
structure Placed (s s' : Store) (r : Record) : Prop where
  get : s'.get r.id = .ok (some r)
  others : ∀ id, id ≠ r.id → s'.get id = s.get id
  listed : ∀ (l : Listing) rs, s'.list l.unpaged = .ok rs →
    s'.list l = .ok (l.page rs)
      ∧ rs.Pairwise (fun a b => b.createdAt.le a.createdAt = true)
      ∧ (r ∈ rs ↔ l.admits r.taskType r.status = true)
  rest : ∀ (l : Listing) rs, s.list l.unpaged = .ok rs → ∃ rs', s'.list l.unpaged = .ok rs'
    ∧ rs'.filter (fun x => x.id != r.id) = rs.filter fun x => x.id != r.id

/-- What is listed is a question of what is selected. -/
theorem Placed.of_selects {s s' : Store} {r : Record} (hget : s'.get r.id = .ok (some r))
    (hothers : ∀ id, id ≠ r.id → s'.get id = s.get id)
    (hlisted : ∀ l sel, s'.Selects l sel → (r ∈ sel ↔ l.admits r.taskType r.status = true))
    (hrest : ∀ l sel, s.Selects l sel → ∃ sel', s'.Selects l sel'
      ∧ sel'.filter (fun x => x.id != r.id) = sel.filter fun x => x.id != r.id) :
    Placed s s' r where
  get := hget
  others := hothers
  listed := by
    intro l rs h
    refine ⟨list_of_unpaged h, ?_⟩
    obtain ⟨sel, hsel, rfl⟩ := list_unpaged_eq_ok_iff.mp h
    exact ⟨Listing.pairwise_newestFirst sel,
      (Listing.newestFirst_perm sel).mem_iff.trans (hlisted l sel hsel)⟩
  rest := by
    intro l rs h
    obtain ⟨sel, hsel, rfl⟩ := list_unpaged_eq_ok_iff.mp h
    obtain ⟨sel', hsel', hsame⟩ := hrest l sel hsel
    refine ⟨_, list_unpaged_eq_ok_iff.mpr ⟨sel', hsel', rfl⟩, ?_⟩
    rw [Listing.filter_newestFirst, Listing.filter_newestFirst, hsame]

theorem placed_memory (m : Memory) (r : Record) : Placed (.memory m) (.memory (m.put r)) r := by
  obtain ⟨hget, hothers⟩ := m.put_eq r
  refine .of_selects (congrArg Except.ok hget) ?_ ?_ ?_
  · intro id hid
    exact congrArg Except.ok (find?_of_filter_eq hothers hid)
  · intro l sel hsel
    obtain rfl : (m.put r).records.filter _ = sel := hsel
    simp [Memory.mem_of_get? hget]
  · intro l sel hsel
    obtain rfl : m.records.filter _ = sel := hsel
    refine ⟨_, rfl, ?_⟩
    rw [List.filter_comm, hothers, List.filter_comm]

theorem placed_database {t t' : Table} {r : Record} (hr : r.Whole)
    (hfind : t'.find? r.id = some (Row.ofRecord r))
    (hothers : t'.rows.filter (fun row => row.id != r.id)
      = t.rows.filter fun row => row.id != r.id) (locked : Bool) :
    Placed (.database ⟨t, locked⟩) (.database ⟨t', locked⟩) r := by
  have hread := Row.read_ofRecord hr
  have hmem : Row.ofRecord r ∈ t'.rows := List.mem_of_find?_eq_some hfind
  have hselects : ∀ l, Table.selects l (Row.ofRecord r) = l.admits r.taskType r.status := by
    intro l
    simp only [Table.selects, Listing.admits, Row.ofRecord, Status.contains_map_name]
  have hrow : ∀ row ∈ t'.rows, row.id = r.id → row = Row.ofRecord r := by
    intro row hrow hid
    have hfound := Table.find?_of_mem hrow
    rw [hid, hfind] at hfound
    exact (Option.some.inj hfound).symm
  have hcut : ∀ l, (t'.rows.filter (Table.selects l)).filter (fun row => row.id != r.id)
      = (t.rows.filter (Table.selects l)).filter fun row => row.id != r.id := by
    intro l
    rw [List.filter_comm, hothers, List.filter_comm]
  refine .of_selects ?_ ?_ ?_ ?_
  · dsimp only [Store.get, Database.get]
    rw [hfind]
    dsimp only
    rw [hread]
    rfl
  · intro id hid
    have hfound : t'.find? id = t.find? id := find?_of_filter_eq hothers hid
    dsimp only [Store.get, Database.get]
    rw [hfound]
  · intro l sel hsel
    have hsel : Row.Reads (t'.rows.filter (Table.selects l)) sel := hsel
    rw [hsel.mem_iff, ← hselects]
    constructor
    · rintro ⟨row, hrowmem, hrowread⟩
      obtain ⟨hin, hadmitted⟩ := List.mem_filter.mp hrowmem
      rw [← hrow row hin (Row.of_read hrowread).1.symm]
      exact hadmitted
    · intro hadmitted
      exact ⟨_, List.mem_filter.mpr ⟨hmem, hadmitted⟩, hread⟩
  · intro l sel hsel
    have hsel : Row.Reads (t.rows.filter (Table.selects l)) sel := hsel
    have hreadable : ∀ row ∈ t'.rows.filter (Table.selects l), ∃ x, row.read = .ok x := by
      intro row hrowmem
      by_cases hid : row.id = r.id
      · rw [hrow row (List.mem_of_mem_filter hrowmem) hid]
        exact ⟨r, hread⟩
      · have hkept : row ∈ (t.rows.filter (Table.selects l)).filter fun row => row.id != r.id := by
          rw [← hcut]
          exact List.mem_filter.mpr ⟨hrowmem, by simpa using hid⟩
        exact hsel.readable row (List.mem_of_mem_filter hkept)
    obtain ⟨sel', hsel'⟩ := Row.Reads.exists_of_readable hreadable
    refine ⟨sel', hsel', ?_⟩
    have hkept := hsel.filter_id (fun id => id != r.id)
    have hkept' := hsel'.filter_id (fun id => id != r.id)
    rw [hcut] at hkept'
    exact hkept'.unique hkept

/-- Does a put over a connection succeed? -/
def takes (s : Store) (k : Connection) : Prop :=
  match s with
  | .memory _ => True
  | .database d => k.broken = false ∧ d.locked = false

/-- A put over a database that takes it. -/
theorem put_database (k : Connection) (hk : k.broken = false) (t : Table) (r : Record) :
    ∃ t', Store.put (.database ⟨t, false⟩) k r = (.ok (), k, .database ⟨t', false⟩)
      ∧ Transaction.put r t = .ok ((), t') := by
  obtain ⟨t', hput, -⟩ := Transaction.put_eq t r
  have hwrite : Database.put ⟨t, false⟩ r = (.ok (), ⟨t', false⟩) := Database.write_ok hput _
  refine ⟨t', ?_, hput⟩
  dsimp only [Store.put, onDatabase]
  rw [hk, if_neg Bool.false_ne_true, hwrite]

theorem put_eq_ok_iff {s : Store} {k : Connection} {r : Record} :
    (s.put k r).1 = .ok () ↔ s.takes k := by
  cases s with
  | memory m => exact ⟨fun _ => trivial, fun _ => rfl⟩
  | database d =>
    obtain ⟨t, locked⟩ := d
    constructor
    · intro h
      dsimp only [Store.put, onDatabase] at h
      split at h
      case isTrue => cases h
      case isFalse hk =>
        cases locked with
        | true => cases h
        | false => exact ⟨by simpa using hk, rfl⟩
    · rintro ⟨hk, rfl⟩
      obtain ⟨t', hput, -⟩ := put_database k hk t r
      rw [hput]

/-- A put that succeeds places a record. -/
theorem placed_of_put {s : Store} {k : Connection} {r : Record} (hr : r.Whole)
    (h : (s.put k r).1 = .ok ()) : Placed s (s.put k r).2.2 (s.placed r) := by
  have htakes := put_eq_ok_iff.mp h
  cases s with
  | memory m => exact placed_memory m r
  | database d =>
    obtain ⟨t, locked⟩ := d
    obtain ⟨hk, rfl⟩ := htakes
    obtain ⟨t', hput, hwork⟩ := put_database k hk t r
    obtain ⟨t'', hwork', hfind, hothers⟩ := Transaction.put_eq t r
    obtain rfl : t' = t'' := congrArg Prod.snd (Except.ok.inj (hwork.symm.trans hwork'))
    rw [← Table.id_placed t r] at hfind hothers
    rw [hput]
    exact placed_database (Table.whole_placed hr t) hfind hothers false

/-- A record is placed as it is exactly if no row of its id has another type or configuration. -/
theorem placed_eq_self_iff {s : Store} {r : Record} :
    s.placed r = r ↔ ∀ row, s.row? r.id = some row →
      row.taskType = r.taskType ∧ row.config = r.config := by
  cases s with
  | memory m => exact ⟨(fun _ _ h => nomatch h), fun _ => rfl⟩
  | database d =>
    dsimp only [placed, row?, Table.placed]
    cases d.table.find? r.id with
    | none => exact ⟨(fun _ _ h => nomatch h), fun _ => rfl⟩
    | some row =>
      constructor
      · intro h row' hrow
        obtain rfl := Option.some.inj hrow
        exact ⟨congrArg Record.taskType h, congrArg Record.config h⟩
      · intro h
        obtain ⟨htype, hconfig⟩ := h row rfl
        dsimp only [Record.withKindOf]
        rw [htype, hconfig]

end Store

/-! ### Puts into both kinds of stores -/

/-- The two records are of tasks of one type and one configuration. -/
def Record.SameKind (a b : Record) : Prop := a.taskType = b.taskType ∧ a.config = b.config

theorem Memory.mem_put {m : Memory} {r x : Record} (h : x ∈ (m.put r).records) :
    x = r ∨ x ∈ m.records := by
  obtain ⟨hget, hothers⟩ := m.put_eq r
  by_cases hid : x.id = r.id
  · exact Or.inl (eq_of_id_eq h (mem_of_get? hget) hid)
  · have hkept : x ∈ (m.put r).records.filter fun y => y.id != r.id :=
      List.mem_filter.mpr ⟨h, by simpa using hid⟩
    rw [hothers] at hkept
    exact Or.inr (List.mem_of_mem_filter hkept)

theorem Memory.put_of_mem {m : Memory} {old r : Record} (h : old ∈ m.records)
    (hid : old.id = r.id) : m.put r = m.replace r :=
  dif_pos (hid ▸ List.mem_map_of_mem h)

/-- A put over records of the same kind keeps a table the mirror of a memory. -/
theorem Mirrors.put {m : Memory} {t : Table} (h : Mirrors m t) {r : Record} (hr : r.Whole)
    (hkind : ∀ x ∈ m.records, x.id = r.id → x.SameKind r) :
    ∃ t', Transaction.put r t = .ok ((), t') ∧ Mirrors (m.put r) t' := by
  unfold Transaction.put
  rw [h.find?]
  cases hget : m.get? r.id with
  | none =>
    obtain ⟨t', hinsert, hmirrors⟩ := h.insert hget hr
    refine ⟨t', ?_, hmirrors⟩
    simp only [Option.map_none, Transaction.insert, hinsert]
    rfl
  | some old =>
    have hold := Memory.mem_of_get? hget
    have hid : old.id = r.id := Memory.id_of_get? hget
    refine ⟨_, rfl, ?_, ?_⟩
    · rw [Memory.put_of_mem hold hid, Memory.records_replace]
      change (t.rows.map _).map _ = _
      rw [h.rows, List.map_map, List.map_map, List.map_map]
      refine List.map_congr_left fun x hx => ?_
      simp only [Function.comp_apply]
      by_cases hxid : x.id = r.id
      · obtain ⟨htype, hconfig⟩ := hkind x hx hxid
        simp [Row.ofRecord, Row.write, hxid, htype, hconfig]
      · simp [Row.ofRecord, hxid]
    · intro x hx
      rcases Memory.mem_put hx with rfl | hx
      · exact hr
      · exact h.whole x hx

/-- Puts of records that are of one kind where they are of one id. -/
theorem Mirrors.puts {rs : List Record} (hwhole : ∀ r ∈ rs, r.Whole)
    (hkind : ∀ a ∈ rs, ∀ b ∈ rs, a.id = b.id → a.SameKind b) {m : Memory} {t : Table}
    (h : Mirrors m t) (hm : ∀ x ∈ m.records, ∀ r ∈ rs, x.id = r.id → x.SameKind r) :
    ∃ t', rs.foldl (fun d r => (d.put r).2) (Database.mk t false) = ⟨t', false⟩
      ∧ Mirrors (rs.foldl Memory.put m) t' := by
  induction rs generalizing m t with
  | nil => exact ⟨t, rfl, h⟩
  | cons r rs ih =>
    have hr : r ∈ r :: rs := List.mem_cons_self
    obtain ⟨t₁, hput, hmirrors⟩ := h.put (hwhole r hr) fun x hx => hm x hx r hr
    have hwrite : Database.put ⟨t, false⟩ r = (.ok (), ⟨t₁, false⟩) := Database.write_ok hput _
    rw [List.foldl_cons, List.foldl_cons, hwrite]
    refine ih (fun x hx => hwhole x (List.mem_cons_of_mem r hx))
      (fun a ha b hb => hkind a (List.mem_cons_of_mem r ha) b (List.mem_cons_of_mem r hb))
      hmirrors ?_
    intro x hx y hy
    rcases Memory.mem_put hx with rfl | hx
    · exact hkind x hr y (List.mem_cons_of_mem x hy)
    · exact hm x hx y (List.mem_cons_of_mem r hy)

namespace Store

/-- **A put places its record, but for the kind of a row that is there.** A put succeeds in a memory
always, and in a database unless the connection is broken or the database locked. Then a record with
whole times is placed, in a database with the type and the configuration of the row of its id if
there is one. So the record is placed as it is exactly if such a row has its type and its
configuration; and puts of records that are of one kind where they are of one id lead from empty
stores to stores that show and list the same. -/
theorem puts_place_records (s : Store) (k : Connection) (r : Record) (rs : List Record) :
    ((s.put k r).1 = .ok () ↔ s.takes k)
    ∧ (r.Whole → (s.put k r).1 = .ok () →
        Placed s (s.put k r).2.2 (s.placed r)
        ∧ (Placed s (s.put k r).2.2 r ↔ ∀ row, s.row? r.id = some row →
            row.taskType = r.taskType ∧ row.config = r.config))
    ∧ ((∀ x ∈ rs, x.Whole) → (∀ a ∈ rs, ∀ b ∈ rs, a.id = b.id → a.SameKind b) →
        (∀ id, (rs.foldl (fun d x => (d.put x).2) {} : Database).get id
            = .ok ((rs.foldl Memory.put {}).get? id))
        ∧ ∀ l, (rs.foldl (fun d x => (d.put x).2) {} : Database).list l
            = .ok ((rs.foldl Memory.put {}).list l)) := by
  refine ⟨put_eq_ok_iff, ?_, ?_⟩
  · intro hr hput
    have hplaced := placed_of_put hr hput
    refine ⟨hplaced, ?_⟩
    rw [← placed_eq_self_iff]
    constructor
    · intro hself
      have hid : (s.placed r).id = r.id := by
        cases s with
        | memory m => rfl
        | database d => exact d.table.id_placed r
      have hget := hplaced.get
      rw [hid, hself.get] at hget
      exact (Option.some.inj (Except.ok.inj hget)).symm
    · intro hsame
      rw [hsame] at hplaced
      exact hplaced
  · intro hwhole hkind
    obtain ⟨t', hputs, hmirrors⟩ := Mirrors.puts hwhole hkind Agrees.empty.mirrors (by simp)
    rw [show (rs.foldl (fun d x => (d.put x).2) {} : Database) = ⟨t', false⟩ from hputs]
    exact ⟨hmirrors.get, hmirrors.list⟩

/-- A record with a run is put over a new task of the same kind, of which it takes the place. Put
after that task, it shows in a database as in a memory. -/
theorem puts_place_records_of_same_kind :
    let old : Record := Record.fresh "t" "noop" none ClockTime.epoch.toInstant
    let new : Record := { old with
      status := .failover, runCount := 9, createdAt := (ClockTime.clamp 1000).toInstant }
    let s : Store := .database ⟨⟨[Row.ofRecord old], by decide⟩, false⟩
    new.Whole ∧ (s.put {} new).1 = .ok () ∧ Placed s (s.put {} new).2.2 new
      ∧ ([old, new].foldl (fun d x => (d.put x).2) {} : Database).get "t"
        = .ok (([old, new].foldl Memory.put {}).get? "t") := by
  intro old new s
  have hold : old.Whole := Record.whole_fresh _ _ _ (ClockTime.isReading_toInstant _)
  have hnew : new.Whole := ⟨ClockTime.isReading_toInstant _, hold.startedAt, hold.finishedAt⟩
  obtain ⟨htakes, hplaces, hboth⟩ := puts_place_records s {} new [old, new]
  have hput : (s.put {} new).1 = .ok () := htakes.mpr ⟨rfl, rfl⟩
  refine ⟨hnew, hput, (hplaces hnew hput).2.mpr ?_, (hboth ?_ ?_).1 "t"⟩
  · intro row hrow
    have hrow' : s.row? new.id = some (Row.ofRecord old) := by decide +kernel
    obtain rfl := Option.some.inj (hrow'.symm.trans hrow)
    exact ⟨rfl, rfl⟩
  · intro x hx
    rcases List.mem_pair.mp hx with rfl | rfl
    · exact hold
    · exact hnew
  · intro a ha b hb _
    rcases List.mem_pair.mp ha with rfl | rfl <;> rcases List.mem_pair.mp hb with rfl | rfl <;>
      exact ⟨rfl, rfl⟩

/-- A record of another type and configuration is put over a row: a memory shows it as it is, a
database with the type and the configuration of the row. -/
theorem not_placed_over_other_kind :
    let old : Record :=
      Record.fresh "t" "first" (some [("a", .num (.int 1))]) ClockTime.epoch.toInstant
    let new : Record := Record.fresh "t" "second" none ClockTime.epoch.toInstant
    let inMemory : Store := .memory ⟨[old], by decide⟩
    let s : Store := .database ⟨⟨[Row.ofRecord old], by decide⟩, false⟩
    new.Whole ∧ (s.put {} new).1 = .ok ()
      ∧ (inMemory.put {} new).2.2.get "t" = .ok (some new)
      ∧ (s.put {} new).2.2.get "t" = .ok (some (new.withKindOf (Row.ofRecord old)))
      ∧ ¬ Placed s (s.put {} new).2.2 new := by
  intro old new inMemory s
  have hnew : new.Whole := Record.whole_fresh _ _ _ (ClockTime.isReading_toInstant _)
  have hput : (s.put {} new).1 = .ok () := put_eq_ok_iff.mpr ⟨rfl, rfl⟩
  have hkind : s.placed new = new.withKindOf (Row.ofRecord old) := by decide +kernel
  have hread : (s.put {} new).2.2.get "t" = .ok (some (new.withKindOf (Row.ofRecord old))) := by
    rw [← hkind]
    exact (placed_of_put hnew hput).get
  refine ⟨hnew, hput, (placed_memory _ new).get, hread, ?_⟩
  intro hplaced
  have hget : (s.put {} new).2.2.get "t" = .ok (some new) := hplaced.get
  rw [hread] at hget
  exact absurd (congrArg Record.taskType (Option.some.inj (Except.ok.inj hget))) (by decide)

end Store

end TaskCluster
