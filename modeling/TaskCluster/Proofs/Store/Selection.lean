import Mathlib
import TaskCluster.Proofs.Store.Lifecycle

/-!
# What a listing shows

A listing selects records, sorts them and shows a page of them. A memory does so with its records, a
database with its rows, of which some may not be readable. `Store.Selects` is what both have in
common: the records that are selected, in the order of their insertion. A listing of all pages shows
them newest first (`Store.list_unpaged_eq_ok_iff`), and any other listing a page of that one
(`Store.list_of_unpaged`), so what a store lists is a question of what it selects.
-/

namespace TaskCluster

/-! ### Reading rows one by one -/

/-- Related lists stay so when both are sorted alike. -/
theorem forall₂_mergeSort {α β : Type} {R : α → β → Prop} {l : List α} {k : List β}
    {le₁ : α → α → Bool} {le₂ : β → β → Bool} (h : List.Forall₂ R l k)
    (hle : ∀ {a x b y}, R a x → R b y → le₁ a b = le₂ x y) :
    List.Forall₂ R (l.mergeSort le₁) (k.mergeSort le₂) := by
  obtain ⟨hlength, hzip⟩ := List.forall₂_iff_zip.mp h
  have hfst : ((l.zip k).mergeSort fun p q => le₁ p.1 q.1).map Prod.fst = l.mergeSort le₁ := by
    have hmap := List.map_fst_zip hlength.le
    conv_rhs => rw [← hmap]
    exact List.map_mergeSort fun _ _ _ _ => rfl
  have hsnd : ((l.zip k).mergeSort fun p q => le₁ p.1 q.1).map Prod.snd = k.mergeSort le₂ := by
    have hmap := List.map_snd_zip hlength.ge
    conv_rhs => rw [← hmap]
    exact List.map_mergeSort fun _ hp _ hq => hle (hzip hp) (hzip hq)
  rw [← hfst, ← hsnd, List.forall₂_map_left_iff, List.forall₂_map_right_iff, List.forall₂_same]
  intro p hp
  exact hzip ((List.mergeSort_perm _ _).mem_iff.mp hp)

namespace Row

/-- The records are what is read of the rows, one by one. -/
def Reads (rows : List Row) (rs : List Record) : Prop :=
  List.Forall₂ (fun row r => row.read = .ok r) rows rs

theorem mapM_read_eq_ok_iff {rows : List Row} {rs : List Record} :
    rows.mapM read = .ok rs ↔ Reads rows rs := by
  induction rows generalizing rs with
  | nil =>
    constructor
    · intro h
      obtain rfl := Except.ok.inj h
      exact .nil
    · intro h
      cases h
      rfl
  | cons row rows ih =>
    rw [List.mapM_cons, Reads, List.forall₂_cons_left_iff]
    simp only [bind_eq_ok_iff]
    constructor
    · rintro ⟨r, hr, rest, hrest, h⟩
      exact ⟨r, rest, hr, ih.mp hrest, (Except.ok.inj h).symm⟩
    · rintro ⟨r, rest, hr, hrest, rfl⟩
      exact ⟨r, hr, rest, ih.mpr hrest, rfl⟩

namespace Reads

variable {rows : List Row} {rs : List Record}

theorem unique {rs' : List Record} (h : Reads rows rs) (h' : Reads rows rs') : rs = rs' :=
  Except.ok.inj ((mapM_read_eq_ok_iff.mpr h).symm.trans (mapM_read_eq_ok_iff.mpr h'))

/-- What was read is there exactly if one of the rows holds it. -/
theorem mem_iff (h : Reads rows rs) {r : Record} : r ∈ rs ↔ ∃ row ∈ rows, row.read = .ok r := by
  refine ⟨(of_mapM_read (mapM_read_eq_ok_iff.mpr h)).2 r, ?_⟩
  rintro ⟨row, hrow, hread⟩
  unfold Reads at h
  induction h with
  | nil => cases hrow
  | @cons row' r' rows rs hread' _ ih =>
    rcases List.mem_cons.mp hrow with rfl | hrow
    · obtain rfl := Except.ok.inj (hread.symm.trans hread')
      exact List.mem_cons_self
    · exact List.mem_cons_of_mem r' (ih hrow)

theorem exists_of_readable (h : ∀ row ∈ rows, ∃ r, row.read = .ok r) : ∃ rs, Reads rows rs := by
  induction rows with
  | nil => exact ⟨[], .nil⟩
  | cons row rows ih =>
    obtain ⟨r, hr⟩ := h row List.mem_cons_self
    obtain ⟨rs, hrs⟩ := ih fun x hx => h x (List.mem_cons_of_mem row hx)
    exact ⟨r :: rs, .cons hr hrs⟩

theorem readable (h : Reads rows rs) : ∀ row ∈ rows, ∃ r, row.read = .ok r := by
  unfold Reads at h
  induction h with
  | nil =>
    intro row hrow
    cases hrow
  | @cons row r rows rs hread _ ih =>
    intro x hx
    rcases List.mem_cons.mp hx with rfl | hx
    · exact ⟨r, hread⟩
    · exact ih x hx

/-- A row and its record have the same id, so both are filtered by it alike. -/
theorem filter_id (h : Reads rows rs) (p : String → Bool) :
    Reads (rows.filter fun row => p row.id) (rs.filter fun r => p r.id) := by
  refine List.rel_filter ?_ h
  intro row r hread
  dsimp only
  rw [(of_read hread).1]

theorem page (h : Reads rows rs) (l : Listing) : Reads (l.page rows) (l.page rs) := by
  unfold Listing.page
  split
  · exact List.forall₂_drop l.start h
  · exact List.forall₂_take l.size (List.forall₂_drop l.start h)

end Reads

end Row

/-! ### Newest first -/

/-- A time that was read stood in its cell. -/
theorem Column.of_time {column : Column} {c : Cell} {t : Instant} (h : column.time c = .ok t) :
    c = Cell.ofTime t := by
  obtain ⟨i, hi, h⟩ := bind_eq_ok_iff.mp h
  split at h
  case h_1 k hk =>
    obtain rfl := Except.ok.inj h
    have hmillis := ClockTime.ofMillis?_eq_some_iff.mp hk
    have hcell : c = .int i := by
      cases c with
      | int j => rw [Except.ok.inj hi]
      | _ => cases hi
    rw [hcell, Cell.ofTime, k.millis_toInstant, hmillis, Int64.ofInt_toInt]
  case h_2 => cases h

/-- Rows that can be read stand in the order of their records. -/
theorem Row.le_of_read {row row' : Row} {r r' : Record} (h : row.read = .ok r)
    (h' : row'.read = .ok r') :
    row.createdAt.le row'.createdAt = r.createdAt.le r'.createdAt := by
  obtain ⟨-, -, -, hcreated, -, -⟩ := of_read h
  obtain ⟨-, -, -, hcreated', -, -⟩ := of_read h'
  obtain ⟨c, hc⟩ := Column.isReading_of_time hcreated
  obtain ⟨c', hc'⟩ := Column.isReading_of_time hcreated'
  rw [Column.of_time hcreated, Column.of_time hcreated', hc, hc', Cell.le_ofTime]

namespace Listing

/-- The listing with all pages. -/
def unpaged (l : Listing) : Listing := { l with start := 0, size := 0 }

theorem page_unpaged {α : Type} (l : Listing) (items : List α) : l.unpaged.page items = items := rfl

/-- Records in the order of a listing: the newest first, and of those of one time the last one. -/
def newestFirst (rs : List Record) : List Record :=
  (rs.mergeSort fun a b => a.createdAt.le b.createdAt).reverse

theorem newestFirst_perm (rs : List Record) : (newestFirst rs).Perm rs :=
  (List.reverse_perm _).trans (List.mergeSort_perm _ _)

theorem pairwise_newestFirst (rs : List Record) :
    (newestFirst rs).Pairwise fun a b => b.createdAt.le a.createdAt = true :=
  List.pairwise_reverse.mpr <| List.pairwise_mergeSort
    (fun a b c => Instant.le_trans a.createdAt b.createdAt c.createdAt)
    (fun a b => Instant.le_total a.createdAt b.createdAt) rs

theorem filter_newestFirst (p : Record → Bool) (rs : List Record) :
    (newestFirst rs).filter p = newestFirst (rs.filter p) := by
  have hsort := filter_mergeSort
    (fun a b c : Record => Instant.le_trans a.createdAt b.createdAt c.createdAt)
    (fun a b => Instant.le_total a.createdAt b.createdAt) p rs
  rw [newestFirst, List.filter_reverse, hsort, newestFirst]

end Listing

/-- Rows that can be read are sorted as their records are. -/
theorem Row.Reads.newestFirst {rows : List Row} {rs : List Record} (h : Reads rows rs) :
    Reads (rows.mergeSort fun a b => a.createdAt.le b.createdAt).reverse
      (Listing.newestFirst rs) :=
  List.forall₂_reverse_iff.mpr (forall₂_mergeSort h le_of_read)

/-! ### Listings of either kind of store -/

theorem Memory.list_unpaged (m : Memory) (l : Listing) :
    m.list l.unpaged
      = Listing.newestFirst (m.records.filter fun r => l.admits r.taskType r.status) := by
  rw [Memory.list, Listing.page_unpaged, ← Listing.filter_newestFirst]
  rfl

namespace Store

/-- What a store answers about the record of an id. -/
def get : Store → String → Except Abort (Option Record)
  | .memory m, id => .ok (m.get? id)
  | .database d, id => d.get id

/-- What a store answers to a listing. -/
def list : Store → Listing → Except Abort (List Record)
  | .memory m, l => .ok (m.list l)
  | .database d, l => d.list l

theorem performAt_get (policy : FailoverPolicy) (clock : Readings) (s : Store) (id : String) :
    s.performAt policy clock (.get id) = (s.get id, s) := by
  cases s <;> rfl

theorem performAt_list (policy : FailoverPolicy) (clock : Readings) (s : Store) (l : Listing) :
    s.performAt policy clock (.list l) = (s.list l, s) := by
  cases s <;> rfl

/-- A store selects some records for a listing, in the order of their insertion. -/
def Selects (s : Store) (l : Listing) (rs : List Record) : Prop :=
  match s with
  | .memory m => m.records.filter (fun r => l.admits r.taskType r.status) = rs
  | .database d => Row.Reads (d.table.rows.filter (Table.selects l)) rs

/-- A listing of all pages shows what is selected, newest first. -/
theorem list_unpaged_eq_ok_iff {s : Store} {l : Listing} {rs : List Record} :
    s.list l.unpaged = .ok rs ↔ ∃ sel, s.Selects l sel ∧ Listing.newestFirst sel = rs := by
  cases s with
  | memory m =>
    have hlist : Store.list (.memory m) l.unpaged
        = .ok (Listing.newestFirst (m.records.filter fun r => l.admits r.taskType r.status)) :=
      congrArg Except.ok (Memory.list_unpaged m l)
    rw [hlist]
    simp [Selects]
  | database d =>
    have hlist : Store.list (.database d) l.unpaged = .ok rs
        ↔ Row.Reads ((d.table.rows.filter (Table.selects l)).mergeSort
            fun a b => a.createdAt.le b.createdAt).reverse rs := by
      rw [← Row.mapM_read_eq_ok_iff, ← orFault_eq_ok_iff]
      rfl
    rw [hlist]
    constructor
    · intro h
      have hperm : (d.table.rows.filter (Table.selects l)).Perm
          ((d.table.rows.filter (Table.selects l)).mergeSort
            fun a b => a.createdAt.le b.createdAt).reverse :=
        ((List.reverse_perm _).trans (List.mergeSort_perm _ _)).symm
      obtain ⟨sel, hsel, -⟩ := List.perm_comp_forall₂ hperm h
      have hsel : Row.Reads _ sel := hsel
      exact ⟨sel, hsel, hsel.newestFirst.unique h⟩
    · rintro ⟨sel, hsel, rfl⟩
      exact hsel.newestFirst

/-- A listing shows its page of the listing of all pages. -/
theorem list_of_unpaged {s : Store} {l : Listing} {rs : List Record}
    (h : s.list l.unpaged = .ok rs) : s.list l = .ok (l.page rs) := by
  cases s with
  | memory m =>
    obtain rfl := Except.ok.inj h
    rfl
  | database d =>
    have hreads := Row.mapM_read_eq_ok_iff.mp (orFault_eq_ok_iff.mp h)
    exact orFault_eq_ok_iff.mpr (Row.mapM_read_eq_ok_iff.mpr (hreads.page l))

end Store

end TaskCluster
