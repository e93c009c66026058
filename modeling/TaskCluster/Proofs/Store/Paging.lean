import Mathlib
import TaskCluster.Proofs.Store.ClaimScan
import TaskCluster.Proofs.Store.Selection

/-!
# Listings page by page

The listing of all pages holds the records that its filters let through, once each and newest first.
Any other listing is a slice of it, so the pages of one size, laid end to end, are that listing
again (`Store.lists_page_by_page`).

A memory drops and takes records. A database hands two numbers of 64 bits with a sign to a
statement, so it cuts greater ones, and says "all" by a negative limit (`Listing.limit`,
`Listing.offset`). `Listing.window` is what a statement does with the two, and both ways show the
same page of every list that a table can hold (`Listing.window_eq_page`).
-/

namespace TaskCluster

/-! ### Which records are shown -/

namespace Text

theorem trimEnd_eq_nil_iff {cs : List Char} : trimEnd cs = [] ↔ cs.all isSpace = true := by
  rw [trimEnd, List.reverse_eq_nil_iff]
  have hback : cs.reverse.dropWhile isSpace = [] ↔ cs.reverse.all isSpace = true :=
    trimStart_eq_nil_iff
  rw [hback, List.all_reverse]

/-- White space is all that is cut, so nothing is left of a blank text alone. -/
theorem isEmpty_trim (s : String) : (trim s).isEmpty = isBlank s := by
  rw [Bool.eq_iff_iff, String.isEmpty_iff, trim, String.ofList_eq_empty_iff, trimEnd_eq_nil_iff,
    ← trimStart_eq_nil_iff, isBlank, ← trimStart_eq_nil_iff]
  -- What is left behind the white space does not start with any.
  simp only [trimStart, List.dropWhile_idempotent]

end Text

namespace Listing

variable (l : Listing)

theorem all_typeFilter_iff {taskType : String} :
    l.typeFilter.all (fun t => t == taskType) = true
      ↔ ∀ t, l.taskType = some t → Text.isBlank t = false → taskType = Text.trim t := by
  unfold typeFilter
  cases l.taskType with
  | none => simp
  | some t =>
    cases hblank : Text.isBlank t with
    | true => simp [Option.filter, Text.isEmpty_trim, hblank]
    | false =>
      have hfilter : (some (Text.trim t)).filter (fun t => !t.isEmpty) = some (Text.trim t) := by
        simp [Option.filter, Text.isEmpty_trim, hblank]
      rw [Option.map_some, hfilter, Option.all_some, beq_iff_eq]
      refine ⟨fun heq x hx _ => ?_, fun heq => (heq t rfl hblank).symm⟩
      rw [← Option.some.inj hx, heq]

theorem admits_iff {taskType : String} {status : Status} :
    l.admits taskType status = true
      ↔ (∀ t, l.taskType = some t → Text.isBlank t = false → taskType = Text.trim t)
        ∧ (l.statuses = [] ∨ status ∈ l.statuses) := by
  rw [admits, Bool.and_eq_true, all_typeFilter_iff, Bool.or_eq_true, List.isEmpty_iff,
    List.contains_iff_mem]

/-- Of two records in a listing, the first was created later, or at the same time and stored
later. -/
theorem pairwise_newestFirst_of_nodup {rs : List Record} (h : rs.Nodup) :
    (newestFirst rs).Pairwise fun a b =>
      b.createdAt.lt a.createdAt = true ∨ b.createdAt = a.createdAt ∧ [b, a].Sublist rs :=
  List.pairwise_reverse.mpr (Record.pairwise_oldestFirst h)

/-! ### The bounds of a statement -/

/-- A count in 64 bits with a sign; a greater one is cut to the greatest. -/
def cut (n : Nat) : Int64 := if n < 2 ^ 63 then Int64.ofNat n else Int64.maxValue

/-- The limit of the statement that lists; a negative one sets no bound. -/
def limit : Int64 := if l.size = 0 then -1 else cut l.size

/-- The offset of the statement that lists. -/
def offset : Int64 := cut l.start

/-- The part of the selected rows that a statement with a limit and an offset shows. -/
def window {α : Type} (limit offset : Int64) (items : List α) : List α :=
  let rest := items.drop offset.toInt.toNat
  if limit < 0 then rest else rest.take limit.toInt.toNat

theorem toNat_cut (n : Nat) : (cut n).toInt.toNat = min n (2 ^ 63 - 1) := by
  unfold cut
  split
  case isTrue h =>
    rw [Int64.toInt_ofNat_of_lt h, Int.toNat_natCast]
    omega
  case isFalse h =>
    have hmax : Int64.maxValue.toInt.toNat = 2 ^ 63 - 1 := rfl
    omega

theorem not_cut_lt_zero (n : Nat) : ¬ cut n < 0 := by
  rw [Int64.lt_iff_toInt_lt, Int64.toInt_zero]
  unfold cut
  split
  case isTrue h =>
    rw [Int64.toInt_ofNat_of_lt h]
    omega
  case isFalse => decide

/-- A cut offset is beyond the end only if the offset is. -/
theorem drop_cut {α : Type} {items : List α} (h : items.length < 2 ^ 63) (n : Nat) :
    items.drop (cut n).toInt.toNat = items.drop n := by
  rw [toNat_cut]
  rcases Nat.lt_or_ge n (2 ^ 63) with hn | hn
  · rw [Nat.min_eq_left (by omega)]
  · rw [Nat.min_eq_right (by omega), List.drop_of_length_le (by omega),
      List.drop_of_length_le (by omega)]

/-- A cut limit is beyond the end if the limit is. -/
theorem take_cut {α : Type} {items : List α} (h : items.length < 2 ^ 63) (n : Nat) :
    items.take (cut n).toInt.toNat = items.take n := by
  rw [toNat_cut]
  rcases Nat.lt_or_ge n (2 ^ 63) with hn | hn
  · rw [Nat.min_eq_left (by omega)]
  · rw [Nat.min_eq_right (by omega), List.take_of_length_le (by omega),
      List.take_of_length_le (by omega)]

/-- A statement shows the page that is asked for. -/
theorem window_eq_page {α : Type} {items : List α} (h : items.length < 2 ^ 63) :
    window l.limit l.offset items = l.page items := by
  have hrest : (items.drop l.start).length < 2 ^ 63 := by
    rw [List.length_drop]
    omega
  unfold window page offset limit
  dsimp only
  -- The offset is cut on the whole listing, the limit on what is left of it.
  rw [drop_cut h]
  by_cases hsize : l.size = 0
  · rw [if_pos hsize, if_pos hsize]
    exact if_pos (by decide)
  · rw [if_neg hsize, if_neg hsize, if_neg (not_cut_lt_zero l.size), take_cut hrest]

/-! ### Pages laid end to end -/

/-- The first pages of one size are what the listing starts with. -/
theorem flatten_pages {α : Type} (items : List α) (size n : Nat) :
    ((List.range n).map fun k => (items.drop (k * size)).take size).flatten
      = items.take (n * size) := by
  induction n with
  | zero => simp
  | succ n ih =>
    rw [List.range_succ, List.map_append, List.flatten_append, ih, Nat.succ_mul, List.take_add]
    simp

end Listing

/-! ### Either kind of store -/

namespace Store

section Paging

variable {s : Store} {m : Memory} (policy : FailoverPolicy) (clock : Readings)

/-- A listing answers as that of the memory does, also while another connection writes. -/
theorem Keeps.list (h : s.Keeps m) (locked : Bool) (l : Listing) :
    (s.setLock locked).performAt policy clock (.list l)
      = (.ok (m.list l), s.setLock locked) := by
  cases h with
  | memory m => rfl
  | database hmirrors =>
    have hlist := hmirrors.list l
    exact congrArg (fun answer => (answer, _)) hlist

theorem mem_list_unpaged {l : Listing} {r : Record} :
    r ∈ m.list l.unpaged ↔ r ∈ m.records ∧ l.admits r.taskType r.status = true := by
  rw [Memory.list_unpaged, (Listing.newestFirst_perm _).mem_iff, List.mem_filter]

/-- **Listing and paging.** Also while another connection writes, the listing of all pages holds
each record once whose type is the one that is asked for, without the white space around it, or any
if none or a blank one is asked for, and whose status is one of those that are asked for, or any if
none is. The newest stands first and, of those of one time, the one that was stored last. A listing
from `start` on shows the slice of that list that starts there and has at most `size` records, or
all of the rest if `size` is zero, and the statement with its cut bounds shows the same slice. So
the pages of one size, laid end to end, are the whole list. -/
theorem lists_page_by_page (h : s.Keeps m) (locked : Bool) (l : Listing) :
    let s' := s.setLock locked
    let ask (start size : Nat) : Except Abort (List Record) × Store :=
      s'.performAt policy clock (.list { l with start, size })
    ∃ full : List Record, ask 0 0 = (.ok full, s')
      ∧ full.Nodup
      ∧ (∀ r, r ∈ full ↔ r ∈ m.records
          ∧ (∀ t, l.taskType = some t → Text.isBlank t = false → r.taskType = Text.trim t)
          ∧ (l.statuses = [] ∨ r.status ∈ l.statuses))
      ∧ full.Pairwise (fun a b => m.Precedes b a)
      ∧ (∀ start size,
          let slice := if size = 0 then full.drop start else (full.drop start).take size
          ask start size = (.ok slice, s')
            ∧ (full.length < 2 ^ 63 →
                Listing.window (Listing.limit { l with start, size })
                  (Listing.offset { l with start, size }) full = slice))
      ∧ ∀ size, 1 ≤ size → ∀ n, full.length ≤ n * size →
          ((List.range n).mapM fun k => (ask (k * size) size).1).map List.flatten = .ok full := by
  intro s' ask
  have hask : ∀ start size,
      ask start size = (.ok (Listing.page { l with start, size } (m.list l.unpaged)), s') :=
    fun start size => h.list policy clock locked { l with start, size }
  have hrecords : m.records.Nodup := .of_map _ m.ids_nodup
  have hfull := m.list_unpaged l
  refine ⟨m.list l.unpaged, hask 0 0, ?nodup, ?mem, ?order, ?slices, ?pages⟩
  case nodup =>
    rw [hfull]
    exact (Listing.newestFirst_perm _).nodup_iff.mpr (hrecords.filter _)
  case mem =>
    intro r
    rw [mem_list_unpaged, Listing.admits_iff]
  case order =>
    rw [hfull]
    refine (Listing.pairwise_newestFirst_of_nodup (hrecords.filter _)).imp ?_
    intro a b hab
    exact hab.imp_right fun hsame => ⟨hsame.1, hsame.2.trans List.filter_sublist⟩
  case slices =>
    intro start size
    exact ⟨hask start size, fun hlength => Listing.window_eq_page _ hlength⟩
  case pages =>
    intro size hsize n hn
    have hpages : ((List.range n).mapM fun k => (ask (k * size) size).1)
        = .ok ((List.range n).map fun k => ((m.list l.unpaged).drop (k * size)).take size) := by
      have hsize : size ≠ 0 := by omega
      simp only [hask, Listing.page, if_neg hsize]
      exact List.mapM_pure
    rw [hpages]
    change Except.ok (List.flatten _) = _
    rw [Listing.flatten_pages, List.take_of_length_le hn]

/-- `a` and `b` were created at the same time and `b` was stored later. `c` has another type and `d`
another status. -/
theorem lists_page_by_page_of_five :
    let task (id taskType : String) (millis : Int) : Record :=
      Record.fresh id taskType none (ClockTime.clamp millis).toInstant
    let d : Record := { task "d" "noop" 1 with status := .canceled }
    let m : Memory :=
      ⟨[task "a" "noop" 0, task "b" "noop" 0, task "c" "sleep" 1, d, task "e" "noop" 2], by decide⟩
    let s := Store.database ⟨⟨m.records.map Row.ofRecord, by decide⟩, true⟩
    let ask (start size : Nat) : Except Abort (List Record) × Store :=
      s.performAt {} (fun _ => .epoch) (.list ⟨some " noop ", [.new], start, size⟩)
    let full := [task "e" "noop" 2, task "b" "noop" 0, task "a" "noop" 0]
    ask 0 0 = (.ok full, s)
      ∧ ask 1 (2 ^ 64 - 1) = (.ok [task "b" "noop" 0, task "a" "noop" 0], s)
      ∧ ((List.range 2).mapM fun k => (ask (k * 2) 2).1).map List.flatten = .ok full := by
  intro task d m s ask full
  let t : Table := ⟨m.records.map Row.ofRecord, by decide⟩
  have hwhole : ∀ r ∈ m.records, r.Whole := by
    have htimes : ∀ r ∈ m.records, r.startedAt = none ∧ r.finishedAt = none
        ∧ (ClockTime.clamp r.createdAt.millis).toInstant = r.createdAt := by decide +kernel
    intro r hr
    obtain ⟨hstarted, hfinished, hcreated⟩ := htimes r hr
    exact ⟨⟨_, hcreated.symm⟩, by simp [hstarted], by simp [hfinished]⟩
  have hkeeps : (Store.database ⟨t, false⟩).Keeps m := .database ⟨rfl, hwhole⟩
  have hsorted : m.oldestFirst = m.records := List.mergeSort_of_pairwise (by decide +kernel)
  have hlist : m.list ⟨some " noop ", [.new], 0, 0⟩ = full := by
    rw [Memory.list, hsorted]
    decide +kernel
  obtain ⟨full', hall, -, -, -, hslices, hpages⟩ :=
    lists_page_by_page {} (fun _ => .epoch) hkeeps true ⟨some " noop ", [.new], 0, 0⟩
  have hask : ask 0 0 = (.ok full, s) := by
    rw [← hlist]
    exact hkeeps.list {} (fun _ => .epoch) true _
  obtain rfl : full' = full := Except.ok.inj (congrArg Prod.fst (hall.symm.trans hask))
  exact ⟨hask, (hslices 1 (2 ^ 64 - 1)).1, hpages 2 (by decide) 2 (by decide)⟩

end Paging

end Store

end TaskCluster
