import Mathlib
import TaskCluster.Store.Row

/-!
# The order of records and of rows

A memory sorts its records by their time of creation and filters what comes out; a database filters
its rows first and sorts the cells. Both sort in a stable way, so the order of the two steps does
not matter (`filter_mergeSort`), and what is level keeps its order (`pair_sublist_of_mergeSort`).
Cells of every kind can be compared, and those of clock readings stand in the order of the readings
(`le_ofTime`).
-/

namespace TaskCluster

/-! ### Stable sorting -/

section StableSort

variable {α : Type} {le : α → α → Bool}

/-- A list is cut in one way only into a part where `q` holds and a part where it fails. -/
theorem append_inj_of_forall {q : α → Bool} {l₁ l₂ k₁ k₂ : List α} (h : l₁ ++ l₂ = k₁ ++ k₂)
    (hl₁ : ∀ a ∈ l₁, q a = true) (hl₂ : ∀ a ∈ l₂, q a = false)
    (hk₁ : ∀ a ∈ k₁, q a = true) (hk₂ : ∀ a ∈ k₂, q a = false) : l₁ = k₁ ∧ l₂ = k₂ := by
  have hcut : ∀ l k : List α, (∀ a ∈ l, q a = true) → (∀ a ∈ k, q a = false) →
      (l ++ k).filter q = l := by
    intro l k hl hk
    have hk' : ∀ a ∈ k, ¬ q a = true := fun a ha => by simp [hk a ha]
    rw [List.filter_append, List.filter_eq_self.mpr hl, List.filter_eq_nil_iff.mpr hk',
      List.append_nil]
  have hfirst : l₁ = k₁ := by
    rw [← hcut l₁ l₂ hl₁ hl₂, h, hcut k₁ k₂ hk₁ hk₂]
  subst hfirst
  exact ⟨rfl, List.append_cancel_left h⟩

/-- Filtering commutes with a stable sort. -/
theorem filter_mergeSort (trans : ∀ a b c, le a b → le b c → le a c)
    (total : ∀ a b, le a b || le b a) (p : α → Bool) (l : List α) :
    (l.mergeSort le).filter p = (l.filter p).mergeSort le := by
  induction l with
  | nil => simp
  | cons a l ih =>
    obtain ⟨l₁, l₂, hcons, htail, hl₁⟩ := List.mergeSort_cons trans total a l
    rw [hcons, List.filter_append, List.filter_cons, List.filter_cons]
    rw [htail, List.filter_append] at ih
    by_cases ha : p a = true
    · rw [if_pos ha, if_pos ha]
      obtain ⟨k₁, k₂, hcons', htail', hk₁⟩ := List.mergeSort_cons trans total a (l.filter p)
      have hsorted := List.pairwise_mergeSort trans total (a :: l)
      have hsorted' := List.pairwise_mergeSort trans total (a :: l.filter p)
      rw [hcons] at hsorted
      rw [hcons'] at hsorted'
      -- What stands before the new element is not above it, what stands behind is.
      have hl₂ := (List.pairwise_cons.mp (List.pairwise_append.mp hsorted).2.1).1
      have hk₂ := (List.pairwise_cons.mp (List.pairwise_append.mp hsorted').2.1).1
      rw [← ih] at htail'
      obtain ⟨h₁, h₂⟩ := append_inj_of_forall (q := fun b => !le a b) htail'
        (fun b hb => hl₁ b (List.mem_filter.mp hb).1)
        (fun b hb => by simp [hl₂ b (List.mem_filter.mp hb).1])
        hk₁ (fun b hb => by simp [hk₂ b hb])
      rw [hcons', h₁, h₂]
    · rw [if_neg ha, if_neg ha]
      exact ih

/-! Two members of a list without duplicates stand in it in one order. -/

theorem pair_sublist_or {a b : α} {l : List α} (ha : a ∈ l) (hb : b ∈ l) (hne : a ≠ b) :
    [a, b].Sublist l ∨ [b, a].Sublist l := by
  induction l with
  | nil => cases ha
  | cons x l ih =>
    rcases List.mem_cons.mp ha with rfl | ha'
    · have hb' := (List.mem_cons.mp hb).resolve_left hne.symm
      exact Or.inl (.cons_cons a (List.singleton_sublist.mpr hb'))
    rcases List.mem_cons.mp hb with rfl | hb'
    · exact Or.inr (.cons_cons b (List.singleton_sublist.mpr ha'))
    · exact (ih ha' hb').imp (.cons x) (.cons x)

theorem pair_sublist_asymm {a b : α} {l : List α} (h : l.Nodup) (hab : [a, b].Sublist l) :
    ¬ [b, a].Sublist l := by
  intro hba
  induction l with
  | nil => cases hab
  | cons x l ih =>
    obtain ⟨hx, hl⟩ := List.nodup_cons.mp h
    cases hab with
    | cons _ hab =>
      cases hba with
      | cons _ hba => exact ih hl hab hba
      | cons_cons _ ha => exact hx (hab.subset (by simp))
    | cons_cons _ hb =>
      cases hba with
      | cons _ hba => exact hx (hba.subset (by simp))
      | cons_cons _ ha => exact hx (ha.subset (by simp))

/-- What stands before another member after a stable sort is below it, or level with it and before
it already. -/
theorem pair_sublist_of_mergeSort (trans : ∀ a b c, le a b → le b c → le a c)
    (total : ∀ a b, le a b || le b a) {a b : α} {l : List α} (hl : l.Nodup)
    (h : [a, b].Sublist (l.mergeSort le)) :
    le a b = true ∧ (le b a = true → [a, b].Sublist l) := by
  have hsorted := (List.pairwise_mergeSort trans total l).sublist h
  have hnodup : (l.mergeSort le).Nodup := (List.mergeSort_perm l le).nodup_iff.mpr hl
  have hne : a ≠ b := by simpa using hnodup.sublist h
  refine ⟨List.rel_of_pairwise_cons hsorted (by simp), ?_⟩
  intro hback
  have hmem : ∀ x ∈ [a, b], x ∈ l := fun x hx =>
    (List.mergeSort_perm l le).mem_iff.mp (h.subset hx)
  rcases pair_sublist_or (hmem a (by simp)) (hmem b (by simp)) hne with hab | hba
  · exact hab
  -- A stable sort would have kept the other order.
  · exact absurd (List.pair_sublist_mergeSort trans total hback hba) (pair_sublist_asymm hnodup h)

end StableSort

/-! ### Cells -/

namespace Cell

/-- Numbers of both kinds are compared on one scale. -/
theorem le_of_scaled {a b : Int} {n : Nat}
    (h : a * (Nat.pow 2 n : Nat) ≤ b * (Nat.pow 2 n : Nat)) : a ≤ b :=
  Int.le_of_mul_le_mul_right h (Int.natCast_pos.mpr (Nat.pow_pos (by decide)))

theorem le_trans (a b c : Cell) (hab : a.le b = true) (hbc : b.le c = true) : a.le c = true := by
  cases a <;> cases b <;> cases c
  case int.int.int =>
    have hle := Int64.le_trans (of_decide_eq_true hab) (of_decide_eq_true hbc)
    exact decide_eq_true hle
  case int.int.real =>
    have hle := Int64.le_iff_toInt_le.mp (of_decide_eq_true hab)
    exact decide_eq_true
      ((Int.mul_le_mul_of_nonneg_right hle (Int.natCast_nonneg _)).trans (of_decide_eq_true hbc))
  case int.real.int =>
    have hle := le_of_scaled ((of_decide_eq_true hab).trans (of_decide_eq_true hbc))
    exact decide_eq_true (Int64.le_iff_toInt_le.mpr hle)
  case real.int.int =>
    have hle := Int64.le_iff_toInt_le.mp (of_decide_eq_true hbc)
    exact decide_eq_true
      ((of_decide_eq_true hab).trans (Int.mul_le_mul_of_nonneg_right hle (Int.natCast_nonneg _)))
  case int.real.real => exact decide_eq_true ((of_decide_eq_true hab).trans (of_decide_eq_true hbc))
  case real.int.real => exact decide_eq_true ((of_decide_eq_true hab).trans (of_decide_eq_true hbc))
  case real.real.int => exact decide_eq_true ((of_decide_eq_true hab).trans (of_decide_eq_true hbc))
  case real.real.real =>
    exact decide_eq_true ((of_decide_eq_true hab).trans (of_decide_eq_true hbc))
  case text.text.text =>
    exact decide_eq_true (String.le_trans (of_decide_eq_true hab) (of_decide_eq_true hbc))
  -- Cells of different kinds stand in the order of the kinds.
  all_goals first
    | rfl
    | cases hbc; done
    | cases hab

theorem le_total (a b : Cell) : (a.le b || b.le a) = true := by
  rw [Bool.or_eq_true]
  cases a <;> cases b <;>
    simp only [le, decide_eq_true_eq, Int64.le_iff_toInt_le, Bool.false_eq_true, or_true, true_or]
  case text.text => exact String.le_total _ _
  all_goals exact Int.le_total _ _

end Cell

/-! ### Times in cells -/

namespace Instant

theorem le_iff {a b : Instant} :
    a.le b = true ↔ a.seconds < b.seconds ∨ a.seconds = b.seconds ∧ a.nanos ≤ b.nanos := by
  simp [le]

theorem le_trans (a b c : Instant) (hab : a.le b = true) (hbc : b.le c = true) :
    a.le c = true := by
  rw [le_iff] at *
  omega

theorem eq_of_le_of_le {a b : Instant} (hab : a.le b = true) (hba : b.le a = true) : a = b := by
  rw [le_iff] at hab hba
  obtain ⟨hseconds, hnanos⟩ : a.seconds = b.seconds ∧ a.nanos = b.nanos := by omega
  cases a
  cases b
  cases hseconds
  cases hnanos
  rfl

theorem le_total (a b : Instant) : (a.le b || b.le a) = true := by
  rw [Bool.or_eq_true, le_iff, le_iff]
  omega

end Instant

namespace ClockTime

/-- The milliseconds of the calendar fit into 64 bits. -/
theorem toInt_ofInt_millis (t : ClockTime) : (Int64.ofInt t.millis).toInt = t.millis := by
  have hmin := t.min_le
  have hmax := t.le_max
  simp only [minSecond, maxSecond] at hmin hmax
  exact Int64.toInt_ofInt_of_le (by omega) (by omega)

theorem toInstant_le_iff (a b : ClockTime) :
    a.toInstant.le b.toInstant = true ↔ a.millis ≤ b.millis := by
  rw [Instant.le_iff]
  simp only [toInstant, nanosPerMilli]
  omega

end ClockTime

/-- Cells of clock readings stand in the order of the readings. -/
theorem Cell.le_ofTime (a b : ClockTime) :
    (Cell.ofTime a.toInstant).le (Cell.ofTime b.toInstant) = a.toInstant.le b.toInstant := by
  rw [Bool.eq_iff_iff, ClockTime.toInstant_le_iff]
  simp only [Cell.ofTime, Cell.le, ClockTime.millis_toInstant, decide_eq_true_eq]
  rw [Int64.le_iff_toInt_le, a.toInt_ofInt_millis, b.toInt_ofInt_millis]

end TaskCluster
