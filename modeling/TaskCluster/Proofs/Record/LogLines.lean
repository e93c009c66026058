import Mathlib
import TaskCluster.Record.Log

/-!
# What is left of the lines of a log

A log is cut after every line. The outcome is the same as if all lines were joined first and cut
once (`append_ofMessages`), because what a cut drops would be dropped by every later cut too
(`newest_newest_append`). Whether a line begins a line of its own depends on the log alone: it is
empty only before the first line, and the lines that are kept never are.
-/

namespace TaskCluster.Log

/-! ### The newest items -/

section Newest

variable {α : Type} {count : Nat}

theorem newest_of_length_le {l : List α} (h : l.length ≤ count) : newest count l = l := by
  rw [newest, Nat.sub_eq_zero_of_le h, List.drop_zero]

theorem newest_ne_nil {l : List α} (hcount : 0 < count) (h : l ≠ []) : newest count l ≠ [] := by
  have hlength := List.length_pos_iff.mpr h
  rw [newest, Ne, List.drop_eq_nil_iff]
  omega

/-- What a cut drops would be dropped by a later cut too. -/
theorem newest_newest_append (l k : List α) :
    newest count (newest count l ++ k) = newest count (l ++ k) := by
  have hdrop : newest count l ++ k = (l ++ k).drop (l.length - count) :=
    (List.drop_append_of_le_length (Nat.sub_le _ _)).symm
  have hcuts : l.length - count + ((newest count l ++ k).length - count)
      = (l ++ k).length - count := by
    simp only [newest, List.length_append, List.length_drop]
    omega
  calc newest count (newest count l ++ k)
      = ((l ++ k).drop (l.length - count)).drop ((newest count l ++ k).length - count) := by
        rw [← hdrop, newest]
    _ = newest count (l ++ k) := by rw [List.drop_drop, hcuts, newest]

end Newest

/-- The cut to the capacity. -/
theorem fit_eq (s : String) : fit s = String.ofList (newest capacity s.toList) := by
  unfold fit
  split
  case isTrue h =>
    rw [newest_of_length_le (String.length_toList.trans_le h), String.ofList_toList]
  case isFalse => rfl

/-! ### Lines -/

/-- A line that begins in another way is another line. -/
theorem append_ne_of_not_prefix {p t : String} (h : ¬ p.toList <+: t.toList) (x : String) :
    p ++ x ≠ t := by
  rintro rfl
  exact h (by simp)

/-- A line is as little blank as its beginning. -/
theorem isBlank_append {p : String} (h : Text.isBlank p = false) (x : String) :
    Text.isBlank (p ++ x) = false := by
  unfold Text.isBlank at h ⊢
  rw [String.toList_append, List.all_append, h, Bool.false_and]

/-- The lines among some messages: all that are not blank. -/
def lines (messages : List String) : List String := messages.filter fun m => !Text.isBlank m

/-- The log of a task for which some messages were accepted: the newest characters of their lines,
each on a line of its own, and nothing if there are no lines. -/
def ofMessages (messages : List String) : Option String :=
  if lines messages = [] then none
  else some (String.ofList (newest capacity ("\n".intercalate (lines messages)).toList))

/-- A line behind some others stands on a line of its own. -/
theorem toList_intercalate_concat {ls : List String} (h : ls ≠ []) (line : String) :
    ("\n".intercalate (ls ++ [line])).toList
      = ("\n".intercalate ls).toList ++ "\n".toList ++ line.toList := by
  simp only [String.toList_intercalate]
  induction ls with
  | nil => exact absurd rfl h
  | cons l ls ih =>
    cases ls with
    | nil => simp
    | cons l' ls =>
      have hrest := ih (List.cons_ne_nil l' ls)
      simp only [List.cons_append, List.map_cons, List.intercalate_cons_cons] at hrest ⊢
      rw [hrest]
      simp only [List.append_assoc]

theorem ne_empty_of_mem_lines {messages : List String} {line : String}
    (h : line ∈ lines messages) : line.toList ≠ [] := by
  intro hnil
  have hblank := (List.mem_filter.mp h).2
  simp [Text.isBlank, hnil] at hblank

/-- Lines do not join to nothing, so a log that is there is never empty. -/
theorem toList_intercalate_lines_ne_nil {messages : List String} (h : lines messages ≠ []) :
    ("\n".intercalate (lines messages)).toList ≠ [] := by
  rw [String.toList_intercalate]
  cases hlines : lines messages with
  | nil => exact absurd hlines h
  | cons line rest =>
    have hline : line.toList ≠ [] := ne_empty_of_mem_lines (hlines ▸ List.mem_cons_self)
    cases rest with
    | nil => simpa using hline
    | cons line' rest =>
      rw [List.map_cons, List.map_cons, List.intercalate_cons_cons]
      simp

/-- A log takes one message more as if all of them were joined anew. -/
theorem append_ofMessages (messages : List String) (message : String) :
    append (ofMessages messages) message = ofMessages (messages ++ [message]) := by
  unfold append
  split
  case isTrue hblank =>
    have hlines : lines (messages ++ [message]) = lines messages := by simp [lines, hblank]
    rw [ofMessages, ofMessages, hlines]
  case isFalse hline =>
    have hlines : lines (messages ++ [message]) = lines messages ++ [message] := by
      simp [lines, hline]
    have hnonempty : lines messages ++ [message] ≠ [] := by simp
    rw [fit_eq, ofMessages, ofMessages, hlines, if_neg hnonempty]
    by_cases hfirst : lines messages = []
    · rw [if_pos hfirst, hfirst, joined, List.nil_append, String.intercalate_singleton]
    · have hkept : newest capacity ("\n".intercalate (lines messages)).toList ≠ [] :=
        newest_ne_nil (by decide) (toList_intercalate_lines_ne_nil hfirst)
      rw [if_neg hfirst, joined, if_neg (by simpa using hkept)]
      simp only [String.toList_append, String.toList_ofList, List.append_assoc]
      rw [newest_newest_append, toList_intercalate_concat hfirst, List.append_assoc]

theorem append?_ofMessages (messages : List String) (message : Option String) :
    append? (ofMessages messages) message = ofMessages (messages ++ message.toList) := by
  cases message with
  | none => rw [append?, Option.toList_none, List.append_nil]
  | some message => exact append_ofMessages messages message

end TaskCluster.Log
