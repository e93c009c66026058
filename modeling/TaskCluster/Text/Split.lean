/-!
# Splitting a text at a character

`split` cuts a list of characters at every occurrence of a mark, so that putting the mark between
the parts gives the list back. There is always a part more than there are marks.
-/

namespace TaskCluster.Text

/-- The parts between the marks. -/
def split (mark : Char) : List Char → List (List Char)
  | [] => [[]]
  | c :: rest =>
    if c = mark then [] :: split mark rest
    else
      match split mark rest with
      | [] => [[c]]
      | part :: parts => (c :: part) :: parts

/-- The parts of a text between the marks. -/
def splitOn (mark : Char) (s : String) : List String := (split mark s.toList).map String.ofList

theorem split_ne_nil (mark : Char) (cs : List Char) : split mark cs ≠ [] := by
  cases cs with
  | nil => simp [split]
  | cons c rest =>
    simp only [split]
    split
    · simp
    · split <;> simp

theorem intercalate_split (mark : Char) (cs : List Char) :
    [mark].intercalate (split mark cs) = cs := by
  induction cs with
  | nil => rfl
  | cons c rest ih =>
    simp only [split]
    split
    · rename_i h
      subst h
      cases hs : split c rest with
      | nil => exact absurd hs (split_ne_nil c rest)
      | cons part parts =>
        rw [hs] at ih
        simpa [List.intercalate, List.intersperse] using ih
    · cases hs : split mark rest with
      | nil => exact absurd hs (split_ne_nil mark rest)
      | cons part parts =>
        rw [hs] at ih
        cases parts with
        | nil => simpa [List.intercalate, List.intersperse] using ih
        | cons q qs => simpa [List.intercalate, List.intersperse] using ih

end TaskCluster.Text
