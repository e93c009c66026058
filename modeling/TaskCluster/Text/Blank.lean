/-!
# White space

Filters, ids and log lines are compared after white space is cut off their ends, and a text of
nothing but white space counts as no text. White space is the Unicode property `White_Space`, so a
no-break space or an ideographic space is cut and a zero width space is not.
-/

namespace TaskCluster.Text

/-- The characters with the Unicode property `White_Space`. -/
def isSpace (c : Char) : Bool :=
  let n := c.toNat
  (9 ≤ n && n ≤ 13) || n == 0x20 || n == 0x85 || n == 0xA0 || n == 0x1680 ||
    (0x2000 ≤ n && n ≤ 0x200A) || n == 0x2028 || n == 0x2029 || n == 0x202F || n == 0x205F ||
    n == 0x3000

/-- The text without the white space at its start. -/
def trimStart (cs : List Char) : List Char := cs.dropWhile isSpace

/-- The text without the white space at its end. -/
def trimEnd (cs : List Char) : List Char := (cs.reverse.dropWhile isSpace).reverse

/-- The text without the white space at both ends. -/
def trim (s : String) : String := String.ofList (trimEnd (trimStart s.toList))

/-- Is the text nothing but white space? -/
def isBlank (s : String) : Bool := s.toList.all isSpace

/-- ASCII letters in upper case; every other character stays. -/
def upper (s : String) : String := String.ofList (s.toList.map Char.toUpper)

/-! ### Small laws -/

theorem trimStart_eq_nil_iff {cs : List Char} : trimStart cs = [] ↔ cs.all isSpace = true := by
  induction cs with
  | nil => simp [trimStart]
  | cons c r ih =>
    by_cases h : isSpace c = true
    · rw [trimStart, List.dropWhile_cons_of_pos h, List.all_cons, h, Bool.true_and]
      exact ih
    · simp [trimStart, h]

end TaskCluster.Text
