import Mathlib
import TaskCluster.Status

/-!
# Lists of statuses as text

A filter names statuses between commas. What stands between two commas is blank, or it names a
status in any ASCII letter case with white space around it, or it spoils the list. So the texts that
are read are those that can be written in that way, and each reads as the list that it writes
(`Status.Writes`, `Status.reads_written_lists`). Of the parts that spoil a list the first is
reported, as it stands there.

Reading cuts white space off and puts letters into upper case. This leaves a name of the parts that
are spelled with its letters, and of no others (`Status.names_iff_spells`), since no name
holds white space or a letter in lower case.
-/

namespace TaskCluster

namespace Text

/-! ### Parts between marks -/

section Split

variable (mark : Char)

theorem split_eq_splitOn (cs : List Char) : split mark cs = cs.splitOn mark := by
  induction cs with
  | nil => simp [split]
  | cons c rest ih =>
    obtain ⟨part, parts, hparts⟩ := List.exists_cons_of_ne_nil (split_ne_nil mark rest)
    rw [List.splitOn_cons_eq_if_modifyHead, ← ih, hparts, split, hparts]
    by_cases h : c = mark
    · simp [h]
    · simp [h]

theorem split_intercalate {parts : List (List Char)} (hparts : parts ≠ [])
    (h : ∀ part ∈ parts, mark ∉ part) : split mark ([mark].intercalate parts) = parts := by
  rw [split_eq_splitOn, List.splitOn_intercalate mark h hparts]

theorem not_mem_of_mem_split {cs part : List Char} (h : part ∈ split mark cs) : mark ∉ part := by
  induction cs generalizing part with
  | nil =>
    obtain rfl : part = [] := by simpa [split] using h
    simp
  | cons c rest ih =>
    rw [split] at h
    split at h
    case isTrue =>
      rcases List.mem_cons.mp h with rfl | hrest
      · simp
      · exact ih hrest
    case isFalse hne =>
      obtain ⟨first, parts, hparts⟩ := List.exists_cons_of_ne_nil (split_ne_nil mark rest)
      rw [hparts] at h ih
      rcases List.mem_cons.mp h with rfl | hrest
      · have hfirst : mark ∉ first := ih List.mem_cons_self
        simp [hfirst, Ne.symm hne]
      · exact ih (List.mem_cons_of_mem first hrest)

theorem intercalate_splitOn (s : String) :
    (String.singleton mark).intercalate (splitOn mark s) = s := by
  rw [← String.toList_inj, String.toList_intercalate, splitOn, List.map_map]
  have hparts : (split mark s.toList).map (String.toList ∘ String.ofList)
      = split mark s.toList := by
    simp [Function.comp_def]
  rw [hparts, String.toList_singleton]
  exact intercalate_split mark s.toList

theorem not_mem_of_mem_splitOn {s part : String} (h : part ∈ splitOn mark s) :
    mark ∉ part.toList := by
  obtain ⟨cs, hcs, rfl⟩ := List.mem_map.mp h
  rw [String.toList_ofList]
  exact not_mem_of_mem_split mark hcs

theorem splitOn_intercalate {parts : List String} (hparts : parts ≠ [])
    (h : ∀ part ∈ parts, mark ∉ part.toList) :
    splitOn mark ((String.singleton mark).intercalate parts) = parts := by
  have hapart : ∀ cs ∈ parts.map String.toList, mark ∉ cs := by simpa using h
  have hsome : parts.map String.toList ≠ [] := by simpa using hparts
  rw [splitOn, String.toList_intercalate, String.toList_singleton,
    split_intercalate mark hsome hapart, List.map_map]
  simp [Function.comp_def]

end Split

/-! ### White space -/

/-- Nothing but white space is cut. -/
theorem exists_trim (s : String) : ∃ front back, s.toList = front ++ (trim s).toList ++ back
    ∧ (∀ c ∈ front, isSpace c = true) ∧ ∀ c ∈ back, isSpace c = true := by
  have hfront := List.takeWhile_append_dropWhile (p := isSpace) (l := s.toList)
  have hback := List.takeWhile_append_dropWhile (p := isSpace) (l := (trimStart s.toList).reverse)
  have hkept : trimEnd (trimStart s.toList)
        ++ ((trimStart s.toList).reverse.takeWhile isSpace).reverse
      = trimStart s.toList := by
    rw [trimEnd, ← List.reverse_append, hback, List.reverse_reverse]
  refine ⟨s.toList.takeWhile isSpace, ((trimStart s.toList).reverse.takeWhile isSpace).reverse,
    ?_, ?_, ?_⟩
  · rw [trim, String.toList_ofList, List.append_assoc, hkept]
    exact hfront.symm
  · intro c hc
    exact List.mem_takeWhile_imp hc
  · intro c hc
    exact List.mem_takeWhile_imp (List.mem_reverse.mp hc)

/-- White space in front is cut up to the first letter. -/
theorem trimStart_append {front letters : List Char} (back : List Char)
    (hfront : ∀ c ∈ front, isSpace c = true) (hsome : letters ≠ [])
    (hletters : ∀ c ∈ letters, isSpace c = false) :
    trimStart (front ++ letters ++ back) = letters ++ back := by
  obtain ⟨c, rest, rfl⟩ := List.exists_cons_of_ne_nil hsome
  have hfirst : isSpace c = false := hletters c List.mem_cons_self
  rw [List.append_assoc, trimStart, List.dropWhile_append_of_pos hfront, List.cons_append,
    List.dropWhile_cons_of_neg (by simp [hfirst])]

/-- White space around letters is cut in full. -/
theorem trim_eq {s : String} {front letters back : List Char}
    (hs : s.toList = front ++ letters ++ back) (hfront : ∀ c ∈ front, isSpace c = true)
    (hback : ∀ c ∈ back, isSpace c = true) (hsome : letters ≠ [])
    (hletters : ∀ c ∈ letters, isSpace c = false) : trim s = String.ofList letters := by
  -- At the end the letters are met from behind.
  have hend : trimStart (back.reverse ++ letters.reverse ++ []) = letters.reverse ++ [] :=
    trimStart_append [] (by simpa using hback) (by simpa using hsome) (by simpa using hletters)
  have hreverse : (letters ++ back).reverse = back.reverse ++ letters.reverse ++ [] := by simp
  rw [trim, hs, trimStart_append back hfront hsome hletters, trimEnd, hreverse]
  rw [trimStart] at hend
  rw [hend, List.append_nil, List.reverse_reverse]

/-! ### Letter case -/

theorem toNat_toUpper (c : Char) :
    c.toUpper.toNat = if 97 ≤ c.toNat ∧ c.toNat ≤ 122 then c.toNat - 32 else c.toNat := by
  have hrange : 'a'.val ≤ c.val ∧ c.val ≤ 'z'.val ↔ 97 ≤ c.toNat ∧ c.toNat ≤ 122 := by
    simp [UInt32.le_iff_toNat_le]
  have hshift : ('A'.val - 'a'.val).toNat = 2 ^ 32 - 32 := by decide
  unfold Char.toUpper
  by_cases h : 97 ≤ c.toNat ∧ c.toNat ≤ 122
  · rw [dif_pos (hrange.mpr h), if_pos h, Char.toNat_mk, UInt32.toNat_add, Char.toNat_val, hshift]
    omega
  · rw [dif_neg (mt hrange.mp h), if_neg h]

theorem toNat_toLower (c : Char) :
    c.toLower.toNat = if 65 ≤ c.toNat ∧ c.toNat ≤ 90 then c.toNat + 32 else c.toNat := by
  have hrange : c.val ≥ 'A'.val ∧ c.val ≤ 'Z'.val ↔ 65 ≤ c.toNat ∧ c.toNat ≤ 90 := by
    simp [UInt32.le_iff_toNat_le]
  have hshift : ('a'.val - 'A'.val).toNat = 32 := by decide
  unfold Char.toLower
  by_cases h : 65 ≤ c.toNat ∧ c.toNat ≤ 90
  · rw [dif_pos (hrange.mpr h), if_pos h, Char.toNat_mk, UInt32.toNat_add, Char.toNat_val, hshift]
    omega
  · rw [dif_neg (mt hrange.mp h), if_neg h]

/-- A character is written for another, in either letter case that ASCII has for it. -/
def SameLetter (written c : Char) : Prop := written = c ∨ written = c.toLower

theorem toUpper_eq_iff {written c : Char} (hc : c.isLower = false) :
    written.toUpper = c ↔ SameLetter written c := by
  have hlower : ¬ (97 ≤ c.toNat ∧ c.toNat ≤ 122) := by
    simpa [Char.isLower, UInt32.le_iff_toNat_le] using hc
  rw [SameLetter, ← Char.toNat_inj, ← Char.toNat_inj, ← Char.toNat_inj, toNat_toUpper,
    toNat_toLower]
  split_ifs <;> omega

/-- A text in upper case comes of those that are written for it. -/
theorem map_toUpper_eq_iff {letters name : List Char} (h : ∀ c ∈ name, c.isLower = false) :
    letters.map Char.toUpper = name ↔ List.Forall₂ SameLetter letters name := by
  induction name generalizing letters with
  | nil => simp
  | cons c name ih =>
    obtain ⟨hc, hname⟩ := List.forall_mem_cons.mp h
    cases letters with
    | nil => simp
    | cons written letters =>
      rw [List.map_cons, List.cons.injEq, toUpper_eq_iff hc, ih hname, List.forall₂_cons]

end Text

namespace Status

/-! ### One name -/

/-- A part of a list spells a status: it is the name of the status in any ASCII letter case, with
white space around it. -/
def Spells (part : String) (status : Status) : Prop :=
  ∃ front letters back, part.toList = front ++ letters ++ back
    ∧ (∀ c ∈ front, Text.isSpace c = true) ∧ (∀ c ∈ back, Text.isSpace c = true)
    ∧ List.Forall₂ Text.SameLetter letters status.name.toList

theorem name_ne_nil (status : Status) : status.name.toList ≠ [] := by
  cases status <;> decide

/-- Names are written in capitals of ASCII and underscores. -/
theorem capital_of_mem_name (status : Status) :
    ∀ c ∈ status.name.toList, c.isUpper = true ∨ c = '_' := by
  cases status <;> simp [name]

theorem isLower_of_mem_name (status : Status) : ∀ c ∈ status.name.toList, c.isLower = false := by
  cases status <;> simp [name]

/-- So nothing that is written for a name is white space or a comma. -/
theorem plain_of_spelling {status : Status} {letters : List Char}
    (h : List.Forall₂ Text.SameLetter letters status.name.toList) :
    ∀ c ∈ letters, Text.isSpace c = false ∧ c ≠ ',' := by
  intro written hwritten
  obtain ⟨i, hi, rfl⟩ := List.mem_iff_getElem.mp hwritten
  have hi' : i < status.name.toList.length := h.length_eq ▸ hi
  have hsame : Text.SameLetter letters[i] status.name.toList[i] := h.get hi hi'
  have hcapital := status.capital_of_mem_name _ (List.getElem_mem hi')
  generalize letters[i] = written, status.name.toList[i] = c at hsame hcapital
  have hletter : 65 ≤ written.toNat ∧ written.toNat ≤ 90 ∨ 97 ≤ written.toNat ∧ written.toNat ≤ 122
      ∨ written.toNat = 95 := by
    rw [Text.SameLetter, ← Char.toNat_inj, ← Char.toNat_inj, Text.toNat_toLower] at hsame
    have hc : 65 ≤ c.toNat ∧ c.toNat ≤ 90 ∨ c.toNat = 95 := by
      simpa [Char.isUpper, UInt32.le_iff_toNat_le, ← Char.toNat_inj] using hcapital
    split_ifs at hsame <;> omega
  refine ⟨?_, ?_⟩
  · simp [Text.isSpace]
    omega
  · simp [← Char.toNat_inj]
    omega

/-- What is left of a part is the name of a status, once white space is cut off and the letters of
ASCII are in upper case. -/
def Names (part : String) (status : Status) : Prop :=
  Text.upper (Text.trim part) = status.name

instance (part : String) (status : Status) : Decidable (Names part status) :=
  inferInstanceAs (Decidable (_ = _))

/-- This is so of the parts that spell the status, and of no others. -/
theorem names_iff_spells {part : String} {status : Status} :
    Names part status ↔ Spells part status := by
  have hname := status.isLower_of_mem_name
  rw [Names, Text.upper, ← String.toList_inj, String.toList_ofList]
  constructor
  · intro h
    obtain ⟨front, back, hpart, hfront, hback⟩ := Text.exists_trim part
    exact ⟨front, _, back, hpart, hfront, hback, (Text.map_toUpper_eq_iff hname).mp h⟩
  · rintro ⟨front, letters, back, hpart, hfront, hback, hspelling⟩
    have hplain := plain_of_spelling hspelling
    have hsome : letters ≠ [] := by
      rintro rfl
      exact status.name_ne_nil (List.forall₂_nil_left_iff.mp hspelling)
    rw [Text.trim_eq hpart hfront hback hsome fun c hc => (hplain c hc).1, String.toList_ofList]
    exact (Text.map_toUpper_eq_iff hname).mpr hspelling

theorem ofName?_eq_some_iff {s : String} {status : Status} :
    ofName? s = some status ↔ s = status.name := by
  constructor
  · intro h
    rw [ofName?] at h
    have hname := List.find?_some h
    exact (beq_iff_eq.mp hname).symm
  · rintro rfl
    exact ofName?_name status

theorem parse_eq_ok_iff {part : String} {status : Status} :
    parse part = .ok status ↔ Spells part status := by
  rw [← names_iff_spells, Names, ← ofName?_eq_some_iff, parse]
  cases ofName? (Text.upper (Text.trim part)) <;> simp

/-- A part that names no status is reported as it stands. -/
theorem parse_eq_error_iff {part : String} {e : Unknown} :
    parse part = .error e ↔ (∀ status, ¬ Spells part status) ∧ e = ⟨part⟩ := by
  simp only [← names_iff_spells, Names, ← ofName?_eq_some_iff, parse]
  cases ofName? (Text.upper (Text.trim part)) <;> simp [eq_comm]

/-- A part with a name in it is not blank. -/
theorem Spells.isBlank {part : String} {status : Status} (h : Spells part status) :
    Text.isBlank part = false := by
  obtain ⟨front, letters, back, hpart, -, -, hspelling⟩ := h
  cases letters with
  | nil => exact absurd (List.forall₂_nil_left_iff.mp hspelling) status.name_ne_nil
  | cons c letters =>
    have hc := (plain_of_spelling hspelling c List.mem_cons_self).1
    simp [Text.isBlank, hpart, hc]

/-! ### The parts of a list -/

/-- Reads the parts of a list. -/
def parseParts (parts : List String) : Except Unknown (List Status) :=
  (parts.filter fun part => !Text.isBlank part).mapM parse

/-- Parts write a list of statuses: some are blank, and the others spell the statuses in order. -/
inductive Writes : List String → List Status → Prop
  | nil : Writes [] []
  | blank {part : String} {parts : List String} {statuses : List Status}
      (hpart : Text.isBlank part = true) (rest : Writes parts statuses) :
      Writes (part :: parts) statuses
  | name {part : String} {parts : List String} {status : Status} {statuses : List Status}
      (hpart : Spells part status) (rest : Writes parts statuses) :
      Writes (part :: parts) (status :: statuses)

/-- A part that spoils no list: it is blank or spells a status. -/
def Legible (part : String) : Prop := Text.isBlank part = true ∨ ∃ status, Spells part status

section Parts

variable {part : String} {parts : List String} {statuses : List Status}

theorem parseParts_cons_of_blank (h : Text.isBlank part = true) :
    parseParts (part :: parts) = parseParts parts := by
  simp [parseParts, h]

theorem parseParts_cons (h : Text.isBlank part = false) :
    parseParts (part :: parts)
      = do return (← parse part) :: (← parseParts parts) := by
  have hfilter : (part :: parts).filter (fun part => !Text.isBlank part)
      = part :: parts.filter fun part => !Text.isBlank part := by
    simp [h]
  rw [parseParts, hfilter, List.mapM_cons, parseParts]

theorem parseParts_cons_of_spells {status : Status} (h : Spells part status) :
    parseParts (part :: parts) = (parseParts parts).map (status :: ·) := by
  rw [parseParts_cons h.isBlank, parse_eq_ok_iff.mpr h]
  cases parseParts parts <;> rfl

theorem parseParts_cons_of_not_legible (h : ¬ Legible part) :
    parseParts (part :: parts) = .error ⟨part⟩ := by
  obtain ⟨hblank, hname⟩ := not_or.mp h
  have hparse : parse part = .error ⟨part⟩ := parse_eq_error_iff.mpr ⟨not_exists.mp hname, rfl⟩
  rw [parseParts_cons (Bool.eq_false_of_not_eq_true hblank), hparse]
  rfl

theorem parseParts_eq_ok_iff : parseParts parts = .ok statuses ↔ Writes parts statuses := by
  constructor
  · intro h
    induction parts generalizing statuses with
    | nil =>
      obtain rfl : [] = statuses := Except.ok.inj h
      exact .nil
    | cons part parts ih =>
      by_cases hlegible : Legible part
      · rcases hlegible with hblank | ⟨status, hspells⟩
        · rw [parseParts_cons_of_blank hblank] at h
          exact .blank hblank (ih h)
        · rw [parseParts_cons_of_spells hspells] at h
          cases hrest : parseParts parts with
          | error e => simp [hrest, Except.map] at h
          | ok rest =>
            obtain rfl : status :: rest = statuses := by simpa [hrest, Except.map] using h
            exact .name hspells (ih hrest)
      · simp [parseParts_cons_of_not_legible hlegible] at h
  · intro h
    induction h with
    | nil => rfl
    | blank hblank _ ih => rw [parseParts_cons_of_blank hblank, ih]
    | name hspells _ ih =>
      rw [parseParts_cons_of_spells hspells, ih]
      rfl

/-- The first part that is not legible is reported. -/
theorem parseParts_eq_error_iff {e : Unknown} :
    parseParts parts = .error e ↔ ∃ before part after, parts = before ++ part :: after
      ∧ (∀ part' ∈ before, Legible part') ∧ ¬ Legible part ∧ e = ⟨part⟩ := by
  induction parts with
  | nil => simp [parseParts, pure, Except.pure]
  | cons part parts ih =>
    by_cases hlegible : Legible part
    · have hskip : parseParts (part :: parts) = .error e ↔ parseParts parts = .error e := by
        rcases hlegible with hblank | ⟨status, hspells⟩
        · rw [parseParts_cons_of_blank hblank]
        · rw [parseParts_cons_of_spells hspells]
          cases parseParts parts <;> simp [Except.map]
      rw [hskip, ih]
      constructor
      · rintro ⟨before, bad, after, rfl, hbefore, hbad⟩
        exact ⟨part :: before, bad, after, rfl, List.forall_mem_cons.mpr ⟨hlegible, hbefore⟩, hbad⟩
      · rintro ⟨before, bad, after, hparts, hbefore, hbad, he⟩
        cases before with
        | nil =>
          obtain ⟨rfl, -⟩ := List.cons.inj hparts
          exact absurd hlegible hbad
        | cons first before =>
          obtain ⟨rfl, rfl⟩ := List.cons.inj hparts
          exact ⟨before, bad, after, rfl, (List.forall_mem_cons.mp hbefore).2, hbad, he⟩
    · rw [parseParts_cons_of_not_legible hlegible]
      constructor
      · intro h
        exact ⟨[], part, parts, rfl, by simp, hlegible, (Except.error.inj h).symm⟩
      · rintro ⟨before, bad, after, hparts, hbefore, -, rfl⟩
        cases before with
        | nil => rw [(List.cons.inj hparts).1]
        | cons first before =>
          obtain ⟨rfl, -⟩ := List.cons.inj hparts
          exact absurd (hbefore part List.mem_cons_self) hlegible

theorem exists_writes_iff : (∃ statuses, Writes parts statuses) ↔ ∀ part ∈ parts, Legible part := by
  constructor
  · rintro ⟨statuses, h⟩
    induction h with
    | nil => simp
    | blank hblank _ ih => exact List.forall_mem_cons.mpr ⟨.inl hblank, ih⟩
    | name hspells _ ih => exact List.forall_mem_cons.mpr ⟨.inr ⟨_, hspells⟩, ih⟩
  · intro h
    induction parts with
    | nil => exact ⟨[], .nil⟩
    | cons part parts ih =>
      obtain ⟨hpart, hparts⟩ := List.forall_mem_cons.mp h
      obtain ⟨statuses, hrest⟩ := ih hparts
      rcases hpart with hblank | ⟨status, hspells⟩
      · exact ⟨statuses, .blank hblank hrest⟩
      · exact ⟨status :: statuses, .name hspells hrest⟩

theorem writes_cons_of_blank (h : Text.isBlank part = true) :
    Writes (part :: parts) statuses ↔ Writes parts statuses := by
  constructor
  · intro hwrites
    cases hwrites with
    | blank _ hrest => exact hrest
    | name hspells _ => simp [hspells.isBlank] at h
  · exact .blank h

theorem writes_cons_of_not_blank (h : Text.isBlank part = false) :
    Writes (part :: parts) statuses
      ↔ ∃ status rest, Spells part status ∧ Writes parts rest ∧ statuses = status :: rest := by
  constructor
  · intro hwrites
    cases hwrites with
    | blank hblank _ => simp [hblank] at h
    | name hspells hrest => exact ⟨_, _, hspells, hrest, rfl⟩
  · rintro ⟨status, rest, hspells, hrest, rfl⟩
    exact .name hspells hrest

/-- The statuses are those that the parts that are not blank spell, in order. -/
theorem writes_iff_forall₂ : Writes parts statuses
    ↔ List.Forall₂ Spells (parts.filter fun part => !Text.isBlank part) statuses := by
  induction parts generalizing statuses with
  | nil =>
    rw [List.filter_nil, List.forall₂_nil_left_iff]
    constructor
    · intro h
      cases h
      rfl
    · rintro rfl
      exact .nil
  | cons part parts ih =>
    cases hblank : Text.isBlank part with
    | true => simp [writes_cons_of_blank hblank, hblank, ih]
    | false =>
      simp only [writes_cons_of_not_blank hblank, ih, List.filter_cons, hblank, Bool.not_false,
        if_true, List.forall₂_cons_left_iff]

/-- Parts that write a list can stand between commas. -/
theorem Writes.comma_notMem (h : Writes parts statuses) : ∀ part ∈ parts, ',' ∉ part.toList := by
  have hspace : ∀ {cs : List Char}, (∀ c ∈ cs, Text.isSpace c = true) → ',' ∉ cs := by
    intro cs hcs hmem
    exact absurd (hcs _ hmem) (by decide)
  induction h with
  | nil => simp
  | blank hblank _ ih =>
    refine List.forall_mem_cons.mpr ⟨hspace ?_, ih⟩
    simpa [Text.isBlank] using hblank
  | name hspells _ ih =>
    obtain ⟨front, letters, back, hpart, hfront, hback, hspelling⟩ := hspells
    have hletters : ',' ∉ letters := fun hmem => (plain_of_spelling hspelling _ hmem).2 rfl
    refine List.forall_mem_cons.mpr ⟨?_, ih⟩
    simp [hpart, hspace hfront, hspace hback, hletters]

end Parts

/-! ### The list -/

theorem parseList_eq (s : String) : parseList s = parseParts (Text.splitOn ',' s) := rfl

/-- A text reads as a list exactly if it is written for it. -/
theorem parseList_eq_ok_iff {s : String} {statuses : List Status} :
    parseList s = .ok statuses
      ↔ ∃ parts, Writes parts statuses ∧ s = ",".intercalate parts := by
  rw [parseList_eq, parseParts_eq_ok_iff]
  constructor
  · intro h
    exact ⟨_, h, (Text.intercalate_splitOn ',' s).symm⟩
  · rintro ⟨parts, h, rfl⟩
    cases parts with
    | nil =>
      -- No part at all is written like a single empty one.
      obtain rfl : statuses = [] := by
        cases h
        rfl
      exact .blank (by decide) .nil
    | cons part parts =>
      have hsplit := Text.splitOn_intercalate ',' (List.cons_ne_nil part parts) h.comma_notMem
      rwa [← hsplit] at h

theorem Unknown.eq_iff_message {e : Unknown} {part : String} :
    e = ⟨part⟩ ↔ e.message = "Unknown task status: " ++ part := by
  obtain ⟨text⟩ := e
  have hcut : "Unknown task status: " ++ text = "Unknown task status: " ++ part ↔ text = part :=
    String.append_right_inj _
  rw [Unknown.mk.injEq]
  exact hcut.symm

/-- **Lists of statuses.** The parts of a text are what its commas separate. It reads as a list
exactly if every part that is not blank is the name of a status, once white space is cut off and
ASCII letters are in upper case, and then the list holds these statuses in order. Otherwise the
first other part is reported as it stands. So whatever is written for a list, in any letter case,
with any white space and any blank parts, reads as that list, and nothing else does. -/
theorem reads_written_lists (s : String) :
    (",".intercalate (Text.splitOn ',' s) = s ∧ ∀ part ∈ Text.splitOn ',' s, ',' ∉ part.toList)
      ∧ ((∃ statuses, parseList s = .ok statuses)
        ↔ ∀ part ∈ Text.splitOn ',' s, Text.isBlank part = false → ∃ status, Names part status)
      ∧ (∀ statuses, parseList s = .ok statuses
        ↔ List.Forall₂ Names ((Text.splitOn ',' s).filter fun part => !Text.isBlank part) statuses)
      ∧ (∀ e, parseList s = .error e
        ↔ ∃ before part after, Text.splitOn ',' s = before ++ part :: after
          ∧ (∀ part' ∈ before, Text.isBlank part' = false → ∃ status, Names part' status)
          ∧ Text.isBlank part = false ∧ (∀ status, ¬ Names part status)
          ∧ e.message = "Unknown task status: " ++ part)
      ∧ ∀ statuses, parseList s = .ok statuses
        ↔ ∃ parts, Writes parts statuses ∧ s = ",".intercalate parts := by
  have hnames : Names = Spells := by
    funext part status
    exact propext names_iff_spells
  have hlegible : ∀ part, Legible part
      ↔ (Text.isBlank part = false → ∃ status, Names part status) := by
    intro part
    rw [Legible, hnames]
    cases Text.isBlank part <;> simp
  have hapart : ∀ part ∈ Text.splitOn ',' s, ',' ∉ part.toList :=
    fun _ => Text.not_mem_of_mem_splitOn ','
  refine ⟨⟨Text.intercalate_splitOn ',' s, hapart⟩, ?_, ?_, ?_, fun _ => parseList_eq_ok_iff⟩
  · simp only [parseList_eq, parseParts_eq_ok_iff, exists_writes_iff, hlegible]
  · intro statuses
    rw [parseList_eq, parseParts_eq_ok_iff, writes_iff_forall₂, hnames]
  · intro e
    rw [parseList_eq, parseParts_eq_error_iff]
    simp only [hlegible, Unknown.eq_iff_message, Classical.not_imp, not_exists, and_assoc]

/-- A blank part stands between two names. A dotless i is no letter of ASCII, so the second part of
the other list names no status. -/
theorem reads_written_lists_near_miss :
    parseList " new,\t,Finished_Ok " = .ok [.new, .finishedOk]
      ∧ parseList "new, runnıng,DONE" = .error ⟨" runnıng"⟩ := by
  obtain ⟨-, -, hread, -⟩ := reads_written_lists " new,\t,Finished_Ok "
  obtain ⟨-, -, -, hrefused, -⟩ := reads_written_lists "new, runnıng,DONE"
  refine ⟨(hread _).mpr (by decide), (hrefused _).mpr ⟨["new"], " runnıng", ["DONE"], ?_⟩⟩
  refine ⟨by decide, ?_, by decide, ?_, rfl⟩
  · intro part hpart _
    obtain rfl : part = "new" := by simpa using hpart
    exact ⟨.new, by decide⟩
  · intro status
    cases status <;> decide

end Status

end TaskCluster
