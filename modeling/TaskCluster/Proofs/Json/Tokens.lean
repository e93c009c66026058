import Mathlib
import TaskCluster.Json.Writer
import TaskCluster.Json.Reader
import TaskCluster.Proofs.Text.Utf8

/-!
# Strings and whole numbers read back

A string is read byte by byte into the bytes of its text, which are decoded at the end. So what was
written for each of its characters must be read as the bytes of the character
(`Reader.escapeChar_cases`), and the rest is induction.

A whole number is read digit by digit. It never grows beyond the number that was written, so no
digit is left over for a fraction or an exponent, and what stands behind it is none of a number
either (`Reader.Closes`).
-/

namespace TaskCluster.Json

open Text.Utf8 (encode encode_append encode_ofList encode_toString encode_eq)

namespace Reader

/-! ### Strings -/

/-- The bytes between the quotes of a string. -/
def escaped (cs : List Char) : List UInt8 := cs.flatMap fun c => encode (escapeChar c)

theorem encode_foldl_escapeChar (cs : List Char) (out : String) :
    encode (cs.foldl (fun out c => out ++ escapeChar c) out) = encode out ++ escaped cs := by
  induction cs generalizing out with
  | nil => simp [escaped]
  | cons c cs ih => simp [ih, escaped]

theorem encode_quoteString (s : String) :
    encode (quoteString s) = 34 :: (escaped s.toList ++ [34]) := by
  have hquote : encode "\"" = [34] := by decide +kernel
  have hempty : encode "" = [] := by decide +kernel
  simp [quoteString, encode_foldl_escapeChar, hquote, hempty]

theorem encode_controlEscape : ∀ n < 32, encode (controlEscape n)
    = [92, 117, 48, 48, UInt8.ofNat (Nat.digitChar (n / 16)).toNat,
      UInt8.ofNat (Nat.digitChar (n % 16)).toNat] := by decide +kernel

theorem hexDigit?_digitChar : ∀ k < 16,
    hexDigit? (UInt8.ofNat (Nat.digitChar k).toNat) = some k := by decide

/-- The code of a control character is read from its digits. -/
theorem codePoint_control {n : Nat} (hn : n < 32) (more : List UInt8) :
    codePoint (48 :: 48 :: UInt8.ofNat (Nat.digitChar (n / 16)).toNat
      :: UInt8.ofNat (Nat.digitChar (n % 16)).toNat :: more) = .ok (n, more) := by
  have hzero : hexDigit? 48 = some 0 := by decide
  have hvalue : ((0 * 16 + 0) * 16 + n / 16) * 16 + n % 16 = n := by omega
  have hdigits : fourDigits (48 :: 48 :: UInt8.ofNat (Nat.digitChar (n / 16)).toNat
      :: UInt8.ofNat (Nat.digitChar (n % 16)).toNat :: more) = .ok (n, more) := by
    simp only [fourDigits, hzero, hexDigit?_digitChar (n / 16) (by omega),
      hexDigit?_digitChar (n % 16) (by omega), hvalue]
  rw [codePoint, hdigits]
  show (if 0xDC00 ≤ n ∧ n ≤ 0xDFFF then _ else _) = _
  rw [if_neg (by omega), if_pos (by omega)]

theorem le_of_mem_utf8EncodeChar {c : Char} (h : 128 ≤ c.toNat) :
    ∀ b ∈ String.utf8EncodeChar c, 128 ≤ b.toNat := by
  have hvalue : c.val.toNat = c.toNat := rfl
  unfold String.utf8EncodeChar
  dsimp only
  rw [hvalue]
  split_ifs <;> simp <;> omega

/-- A byte that stands for itself in a string. -/
structure IsLiteral (b : UInt8) : Prop where
  not_quote : b ≠ 34
  not_backslash : b ≠ 92
  not_control : ¬ b < 32

theorem isLiteral_of_toNat {b : UInt8} (hquote : b.toNat ≠ 34) (hback : b.toNat ≠ 92)
    (hcontrol : 32 ≤ b.toNat) : IsLiteral b where
  not_quote := fun h => hquote (congrArg UInt8.toNat h)
  not_backslash := fun h => hback (congrArg UInt8.toNat h)
  not_control := fun h => Nat.not_lt.mpr hcontrol (UInt8.lt_iff_toNat_lt.mp h)

/-- A character that needs no escape is written with bytes that stand for themselves. -/
theorem isLiteral_utf8EncodeChar {c : Char} (hquote : c ≠ '"') (hback : c ≠ '\\')
    (hcontrol : ¬ c.toNat < 32) {b : UInt8} (hb : b ∈ String.utf8EncodeChar c) : IsLiteral b := by
  by_cases hascii : c.toNat < 128
  · rw [Text.Utf8.utf8EncodeChar_ascii hascii, List.mem_singleton] at hb
    have hbyte : b.toNat = c.toNat := by
      rw [hb, UInt8.toNat_ofNat']
      omega
    have hcode : ∀ n : Nat, c ≠ Char.ofNat n → b.toNat ≠ n := by
      intro n hne heq
      exact hne (by rw [← heq, hbyte, Char.ofNat_toNat])
    exact isLiteral_of_toNat (hcode 34 hquote) (hcode 92 hback) (by omega)
  · have hle := le_of_mem_utf8EncodeChar (Nat.le_of_not_lt hascii) b hb
    exact isLiteral_of_toNat (by omega) (by omega) (by omega)

theorem escape_hex {n : Nat} {rest more : List UInt8} (h : codePoint rest = .ok (n, more)) :
    escape (117 :: rest) = .ok (encode (Char.ofNat n).toString, more) := by
  rw [escape]
  simp only [h]
  rfl

/-- A character is written with an escape that is read as its bytes, or as it is. -/
theorem escapeChar_cases (c : Char) :
    (∃ e, encode (escapeChar c) = 92 :: e
        ∧ ∀ more, escape (e ++ more) = .ok (String.utf8EncodeChar c, more))
      ∨ encode (escapeChar c) = String.utf8EncodeChar c
        ∧ ∀ b ∈ String.utf8EncodeChar c, IsLiteral b := by
  unfold escapeChar
  split_ifs with hquote hback hline hreturn htab hbackspace hfeed hcontrol
  · subst hquote
    exact Or.inl ⟨[34], by decide +kernel, fun more => rfl⟩
  · subst hback
    exact Or.inl ⟨[92], by decide +kernel, fun more => rfl⟩
  · subst hline
    exact Or.inl ⟨[110], by decide +kernel, fun more => rfl⟩
  · subst hreturn
    exact Or.inl ⟨[114], by decide +kernel, fun more => rfl⟩
  · subst htab
    exact Or.inl ⟨[116], by decide +kernel, fun more => rfl⟩
  · obtain rfl : c = Char.ofNat 8 := by rw [← hbackspace, Char.ofNat_toNat]
    exact Or.inl ⟨[98], by decide +kernel, fun more => rfl⟩
  · obtain rfl : c = Char.ofNat 12 := by rw [← hfeed, Char.ofNat_toNat]
    exact Or.inl ⟨[102], by decide +kernel, fun more => rfl⟩
  · refine Or.inl ⟨_, encode_controlEscape c.toNat hcontrol, fun more => ?_⟩
    simp only [List.cons_append, List.nil_append]
    rw [escape_hex (codePoint_control hcontrol more), Char.ofNat_toNat, encode_toString]
  · exact Or.inr ⟨encode_toString c, fun b => isLiteral_utf8EncodeChar hquote hback hcontrol⟩

variable (start : List UInt8) {more : List UInt8}

theorem stringBody_escape {e rest bytes : List UInt8} (h : escape e = .ok (bytes, rest))
    (fuel : Nat) (decoded : List UInt8) :
    stringBody start (fuel + 1) decoded (92 :: e)
      = stringBody start fuel (bytes.reverse ++ decoded) rest := by
  rw [stringBody]
  simp only [h]
  rfl

theorem stringBody_literals {bytes : List UInt8} (h : ∀ b ∈ bytes, IsLiteral b) (fuel : Nat)
    (decoded : List UInt8) :
    stringBody start (fuel + bytes.length) decoded (bytes ++ more)
      = stringBody start fuel (bytes.reverse ++ decoded) more := by
  induction bytes generalizing decoded with
  | nil => rfl
  | cons b bytes ih =>
    obtain ⟨hb, hrest⟩ := List.forall_mem_cons.mp h
    rw [List.length_cons, ← Nat.add_assoc, List.cons_append, stringBody, if_neg hb.not_quote,
      if_neg hb.not_backslash, if_neg hb.not_control, ih hrest]
    simp

/-- What was written for some characters is read as their bytes. -/
theorem stringBody_escaped (cs : List Char) {fuel : Nat} (decoded : List UInt8)
    (hfuel : (escaped cs ++ more).length < fuel) :
    ∃ fuel', more.length < fuel' ∧ stringBody start fuel decoded (escaped cs ++ more)
      = stringBody start fuel' ((cs.flatMap String.utf8EncodeChar).reverse ++ decoded) more := by
  induction cs generalizing fuel decoded with
  | nil => exact ⟨fuel, hfuel, rfl⟩
  | cons c cs ih =>
    have hsplit : escaped (c :: cs) ++ more
        = encode (escapeChar c) ++ (escaped cs ++ more) := List.append_assoc ..
    rw [hsplit] at hfuel ⊢
    rw [List.length_append] at hfuel
    rw [List.flatMap_cons, List.reverse_append, List.append_assoc]
    rcases escapeChar_cases c with ⟨e, heq, hescape⟩ | ⟨heq, hliteral⟩
    · rw [heq, List.length_cons] at hfuel
      obtain ⟨fuel, rfl⟩ : ∃ n, fuel = n + 1 := ⟨fuel - 1, by omega⟩
      rw [heq, List.cons_append, stringBody_escape start (hescape _)]
      exact ih _ (by omega)
    · rw [heq] at hfuel ⊢
      obtain ⟨fuel, rfl⟩ : ∃ n, fuel = n + (String.utf8EncodeChar c).length :=
        ⟨fuel - (String.utf8EncodeChar c).length, by omega⟩
      rw [stringBody_literals start hliteral]
      exact ih _ (by omega)

/-- **A string reads back** from behind its opening quote on. -/
theorem stringTail_escaped (s : String) (rest : List UInt8) :
    stringTail (escaped s.toList ++ 34 :: rest) = .ok (s, rest) := by
  let start := escaped s.toList ++ 34 :: rest
  have hstart : start.length < start.length + 1 := Nat.lt_succ_self _
  obtain ⟨fuel, hfuel, hbody⟩ := stringBody_escaped start s.toList [] hstart
  rw [stringTail]
  obtain ⟨fuel, rfl⟩ : ∃ n, fuel = n + 1 := ⟨fuel - 1, by omega⟩
  rw [hbody, stringBody, if_pos rfl, List.append_nil, List.reverse_reverse, finishString,
    ← encode_eq, Text.Utf8.decode?_encode]

/-! ### Numbers -/

/-- The bytes that may follow a value: none, or those behind an item or a field. -/
def Closes (rest : List UInt8) : Prop := ∀ b ∈ rest.head?, b = 44 ∨ b = 93 ∨ b = 125

theorem Closes.digit?_eq_none {rest : List UInt8} (h : Closes rest) : digit? rest = none := by
  cases rest with
  | nil => rfl
  | cons b rest => rcases h b rfl with rfl | rfl | rfl <;> rfl

theorem digit?_cons (b : UInt8) (rest : List UInt8) :
    digit? (b :: rest) = if isDigit b then some (b.toNat - 48) else none := by
  simp [digit?, isDigit]

/-- The bytes of decimal digits. -/
def digitBytes (cs : List Char) : List UInt8 := cs.map fun c => UInt8.ofNat c.toNat

theorem toNat_of_isDigit {c : Char} (h : c.isDigit = true) : 48 ≤ c.toNat ∧ c.toNat ≤ 57 := by
  simpa [Char.isDigit, UInt32.le_iff_toNat_le] using h

theorem toNat_ofNat_of_isDigit {c : Char} (h : c.isDigit = true) :
    (UInt8.ofNat c.toNat).toNat = c.toNat := by
  have hrange := toNat_of_isDigit h
  rw [UInt8.toNat_ofNat']
  omega

theorem isDigit_ofNat {c : Char} (h : c.isDigit = true) :
    isDigit (UInt8.ofNat c.toNat) = true := by
  simpa [isDigit, UInt8.le_iff_toNat_le, toNat_ofNat_of_isDigit h] using toNat_of_isDigit h

theorem encode_repr (n : Nat) : encode (toString n) = digitBytes (Nat.toDigits 10 n) := by
  have htext : toString n = String.ofList (Nat.toDigits 10 n) := rfl
  rw [htext, encode_ofList, digitBytes, List.map_eq_flatMap]
  refine List.flatMap_congr fun c hc => ?_
  have hrange := toNat_of_isDigit (Nat.isDigit_of_mem_toDigits (by decide) (by decide) hc)
  exact Text.Utf8.utf8EncodeChar_ascii (by omega)

theorem le_ofDigitChars (cs : List Char) (n : Nat) : n ≤ Nat.ofDigitChars 10 cs n := by
  induction cs generalizing n with
  | nil => exact Nat.le_refl n
  | cons c cs ih =>
    rw [Nat.ofDigitChars_cons]
    exact Nat.le_trans (by omega) (ih _)

/-- Digits are read to their end as long as their number stays in the limit. -/
theorem digitsUpTo_digitBytes {limit : Nat} {cs : List Char} (hcs : ∀ c ∈ cs, c.isDigit = true)
    {n : Nat} (hle : Nat.ofDigitChars 10 cs n ≤ limit) {rest : List UInt8}
    (hrest : digit? rest = none) (count : Nat) :
    digitsUpTo limit n count (digitBytes cs ++ rest)
      = (Nat.ofDigitChars 10 cs n, count + cs.length, rest) := by
  induction cs generalizing n count with
  | nil =>
    cases rest with
    | nil => rfl
    | cons b rest =>
      have hdigit : isDigit b = false := by
        rw [digit?_cons] at hrest
        simpa using hrest
      simp [digitBytes, digitsUpTo, hdigit]
  | cons c cs ih =>
    obtain ⟨hc, hcs⟩ := List.forall_mem_cons.mp hcs
    have hzero : '0'.toNat = 48 := rfl
    rw [Nat.ofDigitChars_cons, Nat.mul_comm, hzero] at hle ⊢
    have hstep : n * 10 + (c.toNat - 48) ≤ limit := (le_ofDigitChars cs _).trans hle
    have hcons : digitBytes (c :: cs) = UInt8.ofNat c.toNat :: digitBytes cs := rfl
    rw [hcons, List.cons_append, digitsUpTo, isDigit_ofNat hc, toNat_ofNat_of_isDigit hc,
      Bool.true_and, if_pos (decide_eq_true hstep), ih hcs hle]
    simp [Nat.add_comm, Nat.add_left_comm]

/-- No number but zero starts with a zero. -/
theorem toDigits_eq_cons {n : Nat} (hn : 0 < n) :
    ∃ c cs, Nat.toDigits 10 n = c :: cs ∧ c.toNat ≠ 48 := by
  induction n using Nat.strongRecOn with
  | ind n ih =>
    rw [Nat.toDigits_eq_if (by decide)]
    split
    case isTrue hlt =>
      have hdigit : ∀ k < 10, 0 < k → (Nat.digitChar k).toNat ≠ 48 := by decide
      exact ⟨_, [], rfl, hdigit n hlt hn⟩
    case isFalse hge =>
      obtain ⟨c, cs, heq, hc⟩ := ih (n / 10) (by omega) (by omega)
      exact ⟨c, cs ++ [(n % 10).digitChar], by rw [heq]; rfl, hc⟩

/-- The digits of a number are read as the number. -/
theorem number_digitBytes (positive : Bool) {n : Nat} (hn : n ≤ maxWhole) {rest : List UInt8}
    (hrest : digit? rest = none) :
    number positive (digitBytes (Nat.toDigits 10 n) ++ rest) = afterWhole positive n rest := by
  rcases Nat.eq_zero_or_pos n with rfl | hpos
  · have hzero : digitBytes (Nat.toDigits 10 0) = [48] := by
      rw [Nat.toDigits_zero]
      rfl
    rw [hzero, List.singleton_append, number, if_pos rfl, hrest]
  · obtain ⟨c, cs, heq, hc⟩ := toDigits_eq_cons hpos
    have hdigits : ∀ d ∈ c :: cs, d.isDigit = true := by
      intro d hd
      rw [← heq] at hd
      exact Nat.isDigit_of_mem_toDigits (by decide) (by decide) hd
    obtain ⟨hfirst, hothers⟩ := List.forall_mem_cons.mp hdigits
    have hvalue : Nat.ofDigitChars 10 cs (c.toNat - 48) = n := by
      have hall : Nat.ofDigitChars 10 (c :: cs) 0 = n := by
        rw [← heq]
        exact Nat.ofDigitChars_ten_toDigits
      rwa [Nat.ofDigitChars_cons, Nat.mul_zero, Nat.zero_add] at hall
    have hnonzero : UInt8.ofNat c.toNat ≠ 48 := by
      intro hzero
      rw [← toNat_ofNat_of_isDigit hfirst, hzero] at hc
      exact hc rfl
    have hcons : digitBytes (c :: cs) = UInt8.ofNat c.toNat :: digitBytes cs := rfl
    rw [heq, hcons, List.cons_append, number, if_neg hnonzero, if_pos (isDigit_ofNat hfirst),
      toNat_ofNat_of_isDigit hfirst,
      digitsUpTo_digitBytes hothers (by rw [hvalue]; exact hn) hrest, hvalue]
    dsimp only
    rw [hrest]

theorem afterWhole_closes (positive : Bool) (n : Nat) {rest : List UInt8} (h : Closes rest) :
    afterWhole positive n rest = .ok
      (if positive then .int n
        else if n = 0 ∨ Nat.pow 2 63 < n then .float (-(Float.ofNat n))
        else .int (-(n : Int)), rest) := by
  cases rest with
  | nil => rfl
  | cons b rest => rcases h b rfl with rfl | rfl | rfl <;> rfl

end Reader

end TaskCluster.Json
