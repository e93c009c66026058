import Mathlib
import TaskCluster.Text.Utf8

/-!
# What was encoded as UTF-8 decodes to what it was

The bytes of a text are those of its characters, one after the other (`encode_eq`). A character is
read back from its bytes whatever follows them (`readChar_encodeChar`); there is one case for each
number of bytes.
-/

namespace TaskCluster.Text.Utf8

/-! ### The bytes of a text -/

theorem toList_loop (bytes : ByteArray) (i : Nat) (done : List UInt8) :
    ByteArray.toList.loop bytes i done = done.reverse ++ bytes.data.toList.drop i := by
  induction i, done using ByteArray.toList.loop.induct bytes with
  | case1 i done hlt ih =>
    have hlength : i < bytes.data.toList.length := by simpa using hlt
    rw [ByteArray.toList.loop, if_pos hlt, ih, List.drop_eq_getElem_cons hlength]
    simp [ByteArray.get!, hlt]
  | case2 i done hge =>
    have hlength : bytes.data.toList.length ≤ i := by simpa using hge
    rw [ByteArray.toList.loop, if_neg hge, List.drop_of_length_le hlength, List.append_nil]

theorem toList_toByteArray (bytes : List UInt8) : bytes.toByteArray.toList = bytes := by
  rw [ByteArray.toList, toList_loop, List.toList_data_toByteArray]
  rfl

/-- The bytes of a text are those of its characters. -/
theorem encode_eq (s : String) : encode s = s.toList.flatMap String.utf8EncodeChar := by
  rw [encode, String.toUTF8, ← String.utf8Encode_toList, List.utf8Encode, toList_toByteArray]

@[simp] theorem encode_append (s t : String) : encode (s ++ t) = encode s ++ encode t := by
  simp only [encode_eq, String.toList_append, List.flatMap_append]

@[simp] theorem encode_ofList (cs : List Char) :
    encode (String.ofList cs) = cs.flatMap String.utf8EncodeChar := by
  rw [encode_eq, String.toList_ofList]

theorem encode_toString (c : Char) : encode c.toString = String.utf8EncodeChar c := by
  rw [encode_eq]
  simp

/-! ### Characters -/

theorem utf8EncodeChar_ascii {c : Char} (h : c.toNat < 128) :
    String.utf8EncodeChar c = [UInt8.ofNat c.toNat] := by
  have hle : c.val.toNat ≤ 127 := Nat.le_of_lt_succ h
  rw [String.utf8EncodeChar, if_pos hle]
  rfl

/-- A byte that follows a lead byte carries six bits. -/
theorem readTails_ofNat {n bits k : Nat} {low high : UInt8} {rest : List UInt8} (hk : k < 64)
    (hlow : low.toNat ≤ k + 128) (hhigh : k + 128 ≤ high.toNat) :
    readTails (n + 1) low high bits (UInt8.ofNat (k + 128) :: rest)
      = readTails n 0x80 0xBF (bits * 64 + k) rest := by
  have hbyte : (UInt8.ofNat (k + 128)).toNat = k + 128 := by
    rw [UInt8.toNat_ofNat']
    omega
  have hwithin : low ≤ UInt8.ofNat (k + 128) ∧ UInt8.ofNat (k + 128) ≤ high := by
    rw [UInt8.le_iff_toNat_le, UInt8.le_iff_toNat_le, hbyte]
    exact ⟨hlow, hhigh⟩
  rw [readTails, if_pos hwithin, hbyte]
  congr 1
  omega

theorem readTails_later {n bits k : Nat} {rest : List UInt8} (hk : k < 64) :
    readTails (n + 1) 0x80 0xBF bits (UInt8.ofNat (k + 128) :: rest)
      = readTails n 0x80 0xBF (bits * 64 + k) rest :=
  readTails_ofNat hk (Nat.le_add_left 128 k) (show k + 128 ≤ 191 by omega)

theorem lead?_one : ∀ k < 128, lead? (UInt8.ofNat k) = some ⟨0, 0x80, 0xBF, k⟩ := by decide

theorem lead?_two : ∀ k < 32, 2 ≤ k →
    lead? (UInt8.ofNat (k + 192)) = some ⟨1, 0x80, 0xBF, k⟩ := by decide

/-- Three bytes carry no code that two could, and no surrogate. -/
theorem lead?_three : ∀ k < 16, lead? (UInt8.ofNat (k + 224))
    = some ⟨2, if k = 0 then 0xA0 else 0x80, if k = 13 then 0x9F else 0xBF, k⟩ := by decide

/-- Four bytes carry no code that three could, and none above the greatest. -/
theorem lead?_four : ∀ k < 5, lead? (UInt8.ofNat (k + 240))
    = some ⟨3, if k = 0 then 0x90 else 0x80, if k = 4 then 0x8F else 0xBF, k⟩ := by decide

theorem readChar_of_lead {b : UInt8} {l : Lead} {bytes rest : List UInt8} {c : Char}
    (hlead : lead? b = some l)
    (htails : readTails l.tails l.low l.high l.bits bytes = (some c.toNat, rest)) :
    readChar b bytes = (some c, rest) := by
  simp only [readChar, hlead, htails, Option.map_some, Char.ofNat_toNat]

/-- **A character is read back from its bytes.** -/
theorem readChar_encodeChar (c : Char) (rest : List UInt8) :
    ∃ b bytes, String.utf8EncodeChar c = b :: bytes
      ∧ readChar b (bytes ++ rest) = (some c, rest) := by
  have hvalid : c.toNat < 0xD800 ∨ 0xDFFF < c.toNat ∧ c.toNat < 0x110000 := c.valid
  unfold String.utf8EncodeChar
  rw [show c.val.toNat = c.toNat from rfl]
  dsimp only
  split_ifs with hone htwo hthree
  · refine ⟨_, _, rfl, readChar_of_lead (lead?_one _ (by omega)) ?_⟩
    rfl
  · refine ⟨_, _, rfl, readChar_of_lead (lead?_two _ (by omega) (by omega)) ?_⟩
    simp only [List.cons_append, List.nil_append]
    rw [readTails_later (by omega), readTails]
    congr 2
    omega
  · have hlow : (if c.toNat / 4096 % 16 = 0 then 0xA0 else 0x80 : UInt8).toNat
        ≤ c.toNat / 64 % 64 + 128 := by
      split
      · show 0xA0 ≤ c.toNat / 64 % 64 + 128
        omega
      · exact Nat.le_add_left ..
    have hhigh : c.toNat / 64 % 64 + 128
        ≤ (if c.toNat / 4096 % 16 = 13 then 0x9F else 0xBF : UInt8).toNat := by
      split
      · show c.toNat / 64 % 64 + 128 ≤ 0x9F
        omega
      · show c.toNat / 64 % 64 + 128 ≤ 0xBF
        omega
    refine ⟨_, _, rfl, readChar_of_lead (lead?_three _ (by omega)) ?_⟩
    simp only [List.cons_append, List.nil_append]
    rw [readTails_ofNat (by omega) hlow hhigh, readTails_later (by omega), readTails]
    congr 2
    omega
  · have hlow : (if c.toNat / 262144 % 8 = 0 then 0x90 else 0x80 : UInt8).toNat
        ≤ c.toNat / 4096 % 64 + 128 := by
      split
      · show 0x90 ≤ c.toNat / 4096 % 64 + 128
        omega
      · exact Nat.le_add_left ..
    have hhigh : c.toNat / 4096 % 64 + 128
        ≤ (if c.toNat / 262144 % 8 = 4 then 0x8F else 0xBF : UInt8).toNat := by
      split
      · show c.toNat / 4096 % 64 + 128 ≤ 0x8F
        omega
      · show c.toNat / 4096 % 64 + 128 ≤ 0xBF
        omega
    refine ⟨_, _, rfl, readChar_of_lead (lead?_four _ (by omega)) ?_⟩
    simp only [List.cons_append, List.nil_append]
    rw [readTails_ofNat (by omega) hlow hhigh, readTails_later (by omega),
      readTails_later (by omega), readTails]
    congr 2
    omega

/-! ### Texts -/

theorem decodeChars_encodeChar (c : Char) (rest : List UInt8) (before : Nat) (done : List Char) :
    ∃ before', decodeChars (String.utf8EncodeChar c ++ rest) before done
      = decodeChars rest before' (c :: done) := by
  obtain ⟨b, bytes, heq, hread⟩ := readChar_encodeChar c rest
  rw [heq, List.cons_append, decodeChars]
  split
  · rename_i h
    rw [hread] at h
    cases h
  · rename_i h
    rw [hread] at h
    cases h
    exact ⟨_, rfl⟩

theorem decodeChars_flatMap (cs : List Char) (before : Nat) (done : List Char) :
    decodeChars (cs.flatMap String.utf8EncodeChar) before done = .ok (done.reverse ++ cs) := by
  induction cs generalizing before done with
  | nil => simp [decodeChars]
  | cons c cs ih =>
    obtain ⟨before', h⟩ := decodeChars_encodeChar c (cs.flatMap String.utf8EncodeChar) before done
    rw [List.flatMap_cons, h, ih]
    simp

/-- **A text is decoded from its bytes.** -/
theorem decode?_encode (s : String) : decode? (encode s) = .ok s := by
  rw [decode?, encode_eq, decodeChars_flatMap]
  simp

end TaskCluster.Text.Utf8
