/-!
# UTF-8 text in bytes

`decode?` reads bytes as UTF-8 and says where the first malformed sequence starts; `decodeLossy`
writes one replacement character for each malformed sequence, a sequence being the longest part
that could still have started a character.
-/

namespace TaskCluster.Text.Utf8

/-- What a lead byte promises: how many bytes follow, the range of the first of them, and the bits
that the lead byte itself carries. -/
structure Lead where
  tails : Nat
  low : UInt8
  high : UInt8
  bits : Nat
deriving DecidableEq, Repr

/-- The promise of a lead byte, none for a byte that starts no character. -/
def lead? (b : UInt8) : Option Lead :=
  let n := b.toNat
  if n < 0x80 then some ⟨0, 0x80, 0xBF, n⟩
  else if n < 0xC2 then none
  else if n < 0xE0 then some ⟨1, 0x80, 0xBF, n - 0xC0⟩
  else if n = 0xE0 then some ⟨2, 0xA0, 0xBF, 0⟩
  else if n = 0xED then some ⟨2, 0x80, 0x9F, 0xD⟩
  else if n < 0xF0 then some ⟨2, 0x80, 0xBF, n - 0xE0⟩
  else if n = 0xF0 then some ⟨3, 0x90, 0xBF, 0⟩
  else if n < 0xF4 then some ⟨3, 0x80, 0xBF, n - 0xF0⟩
  else if n = 0xF4 then some ⟨3, 0x80, 0x8F, 4⟩
  else none

/-- Reads `n` following bytes, the first between `low` and `high`; the rest starts with the first
byte that does not fit. -/
def readTails : Nat → UInt8 → UInt8 → Nat → List UInt8 → Option Nat × List UInt8
  | 0, _, _, bits, bytes => (some bits, bytes)
  | _ + 1, _, _, _, [] => (none, [])
  | n + 1, low, high, bits, b :: rest =>
    if low ≤ b ∧ b ≤ high then readTails n 0x80 0xBF (bits * 64 + b.toNat % 64) rest
    else (none, b :: rest)

theorem readTails_length_le (n : Nat) (low high : UInt8) (bits : Nat) (bytes : List UInt8) :
    (readTails n low high bits bytes).2.length ≤ bytes.length := by
  induction n generalizing low high bits bytes with
  | zero => simp [readTails]
  | succ n ih =>
    cases bytes with
    | nil => simp [readTails]
    | cons b rest =>
      simp only [readTails]
      split
      · exact Nat.le_succ_of_le (ih _ _ _ _)
      · simp

/-- One character from a lead byte and what follows, none for a malformed sequence; with the bytes
behind the character or behind the malformed sequence. -/
def readChar (b : UInt8) (rest : List UInt8) : Option Char × List UInt8 :=
  match lead? b with
  | none => (none, rest)
  | some l =>
    let (code, behind) := readTails l.tails l.low l.high l.bits rest
    (code.map Char.ofNat, behind)

theorem readChar_length_le (b : UInt8) (rest : List UInt8) :
    (readChar b rest).2.length ≤ rest.length := by
  unfold readChar
  split
  · simp
  · exact readTails_length_le _ _ _ _ _

/-- The characters of well-formed bytes, or how many bytes stand before the first malformed
sequence. -/
def decodeChars (bytes : List UInt8) (before : Nat) (done : List Char) :
    Except Nat (List Char) :=
  match bytes with
  | [] => .ok done.reverse
  | b :: rest =>
    match h : readChar b rest with
    | (none, _) => .error before
    | (some c, behind) =>
      decodeChars behind (before + (rest.length + 1 - behind.length)) (c :: done)
termination_by bytes.length
decreasing_by
  have := readChar_length_le b rest
  simp only [h] at this
  simp only [List.length_cons]
  omega

/-- The text of well-formed bytes, or how many bytes stand before the first malformed sequence. -/
def decode? (bytes : List UInt8) : Except Nat String :=
  match decodeChars bytes 0 [] with
  | .ok cs => .ok (String.ofList cs)
  | .error n => .error n

/-- The characters of the bytes, with U+FFFD for each malformed sequence. -/
def decodeLossyChars (bytes : List UInt8) (done : List Char) : List Char :=
  match bytes with
  | [] => done.reverse
  | b :: rest =>
    let next := readChar b rest
    decodeLossyChars next.2 (next.1.getD (Char.ofNat 0xFFFD) :: done)
termination_by bytes.length
decreasing_by
  have := readChar_length_le b rest
  simp only [List.length_cons]
  omega

/-- The text of the bytes, with U+FFFD for each malformed sequence. -/
def decodeLossy (bytes : List UInt8) : String := String.ofList (decodeLossyChars bytes [])

/-- The bytes of a text. -/
def encode (s : String) : List UInt8 := s.toUTF8.toList

end TaskCluster.Text.Utf8
