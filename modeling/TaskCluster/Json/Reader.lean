import TaskCluster.Json.Error
import TaskCluster.Text.Utf8

/-!
# Reading JSON

A reader takes the bytes that are still unread and answers a result with the bytes behind it, or
stops. A stop remembers how many bytes lay behind the place of the error, so the place is known
without counting on the way. Nesting is limited, and the limit is what the recursion of `value` is
on; loops over items and fields are bounded by the number of unread bytes.
-/

namespace TaskCluster.Json

/-- Why reading stopped, and how many bytes lay behind the place of the error. -/
structure Stop where
  cause : Cause
  left : Nat

/-- A reader of one thing. -/
abbrev Reader (α : Type) := List UInt8 → Except Stop (α × List UInt8)

namespace Reader

variable {α : Type}

/-- Stops behind the last byte read. -/
def stopHere (cause : Cause) (rest : List UInt8) : Except Stop α :=
  .error ⟨cause, rest.length⟩

/-- Stops at the next byte, which counts as read if there is one. -/
def stopAtNext (cause : Cause) (rest : List UInt8) : Except Stop α :=
  .error ⟨cause, rest.length - 1⟩

/-! ### Blanks and words -/

/-- The bytes that may stand between tokens. -/
def isBlankByte (b : UInt8) : Bool := b == 32 || b == 10 || b == 9 || b == 13

/-- The bytes from the next token on. -/
def skipBlanks (bytes : List UInt8) : List UInt8 := bytes.dropWhile isBlankByte

/-- Reads the given bytes. -/
def word : List UInt8 → List UInt8 → Except Stop (List UInt8)
  | [], rest => .ok rest
  | _ :: _, [] => stopHere .eofInValue []
  | w :: ws, b :: rest => if w = b then word ws rest else stopHere .expectedIdent rest

/-- The rest of `null` behind its first letter, and so on. -/
def nullTail : List UInt8 := [117, 108, 108]
def trueTail : List UInt8 := [114, 117, 101]
def falseTail : List UInt8 := [97, 108, 115, 101]

/-! ### Strings -/

/-- The value of a hexadecimal digit. -/
def hexDigit? (b : UInt8) : Option Nat :=
  let n := b.toNat
  if 48 ≤ n ∧ n ≤ 57 then some (n - 48)
  else if 65 ≤ n ∧ n ≤ 70 then some (n - 55)
  else if 97 ≤ n ∧ n ≤ 102 then some (n - 87)
  else none

/-- Four hexadecimal digits. -/
def fourDigits : Reader Nat
  | a :: b :: c :: d :: rest =>
    match hexDigit? a, hexDigit? b, hexDigit? c, hexDigit? d with
    | some w, some x, some y, some z => .ok (((w * 16 + x) * 16 + y) * 16 + z, rest)
    | _, _, _, _ => stopHere .invalidEscape rest
  | _ => stopHere .eofInString []

/-- The second half of a pair of surrogates. -/
def trailingSurrogate (lead : Nat) : Reader Nat
  | [] => stopHere .eofInString []
  | b :: rest =>
    if b ≠ 92 then stopHere .unexpectedEndOfHexEscape rest
    else
      match rest with
      | [] => stopHere .eofInString []
      | u :: rest =>
        if u ≠ 117 then stopHere .unexpectedEndOfHexEscape rest
        else do
          let (trail, rest) ← fourDigits rest
          if trail < 0xDC00 ∨ 0xDFFF < trail then stopHere .loneSurrogate rest
          else .ok ((lead - 0xD800) * 1024 + (trail - 0xDC00) + 0x10000, rest)

/-- The code point of an escape with hexadecimal digits, from the first digit on. -/
def codePoint : Reader Nat := fun bytes => do
  let (n, rest) ← fourDigits bytes
  if 0xDC00 ≤ n ∧ n ≤ 0xDFFF then stopHere .loneSurrogate rest
  else if n < 0xD800 ∨ 0xDBFF < n then .ok (n, rest)
  else trailingSurrogate n rest

/-- The bytes that an escape stands for, from behind the backslash on. -/
def escape : Reader (List UInt8)
  | [] => stopHere .eofInString []
  | b :: rest =>
    if b = 34 ∨ b = 92 ∨ b = 47 then .ok ([b], rest)
    else if b = 98 then .ok ([8], rest)
    else if b = 102 then .ok ([12], rest)
    else if b = 110 then .ok ([10], rest)
    else if b = 114 then .ok ([13], rest)
    else if b = 116 then .ok ([9], rest)
    else if b = 117 then do
      let (n, rest) ← codePoint rest
      .ok (Text.Utf8.encode (Char.ofNat n).toString, rest)
    else stopHere .invalidEscape rest

/-- The text of decoded bytes; malformed bytes stop at the first of them, which is looked for in the
bytes as they were written. -/
def finishString (start : List UInt8) (decoded : List UInt8) (rest : List UInt8) :
    Except Stop (String × List UInt8) :=
  match Text.Utf8.decode? decoded with
  | .ok s => .ok (s, rest)
  | .error _ =>
    let written := start.take (start.length - rest.length - 1)
    let before := match Text.Utf8.decode? written with
      | .ok _ => 0
      | .error n => n
    .error ⟨.invalidCodePoint, start.length - before - 1⟩

/-- The string from behind its opening quote. `decoded` is what was read of it, last byte first. -/
def stringBody (start : List UInt8) :
    Nat → List UInt8 → List UInt8 → Except Stop (String × List UInt8)
  | 0, _, _ => stopHere .eofInString []
  | _ + 1, _, [] => stopHere .eofInString []
  | fuel + 1, decoded, b :: rest =>
    if b = 34 then finishString start decoded.reverse rest
    else if b = 92 then do
      let (bytes, rest) ← escape rest
      stringBody start fuel (bytes.reverse ++ decoded) rest
    else if b < 32 then stopHere .controlCharacter rest
    else stringBody start fuel (b :: decoded) rest

/-- A string from behind its opening quote. -/
def stringTail : Reader String := fun bytes => stringBody bytes (bytes.length + 1) [] bytes

/-! ### Numbers -/

/-- The value of a decimal digit. -/
def digit? : List UInt8 → Option Nat
  | [] => none
  | b :: _ => if 48 ≤ b ∧ b ≤ 57 then some (b.toNat - 48) else none

/-- Is the byte a decimal digit? -/
def isDigit (b : UInt8) : Bool := 48 ≤ b && b ≤ 57

/-- The greatest whole number that is kept exactly. -/
def maxWhole : Nat := UInt64.size - 1

/-- The greatest size of an exponent. -/
def maxExponent : Nat := Nat.pow 2 31 - 1

/-- Digits behind what was read so far, as long as the number stays at most `limit`; with how many
digits were read. -/
def digitsUpTo (limit : Nat) : Nat → Nat → List UInt8 → Nat × Nat × List UInt8
  | n, count, [] => (n, count, [])
  | n, count, b :: rest =>
    if isDigit b && n * 10 + (b.toNat - 48) ≤ limit then
      digitsUpTo limit (n * 10 + (b.toNat - 48)) (count + 1) rest
    else (n, count, b :: rest)

/-- A number with a sign before it. -/
def signed (positive : Bool) (f : Float) : Float := if positive then f else -f

/-- `10 ^ n` for an exponent within the range of binary64. -/
def powerOfTen (n : Nat) : Float := Float.ofScientific 1 false n

/-- `f * 10 ^ exponent`, each step rounded; an infinite result is out of range. Numbers too small
end at zero. -/
def scaleBy : Nat → Float → Int → Except Cause Float
  | 0, f, _ => .ok f
  | fuel + 1, f, exponent =>
    if exponent.natAbs ≤ 308 then
      if 0 ≤ exponent then
        let product := f * powerOfTen exponent.toNat
        if product.isInf then .error .numberOutOfRange else .ok product
      else .ok (f / powerOfTen exponent.natAbs)
    else if f == 0.0 then .ok f
    else if 0 ≤ exponent then .error .numberOutOfRange
    else scaleBy fuel (f / powerOfTen 308) (exponent + 308)

/-- The number of a significand and a power of ten. The significand is rounded first and the power
is applied after. -/
def decimalNumber (positive : Bool) (significand : Nat) (exponent : Int) : Reader Number :=
  fun rest =>
    match scaleBy 8 (Float.ofNat significand) exponent with
    | .ok f => .ok (.float (signed positive f), rest)
    | .error cause => stopHere cause rest

/-- A number from its exponent letter on. -/
def exponentPart (positive : Bool) (significand : Nat) (start : Int) : Reader Number := fun bytes =>
  let bytes := bytes.drop 1
  let (up, bytes) := match bytes with
    | 43 :: rest => (true, rest)
    | 45 :: rest => (false, rest)
    | rest => (true, rest)
  match bytes with
  | [] => stopHere .eofInValue []
  | b :: rest =>
    if !isDigit b then stopHere .invalidNumber rest
    else
      let (size, _, rest) := digitsUpTo maxExponent (b.toNat - 48) 0 rest
      match digit? rest with
      | some _ =>
        if significand ≠ 0 ∧ up then stopHere .numberOutOfRange (rest.drop 1)
        else .ok (.float (signed positive 0.0), rest.dropWhile isDigit)
      | none =>
        let exponent : Int := if up then start + size else start - size
        decimalNumber positive significand exponent rest

/-- A number from behind its digits on: an exponent may follow. -/
def afterDigits (positive : Bool) (significand : Nat) (exponent : Int) : Reader Number
  | b :: rest =>
    if b = 101 ∨ b = 69 then exponentPart positive significand exponent (b :: rest)
    else decimalNumber positive significand exponent (b :: rest)
  | [] => decimalNumber positive significand exponent []

/-- A number from its decimal point on. Digits that the significand has no room for are skipped. -/
def fractionPart (positive : Bool) (significand : Nat) (exponent : Int) : Reader Number :=
  fun bytes =>
    let bytes := bytes.drop 1
    let (n, count, rest) := digitsUpTo maxWhole significand 0 bytes
    match digit? rest with
    | some _ =>
      afterDigits positive n (exponent - count) (rest.dropWhile isDigit)
    | none =>
      if count = 0 then
        match rest with
        | [] => stopAtNext .eofInValue rest
        | _ :: _ => stopAtNext .invalidNumber rest
      else afterDigits positive n (exponent - count) rest

/-- A number whose whole part is `significand`, from behind that part on. -/
def afterWhole (positive : Bool) (significand : Nat) : Reader Number := fun bytes =>
  let whole : Number :=
    if positive then .int significand
    else if significand = 0 ∨ Nat.pow 2 63 < significand then .float (-(Float.ofNat significand))
    else .int (-(significand : Int))
  match bytes with
  | [] => .ok (whole, [])
  | b :: rest =>
    if b = 46 then fractionPart positive significand 0 (b :: rest)
    else if b = 101 ∨ b = 69 then exponentPart positive significand 0 (b :: rest)
    else .ok (whole, b :: rest)

/-- A number whose whole part has more digits than the significand has room for; those are counted
in the exponent. -/
def afterLongWhole (positive : Bool) (significand : Nat) : Reader Number := fun bytes =>
  let rest := bytes.dropWhile isDigit
  let exponent : Int := (bytes.length - rest.length : Nat)
  match rest with
  | 46 :: _ => fractionPart positive significand exponent rest
  | _ => afterDigits positive significand exponent rest

/-- A number from its first digit on. -/
def number (positive : Bool) : Reader Number
  | [] => stopHere .eofInValue []
  | b :: rest =>
    if b = 48 then
      match digit? rest with
      | some _ => stopAtNext .invalidNumber rest
      | none => afterWhole positive 0 rest
    else if isDigit b then
      let (n, _, rest) := digitsUpTo maxWhole (b.toNat - 48) 0 rest
      match digit? rest with
      | some _ => afterLongWhole positive n rest
      | none => afterWhole positive n rest
    else stopHere .invalidNumber rest

/-! ### Sequences and objects -/

/-- What stands before the next item of a list: the end of the list, or the item from its first byte
on. -/
def nextItem (first : Bool) (bytes : List UInt8) :
    Except Stop (Option (List UInt8)) :=
  match skipBlanks bytes with
  | [] => stopAtNext .eofInList []
  | b :: rest =>
    if b = 93 then .ok none
    else if first then .ok (some (b :: rest))
    else if b = 44 then
      match skipBlanks rest with
      | [] => stopAtNext .eofInValue []
      | c :: rest =>
        if c = 93 then stopAtNext .trailingComma (c :: rest) else .ok (some (c :: rest))
    else stopAtNext .expectedListCommaOrEnd (b :: rest)

/-- The end of a list. -/
def listEnd (bytes : List UInt8) : Except Stop (List UInt8) :=
  match skipBlanks bytes with
  | [] => stopAtNext .eofInList []
  | b :: rest =>
    if b = 93 then .ok rest
    else if b = 44 then
      match skipBlanks rest with
      | 93 :: behind => stopAtNext .trailingComma (93 :: behind)
      | behind => stopAtNext .trailingCharacters behind
    else stopAtNext .trailingCharacters (b :: rest)

/-- Items up to the closing bracket, from behind the opening bracket on. -/
def items (item : Reader α) : Nat → Bool → List α → List UInt8 →
    Except Stop (List α × List UInt8)
  | 0, _, _, rest => stopAtNext .eofInList rest
  | fuel + 1, first, done, bytes => do
    match ← nextItem first bytes with
    | none =>
      let rest ← listEnd bytes
      .ok (done.reverse, rest)
    | some start =>
      let (v, rest) ← item start
      items item fuel false (v :: done) rest

/-- What stands before the next key of an object: the end of the object, or the key from behind its
opening quote on. -/
def nextKey (first : Bool) (bytes : List UInt8) : Except Stop (Option (List UInt8)) :=
  match skipBlanks bytes with
  | [] => stopAtNext .eofInObject []
  | b :: rest =>
    if b = 125 then .ok none
    else if first then
      if b = 34 then .ok (some rest) else stopAtNext .keyMustBeString (b :: rest)
    else if b = 44 then
      match skipBlanks rest with
      | [] => stopAtNext .eofInValue []
      | c :: rest =>
        if c = 34 then .ok (some rest)
        else if c = 125 then stopAtNext .trailingComma (c :: rest)
        else stopAtNext .keyMustBeString (c :: rest)
    else stopAtNext .expectedObjectCommaOrEnd (b :: rest)

/-- The colon between a key and its value. -/
def colon (bytes : List UInt8) : Except Stop (List UInt8) :=
  match skipBlanks bytes with
  | [] => stopAtNext .eofInObject []
  | b :: rest => if b = 58 then .ok rest else stopAtNext .expectedColon (b :: rest)

/-- The end of an object. -/
def objectEnd (bytes : List UInt8) : Except Stop (List UInt8) :=
  match skipBlanks bytes with
  | [] => stopAtNext .eofInObject []
  | b :: rest =>
    if b = 125 then .ok rest
    else if b = 44 then stopAtNext .trailingComma (b :: rest)
    else stopAtNext .trailingCharacters (b :: rest)

/-- Fields up to the closing brace, from behind the opening brace on; each is added to what was
collected so far. -/
def fields (item : Reader α) (add : String → α → List (String × α) → List (String × α)) :
    Nat → Bool → List (String × α) → List UInt8 → Except Stop (List (String × α) × List UInt8)
  | 0, _, _, rest => stopAtNext .eofInObject rest
  | fuel + 1, first, done, bytes => do
    match ← nextKey first bytes with
    | none =>
      let rest ← objectEnd bytes
      .ok (done, rest)
    | some key =>
      let (k, rest) ← stringTail key
      let rest ← colon rest
      let (v, rest) ← item rest
      fields item add fuel false (add k v done) rest

/-! ### Values -/

/-- The nesting that is refused. -/
def depthLimit : Nat := 128

/-- A value. `depth` is one more than the lists and objects that may still be opened. -/
def value : Nat → Reader Value
  | 0 => fun bytes => stopAtNext .recursionLimit bytes
  | depth + 1 => fun bytes =>
    match skipBlanks bytes with
    | [] => stopAtNext .eofInValue []
    | b :: rest =>
      if b = 110 then do .ok (.null, ← word nullTail rest)
      else if b = 116 then do .ok (.bool true, ← word trueTail rest)
      else if b = 102 then do .ok (.bool false, ← word falseTail rest)
      else if b = 45 then do
        let (n, rest) ← number false rest
        .ok (.num n, rest)
      else if isDigit b then do
        let (n, rest) ← number true (b :: rest)
        .ok (.num n, rest)
      else if b = 34 then do
        let (s, rest) ← stringTail rest
        .ok (.str s, rest)
      else if b = 91 then
        if depth = 0 then stopAtNext .recursionLimit (b :: rest)
        else do
          let (vs, rest) ← items (value depth) (rest.length + 1) true [] rest
          .ok (.arr vs, rest)
      else if b = 123 then
        if depth = 0 then stopAtNext .recursionLimit (b :: rest)
        else do
          let (fs, rest) ← fields (value depth) Object.insert (rest.length + 1) true [] rest
          .ok (.obj fs, rest)
      else stopAtNext .expectedValue (b :: rest)

/-- Stops because the next token is not what was expected. Simple tokens are read first, so a
malformed one is reported as such. -/
def unexpected (expected : String) (bytes : List UInt8) : Except Stop α :=
  let wrong (found : Found) (rest : List UInt8) : Except Stop α :=
    stopHere (.invalidType found expected) rest
  match bytes with
  | [] => stopAtNext .expectedValue []
  | b :: rest =>
    if b = 110 then do wrong .null (← word nullTail rest)
    else if b = 116 then do wrong (.bool true) (← word trueTail rest)
    else if b = 102 then do wrong (.bool false) (← word falseTail rest)
    else if b = 45 then do
      let (n, rest) ← number false rest
      wrong (Value.num n).found rest
    else if isDigit b then do
      let (n, rest) ← number true (b :: rest)
      wrong (Value.num n).found rest
    else if b = 34 then do
      let (s, rest) ← stringTail rest
      wrong (.str s) rest
    else if b = 91 then wrong .sequence (b :: rest)
    else if b = 123 then wrong .map (b :: rest)
    else stopAtNext .expectedValue (b :: rest)

/-! ### Single values of a known type -/

/-- What is expected where a text, a truth value or a number stands. -/
def textExpected : String := "a string"
def boolExpected : String := "a boolean"

/-- A text. `expected` names what the text stands for. -/
def text (expected : String) : Reader String := fun bytes =>
  match skipBlanks bytes with
  | [] => stopAtNext .eofInValue []
  | b :: rest => if b = 34 then stringTail rest else unexpected expected (b :: rest)

/-- A text with a meaning; a text without one stops behind it. -/
def textAs (expected : String) (meaning : String → Except Cause α) : Reader α := fun bytes => do
  let (s, rest) ← text expected bytes
  match meaning s with
  | .ok a => .ok (a, rest)
  | .error cause => stopHere cause rest

/-- A truth value. -/
def bool : Reader Bool := fun bytes =>
  match skipBlanks bytes with
  | [] => stopAtNext .eofInValue []
  | b :: rest =>
    if b = 116 then do .ok (true, ← word trueTail rest)
    else if b = 102 then do .ok (false, ← word falseTail rest)
    else unexpected boolExpected (b :: rest)

/-- A number with a meaning; `expected` names the numbers that have one. -/
def numberAs (expected : String) (meaning : Number → Except Cause α) : Reader α := fun bytes =>
  let finish (n : Number) (rest : List UInt8) : Except Stop (α × List UInt8) :=
    match meaning n with
    | .ok a => .ok (a, rest)
    | .error cause => stopHere cause rest
  match skipBlanks bytes with
  | [] => stopAtNext .eofInValue []
  | b :: rest =>
    if b = 45 then do
      let (n, rest) ← number false rest
      finish n rest
    else if isDigit b then do
      let (n, rest) ← number true (b :: rest)
      finish n rest
    else unexpected expected (b :: rest)

/-- Null, or something. -/
def optional (reader : Reader α) : Reader (Option α) := fun bytes =>
  match skipBlanks bytes with
  | 110 :: rest => do .ok (none, ← word nullTail rest)
  | other => do
    let (a, rest) ← reader other
    .ok (some a, rest)

/-- An object with any fields, keys ascending, the last value of a repeated key. -/
def object : Reader Object := fun bytes =>
  match skipBlanks bytes with
  | [] => stopAtNext .eofInValue []
  | b :: rest =>
    if b = 123 then fields (value (depthLimit - 1)) Object.insert (rest.length + 1) true [] rest
    else unexpected "a map" (b :: rest)

/-- Runs a reader on a whole text: nothing but blanks may follow. -/
def run (reader : Reader α) (bytes : List UInt8) : Except Error α :=
  let answer : Except Stop α := do
    let (a, rest) ← reader bytes
    match skipBlanks rest with
    | [] => .ok a
    | more => stopAtNext .trailingCharacters more
  match answer with
  | .ok a => .ok a
  | .error stop =>
    let index := bytes.length - stop.left
    .error ⟨stop.cause, some (Position.behind bytes index)⟩

end Reader

/-- Reads a value from a text. -/
def Value.parse (s : String) : Except Error Value :=
  Reader.run (Reader.value Reader.depthLimit) (Text.Utf8.encode s)

/-- Reads an object from bytes. -/
def Object.parseBytes (bytes : List UInt8) : Except Error Object := Reader.run Reader.object bytes

/-- Reads an object from a text. -/
def Object.parse (s : String) : Except Error Object := Object.parseBytes (Text.Utf8.encode s)

end TaskCluster.Json
