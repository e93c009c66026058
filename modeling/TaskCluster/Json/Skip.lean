import TaskCluster.Json.Reader

/-!
# Skipping a JSON value

The value of a field that nobody asked for is checked for its form only: numbers may have any size
and nesting is not limited, since the open lists and objects are kept in a list of frames.
-/

namespace TaskCluster.Json.Reader

/-- An open list or object. -/
inductive Frame where
  | list
  | object
deriving DecidableEq, Repr

/-- Skips the four digits of an escape. -/
def skipFourDigits (bytes : List UInt8) : Except Stop (List UInt8) := do
  let (_, rest) ← fourDigits bytes
  .ok rest

/-- Skips a string from behind its opening quote on. -/
def skipString : Nat → List UInt8 → Except Stop (List UInt8)
  | 0, _ => stopHere .eofInString []
  | _ + 1, [] => stopHere .eofInString []
  | fuel + 1, b :: rest =>
    if b = 34 then .ok rest
    else if b = 92 then
      match rest with
      | [] => stopHere .eofInString []
      | e :: rest =>
        if e = 117 then do skipString fuel (← skipFourDigits rest)
        else if [34, 92, 47, 98, 102, 110, 114, 116].contains e then skipString fuel rest
        else stopHere .invalidEscape rest
    else if b < 32 then stopHere .controlCharacter (b :: rest)
    else skipString fuel rest

/-- Skips an exponent from its letter on. -/
def skipExponent (bytes : List UInt8) : Except Stop (List UInt8) :=
  let rest := match bytes.drop 1 with
    | 43 :: more => more
    | 45 :: more => more
    | more => more
  match rest with
  | [] => stopHere .invalidNumber []
  | b :: more =>
    if isDigit b then .ok (more.dropWhile isDigit) else stopHere .invalidNumber more

/-- Skips an exponent if there is one. -/
def skipAfterDigits (bytes : List UInt8) : Except Stop (List UInt8) :=
  match bytes with
  | b :: _ => if b = 101 ∨ b = 69 then skipExponent bytes else .ok bytes
  | [] => .ok []

/-- Skips a number from its first digit on. -/
def skipNumber : List UInt8 → Except Stop (List UInt8)
  | [] => stopHere .invalidNumber []
  | b :: rest =>
    let whole : Except Stop (List UInt8) :=
      if b = 48 then
        match digit? rest with
        | some _ => stopAtNext .invalidNumber rest
        | none => .ok rest
      else if isDigit b then .ok (rest.dropWhile isDigit)
      else stopHere .invalidNumber rest
    match whole with
    | .error stop => .error stop
    | .ok (46 :: rest) =>
      match digit? rest with
      | some _ => skipAfterDigits (rest.dropWhile isDigit)
      | none => stopAtNext .invalidNumber rest
    | .ok rest => skipAfterDigits rest

/-- Skips the key and the colon of a field, from the key's opening quote on. -/
def skipKey (bytes : List UInt8) : Except Stop (List UInt8) :=
  match skipBlanks bytes with
  | [] => stopAtNext .eofInObject []
  | b :: rest =>
    if b = 34 then do colon (← skipString (rest.length + 1) rest)
    else stopAtNext .keyMustBeString (b :: rest)

/-- What follows inside the open frames once a value or an opening bracket was read: the frames in
which the next value stands with the bytes from it on, no frames when the whole value is over.
`comma` tells that a value stands before, so that a comma must come before the next. -/
def leaveFrames : Nat → Bool → List Frame → List UInt8 →
    Except Stop (List Frame × List UInt8)
  | 0, _, _, rest => stopAtNext .eofInValue rest
  | _ + 1, _, [], rest => .ok ([], rest)
  | fuel + 1, comma, frame :: outer, bytes =>
    let enter (rest : List UInt8) : Except Stop (List Frame × List UInt8) :=
      match frame with
      | .list => .ok (frame :: outer, rest)
      | .object => do .ok (frame :: outer, ← skipKey rest)
    match skipBlanks bytes with
    | [] => stopAtNext (match frame with | .list => .eofInList | .object => .eofInObject) []
    | b :: rest =>
      let closing : UInt8 := match frame with | .list => 93 | .object => 125
      if comma ∧ b = 44 then enter rest
      else if b = closing then leaveFrames fuel true outer rest
      else if comma then
        stopAtNext
          (match frame with | .list => .expectedListCommaOrEnd | .object => .expectedObjectCommaOrEnd)
          (b :: rest)
      else enter (b :: rest)

/-- Skips a simple value; for an opening bracket it answers the frame that it opens. -/
def skipToken (bytes : List UInt8) : Except Stop (Option Frame × List UInt8) :=
  match bytes with
  | [] => stopAtNext .eofInValue []
  | b :: rest =>
    if b = 110 then do .ok (none, ← word nullTail rest)
    else if b = 116 then do .ok (none, ← word trueTail rest)
    else if b = 102 then do .ok (none, ← word falseTail rest)
    else if b = 45 then do .ok (none, ← skipNumber rest)
    else if isDigit b then do .ok (none, ← skipNumber (b :: rest))
    else if b = 34 then do .ok (none, ← skipString (rest.length + 1) rest)
    else if b = 91 then .ok (some .list, rest)
    else if b = 123 then .ok (some .object, rest)
    else stopAtNext .expectedValue (b :: rest)

/-- Skips a value inside the open frames, then what follows it up to the end of the outermost. -/
def skipInside : Nat → List Frame → List UInt8 → Except Stop (List UInt8)
  | 0, _, rest => stopAtNext .eofInValue rest
  | fuel + 1, frames, bytes => do
    let (opened, rest) ← skipToken (skipBlanks bytes)
    let inside := match opened with
      | some frame => frame :: frames
      | none => frames
    let (open_, rest) ← leaveFrames (rest.length + 2) opened.isNone inside rest
    match open_ with
    | [] => .ok rest
    | _ :: _ => skipInside fuel open_ rest

/-- Skips a value. -/
def skip (bytes : List UInt8) : Except Stop (List UInt8) :=
  skipInside (bytes.length + 1) [] bytes

end TaskCluster.Json.Reader
