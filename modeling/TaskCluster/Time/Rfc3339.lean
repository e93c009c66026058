import TaskCluster.Text.Blank
import TaskCluster.Time.Calendar

/-!
# Times as text

`Instant.rfc3339` writes a time with as many groups of three fraction digits as it needs.
`Instant.parse` reads more than it writes: white space between the parts, single digits, an offset
from UTC, and the letters in either case.
-/

namespace TaskCluster

/-- Why a text is not a time. -/
inductive TimeFault where
  | outOfRange
  | impossible
  | invalid
  | tooShort
  | tooLong
deriving DecidableEq, Repr

def TimeFault.message : TimeFault → String
  | .outOfRange => "input is out of range"
  | .impossible => "no possible date and time matching input"
  | .invalid => "input contains invalid characters"
  | .tooShort => "premature end of input"
  | .tooLong => "trailing input"

namespace Time

/-! ### Writing -/

/-- A number with zeros before it up to a width. -/
def padded (width n : Nat) : String :=
  let digits := toString n
  String.ofList (List.replicate (width - digits.length) '0') ++ digits

/-- A year, with a sign if it does not lie between 0 and 9999. -/
def yearText (year : Int) : String :=
  if 0 ≤ year ∧ year ≤ 9999 then padded 4 year.toNat
  else (if year < 0 then "-" else "+") ++ padded 4 year.natAbs

def dateText (d : Date) : String :=
  yearText d.year ++ "-" ++ padded 2 d.month ++ "-" ++ padded 2 d.day

def clockText (t : Instant) : String :=
  let (h, m, s) := t.timeOfDay
  padded 2 h ++ ":" ++ padded 2 m ++ ":" ++ padded 2 s

/-- The fraction of a second: none, or three, six or nine digits. -/
def fractionText (nanos : Nat) : String :=
  if nanos = 0 then ""
  else if nanos % 1000000 = 0 then "." ++ padded 3 (nanos / 1000000)
  else if nanos % 1000 = 0 then "." ++ padded 6 (nanos / 1000)
  else "." ++ padded 9 nanos

/-! ### Reading -/

/-- A part of a time with the characters behind it. -/
abbrev Part (α : Type) := List Char → Except TimeFault (α × List Char)

/-- A decimal digit. -/
def digit? (c : Char) : Option Nat := if c.isDigit then some (c.toNat - 48) else none

/-- Digits, at most `width` of them, added to a number. -/
def moreDigits : Nat → Nat → List Char → Except TimeFault (Nat × List Char)
  | 0, n, cs => .ok (n, cs)
  | _ + 1, n, [] => .ok (n, [])
  | width + 1, n, c :: rest =>
    match digit? c with
    | none => .ok (n, c :: rest)
    | some d =>
      if n * 10 + d < Nat.pow 2 63 then moreDigits width (n * 10 + d) rest else .error .outOfRange

/-- A number of one to `width` digits. -/
def number (width : Nat) : Part Nat
  | [] => .error .tooShort
  | c :: rest =>
    match digit? c with
    | none => .error .invalid
    | some _ => moreDigits width 0 (c :: rest)

/-- A number within bounds, white space before it skipped. -/
def bounded (low high : Nat) : Part Nat := fun cs => do
  let (n, rest) ← number 2 (Text.trimStart cs)
  if low ≤ n ∧ n ≤ high then .ok (n, rest) else .error .outOfRange

/-- A year: four digits, or a sign and any number of them. -/
def year : Part Int := fun cs =>
  let inRange (y : Int) (rest : List Char) : Except TimeFault (Int × List Char) :=
    if Int32.minValue.toInt ≤ y ∧ y ≤ Int32.maxValue.toInt then .ok (y, rest) else .error .outOfRange
  match Text.trimStart cs with
  | '-' :: rest => do
    let (n, behind) ← number rest.length rest
    inRange (-(n : Int)) behind
  | '+' :: rest => do
    let (n, behind) ← number rest.length rest
    inRange n behind
  | cs => do
    let (n, behind) ← number 4 cs
    inRange n behind

/-- One given character, white space before it skipped. -/
def mark (c : Char) (cs : List Char) : Except TimeFault (List Char) :=
  match Text.trimStart cs with
  | [] => .error .tooShort
  | d :: rest => if d = c then .ok rest else .error .invalid

/-- The fraction of a second in nanoseconds; digits behind the ninth are skipped. -/
def fraction : Part Nat
  | '.' :: rest => do
    let (n, behind) ← number 9 rest
    .ok (n * Nat.pow 10 (9 - (rest.length - behind.length)), behind.dropWhile Char.isDigit)
  | cs => .ok (0, cs)

/-- Two digits, the second of which may be missing only at the end of the text. -/
def twoDigits : List Char → Except TimeFault (Nat × Nat × List Char)
  | a :: b :: rest =>
    match digit? a, digit? b with
    | some x, some y => .ok (x, y, rest)
    | _, _ => .error .invalid
  | [a] => if a.toNat < 128 then .error .tooShort else .error .invalid
  | [] => .error .tooShort

/-- The seconds of an offset behind its sign: hours, colons or white space, minutes. -/
def offsetSize : Part Nat := fun cs => do
  let (h, g, rest) ← twoDigits cs
  let (m, n, rest) ← twoDigits (rest.dropWhile fun c => c == ':' || Text.isSpace c)
  if 6 ≤ m then .error .outOfRange
  else .ok ((h * 10 + g) * 3600 + (m * 10 + n) * 60, rest)

/-- Is the text `UTC` in any letter case at the start? -/
def afterUtc? : List Char → Option (List Char)
  | u :: t :: c :: rest =>
    if u.toUpper = 'U' ∧ t.toUpper = 'T' ∧ c.toUpper = 'C' then some rest else none
  | _ => none

/-- An offset from UTC in seconds. The minus sign of typography is taken for a hyphen. -/
def offset : Part Int := fun cs =>
  match afterUtc? cs with
  | some rest => .ok (0, rest)
  | none =>
    match cs with
    | [] => .error .tooShort
    | c :: rest =>
      if c = 'Z' ∨ c = 'z' then .ok (0, rest)
      else if c = '+' then do
        let (n, rest) ← offsetSize rest
        .ok (n, rest)
      else if c = '-' ∨ c.toNat = 0x2212 then do
        let (n, rest) ← offsetSize rest
        .ok (-(n : Int), rest)
      else .error .invalid

/-- The instant of a local time with an offset. The second 60 is a leap second. -/
def assemble (d : Date) (hour minute second nanos : Nat) (offset : Int) :
    Except TimeFault Instant :=
  let leap := second = 60
  let inMinute := if leap then 59 else second
  let local_ : Int := d.toDays * 86400 + (hour * 3600 + minute * 60 + inMinute : Nat)
  let nanos := if leap then nanos + nanosPerSecond else nanos
  if d.year < -262143 ∨ 262142 < d.year ∨ !d.isValid then .error .outOfRange
  else if offset.natAbs ≥ 86400 then .error .outOfRange
  else
    match Instant.mk? (local_ - offset) nanos with
    | some t => .ok t
    | none => .error .impossible

/-- The letter or blank between a date and a time of day. -/
def dateEnd : List Char → Except TimeFault (List Char)
  | [] => .error .tooShort
  | c :: rest => if c = 't' ∨ c = 'T' ∨ c = ' ' then .ok rest else .error .invalid

/-- A whole time. -/
def read (cs : List Char) : Except TimeFault Instant := do
  let (y, cs) ← year cs
  let cs ← mark '-' cs
  let (mo, cs) ← bounded 1 12 cs
  let cs ← mark '-' cs
  let (d, cs) ← bounded 1 31 cs
  let cs ← dateEnd cs
  let (h, cs) ← bounded 0 23 cs
  let cs ← mark ':' cs
  let (mi, cs) ← bounded 0 59 cs
  let cs ← mark ':' cs
  let (s, cs) ← bounded 0 60 cs
  let (nanos, cs) ← fraction cs
  let (off, cs) ← offset (Text.trimStart cs)
  if !(Text.trimStart cs).isEmpty then .error .tooLong
  else assemble ⟨y, mo, d⟩ h mi s nanos off

end Time

/-- A time in UTC with date, time of day and as much of the fraction as is needed. -/
def Instant.rfc3339 (t : Instant) : String :=
  Time.dateText t.date ++ "T" ++ Time.clockText t ++ Time.fractionText t.subsecond ++ "Z"

/-- A time to the second, with a blank between date and time of day. -/
def Instant.toSecondText (t : Instant) : String :=
  Time.dateText t.date ++ " " ++ Time.clockText t

/-- Reads a time. -/
def Instant.parse (s : String) : Except TimeFault Instant := Time.read s.toList

end TaskCluster
