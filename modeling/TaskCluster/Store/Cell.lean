import TaskCluster.Decimal.Binary64
import TaskCluster.Failure
import TaskCluster.Json.Value
import TaskCluster.Time.Instant

/-!
# Cells of a table

A cell holds nothing, a whole number, a binary64 number or a text. A column converts what is stored
in it: a text column turns numbers into text, a whole-number column turns texts and numbers into
whole numbers where nothing is lost and keeps the rest as it is. Reading a cell as a type that it
does not have is a fault that names the column.
-/

namespace TaskCluster

inductive Cell where
  | null
  | int (i : Int64)
  | real (x : Decimal.Binary)
  | text (s : String)
deriving DecidableEq, Repr

namespace Decimal.Binary

/-- Is the number a whole number? -/
def toInt? (x : Binary) : Option Int :=
  let signed (n : Nat) : Int := if x.negative then -(n : Int) else n
  if 0 ≤ x.exponent then some (signed (x.significand * Nat.pow 2 x.exponent.toNat))
  else
    let scale := Nat.pow 2 (-x.exponent).toNat
    if x.significand % scale = 0 then some (signed (x.significand / scale)) else none

/-- The number times `2 ^ 1074`, which is whole. -/
def scaled (x : Binary) : Int :=
  let n := x.significand * Nat.pow 2 (x.exponent + 1074).toNat
  if x.negative then -(n : Int) else n

end Decimal.Binary

namespace Cell

/-- How a binary64 number is written in a text column: 15 significant digits, positional from the
fourth place after the point to the fifteenth before it. -/
def realLayout : Decimal.Layout := ⟨-4, 14, true, 2⟩

def realText (x : Decimal.Binary) : String :=
  let size := if x.significand = 0 then "0.0" else realLayout.write (x.roundTo 15)
  if x.negative && x.significand ≠ 0 then "-" ++ size else size

/-- The content of a text column. -/
def toText : Cell → Option String
  | .null => none
  | .int i => some (toString i.toInt)
  | .real x => some (realText x)
  | .text s => some s

/-- A whole number if it has 64 bits. -/
def ofInt? (i : Int) : Option Cell :=
  if Int64.minValue.toInt ≤ i ∧ i ≤ Int64.maxValue.toInt then some (.int (Int64.ofInt i)) else none

/-- A binary64 number in a whole-number column. -/
def ofReal (x : Decimal.Binary) : Cell := (x.toInt?.bind ofInt?).getD (.real x)

/-- Is it a blank inside a number text? -/
def isNumberBlank (c : Char) : Bool := c = ' ' || ('\t' ≤ c && c ≤ '\r')

/-- A number that was written: digits, the power of ten behind them, and whether it is a plain whole
number. -/
structure Numeral where
  negative : Bool
  digits : Nat
  exponent : Int
  whole : Bool

/-- The value of decimal digits behind others. -/
def digitsFrom (n : Nat) (cs : List Char) : Nat :=
  cs.foldl (fun n c => n * 10 + (c.toNat - 48)) n

/-- The exponent behind a mark: a sign and digits. -/
def exponent? (cs : List Char) : Option Int :=
  let (negative, cs) := match cs with
    | '-' :: rest => (true, rest)
    | '+' :: rest => (false, rest)
    | rest => (false, rest)
  if cs.isEmpty || !cs.all Char.isDigit then none
  else
    let n : Int := digitsFrom 0 cs
    some (if negative then -n else n)

/-- A decimal number with blanks around it. -/
def numeral? (s : String) : Option Numeral :=
  let cs := (s.toList.dropWhile isNumberBlank).reverse.dropWhile isNumberBlank |>.reverse
  let (negative, cs) := match cs with
    | '-' :: rest => (true, rest)
    | '+' :: rest => (false, rest)
    | rest => (false, rest)
  let before := cs.takeWhile Char.isDigit
  let rest := cs.dropWhile Char.isDigit
  let (after, rest, point) := match rest with
    | '.' :: rest => (rest.takeWhile Char.isDigit, rest.dropWhile Char.isDigit, true)
    | rest => ([], rest, false)
  if before.isEmpty && after.isEmpty then none
  else
    let digits := digitsFrom (digitsFrom 0 before) after
    let places : Int := after.length
    match rest with
    | [] => some ⟨negative, digits, -places, !point⟩
    | c :: rest =>
      if c = 'e' || c = 'E' then
        (exponent? rest).map fun e => ⟨negative, digits, e - places, false⟩
      else none

/-- The greatest decimal exponent that is looked at; beyond it a number is zero or not finite. -/
def maxExponent : Nat := 400

/-- The binary64 number of a numeral. -/
def Numeral.toReal (n : Numeral) : Decimal.Binary :=
  let e := max (-(maxExponent : Int)) (min n.exponent maxExponent)
  let size := Float.ofScientific n.digits (e < 0) e.natAbs
  Decimal.Binary.ofBits (if n.negative then -size else size).toBits

/-- A text in a whole-number column. -/
def ofNumberText (s : String) : Cell :=
  match numeral? s with
  | none => .text s
  | some n =>
    let whole := if n.whole then ofInt? (if n.negative then -(n.digits : Int) else n.digits) else none
    whole.getD (ofReal n.toReal)

/-- The content of a whole-number column. -/
def toWhole : Cell → Cell
  | .real x => ofReal x
  | .text s => ofNumberText s
  | c => c

/-- The cell of a JSON value; lists and objects have none. -/
def ofJson : Json.Value → Cell
  | .bool b => .int (if b then 1 else 0)
  | .num (.int i) => (ofInt? i).getD (.real (Decimal.Binary.ofBits (Float.ofInt i).toBits))
  | .num (.float f) => .real (Decimal.Binary.ofBits f.toBits)
  | .str s => .text s
  | _ => .null

/-! ### Order -/

/-- The order of cells: nothing, then numbers by their value, then texts by their code points. -/
def le : Cell → Cell → Bool
  | .null, _ => true
  | _, .null => false
  | .int a, .int b => a ≤ b
  | .int a, .real b => a.toInt * Nat.pow 2 1074 ≤ b.scaled
  | .real a, .int b => a.scaled ≤ b.toInt * Nat.pow 2 1074
  | .real a, .real b => a.scaled ≤ b.scaled
  | .text a, .text b => a ≤ b
  | .text _, _ => false
  | _, .text _ => true

/-! ### Reading -/

def kind : Cell → CellKind
  | .null => .null
  | .int _ => .integer
  | .real _ => .real
  | .text _ => .text

end Cell

/-- A column of a table, by its place and its name. -/
structure Column where
  index : Nat
  name : String
deriving DecidableEq, Repr

namespace Column

/-- A whole number. -/
def int (column : Column) : Cell → Except DatabaseFault Int64
  | .int i => .ok i
  | c => .error (.wrongKind column.index column.name c.kind)

/-- A time of whole milliseconds. -/
def time (column : Column) (c : Cell) : Except DatabaseFault Instant := do
  let i ← column.int c
  match ClockTime.ofMillis? i.toInt with
  | some t => .ok t.toInstant
  | none => .error (.timeOutOfRange column.index i.toInt)

/-- A time, or none for an empty cell. -/
def time? (column : Column) : Cell → Except DatabaseFault (Option Instant)
  | .null => .ok none
  | c => (column.time c).map some

/-- A counter of 32 bits. -/
def counter (column : Column) (c : Cell) : Except DatabaseFault UInt32 := do
  let i ← column.int c
  if 0 ≤ i.toInt ∧ i.toInt < UInt32.size then .ok (UInt32.ofNat i.toInt.toNat)
  else .error (.integerOutOfRange column.index i.toInt)

/-- A flag: any number but zero is true. -/
def flag (column : Column) (c : Cell) : Except DatabaseFault Bool := do
  let i ← column.int c
  .ok (i != 0)

end Column

end TaskCluster
