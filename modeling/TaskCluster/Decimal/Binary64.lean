/-!
# Decimal digits of binary64 numbers

A finite binary64 number is written with the fewest decimal digits that read back as the same
number; of two candidates with equally few digits the nearer one is taken, and on an exact tie the
even one. `shortest` decides this in exact arithmetic on the integer significand and exponent.
`roundTo` gives the digits for a fixed number of significant places instead.
-/

namespace TaskCluster.Decimal

/-- A positive decimal `digits * 10 ^ exponent`, its last digit not zero. -/
structure Digits where
  digits : Nat
  exponent : Int
deriving DecidableEq, Repr

/-- The sign, significand and exponent of a finite binary64 number `± significand * 2 ^ exponent`. -/
structure Binary where
  negative : Bool
  significand : Nat
  exponent : Int
deriving DecidableEq, Repr

/-- Takes the bits of a finite number apart. -/
def Binary.ofBits (bits : UInt64) : Binary :=
  let n := bits.toNat
  let fraction : Nat := n % Nat.pow 2 52
  let biased : Nat := n / Nat.pow 2 52 % Nat.pow 2 11
  let negative : Bool := n / Nat.pow 2 63 = 1
  if biased = 0 then ⟨negative, fraction, -1074⟩
  else ⟨negative, Nat.pow 2 52 + fraction, (biased : Int) - 1075⟩

/-- A positive fraction. -/
structure Fraction where
  num : Nat
  den : Nat
deriving DecidableEq, Repr

/-- How many decimal digits a number has. -/
def digitCount (n : Nat) : Nat := (Nat.toDigits 10 n).length

/-- The exponent of the first decimal digit of a positive fraction: the greatest `e` with
`10 ^ e` at most the fraction. -/
def Fraction.magnitude (f : Fraction) : Int :=
  if f.den ≤ f.num then (digitCount (f.num / f.den) : Int) - 1
  else
    let places := digitCount (f.den / f.num)
    if f.den ≤ f.num * Nat.pow 10 (places - 1) then -((places : Int) - 1) else -(places : Int)

/-- The fraction in units of `10 ^ exponent`. -/
def Fraction.inUnits (f : Fraction) (exponent : Int) : Fraction :=
  if 0 ≤ exponent then ⟨f.num, f.den * Nat.pow 10 exponent.toNat⟩
  else ⟨f.num * Nat.pow 10 (-exponent).toNat, f.den⟩

/-- The whole number nearest to a fraction, the even one of two. -/
def Fraction.round (f : Fraction) : Nat :=
  let down := f.num / f.den
  let twice := 2 * (f.num % f.den)
  if twice < f.den then down
  else if f.den < twice then down + 1
  else if down % 2 = 0 then down else down + 1

/-- Moves trailing zeros from the digits to the exponent, at most `fuel` of them. -/
def Digits.strip : Nat → Digits → Digits
  | 0, d => d
  | fuel + 1, d =>
    if d.digits % 10 = 0 ∧ d.digits ≠ 0 then strip fuel ⟨d.digits / 10, d.exponent + 1⟩ else d

/-- The numbers that read back as one binary64 number: between two fractions with a common
denominator, the ends included when the significand is even. -/
structure Interval where
  low : Nat
  high : Nat
  den : Nat
  closed : Bool
deriving DecidableEq, Repr

/-- Does `n * 10 ^ exponent` lie in the interval? -/
def Interval.holds (i : Interval) (n : Nat) (exponent : Int) : Bool :=
  let up := if 0 ≤ exponent then n * Nat.pow 10 exponent.toNat * i.den else n * i.den
  let scale := if 0 ≤ exponent then 1 else Nat.pow 10 (-exponent).toNat
  if i.closed then i.low * scale ≤ up && up ≤ i.high * scale
  else i.low * scale < up && up < i.high * scale

/-- The value in quarters of a unit in the last place, as a fraction. -/
def Binary.value (b : Binary) : Fraction :=
  let e := b.exponent - 2
  if 0 ≤ e then ⟨4 * b.significand * Nat.pow 2 e.toNat, 1⟩ else ⟨4 * b.significand, Nat.pow 2 (-e).toNat⟩

/-- The interval around a positive number. Below a power of two the neighbour is half as far. -/
def Binary.interval (b : Binary) : Interval :=
  let e := b.exponent - 2
  let below := if b.significand = Nat.pow 2 52 ∧ -1074 < b.exponent then 1 else 2
  let unit := if 0 ≤ e then Nat.pow 2 e.toNat else 1
  let den := if 0 ≤ e then 1 else Nat.pow 2 (-e).toNat
  ⟨(4 * b.significand - below) * unit, (4 * b.significand + 2) * unit, den,
    b.significand % 2 = 0⟩

/-- The candidate with `places` digits, if one of the two neighbours of the value on that grid
reads back. -/
def Binary.candidate? (b : Binary) (places : Nat) : Option Digits :=
  let v := b.value
  let exponent := v.magnitude - places + 1
  let units := v.inUnits exponent
  let near := units.round
  let down := units.num / units.den
  let far := if near = down then down + 1 else down
  if b.interval.holds near exponent then some ⟨near, exponent⟩
  else if b.interval.holds far exponent then some ⟨far, exponent⟩
  else none

/-- The shortest digits of a positive number. -/
def Binary.shortest (b : Binary) : Digits :=
  let found := ((List.range 17).map (· + 1)).findSome? b.candidate?
  (found.getD ⟨b.value.round, 0⟩).strip 400

/-- The digits of a positive number rounded to `places` significant places. -/
def Binary.roundTo (b : Binary) (places : Nat) : Digits :=
  let v := b.value
  let exponent := v.magnitude - places + 1
  Digits.strip 400 ⟨(v.inUnits exponent).round, exponent⟩

/-- The exponent of the first digit. -/
def Digits.magnitude (d : Digits) : Int := d.exponent + digitCount d.digits - 1

/-- Where a decimal is written positionally, and how its exponent is written elsewhere. -/
structure Layout where
  /-- The least exponent of the first digit that is written positionally. -/
  least : Int
  /-- The greatest exponent of the first digit that is written positionally. -/
  greatest : Int
  /-- Does a single digit before an exponent get a fraction of its own? -/
  pointBeforeExponent : Bool
  /-- The fewest digits of an exponent. -/
  exponentWidth : Nat

/-- Zeros, as many as told. -/
def zeros (n : Nat) : String := String.ofList (List.replicate n '0')

/-- Writes a positive decimal; a number without a fraction gets one zero after the point. -/
def Layout.write (l : Layout) (d : Digits) : String :=
  let text := toString d.digits
  let e := d.magnitude
  if l.least ≤ e ∧ e ≤ l.greatest then
    if 0 ≤ d.exponent then text ++ zeros d.exponent.toNat ++ ".0"
    else if 0 ≤ e then
      let whole := (e + 1).toNat
      String.ofList (text.toList.take whole) ++ "." ++ String.ofList (text.toList.drop whole)
    else "0." ++ zeros (-e - 1).toNat ++ text
  else
    let first := String.ofList (text.toList.take 1)
    let rest := String.ofList (text.toList.drop 1)
    let fraction := if rest ≠ "" then "." ++ rest else if l.pointBeforeExponent then ".0" else ""
    let size := toString e.natAbs
    let padded := zeros (l.exponentWidth - size.length) ++ size
    first ++ fraction ++ "e" ++ (if e < 0 then "-" else "+") ++ padded

end TaskCluster.Decimal
