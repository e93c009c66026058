/-!
# Reading whole numbers

A number is decimal digits behind an optional sign, and it must not leave its range. The first
character that spoils it decides about the fault.
-/

namespace TaskCluster.Text

/-- Why a text is no number of a range. -/
inductive NumeralFault where
  | empty
  | invalidDigit
  | tooLarge
  | tooSmall
deriving DecidableEq, Repr

def NumeralFault.message : NumeralFault → String
  | .empty => "cannot parse integer from empty string"
  | .invalidDigit => "invalid digit found in string"
  | .tooLarge => "number too large to fit in target type"
  | .tooSmall => "number too small to fit in target type"

/-- The number of digits behind a number, up to a limit. -/
def digitsUpTo (limit : Nat) (beyond : NumeralFault) : Nat → List Char → Except NumeralFault Nat
  | n, [] => .ok n
  | n, c :: cs =>
    if !c.isDigit then .error .invalidDigit
    else
      let next := n * 10 + (c.toNat - 48)
      if limit < next then .error beyond else digitsUpTo limit beyond next cs

/-- The number of at least one digit. -/
def someDigits (limit : Nat) (beyond : NumeralFault) (cs : List Char) :
    Except NumeralFault Nat :=
  if cs.isEmpty then .error .invalidDigit else digitsUpTo limit beyond 0 cs

/-- Reads a number from zero to a greatest one. -/
def parseNatural (greatest : Nat) (s : String) : Except NumeralFault Nat :=
  match s.toList with
  | [] => .error .empty
  | '+' :: cs => someDigits greatest .tooLarge cs
  | cs => someDigits greatest .tooLarge cs

/-- Reads a number of 64 bits with a sign. -/
def parseInteger (s : String) : Except NumeralFault Int :=
  match s.toList with
  | [] => .error .empty
  | '-' :: cs => (someDigits (Nat.pow 2 63) .tooSmall cs).map fun n => -(n : Int)
  | '+' :: cs => (someDigits (Nat.pow 2 63 - 1) .tooLarge cs).map fun n => (n : Int)
  | cs => (someDigits (Nat.pow 2 63 - 1) .tooLarge cs).map fun n => (n : Int)

/-- The greatest number of 64 bits without a sign. -/
def maxNatural64 : Nat := UInt64.size - 1

end TaskCluster.Text
