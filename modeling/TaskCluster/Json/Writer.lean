import TaskCluster.Decimal.Binary64
import TaskCluster.Json.Value

/-!
# Writing JSON

`compact` writes without blanks; `pretty` puts every element on a line of its own, indented by two
spaces. Both write the fields of an object in the order in which they are given.
-/

namespace TaskCluster.Json

/-- Numbers from `0.00001` up to sixteen digits before the point are written positionally. -/
def floatLayout : Decimal.Layout :=
  { least := -5, greatest := 15, pointBeforeExponent := false, exponentWidth := 0 }

/-- A finite number with the fewest digits that read back. -/
def floatText (f : Float) : String :=
  let b := Decimal.Binary.ofBits f.toBits
  let sign := if b.negative then "-" else ""
  if b.significand = 0 then sign ++ "0.0" else sign ++ floatLayout.write b.shortest

/-- A number; infinities and non-numbers have no JSON text and become null. -/
def Number.text : Number → String
  | .int i => toString i
  | .float f => if f.isFinite then floatText f else "null"

/-- Four hexadecimal digits of a code below 256. -/
def controlEscape (n : Nat) : String :=
  let digits := String.ofList (Nat.toDigits 16 n)
  "\\u00" ++ (if n < 16 then "0" else "") ++ digits

/-- One character inside a string. -/
def escapeChar (c : Char) : String :=
  if c = '"' then "\\\""
  else if c = '\\' then "\\\\"
  else if c = '\n' then "\\n"
  else if c = '\r' then "\\r"
  else if c = '\t' then "\\t"
  else if c.toNat = 8 then "\\b"
  else if c.toNat = 12 then "\\f"
  else if c.toNat < 0x20 then controlEscape c.toNat
  else c.toString

/-- A string with its quotes. -/
def quoteString (s : String) : String :=
  "\"" ++ s.toList.foldl (fun out c => out ++ escapeChar c) "" ++ "\""

mutual

/-- The text of a value without blanks. -/
def Value.compact : Value → String
  | .null => "null"
  | .bool true => "true"
  | .bool false => "false"
  | .num n => n.text
  | .str s => quoteString s
  | .arr items => "[" ++ compactItems items ++ "]"
  | .obj fields => "\x7b" ++ compactFields fields ++ "\x7d"

/-- Items with commas between them. -/
def compactItems : List Value → String
  | [] => ""
  | [v] => v.compact
  | v :: w :: rest => v.compact ++ "," ++ compactItems (w :: rest)

/-- Fields with commas between them. -/
def compactFields : List (String × Value) → String
  | [] => ""
  | [(k, v)] => quoteString k ++ ":" ++ v.compact
  | (k, v) :: f :: rest =>
    quoteString k ++ ":" ++ v.compact ++ "," ++ compactFields (f :: rest)

end

/-- A line break and the indentation of a depth. -/
def newline (depth : Nat) : String := "\n" ++ String.ofList (List.replicate (2 * depth) ' ')

mutual

/-- The text of a value at a depth, one element a line. -/
def Value.prettyAt (depth : Nat) : Value → String
  | .arr [] => "[]"
  | .arr items => "[" ++ prettyItems (depth + 1) items ++ newline depth ++ "]"
  | .obj [] => "\x7b\x7d"
  | .obj fields => "\x7b" ++ prettyFields (depth + 1) fields ++ newline depth ++ "\x7d"
  | v => v.compact

/-- Items, each on a line of its own. -/
def prettyItems (depth : Nat) : List Value → String
  | [] => ""
  | [v] => newline depth ++ v.prettyAt depth
  | v :: w :: rest => newline depth ++ v.prettyAt depth ++ "," ++ prettyItems depth (w :: rest)

/-- Fields, each on a line of its own. -/
def prettyFields (depth : Nat) : List (String × Value) → String
  | [] => ""
  | [(k, v)] => newline depth ++ quoteString k ++ ": " ++ v.prettyAt depth
  | (k, v) :: f :: rest =>
    newline depth ++ quoteString k ++ ": " ++ v.prettyAt depth ++ "," ++
      prettyFields depth (f :: rest)

end

/-- The text of a value, one element a line. -/
def Value.pretty (v : Value) : String := v.prettyAt 0

end TaskCluster.Json
