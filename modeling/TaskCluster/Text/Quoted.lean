import TaskCluster.Text.Printable

/-!
# Quoted text in diagnostics

Diagnostics show a text between double quotes, with a backslash before quotes and backslashes,
short escapes for the common control characters and a braced hexadecimal code point for everything
else that is not printed as itself.
-/

namespace TaskCluster.Text

/-- The digits of a number in lower-case hexadecimal, without leading zeros. -/
def hex (n : Nat) : String := String.ofList (Nat.toDigits 16 n)

/-- One character of a quoted text. -/
def quoteChar (c : Char) : String :=
  if c = '"' then "\\\""
  else if c = '\\' then "\\\\"
  else if c = '\n' then "\\n"
  else if c = '\r' then "\\r"
  else if c = '\t' then "\\t"
  else if c.toNat = 0 then "\\0"
  else if isPrintable c then c.toString
  else "\\u\x7b" ++ hex c.toNat ++ "\x7d"

/-- The text between double quotes. -/
def quote (s : String) : String :=
  "\"" ++ s.toList.foldl (fun out c => out ++ quoteChar c) "" ++ "\""

/-- A bracketed list of quoted texts. -/
def quoteList (ss : List String) : String :=
  "[" ++ ", ".intercalate (ss.map quote) ++ "]"

end TaskCluster.Text
