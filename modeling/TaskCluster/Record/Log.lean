import TaskCluster.Text.Blank

/-!
# The processing log of a task

A log holds the newest lines about a task. It is cut to a number of characters, oldest first, and a
blank line is not written at all.
-/

namespace TaskCluster.Log

/-- The most characters that a log keeps. -/
def capacity : Nat := 65000

/-- The last `count` items of a list, all if there are no more. -/
def newest {α : Type} (count : Nat) (l : List α) : List α := l.drop (l.length - count)

/-- The text cut to the capacity. A text that fits stays as it is. -/
def fit (s : String) : String :=
  if s.length ≤ capacity then s else String.ofList (newest capacity s.toList)

/-- A line behind the log, on a line of its own unless the log is empty. -/
def joined (log : Option String) (line : String) : String :=
  match log with
  | none => line
  | some text => if text.isEmpty then line else text ++ "\n" ++ line

/-- The log with a line added. -/
def append (log : Option String) (line : String) : Option String :=
  if Text.isBlank line then log else some (fit (joined log line))

/-- The log with a line added if there is one. -/
def append? (log : Option String) : Option String → Option String
  | none => log
  | some line => append log line

end TaskCluster.Log
