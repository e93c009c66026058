/-!
# JSON values

A number keeps whether it was written as a whole number; objects hold their fields in ascending
order of the keys, each key once.
-/

namespace TaskCluster.Json

/-- A whole number in the range of 64 bits, signed or unsigned, or a binary64 number. -/
inductive Number where
  | int (i : Int)
  | float (f : Float)

inductive Value where
  | null
  | bool (b : Bool)
  | num (n : Number)
  | str (s : String)
  | arr (items : List Value)
  | obj (fields : List (String × Value))

instance : Inhabited Value := ⟨.null⟩

/-- Fields in strictly ascending order of their keys. -/
abbrev Object := List (String × Value)

namespace Object

/-- Sets a field; a field of that key is replaced. -/
def insert (key : String) (value : Value) : Object → Object
  | [] => [(key, value)]
  | (k, v) :: rest =>
    if key < k then (key, value) :: (k, v) :: rest
    else if key = k then (key, value) :: rest
    else (k, v) :: insert key value rest

/-- The value of a field. -/
def get? (key : String) : Object → Option Value
  | [] => none
  | (k, v) :: rest => if key = k then some v else get? key rest

/-- The object with these fields; of a repeated key the last value counts. -/
def ofList (fields : List (String × Value)) : Object :=
  fields.foldl (fun o f => o.insert f.1 f.2) []

end Object

/-- The object of the fields, whatever their order. -/
def Value.object (fields : List (String × Value)) : Value := .obj (Object.ofList fields)

/-- A whole number. -/
def Value.int (i : Int) : Value := .num (.int i)

/-- A text, or null for none. -/
def Value.str? : Option String → Value
  | none => .null
  | some s => .str s

/-- A whole number, or null for none. -/
def Value.int? : Option Int → Value
  | none => .null
  | some i => .int i

end TaskCluster.Json
