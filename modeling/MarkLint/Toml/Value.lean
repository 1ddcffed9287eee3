/-!
# TOML values

A TOML document is a table. Tables keep their keys in the order in which they appeared. Numbers that are not integers,
dates and times are told apart from the rest, but their values are not kept.
-/

namespace MarkLint.Toml

/-- A value. -/
inductive Value where
  | text (s : String)
  | int (n : Int)
  | bool (b : Bool)
  | other
  | array (items : List Value)
  | table (entries : List (String × Value))
  deriving Repr, Inhabited

/-- The entries of a table. -/
abbrev Table := List (String × Value)

/-- A dotted key. -/
abbrev Key := List String

namespace Table

/-- The table with the value under the key replaced, or added at the end. -/
def set (t : Table) (key : String) (value : Value) : Table :=
  match t with
  | [] => [(key, value)]
  | (k, v) :: rest => if k = key then (key, value) :: rest else (k, v) :: Table.set rest key value

/-- Changes the table under a dotted key, which is created where it is missing. With `intoArrays` the last table of an
array of tables stands for the array; what is no table cannot be entered. -/
def modify? (intoArrays : Bool) (f : Table → Option Table) : Key → Table → Option Table
  | [], t => f t
  | k :: path, t =>
    match t.lookup k with
    | none => (modify? intoArrays f path []).map fun inner => t.set k (.table inner)
    | some (.table inner) => (modify? intoArrays f path inner).map fun inner => t.set k (.table inner)
    | some (.array items) =>
      match intoArrays, items.getLast? with
      | true, some (.table inner) =>
        (modify? intoArrays f path inner).map fun inner => t.set k (.array (items.dropLast ++ [.table inner]))
      | _, _ => none
    | some _ => none

/-- Adds a value under a new key of a table. -/
def add? (key : String) (value : Value) (t : Table) : Option Table :=
  if (t.lookup key).isSome then none else some (t.set key value)

/-- Adds an empty table to the array under a key, which may be new. -/
def append? (key : String) (t : Table) : Option Table :=
  match t.lookup key with
  | none => some (t.set key (.array [.table []]))
  | some (.array items) => some (t.set key (.array (items ++ [.table []])))
  | some _ => none

end Table
end MarkLint.Toml
