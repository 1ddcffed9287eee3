import MarkLint.Text.Numeral

/-!
# JSON text

JSON values with integers for numbers, and their indented text. Characters outside ASCII are written as they are.
-/

namespace MarkLint

/-- A JSON value; the members of an object keep their order. -/
inductive Json where
  | null
  | bool (b : Bool)
  | int (n : Int)
  | str (s : String)
  | arr (items : List Json)
  | obj (members : List (String × Json))

namespace Json

/-- A character inside a string. -/
def escapeChar (c : Char) : List Char :=
  if c == '"' then ['\\', '"']
  else if c == '\\' then ['\\', '\\']
  else if c == '\n' then ['\\', 'n']
  else if c == '\r' then ['\\', 'r']
  else if c == '\t' then ['\\', 't']
  else if c.toNat == 8 then ['\\', 'b']
  else if c.toNat == 12 then ['\\', 'f']
  else if c.toNat < 32 then ['\\', 'u'] ++ Text.hexDigits 4 c.toNat
  else [c]

/-- A string in its quotes. -/
def quote (s : String) : String := "\"" ++ String.ofList (s.toList.flatMap escapeChar) ++ "\""

/-- A line break and the indentation of a line at the given depth, two spaces a level. -/
def newLine (depth : Nat) : String := "\n" ++ String.ofList (List.replicate (2 * depth) ' ')

mutual

/-- The text of a value whose first line stands at the given depth. -/
def render (depth : Nat) : Json → String
  | null => "null"
  | bool b => if b then "true" else "false"
  | int n => toString n
  | str s => quote s
  | arr [] => "[]"
  | arr (x :: xs) =>
    "[" ++ newLine (depth + 1) ++ render (depth + 1) x ++ renderItems (depth + 1) xs ++ newLine depth ++ "]"
  | obj [] => "\x7b\x7d"
  | obj ((k, x) :: ms) =>
    "\x7b" ++ newLine (depth + 1) ++ quote k ++ ": " ++ render (depth + 1) x ++ renderMembers (depth + 1) ms
      ++ newLine depth ++ "\x7d"

/-- The items of an array after the first. -/
def renderItems (depth : Nat) : List Json → String
  | [] => ""
  | x :: xs => "," ++ newLine depth ++ render depth x ++ renderItems depth xs

/-- The members of an object after the first. -/
def renderMembers (depth : Nat) : List (String × Json) → String
  | [] => ""
  | (k, x) :: ms => "," ++ newLine depth ++ quote k ++ ": " ++ render depth x ++ renderMembers depth ms

end

/-- The indented text of a value. -/
def pretty (j : Json) : String := j.render 0

end Json
end MarkLint
