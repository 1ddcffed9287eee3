import Std.Data.HashMap
import MarkLint.Text.EntityTable
import MarkLint.Text.Lines
import MarkLint.Text.Numeral

/-!
# Character references

Named references (`&amp;`) and numeric ones (`&#35;`, `&#x23;`), as HTML defines them.
-/

namespace MarkLint.Text

/-- One entry of the table: a name and the characters it stands for. -/
def readEntity (entry : List Char) : String × String :=
  match pieces '=' entry with
  | [name, codes] => (String.ofList name, String.ofList ((pieces '+' codes).map fun d => Char.ofNat (digitsValue 16 d)))
  | _ => ("", "")

/-- The named references. -/
def entities : Std.HashMap String String :=
  entityLines.foldl (fun table line =>
    (pieces ' ' line.toList).foldl (fun table entry =>
      let e := readEntity entry
      table.insert e.1 e.2) table) ∅

/-- The text that a named reference stands for. -/
def entity? (name : List Char) : Option (List Char) := (entities[String.ofList name]?).map String.toList

/-- May a numeric reference denote the code point `n`? Surrogates, noncharacters and most controls are excluded. -/
def isReferable (n : Nat) : Bool :=
  !((0xD800 ≤ n && n ≤ 0xDFFF) || (0xFDD0 ≤ n && n ≤ 0xFDEF) || n % 0x10000 == 0xFFFF || n % 0x10000 == 0xFFFE
    || n ≤ 8 || n == 0xB || (0xE ≤ n && n ≤ 0x1F) || (0x7F ≤ n && n ≤ 0x9F) || n > 0x10FFFF)

end MarkLint.Text
