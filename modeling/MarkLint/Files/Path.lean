import MarkLint.Text.Case
import MarkLint.Text.Lines

/-!
# Paths

A path is a list of names after an anchor, which is empty for a relative path. Empty names and single dots are left out
when a path is read; double dots stay.
-/

namespace MarkLint.Files

open MarkLint.Text

/-- A path. -/
structure Path where
  anchor : String := ""
  parts : List String
  deriving Repr, DecidableEq

namespace Path

/-- The anchor of a path: two slashes at its start are kept, any other number of them counts as one. -/
def anchorOf (s : List Char) : String :=
  match (s.takeWhile (· == '/')).length with
  | 0 => ""
  | 2 => "//"
  | _ => "/"

/-- Reads a path. -/
def ofString (s : String) : Path :=
  let names := (pieces '/' s.toList).filter fun n => n ≠ [] ∧ n ≠ ['.']
  ⟨anchorOf s.toList, names.map String.ofList⟩

/-- The text of a path. -/
def toString (p : Path) : String :=
  if p.anchor = "" ∧ p.parts = [] then "." else p.anchor ++ "/".intercalate p.parts

/-- Is the path absolute? -/
def isAbsolute (p : Path) : Bool := p.anchor ≠ ""

/-- The path `q` as seen from `p`. -/
def join (p q : Path) : Path := if q.isAbsolute then q else ⟨p.anchor, p.parts ++ q.parts⟩

/-- The path of an entry of the directory. -/
def child (p : Path) (name : String) : Path := ⟨p.anchor, p.parts ++ [name]⟩

/-- The last name of a path. -/
def name (p : Path) : String := p.parts.getLastD ""

/-- The directories that enclose a path, nearest first. -/
def parents (p : Path) : List Path :=
  (List.range p.parts.length).reverse.map fun n => ⟨p.anchor, p.parts.take n⟩

/-- The suffix of a name: what follows its last dot, dot and all, unless the dot is its first or its last character. -/
def suffixOf (name : List Char) : List Char :=
  let tail := (name.reverse.takeWhile (· ≠ '.')).reverse
  if tail = [] ∨ name.length ≤ tail.length + 1 then [] else '.' :: tail

/-- Does the path name a Markdown file? -/
def isMarkdown (p : Path) : Bool :=
  let suffix := String.ofList (lower (suffixOf p.name.toList))
  suffix == ".md" || suffix == ".markdown"

/-- Does the first path stand no later than the second? -/
def before (p q : Path) : Bool := !(decide (q.parts < p.parts))

end Path
end MarkLint.Files
