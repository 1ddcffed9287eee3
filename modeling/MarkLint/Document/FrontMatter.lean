import MarkLint.Text.Blank
import MarkLint.Text.Lines

/-!
# Front matter

A document may open with a block of metadata between two lines of three hyphens. The opening line is the first line of
the text. The block is closed by the first such line after the second line of the text; only when there is none may the
second line itself close it. The lines of the block are hidden from the Markdown reader, which sees empty lines in
their place, so that all later lines keep their numbers.
-/

namespace MarkLint.FrontMatter

open MarkLint.Text

/-- Is the line three hyphens with spaces and tabs after them? -/
def isRule (line : List Char) : Bool :=
  match line with
  | '-' :: '-' :: '-' :: rest => rest.all isIndent
  | _ => false

/-- The line without one carriage return at its end. -/
def dropReturn (line : List Char) : List Char :=
  if line.getLast? == some '\r' then line.dropLast else line

/-- Is the line a delimiter? A carriage return at its end counts as part of the line break, which the last line of a
text does not have. -/
def isDelimiter (line : List Char) (isLast : Bool) : Bool :=
  isRule (if isLast then line else dropReturn line)

/-- The index of the first delimiter among lines, the first of which has the index `index`. -/
def findDelimiter (index : Nat) : List (List Char) → Option Nat
  | [] => none
  | line :: rest => if isDelimiter line rest.isEmpty then some index else findDelimiter (index + 1) rest

/-- The number of lines of the front matter, 0 without one. -/
def lineCount (source : List Char) : Nat :=
  match lines source with
  | opening :: second :: rest =>
    if isDelimiter opening false then
      match findDelimiter 2 rest with
      | some index => index + 1
      | none => if isDelimiter second rest.isEmpty then 2 else 0
    else 0
  | _ => 0

/-- The text that the Markdown reader sees when the first `count` lines are front matter. -/
def hide (count : Nat) (source : List Char) : List Char :=
  if count = 0 then source else List.replicate count '\n' ++ unlines ((lines source).drop count)

end MarkLint.FrontMatter
