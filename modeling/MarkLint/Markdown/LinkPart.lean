import MarkLint.Markdown.Escape
import MarkLint.Text.Case

/-!
# Parts of links

Readers for the destination and the title of a link, and for the label of a reference. They work on a text that is an
array of characters, from an index up to a limit.
-/

namespace MarkLint.Markdown

open MarkLint.Text

/-- A destination: its text, and the index after it. -/
structure Destination where
  text : List Char
  stop : Nat

namespace Destination

/-- Finds the `>` of a destination in angle brackets. -/
def findBracket (src : Array Char) (limit : Nat) : (fuel : Nat) → (pos : Nat) → Option Nat
  | 0, _ => none
  | fuel + 1, pos =>
    if limit ≤ pos then none
    else match src[pos]? with
      | none => none
      | some c =>
        if c == '\n' || c == '<' then none
        else if c == '>' then some pos
        else if c == '\\' && pos + 1 < limit then findBracket src limit fuel (pos + 2)
        else findBracket src limit fuel (pos + 1)

/-- Finds the end of a destination without brackets: a space or control character, or a parenthesis that is not
balanced. Parentheses may be nested up to 32 deep. -/
def findEnd (src : Array Char) (limit : Nat) : (fuel : Nat) → (pos depth : Nat) → Option Nat
  | 0, _, _ => none
  | fuel + 1, pos, depth =>
    let stop := if depth = 0 then some pos else none
    if limit ≤ pos then stop
    else match src[pos]? with
      | none => stop
      | some c =>
        if c.toNat ≤ 32 || c.toNat == 127 then stop
        else if c == '\\' && pos + 1 < limit then
          if src[pos + 1]? == some ' ' then stop else findEnd src limit fuel (pos + 2) depth
        else if c == '(' then if 32 ≤ depth then none else findEnd src limit fuel (pos + 1) (depth + 1)
        else if c == ')' then if depth = 0 then stop else findEnd src limit fuel (pos + 1) (depth - 1)
        else findEnd src limit fuel (pos + 1) depth

/-- Reads a destination. -/
def read? (src : Array Char) (pos limit : Nat) : Option Destination :=
  if src[pos]? == some '<' then
    (findBracket src limit (src.size + 1) (pos + 1)).map fun stop =>
      ⟨unescape (src.extract (pos + 1) stop).toList, stop + 1⟩
  else
    match findEnd src limit (src.size + 1) pos 0 with
    | some stop => if stop = pos then none else some ⟨unescape (src.extract pos stop).toList, stop⟩
    | none => none

end Destination

/-- What reading a title finds. The text of a title does not matter, only whether it has any. -/
inductive Title where
  /-- No title, or one that cannot be right. -/
  | absent
  /-- The title goes on past the limit, with this closing mark. -/
  | unfinished (mark : Char) (hasText : Bool)
  /-- The index after the title. -/
  | finished (stop : Nat) (hasText : Bool)
  deriving Repr, DecidableEq

namespace Title

/-- Looks for the closing mark from `pos` on; the title starts at `start`. -/
def find (src : Array Char) (limit start : Nat) (mark : Char) (hasText : Bool) : (fuel : Nat) → (pos : Nat) → Title
  | 0, _ => .absent
  | fuel + 1, pos =>
    if limit ≤ pos then .unfinished mark (hasText || start < pos)
    else match src[pos]? with
      | none => .unfinished mark (hasText || start < pos)
      | some c =>
        if c == mark then .finished (pos + 1) (hasText || start < pos)
        else if c == '(' && mark == ')' then .absent
        else if c == '\\' && pos + 1 < limit then find src limit start mark hasText fuel (pos + 2)
        else find src limit start mark hasText fuel (pos + 1)

/-- Reads a title. -/
def read (src : Array Char) (pos limit : Nat) : Title :=
  if limit ≤ pos then .absent
  else match src[pos]? with
    | some '"' => find src limit (pos + 1) '"' false (src.size + 1) (pos + 1)
    | some '\'' => find src limit (pos + 1) '\'' false (src.size + 1) (pos + 1)
    | some '(' => find src limit (pos + 1) ')' false (src.size + 1) (pos + 1)
    | _ => .absent

/-- Goes on reading a title that was unfinished at `pos`. -/
def resume (src : Array Char) (pos limit : Nat) (mark : Char) (hasText : Bool) : Title :=
  find src limit pos mark hasText (src.size + 1) pos

end Title

/-- The first index from `pos` on, below the limit, whose character is not a space, a tab or a line break. -/
def skipSpaces (src : Array Char) (limit : Nat) : (fuel : Nat) → (pos : Nat) → Nat
  | 0, pos => pos
  | fuel + 1, pos =>
    if limit ≤ pos then pos
    else if src[pos]?.any fun c => isIndent c || c == '\n' then skipSpaces src limit fuel (pos + 1) else pos

/-- The form under which the label of a reference is looked up. -/
def normalizeLabel (label : List Char) : String := String.ofList (upper (lower (collapse label)))

/-- The destinations of the reference definitions, under their labels; of several with one label the first counts. -/
abbrev References := List (String × List Char)

end MarkLint.Markdown
