import MarkLint.Text.Entity
import MarkLint.Text.Punctuation

/-!
# Backslash escapes and character references in link parts
-/

namespace MarkLint.Markdown

open MarkLint.Text

/-- The text of a numeric reference to a code point; one that may not be referred to becomes the replacement
character. -/
def referenceChar (n : Nat) : Char := if isReferable n then Char.ofNat n else Char.ofNat 0xFFFD

/-- The character that the name of a numeric reference (`#35`, `#x23`) denotes, if it may be referred to. -/
def numericReference? (name : List Char) : Option Char :=
  match name with
  | '#' :: digits =>
    let value : Option Nat :=
      if digits.all Char.isDigit && 1 ≤ digits.length && digits.length ≤ 8 then some (digitsValue 10 digits)
      else match digits with
        | x :: hex =>
          if (x == 'x' || x == 'X') && hex.all (fun c => (hexValue? c).isSome) && 1 ≤ hex.length && hex.length ≤ 8 then
            some (digitsValue 16 hex)
          else none
        | [] => none
    value.bind fun n => if isReferable n then some (Char.ofNat n) else none
  | _ => none

/-- The text that a reference in a link part stands for; `name` is what stands between `&` and `;`. -/
def linkReference? (name : List Char) : Option (List Char) :=
  match entity? name with
  | some text => some text
  | none => (numericReference? name).map ([·])

/-- The name of the reference that follows an ampersand. -/
def referenceName? (s : List Char) : Option (List Char) :=
  match s with
  | c :: rest =>
    let more := rest.takeWhile Char.isAlphanum
    if (c.isAlpha || c == '#') && 1 ≤ more.length && more.length ≤ 31 && rest[more.length]? == some ';' then
      some (c :: more)
    else none
  | [] => none

/-- The text with its escapes and references resolved, after the first `skip` characters, which have been dealt with. -/
def unescapeFrom (skip : Nat) : List Char → List Char
  | [] => []
  | c :: rest =>
    match skip with
    | k + 1 => unescapeFrom k rest
    | 0 =>
      if c == '\\' && rest.head?.any isAsciiPunctuation then rest.take 1 ++ unescapeFrom 1 rest
      else if c == '&' then
        match (referenceName? rest).bind fun name => (linkReference? name).map fun text => (name, text) with
        | some (name, text) => text ++ unescapeFrom (name.length + 1) rest
        | none => c :: unescapeFrom 0 rest
      else c :: unescapeFrom 0 rest

/-- The text of a link part with its backslash escapes and character references resolved. -/
def unescape (s : List Char) : List Char := unescapeFrom 0 s

end MarkLint.Markdown
