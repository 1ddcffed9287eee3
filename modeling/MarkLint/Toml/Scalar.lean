import MarkLint.Text.Blank
import MarkLint.Text.Numeral
import MarkLint.Toml.Value

/-!
# TOML strings, numbers and dates

Each reader takes a text and gives what it read with the text after it, or `none` where the text is not TOML. The
readers of values tell apart why they fail, since decimal integers may be too long to be read (`Fault`).
-/

namespace MarkLint.Toml

open MarkLint.Text

/-- What a reader gives: what it read, and the text after it. -/
abbrev Reader (α : Type) := List Char → Option (α × List Char)

/-- Why nothing can be read: the text is not TOML, or it has an integer in it with too many decimal digits. -/
inductive Fault where
  | malformed
  | tooLong
  deriving Repr, DecidableEq

/-- What a reader of values gives: what it read and the text after it, or why there is none. -/
abbrev ValueReader (α : Type) := List Char → Except Fault (α × List Char)

/-- What was read; where nothing was, the text is not TOML. -/
def orMalformed {α : Type} : Option α → Except Fault α
  | some a => .ok a
  | none => .error .malformed

/-- Control characters other than the tab are nowhere allowed. -/
def isControl (c : Char) : Bool := (c.toNat < 32 && c != '\t') || c.toNat == 127

/-- The text after its spaces and tabs. -/
def skipSpaces (s : List Char) : List Char := s.dropWhile isIndent

/-! ## Strings -/

/-- Reads a character that is given by `size` hexadecimal digits. -/
def hexChar? (size : Nat) (s : List Char) : Option (Char × List Char) :=
  let digits := s.take size
  let n := digitsValue 16 digits
  if digits.length = size ∧ digits.all (fun c => (hexValue? c).isSome) ∧ (n < 0xD800 ∨ (0xDFFF < n ∧ n ≤ 0x10FFFF)) then
    some (Char.ofNat n, s.drop size)
  else none

/-- Reads what follows a backslash. -/
def escape? : List Char → Option (Char × List Char)
  | 'b' :: s => some (Char.ofNat 8, s)
  | 't' :: s => some ('\t', s)
  | 'n' :: s => some ('\n', s)
  | 'f' :: s => some (Char.ofNat 12, s)
  | 'r' :: s => some ('\r', s)
  | '"' :: s => some ('"', s)
  | '\\' :: s => some ('\\', s)
  | 'u' :: s => hexChar? 4 s
  | 'U' :: s => hexChar? 8 s
  | _ => none

/-- Reads the rest of a line and the blank lines and indentation after it, for a backslash at the end of a line. -/
def lineJoin? (s : List Char) : Option (List Char) :=
  match s with
  | c :: _ =>
    if isIndent c || c == '\n' then
      match skipSpaces s with
      | [] => some []
      | '\n' :: rest => some (rest.dropWhile fun c => isIndent c || c == '\n')
      | _ => none
    else none
  | [] => none

/-- Reads a basic string up to its quotes. -/
def basicString (isMultiline : Bool) : (fuel : Nat) → Reader (List Char)
  | 0, _ => none
  | fuel + 1, s =>
    match s with
    | [] => none
    | '"' :: rest =>
      if isMultiline then
        match rest with
        | '"' :: '"' :: more => some ([], more)
        | _ => (basicString isMultiline fuel rest).map fun (t, more) => ('"' :: t, more)
      else some ([], rest)
    | '\\' :: rest =>
      match if isMultiline then lineJoin? rest else none with
      | some more => basicString isMultiline fuel more
      | none =>
        (escape? rest).bind fun (c, more) => (basicString isMultiline fuel more).map fun (t, more) => (c :: t, more)
    | c :: rest =>
      if isControl c && !(isMultiline && c == '\n') then none
      else (basicString isMultiline fuel rest).map fun (t, more) => (c :: t, more)

/-- Reads a literal string up to its quote. -/
def literalString : Reader (List Char)
  | [] => none
  | c :: rest =>
    if c == '\'' then some ([], rest)
    else if isControl c then none
    else (literalString rest).map fun (t, more) => (c :: t, more)

/-- Reads a literal string of several lines up to its quotes. -/
def literalLines : Reader (List Char)
  | '\'' :: '\'' :: '\'' :: rest => some ([], rest)
  | [] => none
  | c :: rest =>
    if isControl c && c != '\n' then none else (literalLines rest).map fun (t, more) => (c :: t, more)

/-- Up to two quotes just before the closing ones belong to the string. -/
def extraQuotes (quote : Char) (t s : List Char) : List Char × List Char :=
  let n := min 2 (s.takeWhile (· == quote)).length
  (t ++ List.replicate n quote, s.drop n)

/-- A line break just after the opening quotes does not belong to the string. -/
def dropFirstBreak : List Char → List Char
  | '\n' :: s => s
  | s => s

/-- Reads a string that may be a key. -/
def quoted? : Reader (List Char)
  | '"' :: s => basicString false (s.length + 1) s
  | '\'' :: s => literalString s
  | _ => none

/-- Reads a string. -/
def string? : Reader (List Char)
  | '"' :: '"' :: '"' :: s =>
    (basicString true (s.length + 1) (dropFirstBreak s)).map fun (t, rest) => extraQuotes '"' t rest
  | '\'' :: '\'' :: '\'' :: s =>
    (literalLines (dropFirstBreak s)).map fun (t, rest) => extraQuotes '\'' t rest
  | s => quoted? s

/-! ## Numbers -/

/-- Reads further digits, each of which may follow an underscore. -/
def moreDigits (isDigit : Char → Bool) : List Char → List Char × List Char
  | '_' :: c :: rest =>
    if isDigit c then
      let (ds, more) := moreDigits isDigit rest
      (c :: ds, more)
    else ([], '_' :: c :: rest)
  | c :: rest =>
    if isDigit c then
      let (ds, more) := moreDigits isDigit rest
      (c :: ds, more)
    else ([], c :: rest)
  | [] => ([], [])

/-- Reads digits with underscores between them. -/
def digits? (isDigit : Char → Bool) : Reader (List Char)
  | [] => none
  | c :: rest =>
    if isDigit c then
      let (ds, more) := moreDigits isDigit rest
      some (c :: ds, more)
    else none

/-- Reads the digits of an integer to the base `base`. -/
def intTo? (base : Nat) (isDigit : Char → Bool) (s : List Char) : Option (Value × List Char) :=
  (digits? isDigit s).map fun (ds, rest) => (.int (digitsValue base ds), rest)

/-- Reads an integer to the base 16, 8 or 2. -/
def basedInt? : Reader Value
  | '0' :: 'x' :: s => intTo? 16 (fun c => (hexValue? c).isSome) s
  | '0' :: 'o' :: s => intTo? 8 (fun c => '0' ≤ c && c ≤ '7') s
  | '0' :: 'b' :: s => intTo? 2 (fun c => c == '0' || c == '1') s
  | _ => none

/-- The text after a fraction, if it has one. -/
def skipFraction (s : List Char) : List Char :=
  match s with
  | '.' :: rest => ((digits? Char.isDigit rest).map Prod.snd).getD s
  | _ => s

/-- The text after an exponent, if it has one. -/
def skipExponent (s : List Char) : List Char :=
  match s with
  | c :: rest =>
    if c == 'e' || c == 'E' then
      let rest := match rest with
        | d :: more => if d == '+' || d == '-' then more else rest
        | [] => rest
      ((digits? Char.isDigit rest).map Prod.snd).getD s
    else s
  | [] => s

/-- Reads the digits of a decimal integer, which has no leading zeros. -/
def decimalDigits? : Reader (List Char)
  | '0' :: rest => some (['0'], rest)
  | s => digits? Char.isDigit s

/-- The integer with the given decimal digits. -/
def decimalInt (isNegative : Bool) (ds : List Char) : Except Fault Value :=
  if ds.length ≤ maxDigits then
    let n : Int := digitsValue 10 ds
    .ok (.int (if isNegative then -n else n))
  else .error .tooLong

/-- Reads a decimal number. -/
def decimal (s : List Char) : Except Fault (Value × List Char) := do
  let (isNegative, body) :=
    match s with
    | '-' :: rest => (true, rest)
    | '+' :: rest => (false, rest)
    | _ => (false, s)
  let (ds, rest) ← orMalformed (decimalDigits? body)
  let after := skipExponent (skipFraction rest)
  if after.length < rest.length then return (.other, after)
  else return (← decimalInt isNegative ds, rest)

/-- Reads an infinity or what is not a number. -/
def specialNumber? (s : List Char) : Option (Value × List Char) :=
  let body := match s with
    | '-' :: rest => rest
    | '+' :: rest => rest
    | _ => s
  if "inf".toList.isPrefixOf body || "nan".toList.isPrefixOf body then some (.other, body.drop 3) else none

/-! ## Dates and times -/

/-- Reads a number of exactly `size` digits that lies between two bounds. -/
def fixed? (size low high : Nat) (s : List Char) : Option (Nat × List Char) :=
  let ds := s.take size
  let n := digitsValue 10 ds
  if ds.length = size ∧ ds.all Char.isDigit ∧ low ≤ n ∧ n ≤ high then some (n, s.drop size) else none

/-- The text after a character. -/
def char? (c : Char) : List Char → Option (List Char)
  | d :: rest => if d == c then some rest else none
  | [] => none

/-- The text after a time of day. -/
def time? (s : List Char) : Option (List Char) := do
  let (_, s) ← fixed? 2 0 23 s
  let s ← char? ':' s
  let (_, s) ← fixed? 2 0 59 s
  let s ← char? ':' s
  let (_, s) ← fixed? 2 0 59 s
  match s with
  | '.' :: rest =>
    let ds := rest.takeWhile Char.isDigit
    return if ds.isEmpty then s else rest.drop ds.length
  | _ => return s

/-- The text after a time zone, if there is one. -/
def skipZone (s : List Char) : List Char :=
  match s with
  | c :: rest =>
    if c == 'Z' || c == 'z' then rest
    else if c == '+' || c == '-' then
      (do
        let (_, s) ← fixed? 2 0 23 rest
        let s ← char? ':' s
        let (_, s) ← fixed? 2 0 59 s
        return s).getD s
    else s
  | [] => s

/-- The number of days of a month. -/
def daysInMonth (year month : Nat) : Nat :=
  if month = 2 then if year % 4 = 0 ∧ (year % 100 ≠ 0 ∨ year % 400 = 0) then 29 else 28
  else if month = 4 ∨ month = 6 ∨ month = 9 ∨ month = 11 then 30 else 31

/-- Reads a date, and a time with an optional zone if one follows: whether the date exists, and the text after it. -/
def date? (s : List Char) : Option (Bool × List Char) := do
  let (year, s) ← fixed? 4 0 9999 s
  let s ← char? '-' s
  let (month, s) ← fixed? 2 1 12 s
  let s ← char? '-' s
  let (day, s) ← fixed? 2 1 31 s
  let exists_ := 1 ≤ year && day ≤ daysInMonth year month
  match s with
  | c :: rest =>
    if c == 'T' || c == 't' || c == ' ' then
      match time? rest with
      | some after => return (exists_, skipZone after)
      | none => return (exists_, s)
    else return (exists_, s)
  | [] => return (exists_, s)

/-- Reads a value that is no array and no table. -/
def scalar (s : List Char) : Except Fault (Value × List Char) :=
  match s with
  | '"' :: _ => orMalformed ((string? s).map fun (t, rest) => (.text (String.ofList t), rest))
  | '\'' :: _ => orMalformed ((string? s).map fun (t, rest) => (.text (String.ofList t), rest))
  | _ =>
    if "true".toList.isPrefixOf s then .ok (.bool true, s.drop 4)
    else if "false".toList.isPrefixOf s then .ok (.bool false, s.drop 5)
    else match date? s with
      | some (true, rest) => .ok (.other, rest)
      | some (false, _) => .error .malformed
      | none =>
        match time? s with
        | some rest => .ok (.other, rest)
        | none =>
          match basedInt? s <|> specialNumber? s with
          | some number => .ok number
          | none => decimal s

end MarkLint.Toml
