import Std.Data.HashMap
import MarkLint.Markdown.Address
import MarkLint.Markdown.LinkPart
import MarkLint.Markdown.Tag

/-!
# Inline tokens

Reads the construct that starts at a place of an inline text: an escape, a code span, a link and so on. The end of a
link label is found by skipping tokens, so a label may hold links and images itself; what the skipping finds is kept
in a `Memo`, so that each place is looked at once.
-/

namespace MarkLint.Markdown

open MarkLint.Text

/-- An inline text and the definitions that its links may use. -/
structure InlineText where
  chars : Array Char
  references : References

/-- What has been found out about a text: where skipping a token from a place leads, and the last places of runs of
backticks by their length, once all of them have been seen. -/
structure Memo where
  ends : Std.HashMap Nat Nat := ∅
  ticks : Std.HashMap Nat Nat := ∅
  ticksDone : Bool := false

/-- What an inline token stands for. -/
inductive Meaning where
  /-- Text that may still be joined with text around it. -/
  | text (s : List Char)
  /-- Text from an escape or a character reference. -/
  | special (s : List Char)
  | lineBreak
  | hardBreak
  | code (s : List Char)
  | html (s : List Char)
  | link (address : List Char) (start stop : Nat)
  | image (address label : List Char)
  | autolink (address label : List Char)

/-- An inline token: its meaning, and the place after it. -/
structure Token where
  meaning : Meaning
  stop : Nat

/-- Skips the token at a place of a text, below a limit. -/
abbrev Skipper := (limit pos : Nat) → Memo → Nat × Memo

/-- Characters at which something else than plain text may start. -/
def isSpecial (c : Char) : Bool := "\n!#$%&*+-:<=>@[\\]^_\x60\x7b\x7d~".toList.contains c

namespace InlineText

variable (t : InlineText)

/-- The character at a place. -/
def at? (pos : Nat) : Option Char := t.chars[pos]?

/-- The characters from one place up to another. -/
def slice (start stop : Nat) : List Char := (t.chars.extract start stop).toList

/-- The first place from `pos` on, below the limit, whose character fails the test. -/
def skipWhile (p : Char → Bool) (limit : Nat) : (fuel : Nat) → (pos : Nat) → Nat
  | 0, pos => pos
  | fuel + 1, pos => if pos < limit ∧ (t.at? pos).any p then skipWhile p limit fuel (pos + 1) else pos

/-- The first place from `pos` on, below the limit, that is no space or tab. -/
def skipIndent (limit pos : Nat) : Nat := t.skipWhile isIndent limit (limit - pos) pos

/-- The first place from `pos` on, below the limit, that is no white space. -/
def skipSpaces (limit pos : Nat) : Nat := t.skipWhile (fun c => isIndent c || c == '\n') limit (limit - pos) pos

/-! ## Text, breaks and escapes -/

/-- Plain text up to the next special character. -/
def textToken (limit pos : Nat) : Token :=
  let stop := t.skipWhile (fun c => !isSpecial c) limit (limit - pos) pos
  ⟨.text (t.slice pos stop), stop⟩

/-- A line break takes the indentation of the next line with it. -/
def breakToken (limit pos : Nat) : Token := ⟨.lineBreak, t.skipIndent limit (pos + 1)⟩

/-- A backslash escapes punctuation and line breaks; before other characters it stands for itself. -/
def escapeToken? (limit pos : Nat) : Option Token :=
  if limit ≤ pos + 1 then none
  else (t.at? (pos + 1)).map fun c =>
    if c == '\n' then ⟨.hardBreak, t.skipIndent limit (pos + 2)⟩
    else ⟨.special (if isAsciiPunctuation c then [c] else ['\\', c]), pos + 2⟩

/-- The place of the next backtick from `pos` on. -/
def nextTick? : (fuel : Nat) → (pos : Nat) → Option Nat
  | 0, _ => none
  | fuel + 1, pos =>
    match t.at? pos with
    | none => none
    | some c => if c == '\x60' then some pos else nextTick? fuel (pos + 1)

/-- The place after the run of backticks at `pos`. -/
def tickRunEnd (limit pos : Nat) : Nat := t.skipWhile (· == '\x60') limit (limit - pos) pos

/-- Looks for a run of `size` backticks from `pos` on, and notes the places of other runs. -/
def findTicks (size limit : Nat) : (fuel : Nat) → (pos : Nat) → Memo → Option (Nat × Nat) × Memo
  | 0, _, memo => (none, { memo with ticksDone := true })
  | fuel + 1, pos, memo =>
    match t.nextTick? (t.chars.size + 1) pos with
    | none => (none, { memo with ticksDone := true })
    | some start =>
      let stop := t.tickRunEnd limit (start + 1)
      if stop - start = size then (some (start, stop), memo)
      else findTicks size limit fuel stop { memo with ticks := memo.ticks.insert (stop - start) start }

/-- The text of a code span: line breaks become spaces, and one space goes at either end if both have one and there is
something between. -/
def codeText (s : List Char) : List Char :=
  let s := s.map fun c => if c == '\n' then ' ' else c
  if s.head? == some ' ' && s.getLast? == some ' ' && !isBlankText s then (s.drop 1).dropLast else s

/-- A code span, or backticks that stand for themselves. -/
def codeToken (limit pos : Nat) (memo : Memo) : Token × Memo :=
  let start := t.tickRunEnd limit (pos + 1)
  let plain : Token := ⟨.text (t.slice pos start), start⟩
  if memo.ticksDone && memo.ticks.getD (start - pos) 0 ≤ pos then (plain, memo)
  else
    match t.findTicks (start - pos) limit (t.chars.size + 1) start memo with
    | (some (close, stop), memo) => (⟨.code (codeText (t.slice start close)), stop⟩, memo)
    | (none, memo) => (plain, memo)

/-! ## Links and images -/

/-- Finds the end of the label whose bracket opens at `pos - 1`, at bracket depth `depth`. With `noLinks` a link
inside the label spoils it. -/
def labelEnd (skip : Skipper) (noLinks : Bool) (limit : Nat) :
    (fuel : Nat) → (pos depth : Nat) → Memo → Option Nat × Memo
  | 0, _, _, memo => (none, memo)
  | fuel + 1, pos, depth, memo =>
    if limit ≤ pos then (none, memo)
    else
      let c := t.at? pos
      if c == some ']' && depth ≤ 1 then (some pos, memo)
      else
        let depth := if c == some ']' then depth - 1 else depth
        let (next, memo) := skip limit pos memo
        if c == some '[' then
          if next = pos + 1 then labelEnd skip noLinks limit fuel next (depth + 1) memo
          else if noLinks then (none, memo)
          else labelEnd skip noLinks limit fuel next depth memo
        else labelEnd skip noLinks limit fuel next depth memo

/-- The end of the label whose bracket stands at `pos`. -/
def labelEndAt (skip : Skipper) (noLinks : Bool) (limit pos : Nat) (memo : Memo) : Option Nat × Memo :=
  t.labelEnd skip noLinks limit (t.chars.size + 1) (pos + 1) 1 memo

/-- What follows an opening parenthesis after a label. -/
inductive Target where
  /-- Nothing: the text ends there. -/
  | missing
  /-- Something else than an address, which the place given is just after. -/
  | broken (pos : Nat)
  | found (address : List Char) (stop : Nat)

/-- Reads an address and a title in parentheses; `pos` is the place of the opening one. -/
def target (limit pos : Nat) : Target :=
  let start := t.skipSpaces limit (pos + 1)
  if limit ≤ start then .missing
  else
    let (address, stop) : List Char × Nat :=
      match Destination.read? t.chars start limit with
      | none => ([], start)
      | some d =>
        let address := Address.normalize d.text
        if Address.isSafe address then (address, d.stop) else ([], start)
    let spaced := t.skipSpaces limit stop
    let close :=
      match Title.read t.chars spaced limit with
      | .finished after _ => if spaced < limit ∧ stop ≠ spaced then t.skipSpaces limit after else spaced
      | _ => spaced
    if close < limit && t.at? close == some ')' then .found address (close + 1) else .broken (close + 1)

/-- The address that a reference after the label leads to, and the place after it; `pos` is the place where the second
label may stand, and the first label reaches from `start` to `stop`. -/
def reference? (skip : Skipper) (limit start stop pos : Nat) (memo : Memo) : Option (List Char × Nat) × Memo :=
  if t.references.isEmpty then (none, memo)
  else
    let (second, memo) :=
      if pos < limit ∧ t.at? pos = some '[' then t.labelEndAt skip false limit pos memo else (none, memo)
    let (label, after) :=
      match second with
      | some close => (t.slice (pos + 1) close, close + 1)
      | none => ([], stop + 1)
    let label := if label.isEmpty then t.slice start stop else label
    ((t.references.lookup (normalizeLabel label)).map fun address => (address, after), memo)

/-- A link whose bracket stands at `pos`. When no address follows in parentheses the label may still be a reference. -/
def linkToken? (skip : Skipper) (limit pos : Nat) (memo : Memo) : Option Token × Memo :=
  match t.labelEndAt skip true limit pos memo with
  | (none, memo) => (none, memo)
  | (some stop, memo) =>
    let byReference (from_ : Nat) : Option Token × Memo :=
      let (found, memo) := t.reference? skip limit (pos + 1) stop from_ memo
      (found.map fun (address, after) => ⟨.link address (pos + 1) stop, after⟩, memo)
    if stop + 1 < limit ∧ t.at? (stop + 1) = some '(' then
      match t.target limit (stop + 1) with
      | .missing => (none, memo)
      | .found address after => (some ⟨.link address (pos + 1) stop, after⟩, memo)
      | .broken after => byReference after
    else byReference (stop + 1)

/-- An image whose exclamation mark stands at `pos`. -/
def imageToken? (skip : Skipper) (limit pos : Nat) (memo : Memo) : Option Token × Memo :=
  if pos + 1 < limit ∧ t.at? (pos + 1) ≠ some '[' then (none, memo)
  else
    match t.labelEndAt skip false limit (pos + 1) memo with
    | (none, memo) => (none, memo)
    | (some stop, memo) =>
      let label := t.slice (pos + 2) stop
      if stop + 1 < limit ∧ t.at? (stop + 1) = some '(' then
        match t.target limit (stop + 1) with
        | .found address after => (some ⟨.image address label, after⟩, memo)
        | _ => (none, memo)
      else
        let (found, memo) := t.reference? skip limit (pos + 2) stop (stop + 1) memo
        (found.map fun (address, after) => ⟨.image address label, after⟩, memo)

/-! ## Angle brackets and character references -/

/-- Is the text an absolute address: a scheme of 2 to 32 characters and a colon, without spaces, controls and angle
brackets? One line break at the end does no harm. -/
def isAddress (s : List Char) : Bool :=
  let scheme := s.takeWhile fun c => c.isAlphanum || c == '+' || c == '.' || c == '-'
  match s.drop scheme.length with
  | ':' :: rest =>
    let rest := if rest.getLast? == some '\n' then rest.dropLast else rest
    scheme.head?.any Char.isAlpha && 2 ≤ scheme.length && scheme.length ≤ 32
      && rest.all fun c => 32 < c.toNat && c != '<' && c != '>'
  | _ => false

/-- Is the text a label of a mail domain: at most 63 letters, digits and inner hyphens? -/
def isMailLabel (s : List Char) : Bool :=
  s.length ≤ 63 && s.head?.any Char.isAlphanum && s.getLast?.any Char.isAlphanum
    && s.all fun c => c.isAlphanum || c == '-'

/-- May `c` stand before the `@` of a mail address? -/
def isMailChar (c : Char) : Bool := c.isAlphanum || ".!#$%&'*+/=?^_\x60\x7b|\x7d~-".toList.contains c

/-- Is the text a mail address? One line break at the end does no harm. -/
def isMail (s : List Char) : Bool :=
  let s := if s.getLast? == some '\n' then s.dropLast else s
  let user := s.takeWhile (· ≠ '@')
  match s.drop user.length with
  | '@' :: domain => !user.isEmpty && user.all isMailChar && (pieces '.' domain).all isMailLabel
  | _ => false

/-- A link whose text is its address, in angle brackets. -/
def autolinkToken? (limit pos : Nat) : Option Token :=
  let close := t.skipWhile (fun c => c != '<' && c != '>') limit (limit - pos) (pos + 1)
  if limit ≤ close ∨ t.at? close ≠ some '>' then none
  else
    let label := t.slice (pos + 1) close
    let full : Option (List Char) :=
      if isAddress label then some label else if isMail label then some ("mailto:".toList ++ label) else none
    full.bind fun full =>
      let address := Address.normalize full
      if Address.isSafe address then some ⟨.autolink address (Address.display label), close + 1⟩ else none

/-- Raw HTML. -/
def htmlToken? (limit pos : Nat) : Option Token :=
  if limit ≤ pos + 2 then none
  else
    let rest := t.slice pos t.chars.size
    (Tag.afterHtml? rest).map fun after =>
      let size := rest.length - after.length
      ⟨.html (rest.take size), pos + size⟩

/-- A character reference. A numeric one to a character that may not be referred to gives the replacement character. -/
def referenceToken? (limit pos : Nat) : Option Token :=
  if limit ≤ pos + 1 then none
  else match t.slice (pos + 1) (pos + 40) with
    | '#' :: digits =>
      let (base, digits, most) : Nat × List Char × Nat :=
        match digits with
        | x :: hex => if x == 'x' || x == 'X' then (16, hex, 6) else (10, digits, 7)
        | [] => (10, [], 7)
      let number := digits.takeWhile fun c => if base = 16 then (hexValue? c).isSome else c.isDigit
      if 1 ≤ number.length ∧ number.length ≤ most ∧ digits[number.length]? = some ';' then
        some ⟨.special [referenceChar (digitsValue base number)],
          pos + number.length + (if base = 16 then 4 else 3)⟩
      else none
    | rest =>
      (referenceName? rest).bind fun name =>
        (entity? name).map fun text => ⟨.special text, pos + name.length + 2⟩

/-! ## Any token -/

/-- The token at a place, or `none` if its character stands for itself. Emphasis marks are left to the caller. -/
def token? (skip : Skipper) (limit pos : Nat) (memo : Memo) : Option Token × Memo :=
  match t.at? pos with
  | none => (none, memo)
  | some c =>
    if !isSpecial c then (some (t.textToken limit pos), memo)
    else if c == '\n' then (some (t.breakToken limit pos), memo)
    else if c == '\\' then (t.escapeToken? limit pos, memo)
    else if c == '\x60' then
      let (token, memo) := t.codeToken limit pos memo
      (some token, memo)
    else if c == '[' then t.linkToken? skip limit pos memo
    else if c == '!' then t.imageToken? skip limit pos memo
    else if c == '<' then (t.autolinkToken? limit pos <|> t.htmlToken? limit pos, memo)
    else if c == '&' then (t.referenceToken? limit pos, memo)
    else (none, memo)

/-- Skips a token, with labels inside labels up to `room` deep; where there is no room left the rest is skipped. -/
def skipToken : (room : Nat) → Skipper
  | room, limit, pos, memo =>
    match memo.ends[pos]? with
    | some stop => (stop, memo)
    | none =>
      match room with
      | 0 => (limit + 1, { memo with ends := memo.ends.insert pos (limit + 1) })
      | room + 1 =>
        let (token, memo) := t.token? (skipToken room) limit pos memo
        let stop := match token with
          | some token => token.stop
          | none => pos + 1
        (stop, { memo with ends := memo.ends.insert pos stop })

end InlineText
end MarkLint.Markdown
