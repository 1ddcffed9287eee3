import MarkLint.Text.CaseTable

/-!
# Upper and lower case

Full case mapping: a character may become several, and a capital sigma at the end of a word becomes a final sigma.
-/

namespace MarkLint.Text

/-- The image of `c` under the runs, if one of them holds it. -/
def mapByRuns (runs : List CaseRun) (c : Char) : Char :=
  match runs.find? (·.contains c.toNat) with
  | some r => Char.ofNat (c.toNat + r.shift).toNat
  | none => c

/-- The upper-case form of a character. -/
def upperChar (c : Char) : List Char :=
  if c.toNat < 128 then [c.toUpper]
  else match upperExpansions.find? (·.1 == c.toNat) with
    | some e => e.2.map Char.ofNat
    | none => [mapByRuns upperRuns c]

/-- The upper-case form of a text. -/
def upper (s : List Char) : List Char := s.flatMap upperChar

/-- Is `c` a cased character that is not case-ignorable? -/
def isCased (c : Char) : Bool := casedRanges.any fun r => r.1 ≤ c.toNat && c.toNat ≤ r.2

/-- Is `c` ignored when the end of a word is looked for? -/
def isCaseIgnorable (c : Char) : Bool := caseIgnorableRanges.any fun r => r.1 ≤ c.toNat && c.toNat ≤ r.2

/-- Is the first character that counts a cased one? -/
def startsCased (s : List Char) : Bool := (s.dropWhile isCaseIgnorable).head?.any isCased

/-- The lower-case form of a character; `before` is the text before it, nearest character first, and `after` the text
that follows. Only the capital sigma looks at them. -/
def lowerChar (before : List Char) (c : Char) (after : List Char) : List Char :=
  if c.toNat < 128 then [c.toLower]
  else if c.toNat == 0x130 then ['i', Char.ofNat 0x307]
  else if c.toNat == 0x3A3 then
    [Char.ofNat (if startsCased before && !startsCased after then 0x3C2 else 0x3C3)]
  else [mapByRuns lowerRuns c]

/-- The lower-case form of `s` after the text `before`, which is written backwards. -/
def lowerFrom (before : List Char) : List Char → List Char
  | [] => []
  | c :: rest => lowerChar before c rest ++ lowerFrom (c :: before) rest

/-- The lower-case form of a text. -/
def lower (s : List Char) : List Char := lowerFrom [] s

/-- Does `c` match the small letter `letter` when case is ignored? The long s counts as `s`, the Kelvin sign as `k`, and
the dotted capital and the dotless small i as `i`. -/
def matchesLetter (letter c : Char) : Bool :=
  c == letter || (c.toNat < 128 && c.toLower == letter)
    || (letter == 's' && c.toNat == 0x17F) || (letter == 'k' && c.toNat == 0x212A)
    || (letter == 'i' && (c.toNat == 0x130 || c.toNat == 0x131))

/-- Does `c` match some letter of the Latin alphabet when case is ignored? -/
def isLetterFolded (c : Char) : Bool :=
  c.isAlpha || c.toNat == 0x17F || c.toNat == 0x212A || c.toNat == 0x130 || c.toNat == 0x131

/-- What is left of `s` after `word`, a text in small letters, when case is ignored. -/
def dropWord? : List Char → List Char → Option (List Char)
  | [], s => some s
  | w :: word, c :: s => if matchesLetter w c then dropWord? word s else none
  | _ :: _, [] => none

end MarkLint.Text
