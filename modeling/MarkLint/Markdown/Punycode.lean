/-!
# Host names in ASCII

Labels of host names outside ASCII are written as `xn--` and a variable-length encoding of the positions at which their
other characters are inserted. Digits to the base 36 are the letters and then the decimal digits.
-/

namespace MarkLint.Markdown.Punycode

/-- The digit with a value below 36. -/
def digit (n : Nat) : Char := if n < 26 then Char.ofNat (97 + n) else Char.ofNat (22 + n)

/-- The value of a digit, in either case. -/
def digitValue? (c : Char) : Option Nat :=
  if 'A' ≤ c && c ≤ 'Z' then some (c.toNat - 65)
  else if 'a' ≤ c && c ≤ 'z' then some (c.toNat - 97)
  else if '0' ≤ c && c ≤ '9' then some (c.toNat - 22)
  else none

/-- The threshold of the digit at `index`. -/
def threshold (index bias : Nat) : Nat := max 1 (min 26 (36 * (index + 1) - bias))

/-- Divides `delta` down to the range of one digit, and counts the steps. -/
def settle : (fuel : Nat) → (delta steps : Nat) → Nat
  | 0, delta, steps => steps + 36 * delta / (delta + 38)
  | fuel + 1, delta, steps =>
    if 455 < delta then settle fuel (delta / 35) (steps + 36) else steps + 36 * delta / (delta + 38)

/-- The bias after an insertion. -/
def adapt (delta count : Nat) (isFirst : Bool) : Nat :=
  let delta := if isFirst then delta / 700 else delta / 2
  settle 64 (delta + delta / count) 0

/-- The digits of a number, least significant first. -/
def writeNumber (bias : Nat) : (fuel : Nat) → (index n : Nat) → List Char
  | 0, _, n => [digit (n % 36)]
  | fuel + 1, index, n =>
    let t := threshold index bias
    if n < t then [digit n]
    else digit (t + (n - t) % (36 - t)) :: writeNumber bias fuel (index + 1) ((n - t) / (36 - t))

/-- The state of an encoding: the distance since the last insertion, the bias, and how many characters are written. -/
structure Progress where
  delta : Nat
  bias : Nat
  written : Nat
  out : List Char

/-- Writes the insertions of the character `n` into the text. -/
def insertAll (n basic : Nat) (p : Progress) : List Char → Progress
  | [] => p
  | c :: rest =>
    if c.toNat < n then insertAll n basic { p with delta := p.delta + 1 } rest
    else if c.toNat = n then
      insertAll n basic
        { delta := 0, bias := adapt p.delta (p.written + 1) (p.written = basic), written := p.written + 1,
          out := p.out ++ writeNumber p.bias 64 0 p.delta } rest
    else insertAll n basic p rest

/-- Writes the insertions of all characters from `n` on, in ascending order. -/
def encodeFrom (text : List Char) (basic : Nat) : (fuel : Nat) → (n : Nat) → Progress → List Char
  | 0, _, p => p.out
  | fuel + 1, n, p =>
    match ((text.map Char.toNat).filter (n ≤ ·)).min? with
    | none => p.out
    | some m =>
      let p := insertAll m basic { p with delta := p.delta + (m - n) * (p.written + 1) } text
      encodeFrom text basic fuel (m + 1) { p with delta := p.delta + 1 }

/-- The encoding of a label: its ASCII characters, a hyphen if there are any, and the insertions. -/
def encode (text : List Char) : List Char :=
  let basic := text.filter fun c => c.toNat < 128
  (if basic.isEmpty then [] else basic ++ ['-'])
    ++ encodeFrom text basic.length text.length 128 ⟨0, 72, basic.length, []⟩

/-- Reads a number: its value, and the text after it. -/
def readNumber? (bias : Nat) (index weight value : Nat) : List Char → Option (Nat × List Char)
  | [] => none
  | c :: rest =>
    (digitValue? c).bind fun d =>
      let t := threshold index bias
      if d < t then some (value + d * weight, rest)
      else readNumber? bias (index + 1) (weight * (36 - t)) (value + d * weight) rest

/-- Carries out the insertions of `code` into `text`; `next` is the least place for the next one, and `n` the character
that was inserted last. -/
def decodeFrom (fuel : Nat) (n next bias : Nat) (isFirst : Bool) (text code : List Char) : Option (List Char) :=
  match fuel, code with
  | _, [] => some text
  | 0, _ => none
  | fuel + 1, code =>
    (readNumber? bias 0 1 0 code).bind fun (delta, rest) =>
      let place := next + delta
      let size := text.length + 1
      let m := n + place / size
      if m > 0x10FFFF ∨ (0xD800 ≤ m ∧ m ≤ 0xDFFF) then none
      else
        let index := place % size
        decodeFrom fuel m (index + 1) (adapt delta size isFirst) false
          (text.take index ++ Char.ofNat m :: text.drop index) rest

/-- The label that an encoding stands for. -/
def decode? (code : List Char) : Option (List Char) :=
  if code.all fun c => c.toNat < 128 then
    let backwards := code.reverse
    let tail := (backwards.takeWhile (· ≠ '-')).reverse
    let basic := if tail.length = code.length then [] else code.take (code.length - tail.length - 1)
    decodeFrom code.length 128 0 72 true basic tail
  else none

end MarkLint.Markdown.Punycode
