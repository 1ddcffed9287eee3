/-!
# UTF-8

Characters as octets and back. Reading stops at the first octet that cannot go on, and says which octets are at fault:
`DecodeError` gives their position, and whether the first of them starts no character, a later one does not continue it,
or the text ends too early.
-/

namespace MarkLint.Text

/-- The octets of a character. -/
def utf8Octets (c : Char) : List Nat :=
  let n := c.toNat
  if n < 0x80 then [n]
  else if n < 0x800 then [0xC0 + n / 64, 0x80 + n % 64]
  else if n < 0x10000 then [0xE0 + n / 4096, 0x80 + n / 64 % 64, 0x80 + n % 64]
  else [0xF0 + n / 262144, 0x80 + n / 4096 % 64, 0x80 + n / 64 % 64, 0x80 + n % 64]

/-- Why octets are not UTF-8. -/
inductive DecodeFault where
  | invalidStart
  | invalidContinuation
  | unexpectedEnd
  deriving Repr, DecidableEq

/-- The octets at fault: `count` of them at `position`, the first being `octet`. -/
structure DecodeError where
  fault : DecodeFault
  position : Nat
  count : Nat
  octet : Nat
  deriving Repr, DecidableEq

/-- The wording of a fault. -/
def DecodeFault.message : DecodeFault → String
  | invalidStart => "invalid start byte"
  | invalidContinuation => "invalid continuation byte"
  | unexpectedEnd => "unexpected end of data"

/-- The wording of an error. -/
def DecodeError.message (e : DecodeError) : String :=
  "'utf-8' codec can't decode " ++
    (if e.count = 1 then
      "byte 0x" ++ (if e.octet < 16 then "0" else "") ++ String.ofList (Nat.toDigits 16 e.octet) ++ " in position "
        ++ toString e.position
    else "bytes in position " ++ toString e.position ++ "-" ++ toString (e.position + e.count - 1))
    ++ ": " ++ e.fault.message

/-- The ranges of the octets that may follow the first octet of a character, or `none` if it starts none. -/
def continuations? (b : Nat) : Option (List (Nat × Nat)) :=
  let tail := (0x80, 0xBF)
  if b < 0x80 then some []
  else if 0xC2 ≤ b ∧ b ≤ 0xDF then some [tail]
  else if b = 0xE0 then some [(0xA0, 0xBF), tail]
  else if b = 0xED then some [(0x80, 0x9F), tail]
  else if 0xE1 ≤ b ∧ b ≤ 0xEF then some [tail, tail]
  else if b = 0xF0 then some [(0x90, 0xBF), tail, tail]
  else if b = 0xF4 then some [(0x80, 0x8F), tail, tail]
  else if 0xF1 ≤ b ∧ b ≤ 0xF3 then some [tail, tail, tail]
  else none

/-- The part of the code point that the first octet of a character of `size` octets holds. -/
def leadBits (size b : Nat) : Nat :=
  if size = 1 then b else if size = 2 then b % 32 else if size = 3 then b % 16 else b % 8

/-- Matches octets with the ranges of the continuation. The result is the code point, or the number of octets that
match and whether the text ended there. -/
def readTail (value matched : Nat) : List (Nat × Nat) → List Nat → Except (Nat × Bool) Nat
  | [], _ => .ok value
  | _ :: _, [] => .error (matched, true)
  | (low, high) :: ranges, b :: rest =>
    if low ≤ b ∧ b ≤ high then readTail (64 * value + b % 64) (matched + 1) ranges rest else .error (matched, false)

/-- Reads the character at the start of octets: the character and its size, or the fault and its size. -/
def readChar (b : Nat) (rest : List Nat) : Except (DecodeFault × Nat) (Char × Nat) :=
  match continuations? b with
  | none => .error (.invalidStart, 1)
  | some ranges =>
    match readTail (leadBits (ranges.length + 1) b) 0 ranges rest with
    | .ok value => .ok (Char.ofNat value, ranges.length + 1)
    | .error (matched, true) => .error (.unexpectedEnd, matched + 1)
    | .error (matched, false) => .error (.invalidContinuation, matched + 1)

/-- The character that the octets stand for, if they are exactly one character. -/
def utf8Char? : List Nat → Option Char
  | [] => none
  | b :: rest =>
    match readChar b rest with
    | .ok (c, size) => if size = rest.length + 1 then some c else none
    | .error _ => none

/-- Reads octets from `position` on; the first `skip` octets belong to the character before. -/
def decodeUtf8From (position skip : Nat) : List Nat → Except DecodeError (List Char)
  | [] => .ok []
  | b :: rest =>
    match skip with
    | k + 1 => decodeUtf8From (position + 1) k rest
    | 0 =>
      match readChar b rest with
      | .error (fault, count) => .error ⟨fault, position, count, b⟩
      | .ok (c, size) => (decodeUtf8From (position + 1) (size - 1) rest).map (c :: ·)

/-- The text of octets. -/
def decodeUtf8 (octets : List Nat) : Except DecodeError (List Char) := decodeUtf8From 0 0 octets

end MarkLint.Text
