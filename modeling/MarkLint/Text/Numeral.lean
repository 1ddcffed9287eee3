import MarkLint.Text.Blank

/-!
# Numerals

Reading a decimal integer from text: blanks around it, one sign, digits of any script, and single underscores between
digits. Decimal numerals have a greatest length, `maxDigits`: longer ones are neither read nor written. Hexadecimal ones
are not limited.
-/

namespace MarkLint.Text

/-- The code points of the digit zero of each script; nine more digits follow each. -/
def zeroDigits : List Nat := [
    0x30, 0x660, 0x6F0, 0x7C0, 0x966, 0x9E6, 0xA66, 0xAE6, 0xB66, 0xBE6, 0xC66, 0xCE6, 0xD66, 0xDE6, 0xE50,
    0xED0, 0xF20, 0x1040, 0x1090, 0x17E0, 0x1810, 0x1946, 0x19D0, 0x1A80, 0x1A90, 0x1B50, 0x1BB0, 0x1C40,
    0x1C50, 0xA620, 0xA8D0, 0xA900, 0xA9D0, 0xA9F0, 0xAA50, 0xABF0, 0xFF10, 0x104A0, 0x10D30, 0x11066,
    0x110F0, 0x11136, 0x111D0, 0x112F0, 0x11450, 0x114D0, 0x11650, 0x116C0, 0x11730, 0x118E0, 0x11950,
    0x11C50, 0x11D50, 0x11DA0, 0x16A60, 0x16AC0, 0x16B50, 0x1D7CE, 0x1D7D8, 0x1D7E2, 0x1D7EC, 0x1D7F6,
    0x1E140, 0x1E2F0, 0x1E950, 0x1FBF0]

/-- The most digits that a decimal numeral may have. -/
def maxDigits : Nat := 4300

/-- What stops a reader or a writer at a numeral with more digits. -/
def tooLong : String := "ValueError"

/-- Can an integer be written? The sign does not count as a digit. -/
def IsWritable (n : Int) : Prop := (Nat.toDigits 10 n.natAbs).length ≤ maxDigits

instance (n : Int) : Decidable (IsWritable n) := inferInstanceAs (Decidable (_ ≤ _))

/-- Writes an integer. -/
def writeInt (n : Int) : Except String String := if IsWritable n then .ok (toString n) else .error tooLong

/-- The value of a decimal digit of any script. -/
def digitValue? (c : Char) : Option Nat :=
  (zeroDigits.find? fun z => z ≤ c.toNat && c.toNat ≤ z + 9).map (c.toNat - ·)

/-- Blanks that may stand around a numeral: the ASCII information separators do not count. -/
def isNumeralBlank (c : Char) : Bool := isBlank c && !(28 ≤ c.toNat && c.toNat ≤ 31)

/-- Reads digits with single underscores between them, after the value `acc`; `fresh` says that a digit has to come. -/
def readDigits (acc : Nat) (fresh : Bool) : List Char → Option Nat
  | [] => if fresh then none else some acc
  | '_' :: rest => if fresh then none else readDigits acc true rest
  | c :: rest => (digitValue? c).bind fun d => readDigits (10 * acc + d) false rest

/-- The number that a numeral without a sign denotes. Zeros in front count as digits, underscores do not. -/
def readNat? (s : List Char) : Option Nat :=
  if maxDigits < (s.filter (· != '_')).length then none else readDigits 0 true s

/-- The integer that a text denotes. -/
def readInt? (s : List Char) : Option Int :=
  let body := ((s.dropWhile isNumeralBlank).reverse.dropWhile isNumeralBlank).reverse
  match body with
  | '-' :: rest => (readNat? rest).map fun n => -(n : Int)
  | '+' :: rest => (readNat? rest).map fun n => (n : Int)
  | _ => (readNat? body).map fun n => (n : Int)

/-- The value of a hexadecimal digit. -/
def hexValue? (c : Char) : Option Nat :=
  if '0' ≤ c && c ≤ '9' then some (c.toNat - 48)
  else if 'a' ≤ c && c ≤ 'f' then some (c.toNat - 87)
  else if 'A' ≤ c && c ≤ 'F' then some (c.toNat - 55)
  else none

/-- The value of the digits of `s` to the base `base`; other characters count as zero. -/
def digitsValue (base : Nat) (s : List Char) : Nat :=
  s.foldl (fun acc c => base * acc + (hexValue? c).getD 0) 0

/-- A number in hexadecimal with at least `width` digits. -/
def hexDigits (width n : Nat) : List Char :=
  let digits := Nat.toDigits 16 n
  List.replicate (width - digits.length) '0' ++ digits

/-- The capital hexadecimal digit of `n % 16`. -/
def hexDigit (n : Nat) : Char :=
  if n % 16 < 10 then Char.ofNat (48 + n % 16) else Char.ofNat (55 + n % 16)

end MarkLint.Text
