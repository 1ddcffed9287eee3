import MarkLint.Text.Numeral

/-!
# Scalar values

The raw values that a configuration or a caller hands to a rule: text, integers, truth values and floating-point
numbers. A rule only quotes a floating-point number, so a finite one is given by its shortest decimal numeral.
-/

namespace MarkLint

/-- A raw option value. The floating-point number that is written as `digits / 10 ^ places` is a `fraction`; zero with
the sign of a negative number is kept apart from zero. -/
inductive Scalar where
  | text (s : String)
  | int (n : Int)
  | bool (b : Bool)
  | fraction (digits : Int) (places : Nat)
  | negativeZero
  | infinity (isNegative : Bool)
  | notANumber
  deriving Repr, DecidableEq, Inhabited

namespace Scalar

/-- Splits the zeros off the end of a decimal numeral, which is given backwards. -/
def splitZeros (digitsBackwards : List Char) : List Char × Nat :=
  (digitsBackwards.dropWhile (· == '0'), (digitsBackwards.takeWhile (· == '0')).length)

/-- The exponent of a number in scientific notation: a sign and at least two digits. -/
def exponentText (e : Int) : String :=
  (if e < 0 then "-" else "+") ++ (if e.natAbs < 10 then "0" else "") ++ toString e.natAbs

/-- The text of `0.d₁d₂… * 10 ^ point` for the significant digits `ds`: positional when the number is at least `0.0001`
and below `10 ^ 16`, scientific otherwise; a positional integer ends in `.0`. -/
def significantText (ds : List Char) (point : Int) : String :=
  if -4 < point ∧ point ≤ 16 then
    if point ≤ 0 then "0." ++ String.ofList (List.replicate (-point).toNat '0' ++ ds)
    else
      let whole := ds.take point.toNat ++ List.replicate (point.toNat - ds.length) '0'
      let part := ds.drop point.toNat
      String.ofList whole ++ "." ++ (if part.isEmpty then "0" else String.ofList part)
  else
    let tail := ds.drop 1
    String.ofList (ds.take 1) ++ (if tail.isEmpty then "" else "." ++ String.ofList tail) ++ "e"
      ++ exponentText (point - 1)

/-- The text of the number `digits / 10 ^ places`. -/
def fractionText (digits : Int) (places : Nat) : String :=
  let (backwards, zeros) := splitZeros (Nat.toDigits 10 digits.natAbs).reverse
  let ds := backwards.reverse
  let point : Int := ds.length + zeros - places
  (if digits < 0 then "-" else "") ++ (if ds.isEmpty then "0.0" else significantText ds point)

/-- How a value is quoted in a message. An integer that cannot be written is not quoted. -/
def shown : Scalar → Except String String
  | text s => .ok s
  | int n => Text.writeInt n
  | bool b => .ok (if b then "True" else "False")
  | fraction d p => .ok (fractionText d p)
  | negativeZero => .ok "-0.0"
  | infinity isNegative => .ok (if isNegative then "-inf" else "inf")
  | notANumber => .ok "nan"

end Scalar
end MarkLint
