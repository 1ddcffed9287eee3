import MarkLint.Text.Numeral
import Mathlib.Algebra.Group.Nat.Defs

/-!
# Numbers that can be written

An integer can be written exactly if it lies below `10 ^ maxDigits` on either side of zero (`isWritable_iff`).
-/

namespace MarkLint.Text

theorem isWritable_iff {n : Int} : IsWritable n ↔ n.natAbs < 10 ^ maxDigits :=
  Nat.length_toDigits_le_iff (by decide) (by decide)

/-- The sign makes no difference. -/
theorem isWritable_natAbs {n : Int} : IsWritable (n.natAbs : Int) ↔ IsWritable n := Iff.rfl

/-- Zero can be written. -/
theorem isWritable_zero : IsWritable 0 := by decide

theorem writeInt_of_isWritable {n : Int} (h : IsWritable n) : writeInt n = .ok (toString n) := if_pos h

theorem writeInt_of_not_isWritable {n : Int} (h : ¬ IsWritable n) : writeInt n = .error tooLong := if_neg h

end MarkLint.Text
