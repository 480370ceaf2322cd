/-!
# Clamped arithmetic

Sums, differences and products of 64-bit integers that stop at the ends of the range instead of
wrapping around.
-/

namespace MailQuery

/-- The sum, or the end of the range that it passes. -/
def addClamped (a b : Int64) : Int64 := Int64.ofIntClamp (a.toInt + b.toInt)

/-- The difference, or the end of the range that it passes. -/
def subClamped (a b : Int64) : Int64 := Int64.ofIntClamp (a.toInt - b.toInt)

/-- The product, or the end of the range that it passes. -/
def mulClamped (a b : Int64) : Int64 := Int64.ofIntClamp (a.toInt * b.toInt)

/-- A number as a 64-bit integer, if it is one. -/
def int64? (n : Int) : Option Int64 :=
  if Int64.minValue.toInt ≤ n ∧ n ≤ Int64.maxValue.toInt then some (Int64.ofInt n) else none

theorem int64?_toInt (n : Int64) : int64? n.toInt = some n := by
  rw [int64?, if_pos ⟨n.minValue_le_toInt, n.toInt_le⟩, Int64.ofInt_toInt]

end MailQuery
