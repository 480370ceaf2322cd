/-!
# The text of real numbers

The database writes a real number with its first 15 digits, and with an exponent if it is small or
large. All calculation is exact: a finite number is `m · 2 ^ e` for integers `m` and `e`.
-/

namespace MailQuery.Sql

/-- The number of decimal places by which `m · 2 ^ e` has to be shifted to get 15 digits before the
point. -/
def shiftFor15 (m : Nat) (e : Int) : Int :=
  let scaled : Nat := m * Nat.pow 2 e.toNat * Nat.pow 10 400 / Nat.pow 2 (-e).toNat
  415 - ((Nat.toDigits 10 scaled).length : Int)

/-- The quotient of two numbers, rounded to the nearest integer. -/
def roundedQuotient (a b : Nat) : Nat := (2 * a + b) / (2 * b)

/-- The first 15 digits of `m · 2 ^ e`, and the exponent of ten of the first one. -/
def digits15 (m : Nat) (e : Int) : List Char × Int :=
  let shift := shiftFor15 m e
  let up := Nat.pow 10 shift.toNat * Nat.pow 2 e.toNat
  let down := Nat.pow 10 (-shift).toNat * Nat.pow 2 (-e).toNat
  let digits := Nat.toDigits 10 (roundedQuotient (m * up) down)
  (digits, digits.length - 1 - shift)

/-- Digits without the zeros at their end. -/
def dropZeros (ds : List Char) : List Char := (ds.reverse.dropWhile (· == '0')).reverse

/-- The text of a positive real number: 15 digits, with an exponent where it is small or large. -/
def positiveText (m : Nat) (e : Int) : List Char :=
  let (digits, exponent) := digits15 m e
  let digits := dropZeros digits
  let orZero := fun (ds : List Char) => if ds.isEmpty then ['0'] else ds
  if exponent < -4 ∨ 15 ≤ exponent then
    let size := exponent.natAbs
    digits.take 1 ++ '.' :: orZero (digits.drop 1) ++ ['e', if exponent < 0 then '-' else '+'] ++
      (if size < 10 then ['0'] else []) ++ Nat.toDigits 10 size
  else if exponent < 0 then
    '0' :: '.' :: List.replicate (exponent.natAbs - 1) '0' ++ digits
  else
    let n := exponent.toNat + 1
    (digits ++ List.replicate (n - digits.length) '0').take n ++ '.' :: orZero (digits.drop n)

/-- The text of a real number. -/
def realText (x : Float) : String :=
  if x == 0 then "0.0"
  else if x.isInf then (if x < 0 then "-Inf" else "Inf")
  else
    let bits : Nat := x.abs.toBits.toNat
    let field : Nat := bits / Nat.pow 2 52
    let low : Nat := bits % Nat.pow 2 52
    let digits := if field = 0 then positiveText low (-1074)
      else positiveText (low + Nat.pow 2 52) ((field : Int) - 1075)
    String.ofList (if x < 0 then '-' :: digits else digits)

end MailQuery.Sql
