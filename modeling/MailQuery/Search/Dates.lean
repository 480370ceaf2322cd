import MailQuery.Time.Iso
import MailQuery.Value

/-!
# Dates of expressions

The functions of the expression language on moments and dates.
-/

namespace MailQuery

open Text

/-- The moment that a value names: a written date, or the decimal number `YYYYMMDD` above 9999999.
What names no moment gives -1. -/
def makeTime : Value → Int64
  | .string s =>
    let cs := trim s.toList
    let moment? :=
      if cs.length = 8 ∧ cs.all Char.isDigit then midnightOfPacked? (Int64.ofInt (Nat.ofDigitChars 10 cs 0))
      else Time.parseIso cs
    moment?.getD (-1)
  | .int n | .time n => if n > 9999999 then (midnightOfPacked? n).getD (-1) else -1
  | _ => -1

/-- The difference of two days as decimal numbers `YYYYMMDD`, and 0 unless both values are
numbers. -/
def compareDate (a b : Value) : Int64 :=
  match a.number?, b.number? with
  | some a, some b => packedDate a - packedDate b
  | _, _ => 0

end MailQuery
