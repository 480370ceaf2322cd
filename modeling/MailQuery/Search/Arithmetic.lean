import MailQuery.Clamp
import MailQuery.Expr.Builtin
import MailQuery.Value
import MailQuery.Text.Blank

/-!
# Functions of plain values

Comparisons, sums and casts. They look at no message.
-/

namespace MailQuery.Search

open Text

/-- Whether a comparison holds of values whose order is known. -/
def comparisonHolds (c : Comparison) : Ordering → Bool
  | .lt => c == .less
  | .eq => c == .equal
  | .gt => c == .greater

/-- The order of two values: strings by their characters, no before yes, numbers by size. -/
def order? : Value → Value → Option Ordering
  | .string a, .string b => some (compareOfLessAndEq a b)
  | .bool a, .bool b => some (compareOfLessAndEq a b)
  | a, b =>
    match a.number?, b.number? with
    | some a, some b => some (compareOfLessAndEq a b)
    | _, _ => none

/-- A comparison. -/
def compareValues (c : Comparison) : List Value → Except SearchError Value
  | [a, b] =>
    match order? a b with
    | some o => .ok (.bool (comparisonHolds c o))
    | none => .error (.wrongKind c.name (.incomparable a.kind b.kind))
  | _ => .error (.arity c.name .twoArguments)

/-- A number, of the kind of the first of some values. -/
def numberLike (values : List Value) (n : Int64) : Value :=
  match values with
  | .time _ :: _ => .time n
  | _ => .int n

/-- The numbers of values, or the first value that is none. -/
def numbers : List Value → Except Value (List Int64)
  | [] => .ok []
  | v :: vs =>
    match v.number? with
    | none => .error v
    | some n =>
      match numbers vs with
      | .error v => .error v
      | .ok ns => .ok (n :: ns)

/-- The sum of values. Strings are joined. -/
def sum (values : List Value) : Except SearchError Value :=
  if !values.isEmpty && values.all (·.text?.isSome) then
    .ok (.string (String.join (Value.texts values)))
  else
    match numbers values with
    | .error v => .error (.wrongKind "+" (.cannotAdd v.kind))
    | .ok ns => .ok (numberLike values (ns.foldl addClamped 0))

/-- The first of some values less all others. -/
def difference (values : List Value) : Except SearchError Value :=
  match numbers values with
  | .error v => .error (.wrongKind "-" (.cannotSubtract v.kind))
  | .ok [] => .ok (.int 0)
  | .ok (n :: ns) => .ok (numberLike values (ns.foldl subClamped n))

/-- The number that the digits at the start of a text write, and 0 where there are none or too
many. -/
def leadingInt (s : String) : Int64 :=
  (int64? (Nat.ofDigitChars 10 ((trim s.toList).takeWhile Char.isDigit) 0)).getD 0

/-- A value as an integer. -/
def castInt : List Value → Except SearchError Value
  | [.int n] | [.time n] => .ok (.int n)
  | [.bool b] => .ok (.int (if b then 1 else 0))
  | [.string s] => .ok (.int (leadingInt s))
  | _ => .error (.arity "cast-int" .oneScalar)

/-- A value as a string. -/
def castString : List Value → Except SearchError Value
  | [.int n] | [.time n] => .ok (.string (toString n.toInt))
  | [.bool b] => .ok (.string (if b then "1" else "0"))
  | [.string s] => .ok (.string s)
  | _ => .error (.arity "cast-string" .oneScalar)

end MailQuery.Search
