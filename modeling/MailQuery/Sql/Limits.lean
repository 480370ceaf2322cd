import MailQuery.Sql.Eval
import MailQuery.Text.Utf8

/-!
# Limits of the database

The database refuses an expression whose tree is too high as soon as it is read. A pattern that is too long is refused
only when a text is to be compared with it, and whether it comes to that depends on the parts of the condition that
stand before the comparison.
-/

namespace MailQuery.Sql

/-- The number of levels that the tree of an expression may have. -/
def maxHeight : Nat := 1000

/-- The number of bytes that a pattern may have. -/
def maxPattern : Nat := 50000

/-! ### The height of expressions -/

/-- What the database keeps in mind of an expression that it has read. -/
structure Shape where
  /-- The number of levels of its tree, in which parentheses do not count. -/
  height : Nat
  /-- Whether it is the number zero. -/
  isZero : Bool
  /-- Whether a function is called in it. A comparison with a pattern is such a call. -/
  calls : Bool
deriving DecidableEq, Repr

namespace Shape

/-- The shape of a name, a string or a number. -/
def leaf : Shape := ⟨1, false, false⟩

/-- The shape that takes in two others. -/
def beside (s t : Shape) : Shape := ⟨max s.height t.height, false, s.calls || t.calls⟩

/-- The shape some levels above another one, if that is not too high. -/
def above? (levels : Nat) (s : Shape) : Option Shape :=
  if s.height + levels ≤ maxHeight then some ⟨s.height + levels, false, s.calls⟩ else none

/-- The shape some levels above the arguments of a function. -/
def called? (levels : Nat) (s : Shape) : Option Shape := { s with calls := true }.above? levels

/-- The shape of an operator between two expressions. A conjunction with zero becomes zero itself, unless a function is
called in it. `NOT LIKE` is the negation of a call. -/
def operate? (op : Operator) (s t : Shape) : Option Shape :=
  match op with
  | .and =>
    if (s.isZero || t.isZero) && !(s.calls || t.calls) then some ⟨1, true, false⟩ else (s.beside t).above? 1
  | .like => (s.beside t).called? 1
  | .notLike => (s.beside t).called? 2
  | _ => (s.beside t).above? 1

end Shape

namespace Expr

/-- The shape of an expression, if it is not too high. The sign of a negative number is an operator. -/
def shape? : Expr → Option Shape
  | column _ | string _ | null | written _ => some .leaf
  | int n => if n < 0 then Shape.leaf.above? 1 else some { Shape.leaf with isZero := n == 0 }
  | enclosed _ e => e.shape?
  | binary op l r =>
    match l.shape?, r.shape? with
    | some s, some t => s.operate? op t
    | _, _ => none
  | negated _ e | minus e | isNull e | notNull _ e | cast _ e => e.shape?.bind (·.above? 1)
  | monthsLater e _ | packedDay e => e.shape?.bind (·.called? 1)

/-- Whether an expression is not too high for the database. -/
def isShallow (e : Expr) : Bool := e.shape?.isSome

/-! ### The length of patterns -/

/-- Whether a pattern is too long. -/
def isLongPattern (c : Cell) : Bool := c.chars?.any fun cs => maxPattern < Text.byteLength cs

/-- The truth of a condition that the database knows without a row. -/
def knownTruth? : Expr → Option Bool
  | int n => if n < 0 then none else some (n != 0)
  | enclosed _ e => e.knownTruth?
  | binary .and l r => Cell.and? l.knownTruth? r.knownTruth?
  | binary .or l r => Cell.or? l.knownTruth? r.knownTruth?
  | _ => none

/-- Whether a condition comes to a comparison with a pattern that is too long in a row. The right side of a conjunction or
disjunction is left out if the left side decides. Where a left side is neither true nor false, it counts as `unknown`:
at first as false, as the row is left out then, and inside of a negation the other way around. -/
def meetsLongPattern (row : Row) : (unknown : Bool) → Expr → Bool
  | unknown, enclosed _ e => e.meetsLongPattern row unknown
  | unknown, binary op l r =>
    (binary op l r).knownTruth?.isNone &&
      (l.meetsLongPattern row unknown ||
        match op with
        | .and => (l.eval row).truth?.getD unknown && r.meetsLongPattern row unknown
        | .or => !(l.eval row).truth?.getD unknown && r.meetsLongPattern row unknown
        | .like | .notLike => isLongPattern (r.eval row) || r.meetsLongPattern row unknown
        | _ => r.meetsLongPattern row unknown)
  | unknown, negated _ e => e.meetsLongPattern row !unknown
  | unknown, minus e | unknown, isNull e | unknown, notNull _ e | unknown, cast _ e | unknown, monthsLater e _
  | unknown, packedDay e => e.meetsLongPattern row unknown
  | _, column _ | _, int _ | _, string _ | _, null | _, written _ => false

end Expr

end MailQuery.Sql
