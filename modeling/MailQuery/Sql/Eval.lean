import MailQuery.Sql.Cell
import MailQuery.Sql.Expr

/-!
# The value of an expression in a row

Conditions are true, false or unknown, and a row satisfies a condition that is true of it.
-/

namespace MailQuery.Sql

/-- The cells of a row by their columns. -/
abbrev Row := Column → Cell

namespace Operator

/-- The value of an operator on cells of which is known what they are taken for. -/
def apply (op : Operator) (affinity : Cell.Affinity) (a b : Cell) : Cell :=
  match op with
  | or => .ofTruth? (Cell.or? a.truth? b.truth?)
  | and => .ofTruth? (Cell.and? a.truth? b.truth?)
  | equal => Cell.compareWith (· == .eq) affinity a b
  | notEqual => Cell.compareWith (· != .eq) affinity a b
  | less => Cell.compareWith (· == .lt) affinity a b
  | atMost => Cell.compareWith (· != .gt) affinity a b
  | greater => Cell.compareWith (· == .gt) affinity a b
  | atLeast => Cell.compareWith (· != .lt) affinity a b
  | like => .ofTruth? (Cell.like? a b)
  | notLike => .ofTruth? ((Cell.like? a b).map (!·))
  | bitAnd => Cell.bitAnd a b
  | add => Cell.calculate (· + ·) (· + ·) a b
  | subtract => Cell.calculate (· - ·) (· - ·) a b
  | multiply => Cell.calculate (· * ·) (· * ·) a b
  | divide => Cell.divide a b
  | concat => Cell.concat a b

end Operator

namespace Expr

/-- What an expression is taken for in a comparison. -/
def affinity : Expr → Cell.Affinity
  | column c => if c.isText then .text else .numeric
  | enclosed _ e => e.affinity
  | cast .integer _ => .numeric
  | cast .text _ => .text
  | _ => .none

/-- The value of an expression in a row. Written text has to be read before. -/
def eval (row : Row) : Expr → Cell
  | column c => row c
  | int n => .int n
  | string s => .text s
  | null => .null
  | enclosed _ e => e.eval row
  | binary op l r => op.apply (l.affinity.combine r.affinity) (l.eval row) (r.eval row)
  | negated _ e => .ofTruth? ((e.eval row).truth?.map (!·))
  | minus e => Cell.calculate (· - ·) (· - ·) (.int 0) (e.eval row)
  | isNull e => .ofBool (e.eval row).isNull
  | notNull _ e => .ofBool !(e.eval row).isNull
  | cast .integer e => (e.eval row).asInt
  | cast .text e => (e.eval row).asText
  | monthsLater e months => (e.eval row).monthsLater months
  | packedDay e => (e.eval row).packedDay
  | written _ => .null

/-- Whether a row satisfies a condition. -/
def isTrueOf (e : Expr) (row : Row) : Bool := (e.eval row).truth? == some true

end Expr

end MailQuery.Sql
