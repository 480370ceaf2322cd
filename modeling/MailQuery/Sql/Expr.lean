import MailQuery.Sql.Column
import MailQuery.Sql.Syntax

/-!
# Expressions of SQL

The conditions of a search and the values in them. `Expr.sql` is the text of an expression; where it
has parentheses is part of the expression, so that the text of an expression says how to read it.
-/

namespace MailQuery.Sql

/-- An operator between two expressions. -/
inductive Operator where
  | or
  | and
  | equal
  | notEqual
  | less
  | atMost
  | greater
  | atLeast
  | like
  | notLike
  | bitAnd
  | add
  | subtract
  | multiply
  | divide
  | concat
deriving DecidableEq, Repr

/-- The text of an operator. -/
def Operator.sql : Operator → String
  | or => "OR"
  | and => "AND"
  | equal => "="
  | notEqual => "!="
  | less => "<"
  | atMost => "<="
  | greater => ">"
  | atLeast => ">="
  | like => "LIKE"
  | notLike => "NOT LIKE"
  | bitAnd => "&"
  | add => "+"
  | subtract => "-"
  | multiply => "*"
  | divide => "/"
  | concat => "||"

/-- How strongly an operator binds its two sides. `NOT` stands below the comparisons, at level 3, and the tests for
nothing stand at level 4. -/
def Operator.level : Operator → Nat
  | or => 1
  | and => 2
  | equal | notEqual | like | notLike => 4
  | less | atMost | greater | atLeast => 5
  | bitAnd => 6
  | add | subtract => 7
  | multiply | divide => 8
  | concat => 9

/-- A type that values can be cast to. -/
inductive CastType where
  | integer
  | text
deriving DecidableEq, Repr

/-- The name of a type. -/
def CastType.sql : CastType → String
  | integer => "INTEGER"
  | text => "TEXT"

/-- An expression. -/
inductive Expr where
  | column (column : Column)
  | int (value : Int64)
  | string (value : String)
  | null
  /-- An expression in parentheses, with blanks inside them if it is `wide`. -/
  | enclosed (wide : Bool) (e : Expr)
  | binary (op : Operator) (left right : Expr)
  /-- A negation, whose keyword is in small letters if it is `small`. -/
  | negated (small : Bool) (e : Expr)
  | minus (e : Expr)
  | isNull (e : Expr)
  /-- The test that an expression is not null, with the long keyword or the short one. -/
  | notNull (long : Bool) (e : Expr)
  | cast (type : CastType) (e : Expr)
  /-- The moment some months after a moment, as the text of its seconds since the start of 1970. -/
  | monthsLater (e : Expr) (months : Int64)
  /-- The day of a moment, as the text `YYYYMMDD`. -/
  | packedDay (e : Expr)
  /-- A text that is to be read as an expression together with what stands around it. -/
  | written (sql : String)
deriving DecidableEq, Repr

/-- The decimal text of an integer. -/
def decimal (n : Int64) : String := toString n.toInt

/-- The decimal text of an integer with its sign. -/
def signed (n : Int64) : String := (if 0 ≤ n then "+" else "") ++ decimal n

namespace Expr

/-- The text of an expression. -/
def sql : Expr → String
  | column c => c.name
  | int n => decimal n
  | string s => quote s
  | null => "NULL"
  | enclosed wide e => if wide then "( " ++ e.sql ++ " )" else "(" ++ e.sql ++ ")"
  | binary op l r => l.sql ++ " " ++ op.sql ++ " " ++ r.sql
  | negated small e => (if small then "not " else "NOT ") ++ e.sql
  | minus e => "-" ++ e.sql
  | isNull e => e.sql ++ " IS NULL"
  | notNull long e => e.sql ++ if long then " IS NOT NULL" else " NOTNULL"
  | cast type e => "CAST(" ++ e.sql ++ " AS " ++ type.sql ++ ")"
  | monthsLater e months => "strftime('%s', " ++ e.sql ++ ", 'unixepoch', '" ++ signed months ++ " months')"
  | packedDay e => "strftime('%Y%m%d', " ++ e.sql ++ ", 'unixepoch', 'localtime')"
  | written text => text

/-- The condition that says nothing. -/
def everything : Expr := written ""

/-- A truth value. -/
def truth (b : Bool) : Expr := int (if b then 1 else 0)

/-- The test that a column is like a pattern. -/
def isLike (c : Column) (pattern : String) : Expr := binary .like (column c) (string pattern)

/-- The test that a text stands in a column. -/
def hasInfix (c : Column) (text : String) : Expr := isLike c ("%" ++ text ++ "%")

end Expr

end MailQuery.Sql
