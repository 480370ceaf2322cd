import MailQuery.Text.Blank

/-!
# Text of SQL statements

Quoting of strings and names, and the statements that ask for the rows of a condition.
-/

namespace MailQuery.Sql

open Text

/-- A text in which every `mark` is written twice. -/
def doubled (mark : Char) (cs : List Char) : List Char :=
  cs.flatMap fun c => if c = mark then [c, c] else [c]

/-- A string literal. -/
def quote (value : String) : String :=
  String.ofList ('\'' :: doubled '\'' value.toList ++ ['\''])

/-- A quoted name. -/
def quoteName (name : String) : String :=
  String.ofList ('"' :: doubled '"' name.toList ++ ['"'])

/-- Whether a condition says nothing, so that every row satisfies it. -/
def isNoCondition (condition : String) : Bool := (trim condition.toList).isEmpty

/-- The statement that asks for `what` of the rows of a table that satisfy a condition. -/
def select (what table condition : String) : String :=
  let all := "SELECT " ++ what ++ " FROM " ++ quoteName table
  if isNoCondition condition then all else all ++ " WHERE " ++ condition

end MailQuery.Sql
