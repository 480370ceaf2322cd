import MailQuery.Sql.Limits
import MailQuery.Sql.Reader

/-!
# Reading statements

The database is given the text of a statement, and finds in it what is asked for, the table and the condition. A text
is read up to its first character 0.
-/

namespace MailQuery.Sql

/-- Whether the text of a statement ends before a text does. -/
def isCut (text : String) : Bool := text.toList.contains '\x00'

/-- What a statement asks for. -/
inductive Wanted where
  /-- The number of the rows. -/
  | count
  /-- The value of an expression in each row. -/
  | value (p : Parsed)
deriving DecidableEq, Repr

/-- Whether all names in what a statement asks for are known. -/
def Wanted.isNamed : Wanted → Bool
  | count => true
  | value p => p.isNamed

/-- A statement that asks about the rows of a table. -/
structure Query where
  wanted : Wanted
  table : String
  condition : Parsed
deriving DecidableEq, Repr

/-- Whether all names in a statement are known. -/
def Query.isNamed (q : Query) : Bool := q.wanted.isNamed && q.condition.isNamed

/-- The words of a text. -/
def wordsOf? (text : List Char) : Option (List Word) := Word.readAll (text.length + 1) text

/-- The expression that some words make up, if it is not too high for the database. -/
def readWhole (words : List Word) : Option Parsed :=
  match readExpr words with
  | some (p, []) => if p.expr.isShallow then some p else none
  | _ => none

/-- The expression that a text writes, if it is one. -/
def readText (text : String) : Option Parsed :=
  if isCut text then none else (wordsOf? text.toList).bind readWhole

/-- Reads what is asked for at the start of some words. -/
def readWanted : List Word → Option (Wanted × List Word)
  | .name function :: .mark "(" :: .mark "*" :: .mark ")" :: rest =>
    if Word.isKeyword "count" (.name function) then some (.count, rest) else none
  | words => (readExpr words).map fun (p, rest) => (.value p, rest)

/-- The condition behind the name of a table. Without one, all rows are asked for. -/
def readWhere : List Word → Option Parsed
  | [] => some (.plain (.truth true))
  | word :: words => if word.isKeyword "where" then readWhole words else none

/-- The table and the condition behind what is asked for. -/
def readFrom (wanted : Wanted) : List Word → Option Query
  | word :: .quoted table :: rest =>
    if word.isKeyword "from" then (readWhere rest).map fun condition => ⟨wanted, table, condition⟩ else none
  | _ => none

/-- The statement that some words make up. -/
def readQuery : List Word → Option Query
  | word :: rest =>
    if word.isKeyword "select" then (readWanted rest).bind fun (wanted, rest) => readFrom wanted rest else none
  | [] => none

/-- The statement that a text writes, if it is one. -/
def Query.ofText? (text : String) : Option Query :=
  if isCut text then none else (wordsOf? text.toList).bind readQuery

end MailQuery.Sql
