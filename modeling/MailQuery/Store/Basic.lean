import MailQuery.Error
import MailQuery.Sql.Statement
import MailQuery.Store.Row

/-!
# The store

A store holds tables, one for each folder that was written to it. A table is replaced as a whole:
`Store.sync` either writes all rows or leaves the rows that were there. What the rows are asked about is read from the
text of a statement.
-/

namespace MailQuery

open Mail Sql Text

/-- A table of messages, with its rows in the order in which they were written. -/
structure Table where
  name : String
  rows : List Row

/-- Whether a table goes by a name. The case of ASCII letters does not matter. -/
def Table.isNamed (t : Table) (name : String) : Bool :=
  eqIgnoreAsciiCase t.name.toList name.toList

/-- The tables of a database. -/
structure Store where
  tables : List Table

namespace Store

/-- The store without tables. -/
def empty : Store := ⟨[]⟩

instance : Inhabited Store := ⟨empty⟩

/-- The table of a name. -/
def table? (s : Store) (name : String) : Option Table := s.tables.find? (·.isNamed name)

/-- The start of the names that the database keeps for itself. -/
def reservedStart : List Char := "sqlite_".toList

/-- Whether a table of a name can be created. -/
def isAllowedName (name : String) : Bool :=
  !isCut name && !eqIgnoreAsciiCase (name.toList.take reservedStart.length) reservedStart

/-- The store with a table of a name, which is empty if it is new. -/
def create (s : Store) (name : String) : Store :=
  if (s.table? name).isSome then s else ⟨s.tables ++ [⟨name, []⟩]⟩

/-- The store in which the table of a name has other rows. -/
def replaceRows (s : Store) (name : String) (rows : List Row) : Store :=
  ⟨s.tables.map fun t => if t.isNamed name then { t with rows } else t⟩

/-- Writes the rows of some messages in place of those that the table of a name has, and counts them. Two
messages of one uid are refused. -/
def sync (s : Store) (name : String) (summaries : List Summary) : Except SearchError Nat × Store :=
  if isAllowedName name then
    let s := s.create name
    if (summaries.map (·.uid)).Nodup then
      (.ok summaries.length, s.replaceRows name (summaries.map Summary.row))
    else (.error .store, s)
  else (.error .store, s)

/-- What is left of writing rows while the database takes none. The table is there, but its rows are as before. -/
def syncBlocked (s : Store) (name : String) : Except SearchError Nat × Store :=
  (.error .store, if isAllowedName name then s.create name else s)

/-- The rows that a statement asks about. A missing table is found before an unknown name, and a pattern that is too long
only when the rows are looked at. -/
def rowsFor (s : Store) (q : Query) : Except SearchError (List Row) :=
  match s.table? q.table with
  | none => .error (.missingTable (String.ofList ((words q.table.toList).headD [])))
  | some t =>
    if !q.isNamed || t.rows.any (q.condition.expr.meetsLongPattern · false) then .error .store
    else .ok (t.rows.filter q.condition.expr.isTrueOf)

/-- What a statement asks for, and the rows that it asks about. A fault of grammar comes before all others. -/
def run (s : Store) (statement : String) : Except SearchError (Wanted × List Row) :=
  match Query.ofText? statement with
  | none => .error .store
  | some q => (s.rowsFor q).map fun rows => (q.wanted, rows)

/-- The text of a cell, if it holds something. -/
def cellText? (c : Cell) : Option String := c.chars?.map String.ofList

/-- The texts that a statement asks for. -/
def texts (s : Store) (statement : String) : Except SearchError (List String) :=
  (s.run statement).map fun
    | (.value p, rows) => rows.filterMap fun r => cellText? (p.expr.eval r)
    | (.count, rows) => [toString rows.length]

/-- The number that a statement asks for. A value has to be an integer that is not negative, in the first row. -/
def number (s : Store) (statement : String) : Except SearchError Nat :=
  (s.run statement).bind fun
    | (.count, rows) => .ok rows.length
    | (.value p, rows) =>
      match rows.head?.map p.expr.eval with
      | some (.int n) => if n < 0 then .error .store else .ok n.toInt.toNat
      | _ => .error .store

/-- The uids of the rows that satisfy a condition. -/
def uidsWhere (s : Store) (name : String) (condition : Expr) : Except SearchError (List String) :=
  s.texts (Sql.select "uid" name condition.sql)

/-- The number of the rows that satisfy a condition. -/
def count (s : Store) (name : String) (condition : Expr) : Except SearchError Nat :=
  s.number (Sql.select "COUNT(*)" name condition.sql)

/-- The texts of an expression in all rows, in the order of the uids. -/
def values (s : Store) (name expression : String) : Except SearchError (List String) :=
  match readText expression with
  | none => .error .store
  | some p =>
    if isCut name then .error .store
    else
      (s.rowsFor ⟨.value p, name, .plain (.truth true)⟩).map fun rows =>
        let sorted := rows.mergeSort fun a b => (cellText? (a .uid)).getD "" ≤ (cellText? (b .uid)).getD ""
        sorted.filterMap fun r => cellText? (p.expr.eval r)

end Store

end MailQuery
