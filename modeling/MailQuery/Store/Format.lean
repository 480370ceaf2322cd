import MailQuery.Files.Binary
import MailQuery.Store.Basic

/-!
# Store files

A store is kept in a file with its tables, row by row and cell by cell. An empty file is a store without
tables.
-/

namespace MailQuery.Store

open Binary Sql

/-- The bytes that store files start with. -/
def magic : Bytes := Text.bytesOf "MQSTORE\x01"

/-! ### Writing -/

/-- The bytes of a cell. -/
def writeCell : Cell → Bytes
  | .null => [0]
  | .int n => 1 :: writeInt n
  | .real x => 2 :: writeNat x.toBits
  | .text s => 3 :: writeText s

/-- The bytes of a row. -/
def writeRow (r : Row) : Bytes := Column.all.flatMap fun c => writeCell (r c)

/-- The bytes of a table. -/
def writeTable (t : Table) : Bytes := writeText t.name ++ writeList writeRow t.rows

/-- The bytes of a store file. -/
def write (s : Store) : Bytes := magic ++ writeList writeTable s.tables

/-! ### Reading -/

/-- Reads a cell. -/
def readCell : Reader Cell := do
  let tag ← readNumber 1
  match tag with
  | 0 => pure .null
  | 1 => .int <$> readInt
  | 2 => (fun bits => .real (Float.ofBits bits)) <$> readNat
  | 3 => .text <$> readText
  | _ => failure

/-- Reads a row. -/
def readRow : Reader Row := do
  let cells ← readMany readCell Column.all.length
  pure fun c => ((Column.all.zip cells).lookup c).getD .null

/-- Reads a table. -/
def readTable : Reader Table := do
  let name ← readText
  let rows ← readList readRow
  pure ⟨name, rows⟩

/-- The store of a file, if it is a store file. -/
def ofFile? (bs : Bytes) : Option Store :=
  if bs.isEmpty then some empty
  else if magic.isPrefixOf bs then
    (readList readTable (bs.drop magic.length)).map fun (tables, _) => ⟨tables⟩
  else none

end MailQuery.Store
