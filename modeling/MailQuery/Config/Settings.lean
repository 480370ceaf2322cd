import MailQuery.Config.Basic
import MailQuery.Toml.Document

/-!
# Configuration files

A configuration file is a TOML document with four sections. What it does not mention keeps its default, and
unknown entries are passed over; a document that is malformed, or in which an entry has a wrong
type, counts as one without entries.
-/

namespace MailQuery.Config

open Toml

/-! ### Reading -/

/-- The fields of a section: its entries by their names, or the items of an array in the order of
`names`. A moment counts as a section without known entries. -/
def section? (names : List String) : Option Node → Option (String → Option Node)
  | none | some (.moment _) => some fun _ => none
  | some (.table _ entries) => some fun name => entries.lookup name
  | some (.array items) => some fun name => (names.zip items).lookup name
  | some (.tables items) => some fun name => (names.zip (items.map (.table .header))).lookup name
  | some _ => none

/-- A text field. -/
def text? : Option Node → (default : String) → Option String
  | none, default => some default
  | some (.string s), _ => some s
  | some _, _ => none

/-- A text field that may be unset. -/
def optional? : Option Node → Option (Option String)
  | none => some none
  | some (.string s) => some (some s)
  | some _ => none

/-- A field that is true or false. -/
def flag? : Option Node → (default : Bool) → Option Bool
  | none, default => some default
  | some (.bool b), _ => some b
  | some _, _ => none

/-- A field that is a natural number. -/
def size? : Option Node → (default : Nat) → Option Nat
  | none, default => some default
  | some (.int n), _ => if n < 0 then none else some n.toNatClampNeg
  | some _, _ => none

/-- The settings that the entries of a document make, if all of them have the right types. -/
def ofEntries (es : Entries) : Option Config := do
  let general ← section? ["cache_dir", "log_level"] (es.lookup "general")
  let search ← section? ["default_expression", "memory_only", "build_word_index"] (es.lookup "search")
  let store ← section? ["database", "table"] (es.lookup "store")
  let performance ← section? ["lru_cache_size", "max_message_size"] (es.lookup "performance")
  let cacheDirectory ← optional? (general "cache_dir")
  let logLevel ← text? (general "log_level") default.logLevel
  let defaultExpression ← text? (search "default_expression") default.defaultExpression
  let memoryOnly ← flag? (search "memory_only") default.memoryOnly
  let buildWordIndex ← flag? (search "build_word_index") default.buildWordIndex
  let database ← optional? (store "database")
  let table ← optional? (store "table")
  let cacheSize ← size? (performance "lru_cache_size") default.cacheSize
  let maxMessageSize ← size? (performance "max_message_size") default.maxMessageSize
  pure { cacheDirectory, logLevel, defaultExpression, memoryOnly, buildWordIndex, database, table
         cacheSize, maxMessageSize }

/-- The settings of the text of a configuration file. -/
def ofText (text : String) : Config := ((Toml.read text).bind ofEntries).getD default

/-! ### Writing -/

/-- The header of a section and its lines. -/
def sectionText (name : String) (lines : List String) : String :=
  String.join (("[" ++ name ++ "]\n") :: lines)

/-- The line of an entry. -/
def line (key value : String) : String := key ++ " = " ++ value ++ "\n"

/-- The line of an entry that may be unset. -/
def optionalLine (key : String) (value : Option String) : List String :=
  (value.map fun s => line key (written s)).toList

/-- The name of a truth value. -/
def flagText (b : Bool) : String := if b then "true" else "false"

/-- The text of a configuration file, with a blank line between sections. -/
def toText (c : Config) : String :=
  String.intercalate "\n"
    [sectionText "general" (optionalLine "cache_dir" c.cacheDirectory ++
      [line "log_level" (written c.logLevel)]),
     sectionText "search" [line "default_expression" (written c.defaultExpression),
      line "memory_only" (flagText c.memoryOnly), line "build_word_index" (flagText c.buildWordIndex)],
     sectionText "store" (optionalLine "database" c.database ++ optionalLine "table" c.table),
     sectionText "performance" [line "lru_cache_size" (toString c.cacheSize),
      line "max_message_size" (toString c.maxMessageSize)]]

end MailQuery.Config
