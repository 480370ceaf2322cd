import MailQuery.Files.Path
import MailQuery.Index.Basic

/-!
# Configuration

What a user can set, with the values that hold where nothing is set.
-/

namespace MailQuery

/-- The settings of the program. -/
structure Config where
  /-- The directory for indexes and logs. -/
  cacheDirectory : Option String
  logLevel : String
  /-- The expression that is used where the user gives none. -/
  defaultExpression : String
  /-- Whether searches are never left to the store. -/
  memoryOnly : Bool
  /-- Whether the words of message bodies are indexed. -/
  buildWordIndex : Bool
  /-- The database file of the store. Without one there is no store. -/
  database : Option String
  /-- The table of the folder in the store, if it is not named after the mailbox file. -/
  table : Option String
  /-- The number of decoded messages that are kept. -/
  cacheSize : Nat
  /-- The number of bytes that are kept of a message. -/
  maxMessageSize : Nat
deriving DecidableEq, Repr

namespace Config

/-- The settings where nothing is set. -/
def default : Config :=
  { cacheDirectory := none, logLevel := "warn", defaultExpression := "(match-all)"
    memoryOnly := false, buildWordIndex := true, database := none, table := none, cacheSize := 50
    maxMessageSize := 256 * 1024 * 1024 }

instance : Inhabited Config := ⟨default⟩

/-- What indexes are built with. -/
def indexOptions (c : Config) : Index.Options := ⟨c.buildWordIndex, c.maxMessageSize⟩

/-- The path of the log file, if a directory for it is set. -/
def logFile? (c : Config) : Option String :=
  c.cacheDirectory.map fun dir => String.ofList (Path.join dir.toList "mailsearch.log".toList)

end Config

end MailQuery
