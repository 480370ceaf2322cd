import MailQuery.Folder.Cache
import MailQuery.Mail.Header
import MailQuery.Mail.Mailbox
import MailQuery.Search.Scope
import MailQuery.Store.Basic

/-!
# Folders

A folder is a catalog of summaries with a source of the messages themselves. Messages are decoded
when they are asked for and kept in a cache. Summaries can be changed; the folder is then dirty until
they have been written to its store.
-/

namespace MailQuery

open Mail Search Text

/-- Where the messages of a folder come from. -/
inductive Source where
  /-- Raw messages by their uids. -/
  | memory (raws : List (String × Bytes))
  /-- A mailbox file, in which each summary has a span. -/
  | mailbox (file : Bytes)

/-- The raw message of a summary. -/
def Source.read (source : Source) (s : Summary) : Except SearchError Bytes :=
  match source with
  | memory raws =>
    match raws.reverse.lookup s.uid with
    | some raw => .ok raw
    | none => .error (.unavailable s.uid)
  | mailbox file =>
    match s.span with
    | some span => Mailbox.readSpan file span
    | none => .error (.unavailable s.uid)

/-- A folder of messages. -/
structure Folder where
  catalog : Catalog
  /-- The name of its table in the store. -/
  table : String
  source : Source
  cache : Cache
  store : Option Store
  /-- Whether searches are never left to the store. -/
  memoryOnly : Bool
  /-- Whether a summary was changed after it was last written to the store. -/
  dirty : Bool
  /-- The messages that cannot be had any more. -/
  dropped : TextSet
  /-- Whether the store takes no rows for the time being, as when its disk is full or something else has locked it. -/
  blocked : Bool

namespace Folder

/-- A name in the form of a table name: ASCII letters in lower case, digits, and an underscore for
everything else, not starting with a digit. -/
def tableName (name : List Char) : String :=
  let cs := name.map fun c => if c.isAlphanum then c.toLower else '_'
  let cs := if cs.isEmpty then "folder".toList else cs
  String.ofList (if cs.head?.any Char.isDigit then 'f' :: '_' :: cs else cs)

/-- A folder as it is opened. -/
def ofCatalog (catalog : Catalog) (table : String) (source : Source) (cacheSize : Nat) : Folder :=
  { catalog, table, source, cache := .empty cacheSize, store := none, memoryOnly := false
    dirty := false, dropped := ∅, blocked := false }

/-- The number of decoded messages that a folder of raw messages keeps. -/
def defaultCacheSize : Nat := 50

/-- The folder of some raw messages, whose table is named after the end of its location. -/
def ofMessages (location : String) (raws : List (String × Bytes)) : Folder :=
  let summaries := raws.map fun (uid, raw) => Summary.ofRaw uid raw none
  let name := (splitOn (· == '/') location.toList).getLast?.getD []
  ofCatalog ⟨location, summaries, none⟩ (tableName name) (.memory raws) defaultCacheSize

instance : Inhabited Folder := ⟨ofMessages "" []⟩

/-- The uids of all messages in their order. -/
def uids (f : Folder) : List String := f.catalog.uids

/-- The summary of a uid. -/
def summary? (f : Folder) (uid : String) : Option Summary := f.catalog.find? uid

/-! ### Messages -/

/-- The decoded message of a uid, and the folder with the message in its cache. -/
def fetch (uid : String) (f : Folder) : Except SearchError Message × Folder :=
  if f.dropped.contains uid then (.error (.unavailable uid), f)
  else
    match f.cache.find? uid with
    | some m => (.ok m, { f with cache := f.cache.use uid m })
    | none =>
      match f.summary? uid with
      | none => (.error (.unavailable uid), f)
      | some s =>
        match f.source.read s with
        | .error e => (.error e, f)
        | .ok raw =>
          let m := Message.ofRaw raw
          (.ok m, { f with cache := f.cache.use uid m })

/-- The folder after the content of a message was lost. Its summary stays. -/
def dropContent (f : Folder) (uid : String) : Folder :=
  { f with cache := f.cache.erase uid, dropped := f.dropped.insert uid }

/-- An index with the words of some messages, and the folder after they were read. Messages that cannot
be had are left out. -/
def indexBodies (index : WordIndex) (f : Folder) : List String → WordIndex × Folder
  | [] => (index, f)
  | uid :: rest =>
    match f.fetch uid with
    | (.ok m, f) => indexBodies (index.addMessage uid m.bodyText) f rest
    | (.error _, f) => indexBodies index f rest

/-- The folder with an index of the words of its messages. -/
def buildWordIndex (f : Folder) : Folder :=
  match indexBodies .empty f f.uids with
  | (words, f) => { f with catalog := { f.catalog with words := some words } }

/-! ### Changes of summaries -/

/-- A list of summaries in which the last one of a uid is changed, if there is one. -/
def changeLast (uid : String) (change : Summary → Summary) : List Summary → Option (List Summary)
  | [] => none
  | s :: rest =>
    match changeLast uid change rest with
    | some rest => some (s :: rest)
    | none => if s.uid = uid then some (change s :: rest) else none

/-- The folder in which the summary of a uid is changed. It is dirty then. -/
def change (f : Folder) (uid : String) (change : Summary → Summary) : Folder :=
  match changeLast uid change f.catalog.summaries with
  | some summaries => { f with catalog := { f.catalog with summaries }, dirty := true }
  | none => f

/-- The folder in which some bits of a message's flags are set or cleared. -/
def setFlag (f : Folder) (uid : String) (bit : UInt32) (on : Bool) : Folder :=
  f.change uid fun s => { s with flags := s.flags.set bit on }

/-- The folder in which a message carries one more label. -/
def addUserFlag (f : Folder) (uid flag : String) : Folder :=
  f.change uid fun s => { s with userFlags := s.userFlags.insert flag }

/-- The folder in which a tag of a message has a value. The empty value removes the tag. -/
def setUserTag (f : Folder) (uid name value : String) : Folder :=
  f.change uid fun s =>
    { s with userTags := if value = "" then s.userTags.erase name else s.userTags.insert name value }

/-! ### The store -/

/-- The folder with a store, in which nothing is written yet. -/
def attachStore (f : Folder) (store : Store) : Folder := { f with store := some store }

/-- Writes all summaries to a store, as far as that can be done now. -/
def writeTo (f : Folder) (store : Store) : Except SearchError Nat × Store :=
  if f.blocked then store.syncBlocked f.table else store.sync f.table f.catalog.summaries

/-- Writes all summaries to the store and counts them. Without a store there is nothing to write to, and a failure leaves
the folder as dirty as it was. -/
def syncStore (f : Folder) : Except SearchError Nat × Folder :=
  match f.store with
  | none => (.ok 0, f)
  | some store =>
    match f.writeTo store with
    | (.ok n, store) => (.ok n, { f with store := some store, dirty := false })
    | (.error e, store) => (.error e, { f with store := some store })

/-- Writes all summaries to the store if one of them was changed. -/
def saveChanges (f : Folder) : Except SearchError Unit × Folder :=
  if f.dirty && f.store.isSome then
    match f.syncStore with
    | (.ok _, f) => (.ok (), f)
    | (.error e, f) => (.error e, f)
  else (.ok (), f)

end Folder

end MailQuery
