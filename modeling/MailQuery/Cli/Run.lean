import MailQuery.Cli.Arguments
import MailQuery.Cli.Json
import MailQuery.Cli.Layout
import MailQuery.Config.Settings
import MailQuery.Folder.Mailbox
import MailQuery.Folder.Session
import MailQuery.Store.Format

/-!
# Running commands

A command works on the files of a disk. Its answer may mention how long it took, so that it is a function of
that.
-/

namespace MailQuery.Cli

open Mail

/-- What a command needs to know besides the files. -/
structure Environment where
  /-- The moment at which the command runs. -/
  now : Int64
  /-- The working directory. -/
  directory : String
  configPath : String
  /-- The directory for indexes where none is set. -/
  cacheDirectory : String

/-- Why a command fails. -/
inductive Failure where
  | missingFile (path : String)
  | search (e : SearchError)
deriving DecidableEq, Repr

/-- The text of a failure. -/
def Failure.message : Failure → String
  | missingFile path => "File not found: " ++ path
  | search e => e.message

/-- How long a command took, in nanoseconds as the texts that answers use. -/
structure Elapsed where
  millis : String
  precise : String

/-- The answer of a command. -/
abbrev Answer := Elapsed → String

/-- An answer that does not mention the time. -/
def plain (s : String) : Answer := fun _ => s

/-! ### Answers -/

/-- A line of the list of messages. -/
def listLine (uid date sender subject size : String) : String :=
  "  " ++ padRight 6 uid ++ " " ++ padRight 17 date ++ " " ++ padRight 25 sender ++ " " ++
    padRight 40 subject ++ " " ++ padLeft 8 size ++ "\n"

/-- The line of a message. -/
def summaryLine (s : Summary) : String :=
  listLine s.uid (momentText s.sent) (shortened 24 s.sender) (shortened 39 s.subject)
    (sizeText s.size.toNat)

/-- The list of some messages. -/
def listText (found : List Summary) : String :=
  let count := "\n  " ++ toString found.length ++ " result(s)\n\n"
  if found.isEmpty then count
  else
    count ++ listLine "UID" "Date" "From" "Subject" "Size" ++ "  " ++
      String.ofList (List.replicate 100 '-') ++ "\n" ++ String.join (found.map summaryLine) ++ "\n"

/-- A message as an object. -/
def summaryJson (s : Summary) : Json :=
  .object
    [("date", (preciseMoment? s.sent).elim .null .string),
     ("flags", .number s.flags.bits.toNat),
     ("from", .string s.sender),
     ("labels", .strings s.userFlags.toList),
     ("message_id", .string s.messageId),
     ("size", .number s.size.toNat),
     ("subject", .string s.subject),
     ("tags", .object (s.userTags.entries.map fun (name, value) => (name, .string value))),
     ("to", .string s.recipients),
     ("uid", .string s.uid)]

/-- The name of a way to answer a search. -/
def routeName : Route → String
  | .memory => "memory"
  | .database => "database"

/-- Some messages as an object. The time stands in it as it is given. -/
def resultJson (expression : String) (route : Route) (found : List Summary) (elapsed : String) :
    String :=
  let entries : List (String × Json) :=
    [("expression", .string expression), ("result_count", .number found.length),
     ("results", .array (found.map summaryJson)), ("route", .string (routeName route))]
  Json.lines "\x7b" "\x7d" 0 (("\"elapsed_ms\": " ++ elapsed) :: Json.entriesAt 1 entries) ++ "\n"

/-- A line of the statistics of an index. -/
def statLine (name value : String) : String := "  " ++ padRight 20 name ++ " " ++ value ++ "\n"

/-- The moments from the first message to the last one that has a date. -/
def rangeLines (index : Index) : List String :=
  match (index.summaries.map (·.sent)).filter (0 < ·) with
  | [] => []
  | t :: ts =>
    let first := ts.foldl (fun a b => if b < a then b else a) t
    let last := ts.foldl (fun a b => if a < b then b else a) t
    [statLine "Date range" (momentText first ++ " to " ++ momentText last)]

/-- The statistics of an index. -/
def indexText (path : String) (fileSize : Nat) (index : Index) (indexSize : Nat) (elapsed : String) :
    String :=
  String.join <|
    ["\n", statLine "File" path, statLine "File size" (sizeText fileSize),
     statLine "Messages" (toString index.summaries.length)] ++
    rangeLines index ++
    [statLine "Indexed words" (index.words.elim "none" fun w => toString w.size)] ++
    (if indexSize = 0 then [] else [statLine "Index size" (sizeText indexSize)]) ++
    [statLine "Indexing time" elapsed, "\n"]

/-! ### Files -/

/-- What stands in the place of an index file. -/
def placeAt (disk : Disk) (path : List Char) : IndexPlace :=
  match disk.file? path with
  | some file => .file file.data
  | none => if disk.isDirectory path then .directory else .absent

/-- The directory for indexes. -/
def cacheDirectory (env : Environment) (config : Config) : List Char :=
  (config.cacheDirectory.getD env.cacheDirectory).toList

/-- The mailbox file of a path with the places of its index. -/
def siteAt (env : Environment) (config : Config) (disk : Disk) (path : String) : Site :=
  let cache := cacheDirectory env config
  { mailbox := disk.file? path.toList
    beside := placeAt disk (Site.besidePath path.toList)
    cached := placeAt disk (Site.cachedPath path.toList cache)
    cacheBlocked := disk.isBlocked cache }

/-- The disk after a place has changed. -/
def putPlace (env : Environment) (disk : Disk) (path : List Char) : IndexPlace → Disk
  | .file data =>
    if (disk.file? path).map (·.data) = some data then disk else disk.write path ⟨data, env.now⟩
  | _ => disk

/-- The disk after the index of a mailbox file was written. -/
def putSite (env : Environment) (config : Config) (disk : Disk) (path : String) (site : Site) : Disk :=
  let disk := putPlace env disk (Site.besidePath path.toList) site.beside
  putPlace env disk (Site.cachedPath path.toList (cacheDirectory env config)) site.cached

/-- The store of a database file. -/
inductive Database where
  /-- There is no database. -/
  | none
  | store (path : String) (store : Store)
  /-- The file is no store file, which is found when the store is first asked. -/
  | damaged

/-- The store that a folder with the database starts with. -/
def Database.initial? : Database → Option Store
  | none => Option.none
  | store _ s => some s
  | damaged => some .empty

/-- Whether the file is no store file. -/
def Database.isDamaged : Database → Bool
  | damaged => true
  | _ => false

/-- Opens a database file, which comes into being if it is not there. -/
def openDatabase (disk : Disk) : Option String → Except SearchError Database
  | none => .ok .none
  | some path =>
    match disk.file? path.toList with
    | some file => .ok ((Store.ofFile? file.data).elim .damaged (.store path))
    | none =>
      let parent := (Path.splitLast path.toList).2.reverse
      if disk.isDirectory path.toList || !disk.isDirectory parent then .error .store
      else .ok (.store path .empty)

/-- The disk after a database was used by a folder. -/
def putDatabase (env : Environment) (disk : Disk) (db : Database) (f : Folder) : Disk :=
  match db, f.store with
  | .store path _, some store =>
    let data := if store.tables.isEmpty then [] else store.write
    putPlace env disk path.toList (.file data)
  | _, _ => disk

/-! ### Commands -/

/-- A folder that was opened by a command. -/
structure Opened where
  folder : Folder
  database : Database
  disk : Disk

/-- Opens the folder of a mailbox file. -/
def openFolder (env : Environment) (config : Config) (force : Bool) (disk : Disk) (path : String) :
    Except Failure Opened × Disk :=
  if disk.contains path.toList then
    let site := siteAt env config disk path
    let built := site.build config.indexOptions force
    let disk := putSite env config disk path built.site
    match built.answer, site.mailbox with
    | .ok index, some file =>
      match openDatabase disk config.database with
      | .ok db =>
        let absolute := String.ofList (Path.join env.directory.toList path.toList)
        let folder := Folder.ofIndex absolute file.data index config db.initial?
        (.ok ⟨folder, db, putDatabase env disk db folder⟩, disk)
      | .error e => (.error (.search e), disk)
    | .error e, _ => (.error (.search e), disk)
    | .ok _, none => (.error (.search .io), disk)
  else (.error (.missingFile path), disk)

/-- The expression of a command, or the one of the settings for a blank one. -/
def expressionOr (config : Config) (expression : String) : String :=
  if (Text.trim expression.toList).isEmpty then config.defaultExpression else expression

/-- The answer of a session, which finds a damaged database when it asks it. -/
def guarded {α : Type} (session : Session) (o : Opened) (expression : String)
    (subset : Option (List String)) (answer : Except SearchError α) : Except SearchError α :=
  if o.database.isDamaged && o.folder.route (effective expression) subset == .database then
    match (session.plan o.folder (effective expression)).1 with
    | .ask _ _ => .error .store
    | _ => answer
  else answer

/-- Searches a folder. -/
def runSearch (env : Environment) (o : Opened) (expression : String) (uids : List String)
    (stack json : Bool) : Except SearchError Answer × Disk :=
  let subset := if uids.isEmpty then none else some uids
  let session := Session.start (if stack then .stack else .tree) env.now
  let (answer, _, f) := session.search o.folder expression subset
  let route := o.folder.route expression subset
  let answer := (guarded session o expression subset answer).map fun uids elapsed =>
    let found := uids.filterMap f.summary?
    if json then resultJson expression route found elapsed.millis else listText found
  (answer, putDatabase env o.disk o.database f)

/-- Counts in a folder. -/
def runCount (env : Environment) (o : Opened) (expression : String) :
    Except SearchError Answer × Disk :=
  let session := Session.start .tree env.now
  let (answer, _, f) := session.count o.folder expression
  let answer := (guarded session o expression none answer).map fun n =>
    plain (toString n ++ "\n")
  (answer, putDatabase env o.disk o.database f)

/-- Writes the summaries of a folder to its store. -/
def runSync (env : Environment) (o : Opened) : Except SearchError Answer × Disk :=
  if o.database.isDamaged then (.error .store, o.disk)
  else
    let (answer, f) := o.folder.syncStore
    let answer := answer.map fun n =>
      plain ("  Wrote " ++ toString n ++ " row(s) to table '" ++ f.table ++ "'\n")
    (answer, putDatabase env o.disk o.database f)

/-- What comes of a command on an opened folder. -/
def onFolder (opened : Except Failure Opened × Disk)
    (run : Opened → Except SearchError Answer × Disk) : Except Failure Answer × Disk :=
  match opened with
  | (.error e, disk) => (.error e, disk)
  | (.ok o, _) =>
    let (answer, disk) := run o
    (answer.mapError .search, disk)

/-- The settings of the configuration file, if there is one. -/
def configAt (env : Environment) (disk : Disk) : Config :=
  match (disk.file? env.configPath.toList).bind fun file => Text.utf8? file.data with
  | some text => .ofText text
  | none => .default

/-- The settings with the database of a command. -/
def withDatabase (config : Config) (database : Option String) : Config :=
  { config with database := database.orElse fun _ => config.database }

/-- Runs a command. -/
def Command.run (env : Environment) (disk : Disk) (force : Bool) :
    Command → Except Failure Answer × Disk
  | .search path expression uids database memory stack json =>
    let config := withDatabase (configAt env disk) database
    let config := { config with memoryOnly := config.memoryOnly || memory }
    onFolder (openFolder env config force disk path) fun o =>
      runSearch env o (expressionOr config expression) uids stack json
  | .count path expression database =>
    let config := withDatabase (configAt env disk) database
    onFolder (openFolder env config force disk path) fun o =>
      runCount env o (expressionOr config expression)
  | .compile expression stack =>
    let compiler := if stack then Compiler.stack else .tree
    ((compiler.compile env.now expression).map (fun e => plain (e.sql ++ "\n")) |>.mapError .search,
      disk)
  | .index path =>
    if disk.contains path.toList then
      let config := configAt env disk
      let site := siteAt env config disk path
      let built := site.build config.indexOptions force
      let fileSize := site.mailbox.elim 0 (·.data.length)
      (built.answer.map (fun index elapsed =>
        indexText path fileSize index built.site.indexSize elapsed.precise) |>.mapError .search,
        putSite env config disk path built.site)
    else (.error (.missingFile path), disk)
  | .sync path database =>
    let config := withDatabase (configAt env disk) (some database)
    onFolder (openFolder env config force disk path) (runSync env)
  | .config write =>
    let text := (configAt env disk).toText
    if write then
      (.ok (plain ("Wrote " ++ env.configPath ++ "\n")),
        disk.write env.configPath.toList ⟨Text.bytesOf text, env.now⟩)
    else (.ok (plain ("# " ++ env.configPath ++ "\n" ++ text)), disk)
  | .completions | .manual => (.ok (plain ""), disk)

/-- What a run of the program ends with. -/
structure Result where
  code : Nat
  output : Answer
  failure : Option Failure
  disk : Disk

/-- The name and version of the program. -/
def versionText : String := "mailsearch 0.1.0\n"

/-- Runs the program. Wrong arguments end with another code than failures. -/
def run (env : Environment) (disk : Disk) (args : List String) : Result :=
  match Request.ofArguments args with
  | .help => ⟨0, plain "", none, disk⟩
  | .version => ⟨0, plain versionText, none, disk⟩
  | .misuse => ⟨2, plain "", none, disk⟩
  | .run command force =>
    match command.run env disk force with
    | (.ok answer, disk) => ⟨0, answer, none, disk⟩
    | (.error e, disk) => ⟨1, plain "", some e, disk⟩

/-- The paths of the files that a run may need besides the configuration file. -/
def pathsOf (env : Environment) (config : Config) (args : List String) : List String :=
  let mailbox := fun (path : String) =>
    [path, String.ofList (Site.besidePath path.toList),
     String.ofList (Site.cachedPath path.toList (cacheDirectory env config)),
     String.ofList (cacheDirectory env config)]
  let database := fun (db : Option String) =>
    (db.orElse fun _ => config.database).toList.flatMap fun path =>
      [path, String.ofList (Path.splitLast path.toList).2.reverse]
  match Request.ofArguments args with
  | .run (.search path _ _ db ..) _ | .run (.count path _ db) _ => mailbox path ++ database db
  | .run (.sync path db) _ => mailbox path ++ database (some db)
  | .run (.index path) _ => mailbox path
  | _ => []

end MailQuery.Cli
