import MailQuery.Config.Basic
import MailQuery.Folder.Basic
import MailQuery.Index.Site

/-!
# Folders of mailbox files

A mailbox file is opened through its index. Messages are read from the file by their spans when they are
asked for.
-/

namespace MailQuery.Folder

/-- The folder of a mailbox file with its index. Its table is named after the file. -/
def ofIndex (path : String) (file : Bytes) (index : Index) (config : Config) (store : Option Store) :
    Folder :=
  let name := Path.stem ((Path.fileName? path.toList).getD [])
  let table := config.table.getD (tableName name)
  let catalog := ⟨"mbox://" ++ path, index.summaries, index.words⟩
  { ofCatalog catalog table (.mailbox file) config.cacheSize with
    memoryOnly := config.memoryOnly, store }

/-- Opens the mailbox file of a site, of which `path` is the absolute path. -/
def openMailbox (path : String) (site : Site) (config : Config) (store : Option Store) :
    Except SearchError Folder × Site :=
  let built := site.build config.indexOptions false
  let opened := built.answer.bind fun index =>
    match site.mailbox with
    | some file => .ok (ofIndex path file.data index config store)
    | none => .error .io
  (opened, built.site)

end MailQuery.Folder
