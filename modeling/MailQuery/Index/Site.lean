import MailQuery.Digest.Sha256
import MailQuery.Files.Disk
import MailQuery.Index.Format

/-!
# Mailbox files and their index files

The index of a mailbox file is kept beside it or, where that is impossible, in a cache directory. It is
used again only for the file for which it was written: `Site.load` compares the size of the file, when
it was changed and how it starts. An index that cannot be written is built anew the next time.
-/

namespace MailQuery

open Mail

/-- What stands in the place of an index file. -/
inductive IndexPlace where
  | absent
  | file (data : Bytes)
  /-- A directory, which can neither be read nor be replaced by a file. -/
  | directory
  /-- Nothing, where no file can be written, as in a directory that can only be read. -/
  | shut
deriving DecidableEq, Repr

namespace IndexPlace

/-- The number of bytes of an empty directory. -/
def directorySize : Nat := 4096

/-- The number of bytes of what stands in a place. -/
def size? : IndexPlace → Option Nat
  | absent | shut => none
  | file data => some data.length
  | directory => some directorySize

/-- What is read in a place, if something stands there. -/
def read? : IndexPlace → Option (Except SearchError Bytes)
  | absent | shut => none
  | file data => some (.ok data)
  | directory => some (.error .io)

/-- Whether a file can be written in a place. -/
def isOpen : IndexPlace → Bool
  | absent | file _ => true
  | directory | shut => false

end IndexPlace

/-- A mailbox file and the places of its index. -/
structure Site where
  mailbox : Option File
  /-- The place beside the mailbox file. -/
  beside : IndexPlace
  /-- The place in the cache directory. -/
  cached : IndexPlace
  /-- Whether there can be no cache directory. -/
  cacheBlocked : Bool
deriving DecidableEq, Repr

namespace Site

/-- The site of a mailbox file without an index. -/
def ofMailbox (file : File) : Site := ⟨some file, .absent, .absent, false⟩

/-- The number of bytes at the start of a mailbox file that the stamp is sensitive to. -/
def digestedSize : Nat := 4096

/-- The stamp of a mailbox file. Moments before 1970 count as its start. -/
def stamp (file : File) : Index.Stamp :=
  { size := file.data.length.toUInt64
    modified := if file.modified < 0 then 0 else file.modified
    digest := Digest.sha256 (file.data.take digestedSize) }

/-- The index in an index file, if it was written for the mailbox file as it is now. -/
def loadFrom (mailbox : Option File) (data : Bytes) : Except SearchError (Option Index) :=
  if data.length < Index.headerSize then .ok none
  else
    match Index.readHeader data with
    | none => .error .badIndex
    | some (header, _) =>
      if header.isKnown then
        match mailbox with
        | none => .error .io
        | some file =>
          if header.stamp = stamp file then
            match Index.read (data.drop Index.headerSize) with
            | none => .error .badIndex
            | some (index, _) => .ok (if header.describes index then some index else none)
          else .ok none
      else .ok none

/-- The index of the mailbox file, if there is a good one. The place beside the file comes first. -/
def load (s : Site) : Except SearchError (Option Index) :=
  match s.beside.read?.orElse fun _ => s.cached.read? with
  | none => .ok none
  | some data => data.bind (loadFrom s.mailbox)

/-- The site after an index file was written, where that is possible. -/
def save (s : Site) (data : Bytes) : Site :=
  if s.beside.isOpen then { s with beside := .file data }
  else if s.cached.isOpen && !s.cacheBlocked then { s with cached := .file data }
  else s

/-- How far a build has come: the bytes done and all bytes. -/
structure Progress where
  done : Nat
  total : Nat
deriving DecidableEq, Repr

/-- What comes of a build. -/
structure Built where
  answer : Except SearchError Index
  progress : List Progress
  site : Site

/-- Builds the index of the mailbox file and writes it. -/
def rebuild (s : Site) (options : Index.Options) : Built :=
  match s.mailbox with
  | none => ⟨.error .io, [], s⟩
  | some file =>
    match Mailbox.split options.limit file.data with
    | .error e => ⟨.error e, [], s⟩
    | .ok pieces =>
      let index := Index.ofPieces options.wantsWords pieces
      let progress := pieces.map fun p =>
        ⟨p.span.offset.toNat + p.span.length.toNat, file.data.length⟩
      ⟨.ok index, progress, s.save (index.file (stamp file))⟩

/-- The index of the mailbox file: the one that is there, or a new one. An index without words does
not do where words are wanted. -/
def build (s : Site) (options : Index.Options) (force : Bool) : Built :=
  if force then s.rebuild options
  else
    match s.load with
    | .error e => ⟨.error e, [], s⟩
    | .ok (some index) =>
      if index.words.isSome || !options.wantsWords then ⟨.ok index, [], s⟩ else s.rebuild options
    | .ok none => s.rebuild options

/-- The number of bytes of the index file, zero if there is none. -/
def indexSize (s : Site) : Nat := (s.beside.size?.orElse fun _ => s.cached.size?).getD 0

/-- The path of the index beside a mailbox file. -/
def besidePath (mailbox : List Char) : List Char :=
  Path.withFileName mailbox
    ('.' :: (Path.fileName? mailbox).getD [] ++ ".mailsearch.idx".toList)

/-- The path of the index of a mailbox file in a cache directory. -/
def cachedPath (mailbox directory : List Char) : List Char :=
  Path.join directory (Digest.hex (Digest.sha256 (Text.utf8Bytes mailbox)) ++ ".idx".toList)

end Site

end MailQuery
