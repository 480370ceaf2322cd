import MailQuery.Files.Path
import MailQuery.Text.Blank
import MailQuery.Text.Utf8

/-!
# Files

A disk is the list of the files that a program can reach. Paths that lead to one file are told apart by how
they are written only; `Path.normal` gives them one form.
-/

namespace MailQuery

/-- The components of a path that say something. -/
def Path.components (path : List Char) : List (List Char) :=
  (Text.runsWithout (· == '/') path).filter (· != ['.'])

/-- The path in which nothing is said that says nothing. The working directory is the empty path. -/
def Path.normal (path : List Char) : List Char :=
  let parts := List.intercalate ['/'] (components path)
  if path.head? = some '/' then '/' :: parts else parts

/-- A file. -/
structure File where
  data : Bytes
  /-- When it was last changed, in seconds since the start of 1970. -/
  modified : Int64
deriving DecidableEq, Repr

/-- The files and directories that a program can reach. -/
structure Disk where
  files : List (List Char × File)
  /-- The directories that no file lies in. -/
  directories : List (List Char)
deriving DecidableEq, Repr

namespace Disk

/-- The disk without files. -/
def empty : Disk := ⟨[], []⟩

instance : Inhabited Disk := ⟨empty⟩

/-- The file that a path leads to. -/
def file? (d : Disk) (path : List Char) : Option File := d.files.lookup (Path.normal path)

/-- Whether a path leads to a directory. -/
def isDirectory (d : Disk) (path : List Char) : Bool :=
  let path := Path.normal path
  path.isEmpty || path == ['/'] || d.directories.contains path ||
    d.files.any fun f => (path ++ ['/']).isPrefixOf f.1

/-- Whether a path leads to something. -/
def contains (d : Disk) (path : List Char) : Bool := (d.file? path).isSome || d.isDirectory path

/-- The disk after a file was written. -/
def write (d : Disk) (path : List Char) (file : File) : Disk :=
  let path := Path.normal path
  { d with files := (path, file) :: d.files.filter (·.1 != path) }

/-- The disk with one more directory. -/
def makeDirectory (d : Disk) (path : List Char) : Disk :=
  { d with directories := Path.normal path :: d.directories }

/-- Whether there can be no directory at a path, because a file stands there or on the way. -/
def isBlocked (d : Disk) (path : List Char) : Bool :=
  let path := Path.normal path
  d.files.any fun f => f.1 == path || (f.1 ++ ['/']).isPrefixOf path

end Disk

end MailQuery
