/-!
# Paths

A path is a text with slashes between its components. Empty components and dots behind the first
component say nothing; where they stand at the end of a path they are left out when it is taken apart.
-/

namespace MailQuery.Path

/-- Drops slashes and dots that say nothing from the start of a reversed path. -/
def dropIdle : List Char → List Char
  | '/' :: cs => if cs.isEmpty then ['/'] else dropIdle cs
  | '.' :: '/' :: cs => if cs.isEmpty then ['/'] else dropIdle cs
  | cs => cs

/-- The last component of a path and, reversed, what stands before it. -/
def splitLast (path : List Char) : List Char × List Char :=
  let cs := dropIdle path.reverse
  ((cs.takeWhile (· != '/')).reverse, cs.dropWhile (· != '/'))

/-- The name of the file that a path leads to. A path that ends with the root or a dot component has
none. -/
def fileName? (path : List Char) : Option (List Char) :=
  let (last, _) := splitLast path
  if last.isEmpty || last = ['.'] || last = ['.', '.'] then none else some last

/-- A path with one more component. -/
def join (path name : List Char) : List Char :=
  if path.isEmpty || path.getLast? = some '/' then path ++ name else path ++ '/' :: name

/-- A path with another file name. -/
def withFileName (path name : List Char) : List Char :=
  match fileName? path with
  | some _ => join (dropIdle (splitLast path).2).reverse name
  | none => join path name

/-- A file name without what follows its last dot. A dot at the start of the name does not count. -/
def stem (name : List Char) : List Char :=
  match (name.reverse.dropWhile (· != '.')).drop 1 with
  | [] => name
  | before => before.reverse

end MailQuery.Path
