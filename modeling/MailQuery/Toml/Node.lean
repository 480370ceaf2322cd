/-!
# Trees of settings

A TOML document is a tree of tables. Tables come into being in several ways, which differ in how they may
be added to later: the entries under a dotted key are put into tables by `Entries.put`, and the tables of
headers are opened by `Entries.openTable` and `Entries.openElement`.
-/

namespace MailQuery.Toml

/-- How a table came into being. -/
inductive Origin where
  /-- By its header. -/
  | header
  /-- By the header of a table in it. -/
  | implied
  /-- By a dotted key. -/
  | dotted
  /-- As a value in braces. -/
  | inlined
deriving DecidableEq, Repr

/-- What stands under a key. -/
inductive Node where
  | string (value : String)
  | int (value : Int64)
  | bool (value : Bool)
  /-- A number with a fraction or an exponent, as it is written. -/
  | float (text : String)
  /-- A date, a time or both, as they are written. -/
  | moment (text : String)
  | array (items : List Node)
  | table (origin : Origin) (entries : List (String × Node))
  /-- An array of tables, each with a header of its own. -/
  | tables (items : List (List (String × Node)))
deriving Inhabited

/-- The entries of a table, in the order in which they came into being. -/
abbrev Entries := List (String × Node)

namespace Entries

/-- The entries in which a key stands for something else. -/
def replace (es : Entries) (key : String) (node : Node) : Entries :=
  es.map fun e => if e.1 = key then (key, node) else e

/-- A list in which the last element is changed. -/
def changeLast {α : Type} (change : α → Option α) : List α → Option (List α)
  | [] => none
  | [x] => (change x).map fun x => [x]
  | x :: xs => (changeLast change xs).map (x :: ·)

/-- The entries with a new one under a dotted key. A table that such a key leads to must have come
into being by a dotted key as well; `isOpen` says whether this holds for the table of these entries. -/
def put : (path : List String) → (key : String) → Node → (isOpen : Bool) → Entries → Option Entries
  | [], key, node, isOpen, es =>
    if isOpen && (es.lookup key).isNone then some (es ++ [(key, node)]) else none
  | k :: path, key, node, _, es =>
    match es.lookup k with
    | none => (put path key node true []).map fun inner => es ++ [(k, .table .dotted inner)]
    | some (.table .dotted inner) =>
      (put path key node true inner).map fun inner => es.replace k (.table .dotted inner)
    | some (.table .implied inner) =>
      (put path key node false inner).map fun inner => es.replace k (.table .implied inner)
    | some (.tables items) =>
      (changeLast (put path key node false) items).map fun items => es.replace k (.tables items)
    | some _ => none

/-- The entries in which the table of a path is changed. Tables on the way that are not there yet come
into being; of an array of tables the last one is meant. -/
def change (f : Entries → Option Entries) : (path : List String) → Entries → Option Entries
  | [], es => f es
  | k :: path, es =>
    match es.lookup k with
    | none => (change f path []).map fun inner => es ++ [(k, .table .implied inner)]
    | some (.table origin inner) =>
      if origin = .inlined then none
      else (change f path inner).map fun inner => es.replace k (.table origin inner)
    | some (.tables items) =>
      (changeLast (change f path) items).map fun items => es.replace k (.tables items)
    | some _ => none

/-- The entries with a table under a key, opened by its header. -/
def openTable (key : String) (es : Entries) : Option Entries :=
  match es.lookup key with
  | none => some (es ++ [(key, .table .header [])])
  | some (.table .implied inner) => some (es.replace key (.table .header inner))
  | some _ => none

/-- The entries with one more table in the array under a key. -/
def openElement (key : String) (es : Entries) : Option Entries :=
  match es.lookup key with
  | none => some (es ++ [(key, .tables [[]])])
  | some (.tables items) => some (es.replace key (.tables (items ++ [[]])))
  | some _ => none

end Entries

end MailQuery.Toml
