import MailQuery.Toml.Scalar
import MailQuery.Toml.Text

/-!
# TOML documents

A document is read line by line: headers choose the table to which the entries behind them belong.
-/

namespace MailQuery.Toml

/-- The number from which on arrays and tables are nested too deep, and keys have too many parts. -/
def depthLimit : Nat := 80

/-- Whether a character can stand in a key without quotes. -/
def isBare (c : Char) : Bool := c.isAlphanum || c == '-' || c == '_'

/-- Reads one part of a key. -/
def readPart (cs : List Char) : Option (String × List Char) :=
  let bare := cs.takeWhile isBare
  if bare.isEmpty then readShort? cs else some (String.ofList bare, cs.drop bare.length)

/-- Reads a key with dots between its parts. -/
def readParts : (fuel : Nat) → List Char → Option (List String × List Char)
  | 0, _ => none
  | fuel + 1, cs =>
    match readPart (skipBlanks cs) with
    | none => none
    | some (part, rest) =>
      match skipBlanks rest with
      | '.' :: rest => (readParts fuel rest).map fun (parts, rest) => (part :: parts, rest)
      | rest => some ([part], rest)

/-- Reads a key: the tables that it leads through, and its last part. -/
def readKey (cs : List Char) : Option (List String × String × List Char) :=
  match readParts depthLimit cs with
  | some (parts, rest) =>
    if parts.length < depthLimit then parts.getLast?.map fun last => (parts.dropLast, last, rest)
    else none
  | none => none

/-- What follows a comment, up to the end of its line. -/
def skipComment (cs : List Char) : List Char :=
  match cs with
  | '#' :: cs => cs.dropWhile isPlain
  | cs => cs

/-- What follows blanks, comments and line ends. -/
def skipBetween : (fuel : Nat) → List Char → List Char
  | 0, cs => cs
  | fuel + 1, cs =>
    let rest := skipComment (skipLines cs)
    if rest.length < cs.length then skipBetween fuel rest else rest

/-- What follows the end of a line, before which blanks and a comment may stand. The end of the document
ends its last line. -/
def lineEnd? (cs : List Char) : Option (List Char) :=
  match skipComment (skipBlanks cs) with
  | [] => some []
  | rest => newline? rest

/-- What follows a word at the start of a text. -/
def word? (word : String) (cs : List Char) : Option (List Char) :=
  if word.toList.isPrefixOf cs then some (cs.drop word.length) else none

mutual

/-- Reads a value that stands `depth` levels deep in arrays and tables. -/
def readValue (depth : Nat) : (fuel : Nat) → List Char → Option (Node × List Char)
  | 0, _ | _, [] => none
  | fuel + 1, c :: cs =>
    if c = '"' ∨ c = '\'' then (readText? (c :: cs)).map fun (s, rest) => (.string s, rest)
    else if c = '[' then
      if depth + 1 < depthLimit then
        (readItems (depth + 1) fuel cs).map fun (items, rest) => (.array items, rest)
      else none
    else if c = '\x7b' then
      if depth + 1 < depthLimit then
        match skipBlanks cs with
        | '\x7d' :: rest => some (.table .inlined [], rest)
        | cs => (readFields (depth + 1) fuel [] cs).map fun (es, rest) => (.table .inlined es, rest)
      else none
    else
      match word? "true" (c :: cs), word? "false" (c :: cs) with
      | some rest, _ => some (.bool true, rest)
      | _, some rest => some (.bool false, rest)
      | _, _ => readNumber (c :: cs)

/-- Reads the rest of an array. -/
def readItems (depth : Nat) : (fuel : Nat) → List Char → Option (List Node × List Char)
  | 0, _ => none
  | fuel + 1, cs =>
    match skipBetween (cs.length + 1) cs with
    | ']' :: rest => some ([], rest)
    | cs =>
      match readValue depth fuel cs with
      | none => none
      | some (item, rest) =>
        match skipBetween (rest.length + 1) rest with
        | ',' :: rest => (readItems depth fuel rest).map fun (items, rest) => (item :: items, rest)
        | ']' :: rest => some ([item], rest)
        | _ => none

/-- Reads the rest of a table in braces, of which entries have been read. -/
def readFields (depth : Nat) : (fuel : Nat) → Entries → List Char → Option (Entries × List Char)
  | 0, _, _ => none
  | fuel + 1, es, cs =>
    match readKey cs with
    | some (path, key, '=' :: rest) =>
      match readValue depth fuel (skipBlanks rest) with
      | none => none
      | some (node, rest) =>
        match Entries.put path key node true es with
        | none => none
        | some es =>
          match skipBlanks rest with
          | ',' :: rest => readFields depth fuel es rest
          | '\x7d' :: rest => some (es, rest)
          | _ => none
    | _ => none

end

/-- A document that is being read. -/
structure Draft where
  entries : Entries
  /-- The path of the table to which the entries that follow belong. -/
  current : List String

/-- The document with the table of a header. -/
def Draft.enter (d : Draft) (path : List String) (key : String)
    (openIt : String → Entries → Option Entries) : Option Draft :=
  (Entries.change (openIt key) path d.entries).map fun entries => ⟨entries, path ++ [key]⟩

/-- Reads one line. -/
def readStatement (d : Draft) (cs : List Char) : Option (Draft × List Char) :=
  match cs with
  | '[' :: '[' :: cs =>
    match readKey cs with
    | some (path, key, ']' :: ']' :: rest) =>
      (d.enter path key Entries.openElement).bind fun d => (lineEnd? rest).map fun rest => (d, rest)
    | _ => none
  | '[' :: cs =>
    match readKey cs with
    | some (path, key, ']' :: rest) =>
      (d.enter path key Entries.openTable).bind fun d => (lineEnd? rest).map fun rest => (d, rest)
    | _ => none
  | cs =>
    match readKey cs with
    | some (path, key, '=' :: rest) =>
      match readValue 0 (2 * rest.length + 2) (skipBlanks rest) with
      | none => none
      | some (node, rest) =>
        match Entries.change (Entries.put path key node true) d.current d.entries with
        | none => none
        | some entries => (lineEnd? rest).map fun rest => (⟨entries, d.current⟩, rest)
    | _ => none

/-- Reads the lines of a document. -/
def readAll : (fuel : Nat) → Draft → List Char → Option Entries
  | 0, _, _ => none
  | fuel + 1, d, cs =>
    match skipBetween (cs.length + 1) cs with
    | [] => some d.entries
    | cs =>
      match readStatement d cs with
      | none => none
      | some (d, rest) => readAll fuel d rest

/-- The byte-order mark. -/
def mark : Char := '\ufeff'

/-- The entries of a document. A byte-order mark may stand before it. -/
def read (text : String) : Option Entries :=
  let cs := text.toList
  let cs := if cs.head? = some mark then cs.drop 1 else cs
  readAll (cs.length + 1) ⟨[], []⟩ cs

end MailQuery.Toml
