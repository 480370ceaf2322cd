/-!
# JSON

Values and their text with one entry per line.
-/

namespace MailQuery.Cli

/-- A JSON value without fractions. The entries of an object stand in the order in which they are
written. -/
inductive Json where
  | null
  | number (value : Int)
  | string (value : String)
  | array (items : List Json)
  | object (entries : List (String × Json))

namespace Json

/-- The code of a control character, which has two digits at most. -/
def codeDigits (n : Nat) : List Char := ['0', '0', Nat.digitChar (n / 16), Nat.digitChar (n % 16)]

/-- A character within quotes. -/
def escapeChar (c : Char) : List Char :=
  if c = '"' then ['\\', '"']
  else if c = '\\' then ['\\', '\\']
  else if c = '\n' then ['\\', 'n']
  else if c = '\r' then ['\\', 'r']
  else if c = '\t' then ['\\', 't']
  else if c = '\x08' then ['\\', 'b']
  else if c = '\x0c' then ['\\', 'f']
  else if c < ' ' then '\\' :: 'u' :: codeDigits c.toNat
  else [c]

/-- A text in quotes. -/
def quoted (s : String) : String := String.ofList ('"' :: s.toList.flatMap escapeChar ++ ['"'])

/-- A line end and the blanks of a level. -/
def newLine (level : Nat) : String := "\n" ++ String.ofList (List.replicate (2 * level) ' ')

/-- Lines of a level between brackets, with commas between them. -/
def lines (opening closing : String) (level : Nat) (items : List String) : String :=
  if items.isEmpty then opening ++ closing
  else
    opening ++ newLine (level + 1) ++ String.intercalate ("," ++ newLine (level + 1)) items ++
      newLine level ++ closing

mutual

/-- The text of a value that stands at a level. -/
def textAt (level : Nat) : Json → String
  | null => "null"
  | number n => toString n
  | string s => quoted s
  | array items => lines "[" "]" level (itemsAt (level + 1) items)
  | object entries => lines "\x7b" "\x7d" level (entriesAt (level + 1) entries)

/-- The texts of items that stand at a level. -/
def itemsAt (level : Nat) : List Json → List String
  | [] => []
  | j :: js => textAt level j :: itemsAt level js

/-- The texts of entries that stand at a level. -/
def entriesAt (level : Nat) : List (String × Json) → List String
  | [] => []
  | (key, j) :: rest => (quoted key ++ ": " ++ textAt level j) :: entriesAt level rest

end

/-- The text of a value. -/
def text (j : Json) : String := j.textAt 0

/-- The array of some texts. -/
def strings (ss : List String) : Json := array (ss.map string)

end Json

end MailQuery.Cli
