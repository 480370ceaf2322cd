import MailQuery.Text.Find

/-!
# Words of SQL

A condition is cut into words: names, numbers, strings and operators. Blanks and comments separate words
and are otherwise without meaning.
-/

namespace MailQuery.Sql

open Text

/-- A word of a condition. -/
inductive Word where
  /-- A name or a keyword, as it is written. -/
  | name (text : String)
  /-- A name in double quotes. -/
  | quoted (text : String)
  | number (value : Nat)
  | string (value : String)
  /-- An operator or a parenthesis. -/
  | mark (text : String)
deriving DecidableEq, Repr

namespace Word

/-- Whether a character can start a name. -/
def isNameStart (c : Char) : Bool := c.isAlpha || c == '_' || 0x80 ≤ c.toNat

/-- Whether a character can stand in a name. -/
def isNameChar (c : Char) : Bool := isNameStart c || c.isDigit || c == '$'

/-- Whether a character is a blank. -/
def isBlank (c : Char) : Bool := c == ' ' || c == '\t' || c == '\n' || c == '\x0c' || c == '\r'

/-- The text up to the closing quote, in which two quotes stand for one, and what follows it. -/
def readQuoted (quote : Char) : List Char → Option (List Char × List Char)
  | [] => none
  | c :: cs =>
    if c = '\x00' then none
    else if c = quote then
      match cs with
      | d :: ds =>
        if d = quote then (readQuoted quote ds).map fun (text, rest) => (quote :: text, rest)
        else some ([], cs)
      | [] => some ([], [])
    else (readQuoted quote cs).map fun (text, rest) => (c :: text, rest)

/-- What follows the end of a block comment; a comment may also end with the text. -/
def skipComment : List Char → List Char
  | '*' :: '/' :: cs => cs
  | _ :: cs => skipComment cs
  | [] => []

/-- The operators and parentheses, the longer ones first. -/
def marks : List (List Char) :=
  [['<', '='], ['<', '>'], ['>', '='], ['=', '='], ['!', '='], ['|', '|'], ['('], [')'], [','], ['='],
   ['<'], ['>'], ['&'], ['+'], ['-'], ['*'], ['/']]

/-- The operator or parenthesis at the start of a text. -/
def readMark (cs : List Char) : Option (Word × List Char) :=
  (marks.find? (·.isPrefixOf cs)).map fun m => (mark (String.ofList m), cs.drop m.length)

/-- The word at the start of a text that starts with no blank or comment. -/
def readWord : List Char → Option (Word × List Char)
  | [] => none
  | c :: cs =>
    if c = '\'' then
      (readQuoted c cs).map fun (text, rest) => (string (String.ofList text), rest)
    else if c = '"' then
      (readQuoted c cs).map fun (text, rest) => (quoted (String.ofList text), rest)
    else if isNameStart c then
      some (name (String.ofList (c :: cs.takeWhile isNameChar)), cs.dropWhile isNameChar)
    else if c.isDigit then
      let rest := cs.dropWhile Char.isDigit
      if rest.head?.any fun d => isNameChar d || d == '.' then none
      else some (number (Nat.ofDigitChars 10 (c :: cs.takeWhile Char.isDigit) 0), rest)
    else readMark (c :: cs)

/-- What follows a blank or a comment at the start of a text, if there is one. -/
def skip? : List Char → Option (List Char)
  | '-' :: '-' :: rest => some (rest.dropWhile (· != '\n'))
  | '/' :: '*' :: rest => some (skipComment rest)
  | c :: rest => if isBlank c then some rest else none
  | [] => none

/-- The words of a text, if it consists of words. -/
def readAll : (fuel : Nat) → List Char → Option (List Word)
  | _, [] => some []
  | 0, _ :: _ => none
  | fuel + 1, c :: cs =>
    match skip? (c :: cs) with
    | some rest => readAll fuel rest
    | none =>
      match readWord (c :: cs) with
      | none => none
      | some (word, rest) => (readAll fuel rest).map (word :: ·)

end Word

end MailQuery.Sql
