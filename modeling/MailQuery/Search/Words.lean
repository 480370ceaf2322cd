import MailQuery.Text.Alphanumeric
import MailQuery.Text.Blank
import MailQuery.Text.Case

/-!
# Words of a phrase

A search phrase is cut into words at white space. Quotes make one word of several, and a backslash
takes the next character as it is. A word is simple if it holds letters and numbers only; only
simple words can be looked up in a word index.
-/

namespace MailQuery.Search

open Text

/-- A word of a search phrase, in lower case. -/
structure Word where
  text : List Char
  /-- Whether other characters than letters and numbers are in it. -/
  complex : Bool
deriving DecidableEq, Repr

/-- The words of a search phrase. -/
abbrev Query := List Word

/-- Whether a query has a word that cannot be looked up. -/
def Query.complex (q : Query) : Bool := q.any Word.complex

/-- The word without text. -/
def Word.empty : Word := ⟨[], false⟩

/-- The word with one more character; letters and numbers are put in lower case. -/
def Word.push (w : Word) (c : Char) : Word :=
  if isAlphanumeric c then { w with text := w.text ++ lowerChar c }
  else ⟨w.text ++ [c], true⟩

/-- The query of a word that is read to its end, empty if the word is. -/
def Word.finish (w : Word) : Query := if w.text.isEmpty then [] else [w]

/-- The words from here on, where `w` is what has been read of the current word. -/
def wordsFrom (inQuote : Bool) (w : Word) : List Char → Query
  | [] => w.finish
  | c :: cs =>
    if (inQuote && c == '"') || (!inQuote && isBlank c) then w.finish ++ wordsFrom false .empty cs
    else if c = '\\' then
      match cs with
      | [] => w.finish
      | d :: ds => wordsFrom inQuote (w.push d) ds
    else if c = '"' then wordsFrom true w cs
    else wordsFrom inQuote (w.push c) cs

/-- The words of a search phrase. -/
def splitWords (phrase : List Char) : Query := wordsFrom false .empty phrase

/-- The simple words of a query. A complex word gives its runs of letters and numbers. -/
def simpleWords (q : Query) : Query :=
  q.flatMap fun w =>
    if w.complex then (runsWithout (!isAlphanumeric ·) w.text).map fun text => ⟨text, false⟩
    else [w]

end MailQuery.Search
