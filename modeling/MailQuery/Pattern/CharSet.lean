import MailQuery.Text.Blank
import MailQuery.Text.Case
import MailQuery.Text.WordChar

/-!
# Sets of characters

The sets that a pattern can ask for in one place, as data, so that patterns can be compared.
-/

namespace MailQuery

open Text

/-- A set of characters. -/
inductive CharSet where
  | none
  /-- The characters from `first` to `last`, both included. -/
  | range (first last : Char)
  | digit
  | blank
  | word
  | union (s t : CharSet)
  | inter (s t : CharSet)
  | diff (s t : CharSet)
  | complement (s : CharSet)
  /-- The characters that differ only in case from one of a set. -/
  | caseless (s : CharSet)
deriving DecidableEq, Repr

namespace CharSet

/-- Whether a character is in a set. -/
def contains : CharSet → Char → Bool
  | none, _ => false
  | range first last, c => first ≤ c && c ≤ last
  | digit, c => isDecimalDigit c
  | blank, c => isBlank c
  | word, c => isWordChar c
  | union s t, c => s.contains c || t.contains c
  | inter s t, c => s.contains c && t.contains c
  | diff s t, c => s.contains c && !t.contains c
  | complement s, c => !s.contains c
  | caseless s, c => (caseVariants c).any s.contains

/-- The set of one character. -/
def single (c : Char) : CharSet := range c c

/-- The set of all characters. -/
def any : CharSet := complement none

/-- The set of all characters but line feeds. -/
def inLine : CharSet := complement (single '\n')

/-- The union of the ranges of a list. -/
def ofRanges (ranges : List (Char × Char)) : CharSet :=
  ranges.foldl (fun s r => union s (range r.1 r.2)) none

/-- The classes of ASCII characters that have names. -/
def asciiClasses : List (String × CharSet) :=
  [("alnum", ofRanges [('0', '9'), ('A', 'Z'), ('a', 'z')]),
   ("alpha", ofRanges [('A', 'Z'), ('a', 'z')]),
   ("ascii", range '\x00' '\x7f'),
   ("blank", ofRanges [('\t', '\t'), (' ', ' ')]),
   ("cntrl", ofRanges [('\x00', '\x1f'), ('\x7f', '\x7f')]),
   ("digit", range '0' '9'),
   ("graph", range '!' '~'),
   ("lower", range 'a' 'z'),
   ("print", range ' ' '~'),
   ("punct", ofRanges [('!', '/'), (':', '@'), ('[', '\x60'), ('\x7b', '~')]),
   ("space", ofRanges [('\t', '\r'), (' ', ' ')]),
   ("upper", range 'A' 'Z'),
   ("word", ofRanges [('0', '9'), ('A', 'Z'), ('_', '_'), ('a', 'z')]),
   ("xdigit", ofRanges [('0', '9'), ('A', 'F'), ('a', 'f')])]

end CharSet

end MailQuery
