/-!
# Soundex

The code of a name by its sound: its first letter and three digits. Neighbouring letters of one digit
count once, and a vowel between them sets them apart.
-/

namespace MailQuery.Search

/-- The digit of a letter, where it has one. -/
def soundexDigit? (c : Char) : Option Char :=
  let c := c.toLower
  let group := fun (letters : String) => letters.toList.contains c
  if group "bfpv" then some '1'
  else if group "cgjkqsxz" then some '2'
  else if group "dt" then some '3'
  else if group "l" then some '4'
  else if group "mn" then some '5'
  else if group "r" then some '6'
  else none

/-- The digits of a list of letters after one whose digit is `last`. -/
def soundexDigits (last : Option Char) : List Char → List Char
  | [] => []
  | c :: cs =>
    let d := soundexDigit? c
    let here := if d = last then [] else d.toList
    here ++ soundexDigits d cs

/-- The code of the letters of a text, empty where it has none. -/
def soundex (cs : List Char) : List Char :=
  match cs.filter Char.isAlpha with
  | [] => []
  | first :: rest =>
    first.toUpper :: (soundexDigits (soundexDigit? first) rest ++ ['0', '0', '0']).take 3

example : soundex "Robert".toList = "R163".toList := by decide

end MailQuery.Search
