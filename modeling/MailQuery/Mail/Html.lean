import MailQuery.Mail.Html.Entity

/-!
# HTML as plain text

The text of an HTML page, without its tags, comments and head. `<br>` and `</p>` end a line, other
blanks separate words, and character references are replaced by their characters.

A piece of text ends at a blank, at a tag, at `&` and after `;`. It is set off from the text before
by a space if blanks were seen since then; blanks at the start of a line are not seen, and a line
has started once a piece has ended otherwise than at a tag.
-/

namespace MailQuery.Mail.Html

/-- The hexadecimal or decimal digits of a numeric reference as a number. -/
def numericCode? (base : Nat) (digits : List Char) : Option Nat :=
  let value := fun (c : Char) =>
    if c.isDigit then some (c.toNat - '0'.toNat)
    else if base = 16 ∧ 'a' ≤ c.toLower ∧ c.toLower ≤ 'f' then
      some (c.toLower.toNat - 'a'.toNat + 10)
    else none
  if digits.isEmpty then none
  else digits.foldl (fun n c => do return (← n) * base + (← value c)) (some 0)

/-- The character of a reference, given what stands between `&` and `;`. -/
def referencedChar? : List Char → Option Char
  | '#' :: 'x' :: digits => (numericCode? 16 digits).bind ofCode?
  | '#' :: 'X' :: digits => (numericCode? 16 digits).bind ofCode?
  | '#' :: digits => (numericCode? 10 digits).bind ofCode?
  | name => namedChar? (String.ofList name)
where
  /-- The character of a code point other than zero. -/
  ofCode? (n : Nat) : Option Char :=
    if n ≠ 0 ∧ n.isValidChar then some (Char.ofNat n) else none

/-- A piece of text with a reference replaced by its character. -/
def expandPiece (piece : List Char) : List Char :=
  match piece with
  | '&' :: rest =>
    match rest.getLast?, referencedChar? rest.dropLast with
    | some ';', some c => [c]
    | _, _ => piece
  | _ => piece

/-- A tag that is being read. -/
structure Tag where
  /-- Whether a slash stands before its first word. -/
  closing : Bool
  /-- The number of words read. -/
  words : Nat
  /-- The last word, last character first. -/
  wordRev : List Char
  /-- Whether the next character goes on with the last word. -/
  inWord : Bool

/-- A tag of which only the opening angle bracket is read. -/
def Tag.start : Tag := ⟨false, 0, [], false⟩

/-- Whether a tag has the given name and nothing else. -/
def Tag.isNamed (t : Tag) (name : String) : Bool :=
  t.words == 1 && t.wordRev.reverse.map Char.toLower == name.toList

/-- Goes on with a tag. -/
def Tag.push (t : Tag) (c : Char) : Tag :=
  if c = '/' then { t with closing := t.closing || t.words == 0 }
  else if c = ' ' ∨ c = '\t' ∨ c = '\r' ∨ c = '\n' then { t with inWord := false }
  else if t.inWord then { t with wordRev := c :: t.wordRev }
  else { t with words := t.words + 1, wordRev := [c], inWord := true }

/-- Where in the page the reader is. -/
inductive Place where
  | text
  | tag (tag : Tag)
  /-- In a comment, after a number of dashes. -/
  | comment (dashes : Nat)

/-- What has been read of a page. -/
structure Page where
  /-- The text, last character first. -/
  outRev : List Char
  /-- The piece of text that is being read, last character first. -/
  pieceRev : List Char
  place : Place
  inHead : Bool
  /-- Whether blanks were seen since the last piece. -/
  afterBlank : Bool
  /-- Whether the line has not started. -/
  lineStart : Bool

/-- Nothing is read yet. -/
def Page.start : Page := ⟨[], [], .text, false, false, true⟩

/-- Ends the piece of text that is being read. -/
def Page.endPiece (p : Page) : Page :=
  if p.pieceRev.isEmpty then p
  else
    let out := if p.afterBlank then ' ' :: p.outRev else p.outRev
    { p with
      outRev := (expandPiece p.pieceRev.reverse).reverse ++ out
      pieceRev := []
      afterBlank := false }

/-- Ends the piece of text that is being read and has the line started if there is such a piece. -/
def Page.endPieceInLine (p : Page) : Page :=
  if p.pieceRev.isEmpty then p else { p.endPiece with lineStart := false }

/-- Ends a tag. -/
def Page.endTag (p : Page) (t : Tag) : Page :=
  let p := { p with place := .text }
  if t.isNamed "br" || (t.isNamed "p" && t.closing) then
    { p with outRev := '\n' :: p.outRev, afterBlank := false, lineStart := true }
  else if t.isNamed "head" then { p with inHead := !t.closing }
  else p

/-- Reads on by one character; `ahead` is what follows it. -/
def Page.push (p : Page) (c : Char) (ahead : List Char) : Page :=
  match p.place with
  | .comment dashes =>
    if c = '-' then { p with place := .comment (dashes + 1) }
    else if c = '>' ∧ 2 ≤ dashes then { p with place := .text }
    else { p with place := .comment 0 }
  | .tag t =>
    if c = '<' then { p with place := .tag .start }
    else if c = '>' then p.endTag t
    else if c = '!' ∧ t.words = 0 ∧ ahead.take 2 = ['-', '-'] then { p with place := .comment 0 }
    else { p with place := .tag (t.push c) }
  | .text =>
    if c = '<' then { p.endPiece with place := .tag .start }
    else if p.inHead then p
    else if c = ' ' ∨ c = '\t' ∨ c = '\r' ∨ c = '\n' then
      let p := p.endPieceInLine
      { p with afterBlank := !p.lineStart }
    else if c = '&' then
      let p := p.endPiece
      { p with pieceRev := ['&'] }
    else if c = ';' ∧ !p.pieceRev.isEmpty then
      { p with pieceRev := ';' :: p.pieceRev }.endPieceInLine
    else { p with pieceRev := c :: p.pieceRev }

/-- Reads a page to its end. -/
def Page.read (p : Page) : List Char → Page
  | [] => p
  | c :: cs => (p.push c cs).read cs

/-- The text of an HTML page. -/
def toText (html : List Char) : List Char :=
  let p := Page.start.read html
  match p.place with
  | .text => p.endPiece.outRev.reverse
  | _ => p.outRev.reverse

end MailQuery.Mail.Html
