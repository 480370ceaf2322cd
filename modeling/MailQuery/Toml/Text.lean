/-!
# Texts in TOML

The four ways to write a text: in double quotes, where backslashes start escapes, or in single quotes,
where they do not, and each of them on one line or, with three quotes, on several.
-/

namespace MailQuery.Toml

/-- Whether a character may stand as itself. -/
def isPlain (c : Char) : Bool := c == '\t' || (' ' ≤ c && c != '\x7f')

/-- Whether a character is a blank within a line. -/
def isBlank (c : Char) : Bool := c == ' ' || c == '\t'

/-- What follows the end of a line. -/
def newline? : List Char → Option (List Char)
  | '\n' :: cs => some cs
  | '\r' :: '\n' :: cs => some cs
  | _ => none

/-- What follows blanks. -/
def skipBlanks (cs : List Char) : List Char := cs.dropWhile isBlank

/-- The value of a digit of the hexadecimal system. -/
def hexValue? (c : Char) : Option Nat :=
  if c.isDigit then some (c.toNat - '0'.toNat)
  else if 'a' ≤ c ∧ c ≤ 'f' then some (c.toNat - 'a'.toNat + 10)
  else if 'A' ≤ c ∧ c ≤ 'F' then some (c.toNat - 'A'.toNat + 10)
  else none

/-- The number that hexadecimal digits write. -/
def hexNumber? (cs : List Char) : Option Nat :=
  cs.foldl (fun n? c => n?.bind fun n => (hexValue? c).map fun d => n * 16 + d) (some 0)

/-- The character of a code point. -/
def char? (n : Nat) : Option Char := if n.isValidChar then some (Char.ofNat n) else none

/-- The character whose code point is written with `count` hexadecimal digits. -/
def readCode (count : Nat) (cs : List Char) : Option (Char × List Char) :=
  let digits := cs.take count
  if digits.length = count then
    ((hexNumber? digits).bind char?).map fun c => (c, cs.drop count)
  else none

/-- The character of an escape, behind its backslash. -/
def readEscape : List Char → Option (Char × List Char)
  | 'b' :: cs => some ('\x08', cs)
  | 't' :: cs => some ('\t', cs)
  | 'n' :: cs => some ('\n', cs)
  | 'f' :: cs => some ('\x0c', cs)
  | 'r' :: cs => some ('\r', cs)
  | '"' :: cs => some ('"', cs)
  | '\\' :: cs => some ('\\', cs)
  | 'u' :: cs => readCode 4 cs
  | 'U' :: cs => readCode 8 cs
  | _ => none

/-- Puts a character before a text that was read. -/
def push (c : Char) (p : List Char × List Char) : List Char × List Char := (c :: p.1, p.2)

/-- Reads up to the closing quote of a text on one line. -/
def readLine (quote : Char) : (fuel : Nat) → List Char → Option (List Char × List Char)
  | 0, _ | _, [] => none
  | fuel + 1, c :: cs =>
    if c = quote then some ([], cs)
    else if c = '\\' ∧ quote = '"' then
      match readEscape cs with
      | some (c, cs) => (readLine quote fuel cs).map (push c)
      | none => none
    else if isPlain c then (readLine quote fuel cs).map (push c)
    else none

/-- What follows line ends and blanks. -/
def skipLines (cs : List Char) : List Char :=
  match cs with
  | '\n' :: cs => skipLines cs
  | '\r' :: '\n' :: cs => skipLines cs
  | c :: cs => if isBlank c then skipLines cs else c :: cs
  | [] => []

/-- What follows a line end behind blanks and all line ends and blanks after it. -/
def lineBreak? (cs : List Char) : Option (List Char) := (newline? (skipBlanks cs)).map skipLines

/-- Reads up to the closing quotes of a text on several lines. Up to two quotes may stand before them. -/
def readLines (quote : Char) : (fuel : Nat) → List Char → Option (List Char × List Char)
  | 0, _ | _, [] => none
  | fuel + 1, c :: cs =>
    if c = quote then
      let count := (1 + (cs.takeWhile (· == quote)).length).min 5
      let rest := cs.drop (count - 1)
      if 3 ≤ count then some (List.replicate (count - 3) quote, rest)
      else
        (readLines quote fuel rest).map fun (text, rest) =>
          (List.replicate count quote ++ text, rest)
    else if c = '\\' ∧ quote = '"' then
      match lineBreak? cs with
      | some cs => readLines quote fuel cs
      | none =>
        match readEscape cs with
        | some (c, cs) => (readLines quote fuel cs).map (push c)
        | none => none
    else
      match newline? (c :: cs) with
      | some cs => (readLines quote fuel cs).map (push '\n')
      | none => if isPlain c then (readLines quote fuel cs).map (push c) else none

/-- Reads a text on one line with its quotes. -/
def readShort? : List Char → Option (String × List Char)
  | c :: cs =>
    if c = '"' ∨ c = '\'' then
      (readLine c (cs.length + 1) cs).map fun (text, rest) => (String.ofList text, rest)
    else none
  | [] => none

/-- Reads a text with its quotes. A line end right behind three quotes does not belong to it. -/
def readText? (cs : List Char) : Option (String × List Char) :=
  match cs with
  | a :: b :: c :: rest =>
    if (a = '"' ∨ a = '\'') ∧ b = a ∧ c = a then
      let rest := (newline? rest).getD rest
      (readLines a (rest.length + 1) rest).map fun (text, rest) => (String.ofList text, rest)
    else readShort? cs
  | _ => readShort? cs

/-! ### Writing -/

/-- The length of the longest run of a character in a text. -/
def longestRun (c : Char) (cs : List Char) : Nat :=
  (cs.foldl (fun (run, best) d => if d = c then (run + 1, max best (run + 1)) else (0, best))
    (0, 0)).2

/-- Whether a character has to be escaped wherever it stands. -/
def needsCode (c : Char) : Bool := (c < ' ' && c != '\t' && c != '\n') || c == '\x7f'

/-- A number as four hexadecimal digits. -/
def fourDigits (n : Nat) : List Char :=
  [n / 4096, n / 256, n / 16, n].map fun d => (Nat.digitChar (d % 16)).toUpper

/-- The escape of a character in a text on one line or on several, if it needs one. -/
def escape? (isLong : Bool) (c : Char) : Option (List Char) :=
  if c = '\x08' then some ['\\', 'b']
  else if c = '\t' then some ['\\', 't']
  else if c = '\n' then if isLong then none else some ['\\', 'n']
  else if c = '\x0c' then some ['\\', 'f']
  else if c = '\r' then some ['\\', 'r']
  else if c = '\\' then some ['\\', '\\']
  else if needsCode c then some ('\\' :: 'u' :: fourDigits c.toNat)
  else none

/-- A text with escapes. No more than `room` double quotes stand behind one another without an
escape, of which `run` have been written. -/
def escaped (isLong : Bool) (room : Nat) : (run : Nat) → List Char → List Char
  | _, [] => []
  | run, c :: cs =>
    if c = '"' then
      if run < room then '"' :: escaped isLong room (run + 1) cs
      else '\\' :: '"' :: escaped isLong room 0 cs
    else
      match escape? isLong c with
      | some code => code ++ escaped isLong room 0 cs
      | none => c :: escaped isLong room 0 cs

/-- A text in double quotes. -/
def basic (cs : List Char) : List Char := '"' :: escaped false 0 0 cs ++ ['"']

/-- Three quotes before a text, with a line end if it has several lines. -/
def opening (quote : Char) (cs : List Char) : List Char :=
  List.replicate 3 quote ++ if cs.contains '\n' then ['\n'] else []

/-- A text in three double quotes. -/
def longBasic (cs : List Char) : List Char :=
  opening '"' cs ++ escaped true 2 0 cs ++ List.replicate 3 '"'

/-- A text in three single quotes. -/
def longLiteral (cs : List Char) : List Char := opening '\'' cs ++ cs ++ List.replicate 3 '\''

/-- A text as it is written: without escapes if there is a way, in double quotes before single ones and on
one line before several. -/
def written (s : String) : String :=
  let cs := s.toList
  let hasCodes := cs.any needsCode
  let hasEscapes := cs.contains '\\'
  let hasLines := cs.contains '\n'
  let singles := longestRun '\'' cs
  let doubles := longestRun '"' cs
  String.ofList <|
    if !hasCodes && !hasEscapes && doubles = 0 && !hasLines then basic cs
    else if !hasCodes && singles = 0 && !hasLines then '\'' :: cs ++ ['\'']
    else if !hasCodes && !hasEscapes && doubles ≤ 2 then longBasic cs
    else if !hasCodes && singles ≤ 2 then longLiteral cs
    else if hasLines then longBasic cs
    else basic cs

end MailQuery.Toml
