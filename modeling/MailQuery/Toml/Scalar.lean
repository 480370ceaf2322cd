import MailQuery.Clamp
import MailQuery.Time.Civil
import MailQuery.Toml.Node

/-!
# Numbers and moments in TOML

Numbers with or without a fraction, dates and times. Digits may have single underscores between
them.
-/

namespace MailQuery.Toml

/-- The digits at the start of a text, without the underscores between them. -/
def readDigits (isDigit : Char → Bool) : List Char → Option (List Char × List Char)
  | [] => none
  | c :: cs =>
    if isDigit c then
      match cs with
      | '_' :: cs => (readDigits isDigit cs).map fun (ds, rest) => (c :: ds, rest)
      | cs =>
        if cs.head?.any isDigit then (readDigits isDigit cs).map fun (ds, rest) => (c :: ds, rest)
        else some ([c], cs)
    else none

/-- The sign at the start of a text, and what follows it. -/
def readSign : List Char → Bool × List Char
  | '-' :: cs => (true, cs)
  | '+' :: cs => (false, cs)
  | cs => (false, cs)

/-- Reads the digits of a whole number, which has no zeros before it. -/
def readWhole (cs : List Char) : Option (List Char × List Char) :=
  match cs with
  | '0' :: cs => some (['0'], cs)
  | cs => readDigits Char.isDigit cs

/-- Reads a number in another base, behind its letter. -/
def readBase (base : Nat) (isDigit : Char → Bool) (cs : List Char) : Option (Node × List Char) :=
  match readDigits isDigit cs with
  | some (ds, rest) => (int64? (Nat.ofDigitChars base ds 0)).map fun n => (.int n, rest)
  | none => none

/-- Whether a character is a digit of the hexadecimal system. -/
def isHexDigit (c : Char) : Bool := c.isDigit || ('a' ≤ c && c ≤ 'f') || ('A' ≤ c && c ≤ 'F')

/-- Whether a character is a digit below a number. -/
def isDigitBelow (base : Nat) (c : Char) : Bool := c.isDigit && c.toNat - '0'.toNat < base

/-- Reads an integer. -/
def readInteger (cs : List Char) : Option (Node × List Char) :=
  match cs with
  | '0' :: 'x' :: cs => readBase 16 isHexDigit cs
  | '0' :: 'o' :: cs => readBase 8 (isDigitBelow 8) cs
  | '0' :: 'b' :: cs => readBase 2 (isDigitBelow 2) cs
  | cs =>
    let (negative, cs) := readSign cs
    match readWhole cs with
    | some (ds, rest) =>
      let n : Int := Nat.ofDigitChars 10 ds 0
      (int64? (if negative then -n else n)).map fun n => (.int n, rest)
    | none => none

/-- What follows a fraction. -/
def skipFraction? : List Char → Option (List Char)
  | '.' :: cs => (readDigits Char.isDigit cs).map (·.2)
  | _ => none

/-- What follows an exponent. -/
def skipExponent? : List Char → Option (List Char)
  | c :: cs =>
    if c = 'e' ∨ c = 'E' then (readDigits Char.isDigit (readSign cs).2).map (·.2) else none
  | [] => none

/-- The text between two ends of a text. -/
def taken (cs rest : List Char) : String := String.ofList (cs.take (cs.length - rest.length))

/-- Reads a number with a fraction, an exponent or both, or one that is infinite or undefined. -/
def readFloat (cs : List Char) : Option (Node × List Char) :=
  let body := (readSign cs).2
  let rest? :=
    if ['i', 'n', 'f'].isPrefixOf body || ['n', 'a', 'n'].isPrefixOf body then some (body.drop 3)
    else
      (readWhole body).bind fun (_, rest) =>
        match skipFraction? rest with
        | some rest => if (rest.head?.any fun c => c = 'e' || c = 'E') then skipExponent? rest else some rest
        | none => skipExponent? rest
  rest?.map fun rest => (.float (taken cs rest), rest)

/-- The number that the next `count` digits write. -/
def readFixed (count : Nat) (cs : List Char) : Option (Nat × List Char) :=
  let ds := cs.take count
  if ds.length = count ∧ ds.all Char.isDigit then some (Nat.ofDigitChars 10 ds 0, cs.drop count)
  else none

/-- What follows a given character. -/
def expect (c : Char) : List Char → Option (List Char)
  | d :: cs => if d = c then some cs else none
  | [] => none

/-- What follows a date. -/
def skipDate? (cs : List Char) : Option (List Char) := do
  let (year, cs) ← readFixed 4 cs
  let cs ← expect '-' cs
  let (month, cs) ← readFixed 2 cs
  let cs ← expect '-' cs
  let (day, cs) ← readFixed 2 cs
  if Date.Exists ⟨year, month, day⟩ then some cs else none

/-- What follows an hour and a minute. -/
def skipMinutes? (cs : List Char) : Option (List Char) := do
  let (hour, cs) ← readFixed 2 cs
  let cs ← expect ':' cs
  let (minute, cs) ← readFixed 2 cs
  if hour ≤ 23 ∧ minute ≤ 59 then some cs else none

/-- What follows the time of a day. -/
def skipTime? (cs : List Char) : Option (List Char) := do
  let cs ← skipMinutes? cs
  let cs ← expect ':' cs
  let (second, cs) ← readFixed 2 cs
  if second ≤ 60 then
    match cs with
    | '.' :: fraction =>
      let digits := fraction.takeWhile Char.isDigit
      some (if digits.isEmpty then cs else fraction.drop digits.length)
    | cs => some cs
  else none

/-- What follows the offset of a zone, if there is one. -/
def skipOffset (cs : List Char) : List Char :=
  match cs with
  | c :: rest =>
    if c = 'Z' ∨ c = 'z' then rest
    else if c = '+' ∨ c = '-' then (skipMinutes? rest).getD cs
    else cs
  | [] => []

/-- Reads a date, a time or both. -/
def readMoment (cs : List Char) : Option (Node × List Char) :=
  let rest? :=
    match skipDate? cs with
    | some rest =>
      match rest with
      | c :: time =>
        if c = 'T' ∨ c = 't' ∨ c = ' ' then some (((skipTime? time).map skipOffset).getD rest)
        else some rest
      | [] => some []
    | none => skipTime? cs
  rest?.map fun rest => (.moment (taken cs rest), rest)

/-- Reads a number or a moment. -/
def readNumber (cs : List Char) : Option (Node × List Char) :=
  (readMoment cs).orElse fun _ => (readFloat cs).orElse fun _ => readInteger cs

end MailQuery.Toml
