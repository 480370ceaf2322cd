import MailQuery.Text.Blank
import MailQuery.Time.Moment

/-!
# Reading written dates

Small readers for the parts of a written date. Each takes a text and gives the part together with
what is left over, or fails.
-/

namespace MailQuery.Time

open Text

/-- A reader of a part of a text. -/
abbrev Reader (α : Type) := List Char → Option (α × List Char)

/-- A decimal number of at least `least` and at most `most` digits. -/
def number (least most : Nat) : Reader Nat := fun cs =>
  let digits := (cs.take most).takeWhile Char.isDigit
  if digits.length < least ∨ digits = [] then none
  else some (Nat.ofDigitChars 10 digits 0, cs.drop digits.length)

/-- A decimal number of at least `least` digits. -/
def longNumber (least : Nat) : Reader Nat := fun cs => number least cs.length cs

/-- A given character. -/
def exactly (c : Char) : Reader Unit
  | d :: cs => if c = d then some ((), cs) else none
  | [] => none

/-- At least one white-space character. -/
def space : Reader Unit
  | c :: cs => if isBlank c then some ((), trimStart cs) else none
  | [] => none

/-- The place in a list of the three-letter name that the text starts with, in any case. -/
def name (names : List String) : Reader Nat := fun cs =>
  let word := (cs.take 3).map Char.toLower
  (names.findIdx? fun n => n.toList == word).map fun i => (i, cs.drop 3)

/-- The names of the days of the week from Monday on. -/
def dayNames : List String := ["mon", "tue", "wed", "thu", "fri", "sat", "sun"]

/-- The names of the months. -/
def monthNames : List String :=
  ["jan", "feb", "mar", "apr", "may", "jun", "jul", "aug", "sep", "oct", "nov", "dec"]

/-- A year with an optional sign; without a sign it has at most four digits. -/
def year : Reader Int := fun cs =>
  match trimStart cs with
  | '-' :: cs => (longNumber 1 cs).map fun (n, cs) => (-(n : Int), cs)
  | '+' :: cs => (longNumber 1 cs).map fun (n, cs) => ((n : Int), cs)
  | cs => (number 1 4 cs).map fun (n, cs) => ((n : Int), cs)

/-- A number of one or two digits, white space before it allowed. -/
def twoDigits : Reader Nat := fun cs => number 1 2 (trimStart cs)

/-- Hours, minutes and seconds with a separator between them. -/
def clock (separator : Reader Unit) : Reader TimeOfDay := fun cs => do
  let (hour, cs) ← twoDigits cs
  let ((), cs) ← separator cs
  let (minute, cs) ← twoDigits cs
  let ((), cs) ← separator cs
  let (second, cs) ← twoDigits cs
  return (⟨hour, minute, second⟩, cs)

/-- The value of a reader that takes the whole text. -/
def Reader.all {α : Type} (r : Reader α) (cs : List Char) : Option α :=
  match r cs with
  | some (a, []) => some a
  | _ => none

/-- The moment of a date and time of day that is `offset` seconds ahead of universal time. -/
def moment? (date : Date) (time : TimeOfDay) (offset : Int) : Option Int64 :=
  if date.Exists ∧ Date.YearInRange date.year ∧ time.Exists then
    let t := date.midnight + time.seconds - offset
    if (dateOfMoment? t).isSome then some (Int64.ofInt t) else none
  else none

/-- A zone offset in seconds, written as a sign, two digits of hours, what `between` reads, and two
digits of minutes. -/
def offset (between : Reader Unit) : Reader Int := fun cs =>
  match cs with
  | sign :: cs =>
    if sign = '+' ∨ sign = '-' ∨ sign = '−' then do
      let (hours, cs) ← number 2 2 cs
      let ((), cs) ← between cs
      let (minutes, cs) ← number 2 2 cs
      if minutes < 60 then
        let seconds : Int := hours * 3600 + minutes * 60
        return (if sign = '+' then seconds else -seconds, cs)
      else none
    else none
  | [] => none

end MailQuery.Time
