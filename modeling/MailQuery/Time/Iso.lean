import MailQuery.Time.Reader

/-!
# Dates in the style of ISO 8601

The profile of RFC 3339, in which a zone is required, and the looser forms without a zone that are
read as universal time.
-/

namespace MailQuery.Time

open Text

/-- The digits of a fraction of a second, which counts for nothing. -/
def skipFraction : Reader Unit
  | '.' :: cs => if cs.head?.any Char.isDigit then some ((), cs.dropWhile Char.isDigit) else none
  | cs => some ((), cs)

/-- A zone of RFC 3339: `Z` or hours and minutes with a colon between them. -/
def rfc3339Zone : Reader Int
  | 'Z' :: cs => some (0, cs)
  | 'z' :: cs => some (0, cs)
  | cs => (offset (exactly ':') cs).filter fun (seconds, _) => seconds.natAbs < 86400

/-- The moment that a text in the form of RFC 3339 names. -/
def parseRfc3339 (cs : List Char) : Option Int64 := do
  let (year, cs) ← number 4 4 cs
  let ((), cs) ← exactly '-' cs
  let (month, cs) ← number 2 2 cs
  let ((), cs) ← exactly '-' cs
  let (day, cs) ← number 2 2 cs
  let cs ← match cs with
    | c :: cs => if c = 'T' ∨ c = 't' ∨ c = ' ' then some cs else none
    | [] => none
  let (hour, cs) ← number 2 2 cs
  let ((), cs) ← exactly ':' cs
  let (minute, cs) ← number 2 2 cs
  let ((), cs) ← exactly ':' cs
  let (second, cs) ← number 2 2 cs
  let ((), cs) ← skipFraction cs
  let zone ← Reader.all rfc3339Zone cs
  moment? ⟨year, month, day⟩ ⟨hour, minute, second⟩ zone

/-- A date `year-month-day`. -/
def dashedDate : Reader Date := fun cs => do
  let (y, cs) ← year cs
  let ((), cs) ← exactly '-' cs
  let (month, cs) ← twoDigits cs
  let ((), cs) ← exactly '-' cs
  let (day, cs) ← twoDigits cs
  return (⟨y, month, day⟩, cs)

/-- A date and a time of day with a separator between them. -/
def dateAndClock (date : Reader Date) (separator : Reader Unit) (time : Reader TimeOfDay) :
    Reader (Date × TimeOfDay) := fun cs => do
  let (d, cs) ← date cs
  let ((), cs) ← separator cs
  let (t, cs) ← time cs
  return ((d, t), cs)

/-- A date `yearmonthday` without separators. -/
def compactDate : Reader Date := fun cs => do
  let (y, cs) ← year cs
  let (month, cs) ← twoDigits cs
  let (day, cs) ← twoDigits cs
  return (⟨y, month, day⟩, cs)

/-- Any white space, also none. -/
def anySpace : Reader Unit := fun cs => some ((), trimStart cs)

/-- No separator at all. -/
def nothing : Reader Unit := fun cs => some ((), cs)

/-- The moment that a text in one of the forms of ISO 8601 names, a day at its midnight. -/
def parseIso (cs : List Char) : Option Int64 :=
  let full := fun r => (Reader.all r cs).bind fun (d, t) => moment? d t 0
  parseRfc3339 cs
    <|> full (dateAndClock dashedDate (exactly 'T') (clock (exactly ':')))
    <|> full (dateAndClock dashedDate anySpace (clock (exactly ':')))
    <|> full (dateAndClock compactDate (exactly 'T') (clock nothing))
    <|> (Reader.all dashedDate cs).bind fun d => moment? d ⟨0, 0, 0⟩ 0

end MailQuery.Time
