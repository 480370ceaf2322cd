import MailQuery.Mail.Field
import MailQuery.Time.Iso

/-!
# Dates of messages

The date of a `Date` field is read in the form of RFC 2822, then in that of RFC 3339, and then by a
loose scan for its numbers that pays no heed to the day of the week. The line that separates the
messages of a mailbox file carries a date of its own.
-/

namespace MailQuery.Mail

open Ascii Text Time

/-- The hours by which the named zones of RFC 2822 are ahead of universal time. -/
def zoneNames : List (String × Int) :=
  [("gmt", 0), ("ut", 0), ("utc", 0), ("z", 0), ("edt", -4), ("est", -5), ("cdt", -5), ("cst", -6),
   ("mdt", -6), ("mst", -7), ("pdt", -7), ("pst", -8)]

/-- A zone of RFC 2822. The military zones of one letter are unknown and count as universal time. -/
def rfc2822Zone : Reader Int := fun cs =>
  let name := (cs.takeWhile Char.isAlpha).map Char.toLower
  let rest := cs.drop name.length
  if name.isEmpty then (offset (fun cs => some ((), cs)) cs).filter fun (s, _) => s.natAbs < 86400
  else
    match zoneNames.find? fun z => z.1.toList == name with
    | some (_, hours) => some (hours * 3600, rest)
    | none => if name.length = 1 ∧ name ≠ ['j'] then some (0, rest) else none

/-- Skips a comment, of which `depth` parentheses are open. -/
def skipComment (depth : Nat) (escaped : Bool) : List Char → Option (List Char)
  | [] => none
  | c :: cs =>
    if escaped then skipComment depth false cs
    else if c = '\\' then skipComment depth true cs
    else if c = '(' then skipComment (depth + 1) false cs
    else if c = ')' then (if depth = 1 then some cs else skipComment (depth - 1) false cs)
    else skipComment depth false cs

theorem length_of_skipComment {depth : Nat} {escaped : Bool} {cs rest : List Char}
    (h : skipComment depth escaped cs = some rest) : rest.length < cs.length := by
  induction cs generalizing depth escaped with
  | nil => simp [skipComment] at h
  | cons c cs ih =>
    simp only [skipComment] at h
    simp only [List.length_cons]
    split at h
    · exact Nat.lt_succ_of_lt (ih h)
    split at h
    · exact Nat.lt_succ_of_lt (ih h)
    split at h
    · exact Nat.lt_succ_of_lt (ih h)
    split at h
    · split at h
      · cases h
        exact Nat.lt_succ_self _
      · exact Nat.lt_succ_of_lt (ih h)
    · exact Nat.lt_succ_of_lt (ih h)

/-- Whether nothing but comments stands in a text. -/
def onlyComments (cs : List Char) : Bool :=
  cs.isEmpty ||
    match _h : trimStart cs with
    | '(' :: rest =>
      match _hr : skipComment 1 false rest with
      | some rest => onlyComments rest
      | none => false
    | _ => false
termination_by cs.length
decreasing_by
  have h₁ := length_of_skipComment _hr
  have h₂ := (List.dropWhile_sublist (l := cs) isBlank).length_le
  have h₃ : (trimStart cs).length = _ := congrArg List.length _h
  simp only [List.length_cons] at h₃
  unfold trimStart at h₃
  omega

/-- The year of the digits of RFC 2822: with two or three digits it lies near 2000. -/
def fullYear (year digits : Nat) : Nat :=
  if digits = 2 then (if year < 50 then year + 2000 else year + 1900)
  else if digits = 3 then year + 1900
  else year

/-- The moment that a text in the form of RFC 2822 names. A day of the week must agree. -/
def parseRfc2822 (cs : List Char) : Option Int64 := do
  let cs := trimStart cs
  let (weekday, cs) ← match name dayNames cs with
    | some (d, ',' :: rest) => some (some d, rest)
    | some _ => none
    | none => some (none, cs)
  let (day, cs) ← number 1 2 (trimStart cs)
  let ((), cs) ← space cs
  let (month, cs) ← name monthNames cs
  let ((), afterMonth) ← space cs
  let (year, cs) ← longNumber 2 afterMonth
  let year := fullYear year (afterMonth.length - cs.length)
  let ((), cs) ← space cs
  let (hour, cs) ← number 2 2 cs
  let ((), cs) ← exactly ':' (trimStart cs)
  let (minute, cs) ← number 2 2 (trimStart cs)
  let (second, cs) ← match exactly ':' (trimStart cs) with
    | some ((), cs) => number 2 2 cs
    | none => some (0, cs)
  let ((), cs) ← space cs
  let (zone, cs) ← rfc2822Zone cs
  let date : Date := ⟨year, month + 1, day⟩
  if onlyComments cs && weekday.all (· == date.weekday) then
    moment? date ⟨hour, minute, second⟩ zone
  else none

/-- A loose scan of a date. It collects seven numbers: day, month, year, hour, minute, second and
zone. -/
structure LooseDate where
  /-- Which number is being read. -/
  place : Nat
  /-- The numbers, each with the count of digits for which there is room. -/
  numbers : List (Nat × Nat)
  /-- The letters in the place of the month, last letter first. -/
  lettersRev : List Char
  zoneAhead : Bool
  /-- Whether a word or number has started in this place. -/
  started : Bool
  /-- Whether a digit has been read. -/
  sawDigit : Bool
  /-- How many comments are open. -/
  comments : Nat
  /-- Whether the character after a backslash comes next in a comment. -/
  escaped : Bool

/-- Nothing of the date is read yet. -/
def LooseDate.start : LooseDate :=
  ⟨0, [(0, 2), (0, 2), (0, 4), (0, 2), (0, 2), (0, 2), (0, 4)], [], true, false, false, 0, false⟩

/-- Changes the number that is being read. -/
def LooseDate.modify (d : LooseDate) (f : Nat → Nat → Nat × Nat) : LooseDate :=
  { d with numbers := d.numbers.modify d.place fun (value, room) => f value room }

/-- Goes on to the next number. -/
def LooseDate.next (d : LooseDate) : LooseDate :=
  let d := d.modify fun value room => (value / Nat.pow 10 room, room)
  { d with place := d.place + 1, started := false }

/-- Reads on by one byte. -/
def LooseDate.push (d : LooseDate) (b : UInt8) : LooseDate :=
  let c := latin1Char b
  if 0 < d.comments then
    if d.escaped then { d with escaped := false }
    else if c = ')' then { d with comments := d.comments - 1 }
    else if c = '(' then { d with comments := d.comments + 1 }
    else { d with escaped := c = '\\' }
  else if c.isDigit then
    let digit := c.toNat - '0'.toNat
    let d := if d.place < 7 then
        { d.modify fun value room =>
            if room = 0 then (value, room) else (value + digit * Nat.pow 10 (room - 1), room - 1) with
          sawDigit := true }
      else d
    { d with started := true }
  else if c = ':' then
    if d.started && d.sawDigit && (d.place == 3 || d.place == 4) then d.next else d
  else if c = '+' then { d with place := 6 }
  else if c = '-' then { d with place := 6, zoneAhead := false }
  else if c = ' ' ∨ c = '\t' ∨ c = '\n' then
    if d.started && d.sawDigit then d.next else d
  else if c.isAlpha then
    { d with
      lettersRev := if d.place = 1 then c.toLower :: d.lettersRev else d.lettersRev
      started := true }
  else if c = '(' then { d with comments := 1 }
  else d

/-- The month, known by the second and third of three letters, or else by its number. -/
def LooseDate.month (d : LooseDate) : Nat :=
  let byNumber := (d.numbers.getD 1 (0, 0)).1
  match d.lettersRev with
  | [c, b, _] => ((monthNames.findIdx? fun m => m.toList.drop 1 == [b, c]).map (· + 1)).getD byNumber
  | _ => byNumber

/-- The moment that a loose scan finds, if it gets as far as the zone. -/
def LooseDate.moment? (d : LooseDate) : Option Int64 :=
  let part := fun i => (d.numbers.getD i (0, 0)).1
  if d.place < 6 then none
  else
    let year := part 2
    let year := if 1 ≤ year ∧ year < 50 then year + 2000
      else if 50 ≤ year ∧ year < 100 then year + 1900
      else year
    let zone : Int := ((part 6 / 100 % 12) * 3600 + (part 6 % 100 % 60) * 60 : Nat)
    Time.moment? ⟨year, d.month, part 0⟩ ⟨part 3, part 4, part 5⟩ (if d.zoneAhead then zone else -zone)

/-- The moment that a loose scan finds in a header value. -/
def parseLooseDate (value : String) : Option Int64 :=
  let fields := (readFields (bytes "Date: " ++ bytesOf value ++ [newline, newline])).1
  (lastField? "date" fields).bind fun f => (f.value.foldl LooseDate.push .start).moment?

/-- The moment that the value of a `Date` field names. -/
def parseDate (value : String) : Option Int64 :=
  let cs := trim value.toList
  if cs.isEmpty then none
  else parseRfc2822 cs <|> parseRfc3339 cs <|> parseLooseDate (String.ofList cs)

/-- A date of the form `Thu Jan 4 10:00:00 2024`. The day of the week must agree. -/
def parseCtime (cs : List Char) : Option Int64 := do
  let (weekday, cs) ← name dayNames cs
  let (month, cs) ← name monthNames (trimStart cs)
  let (day, cs) ← twoDigits cs
  let (time, cs) ← clock (exactly ':') (trimStart cs)
  let y ← Reader.all year cs
  let date : Date := ⟨y, month + 1, day⟩
  if date.weekday = weekday then moment? date time 0 else none

/-- The moment in the separator line that a raw message starts with: what follows the sender. -/
def parseFromLineDate (raw : Bytes) : Option Int64 := do
  let line ← utf8? (raw.takeWhile (· != newline))
  let rest ← stripFrom (trimEnd line.toList)
  let rest := trimStart rest
  let date := rest.dropWhile (· != ' ')
  if date.isEmpty then none
  else parseCtime (String.intercalate " " ((words date).map String.ofList)).toList
where
  /-- What follows the word that starts a separator line. -/
  stripFrom : List Char → Option (List Char)
    | 'F' :: 'r' :: 'o' :: 'm' :: ' ' :: rest => some rest
    | _ => none

end MailQuery.Mail
