import MailQuery.Time.Moment

/-!
# Layout of answers

Columns, sizes, moments and durations as a user reads them.
-/

namespace MailQuery.Cli

/-- A text with blanks behind it, `width` characters in all. -/
def padRight (width : Nat) (s : String) : String :=
  s ++ String.ofList (List.replicate (width - s.length) ' ')

/-- A text with blanks before it, `width` characters in all. -/
def padLeft (width : Nat) (s : String) : String :=
  String.ofList (List.replicate (width - s.length) ' ') ++ s

/-- The start of a text. -/
def shortened (count : Nat) (s : String) : String := String.ofList (s.toList.take count)

/-- A number with zeros before it, `width` digits at least. -/
def zeros (width n : Nat) : String :=
  let digits := toString n
  String.ofList (List.replicate (width - digits.length) '0') ++ digits

/-- A quotient rounded to the nearest integer, half-way cases to the even one. -/
def roundDiv (n d : Nat) : Nat :=
  let q := n / d
  let r := 2 * (n % d)
  if d < r || (r == d && q % 2 == 1) then q + 1 else q

/-- A quotient with two decimal places. -/
def twoPlaces (n d : Nat) : String :=
  let q := roundDiv (100 * n) d
  toString (q / 100) ++ "." ++ zeros 2 (q % 100)

/-- The units of sizes, each 1024 times the one before it. -/
def sizeUnits : List String := ["B", "KiB", "MiB", "GiB", "TiB", "PiB", "EiB", "ZiB", "YiB"]

/-- A number of bytes in the largest unit of which there is at least one, without decimal places if it
is a whole number of them. -/
def sizeIn (bytes : Nat) : (unit : Nat) → List String → String
  | _, [] => ""
  | unit, name :: larger =>
    if bytes < 1024 * unit || larger.isEmpty then
      (if bytes % unit = 0 then toString (bytes / unit) else twoPlaces bytes unit) ++ " " ++ name
    else sizeIn bytes (1024 * unit) larger

/-- A number of bytes. -/
def sizeText (bytes : Nat) : String := sizeIn bytes 1 sizeUnits

/-- A year, with a sign if it has not four digits. -/
def yearText (year : Int) : String :=
  if 0 ≤ year ∧ year ≤ 9999 then zeros 4 year.toNat
  else (if year < 0 then "-" else "+") ++ zeros 4 year.natAbs

/-- The day of a moment. -/
def dayText (d : Date) : String := yearText d.year ++ "-" ++ zeros 2 d.month ++ "-" ++ zeros 2 d.day

/-- The hour and the minute of a moment. -/
def clockText (time : Int) : String :=
  let seconds := (time % secondsPerDay).toNat
  zeros 2 (seconds / 3600) ++ ":" ++ zeros 2 (seconds / 60 % 60)

/-- A moment to the minute, and nothing for one that has no date. -/
def momentText (time : Int64) : String :=
  (dateOfMoment? time.toInt).elim "" fun d => dayText d ++ " " ++ clockText time.toInt

/-- A moment with its seconds and its zone. -/
def preciseMoment? (time : Int64) : Option String :=
  (dateOfMoment? time.toInt).map fun d =>
    dayText d ++ "T" ++ clockText time.toInt ++ ":" ++ zeros 2 (time.toInt % 60).toNat ++ "+00:00"

/-- A duration in its largest unit, with two decimal places. -/
def durationText (nanos : Nat) : String :=
  if 1000000000 ≤ nanos then twoPlaces nanos 1000000000 ++ "s"
  else if 1000000 ≤ nanos then twoPlaces nanos 1000000 ++ "ms"
  else if 1000 ≤ nanos then twoPlaces nanos 1000 ++ "µs"
  else twoPlaces nanos 1 ++ "ns"

end MailQuery.Cli
