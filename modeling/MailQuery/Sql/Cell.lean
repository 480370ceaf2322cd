import MailQuery.Clamp
import MailQuery.Sql.RealText
import MailQuery.Time.Moment

/-!
# Values of the database

A cell holds nothing, an integer, a real number or a text. Integers that grow out of 64 bits become real
numbers, and texts are read as numbers where a number is needed.
-/

namespace MailQuery.Sql

/-- A value of the database. -/
inductive Cell where
  | null
  | int (value : Int64)
  | real (value : Float)
  | text (value : String)
deriving Inhabited

namespace Cell

/-- Whether the cell holds nothing. -/
def isNull : Cell → Bool
  | null => true
  | _ => false

/-- A truth value. -/
def ofBool (b : Bool) : Cell := int (if b then 1 else 0)

/-- Whether the database passes over a character around numbers. -/
def isSpace (c : Char) : Bool := c == ' ' || ('\t' ≤ c && c ≤ '\r')

/-- A real number, of which there is no undefined one. -/
def ofFloat (x : Float) : Cell := if x.isNaN then null else real x

/-- The real number nearest to an integer. -/
def realOfInt (n : Int) : Float := if n < 0 then -Float.ofNat n.natAbs else Float.ofNat n.natAbs

/-! ### Numbers in texts -/

/-- A number at the start of a text. -/
structure Numeral where
  negative : Bool
  /-- The digits before and after the point. -/
  whole : List Char
  fraction : List Char
  exponent : Int
  /-- Whether there is neither a point nor an exponent. -/
  isPlain : Bool
  /-- Whether nothing but blanks follows. -/
  isAll : Bool

/-- The exponent at the start of a text, if there is one with digits. -/
def readExponent (cs : List Char) : Option (Int × List Char) :=
  match cs with
  | c :: rest =>
    if c = 'e' ∨ c = 'E' then
      let negative := rest.head? = some '-'
      let digits := if negative ∨ rest.head? = some '+' then rest.drop 1 else rest
      let run := digits.takeWhile Char.isDigit
      if run.isEmpty then none
      else
        let n : Int := Nat.ofDigitChars 10 run 0
        some (if negative then -n else n, digits.drop run.length)
    else none
  | [] => none

/-- The number at the start of a text, if there is one. -/
def readNumeral (s : String) : Option Numeral :=
  let cs := s.toList.dropWhile isSpace
  let negative := cs.head? = some '-'
  let cs := if negative ∨ cs.head? = some '+' then cs.drop 1 else cs
  let whole := cs.takeWhile Char.isDigit
  let rest := cs.drop whole.length
  let hasPoint := rest.head? = some '.'
  let afterPoint := if hasPoint then rest.drop 1 else rest
  let fraction := if hasPoint then afterPoint.takeWhile Char.isDigit else []
  let rest := afterPoint.drop fraction.length
  if whole.isEmpty && fraction.isEmpty then none
  else
    match readExponent rest with
    | some (exponent, rest) =>
      some ⟨negative, whole, fraction, exponent, false, rest.all isSpace⟩
    | none => some ⟨negative, whole, fraction, 0, !hasPoint, rest.all isSpace⟩

/-- The integer that the digits before the point write. -/
def Numeral.integer (n : Numeral) : Int :=
  let m : Int := Nat.ofDigitChars 10 n.whole 0
  if n.negative then -m else m

/-- The number as a real number. -/
def Numeral.real (n : Numeral) : Float :=
  let mantissa := Nat.ofDigitChars 10 (n.whole ++ n.fraction) 0
  let exponent := n.exponent - n.fraction.length
  let x := Float.ofScientific mantissa (exponent < 0) exponent.natAbs
  if n.negative then -x else x

/-- The number as a cell: an integer if it is written as one and has 64 bits. -/
def Numeral.cell (n : Numeral) : Cell :=
  match n.isPlain, int64? n.integer with
  | true, some i => int i
  | _, _ => ofFloat n.real

/-- A cell as a number. A text counts for the number at its start, and for 0 without one. -/
def number : Cell → Cell
  | text s => (readNumeral s).elim (int 0) Numeral.cell
  | c => c

/-- A cell as a number if the whole of it is one. -/
def numberIfWhole : Cell → Cell
  | text s =>
    match readNumeral s with
    | some n => if n.isAll then n.cell else text s
    | none => text s
  | c => c

/-! ### Casts -/

/-- A cell as a text. -/
def asText : Cell → Cell
  | int n => text (toString n.toInt)
  | real x => text (realText x)
  | c => c

/-- The characters of a cell as a text. -/
def chars? : Cell → Option (List Char)
  | null => none
  | int n => some (toString n.toInt).toList
  | real x => some (realText x).toList
  | text s => some s.toList

/-- A cell as an integer. A text counts for the integer at its start. -/
def int? : Cell → Option Int64
  | null => none
  | int n => some n
  | real x => some x.toInt64
  | text s => some (Int64.ofIntClamp ((readNumeral s).elim 0 Numeral.integer))

/-- A cell as an integer. -/
def asInt (c : Cell) : Cell := c.int?.elim null int

/-! ### Truth -/

/-- Whether a cell counts as true; nothing counts as neither true nor false. -/
def truth? (c : Cell) : Option Bool :=
  match c.number with
  | null => none
  | int n => some (n != 0)
  | real x => some (x != 0)
  | text _ => some false

/-- A truth value that may be unknown. -/
def ofTruth? : Option Bool → Cell
  | none => null
  | some b => ofBool b

/-- The conjunction of truth values that may be unknown. -/
def and? : Option Bool → Option Bool → Option Bool
  | some false, _ | _, some false => some false
  | some true, some true => some true
  | _, _ => none

/-- The disjunction of truth values that may be unknown. -/
def or? : Option Bool → Option Bool → Option Bool
  | some true, _ | _, some true => some true
  | some false, some false => some false
  | _, _ => none

/-! ### Comparison -/

/-- The order of an integer and a real number. -/
def compareIntReal (n : Int64) (x : Float) : Ordering :=
  if x < -9223372036854775808 then .gt
  else if 9223372036854775808 ≤ x then .lt
  else
    match compareOfLessAndEq n x.toInt64 with
    | .eq => if realOfInt n.toInt < x then .lt else if x < realOfInt n.toInt then .gt else .eq
    | o => o

/-- The order of two cells, unless one holds nothing: numbers by size, before texts by their
characters. -/
def order? : Cell → Cell → Option Ordering
  | null, _ | _, null => none
  | int a, int b => some (compareOfLessAndEq a b)
  | int a, real b => some (compareIntReal a b)
  | real a, int b => some (compareIntReal b a).swap
  | real a, real b => some (if a < b then .lt else if b < a then .gt else .eq)
  | text a, text b => some (compareOfLessAndEq a b)
  | text _, _ => some .gt
  | _, text _ => some .lt

/-- What the two sides of a comparison are taken for. -/
inductive Affinity where
  | none
  | text
  | numeric
deriving DecidableEq, Repr

/-- What two sides are taken for together. -/
def Affinity.combine : Affinity → Affinity → Affinity
  | none, b => b
  | a, none => a
  | text, text => none
  | _, _ => numeric

/-- Two cells as a comparison sees them. -/
def prepare (a b : Cell) : Affinity → Cell × Cell
  | .none => (a, b)
  | .numeric => (a.numberIfWhole, b.numberIfWhole)
  | .text =>
    match a, b with
    | text _, _ | _, text _ => (a.asText, b.asText)
    | _, _ => (a, b)

/-- Whether the order of two cells is one that a test accepts. -/
def compareWith (accept : Ordering → Bool) (affinity : Affinity) (a b : Cell) : Cell :=
  let (a, b) := prepare a b affinity
  ofTruth? ((order? a b).map accept)

/-! ### Patterns -/

/-- All ends of a list, the list itself first. -/
def suffixes {α : Type} : List α → List (List α)
  | [] => [[]]
  | x :: xs => (x :: xs) :: suffixes xs

/-- Whether a text is like a pattern, in which `%` stands for any text and `_` for any character. The
case of ASCII letters does not matter. -/
def isLike : (pattern text : List Char) → Bool
  | [], cs => cs.isEmpty
  | p :: ps, cs =>
    if p = '%' then (suffixes cs).any (isLike ps)
    else
      match cs with
      | [] => false
      | c :: cs => (p = '_' || p.toLower == c.toLower) && isLike ps cs

/-- A text up to its first character 0, where the database stops matching. -/
def untilNul (cs : List Char) : List Char := cs.takeWhile (· != '\x00')

/-- Whether the text of a cell is like that of another one. -/
def like? (text pattern : Cell) : Option Bool :=
  match text.chars?, pattern.chars? with
  | some cs, some ps => some (isLike (untilNul ps) (untilNul cs))
  | _, _ => none

/-! ### Arithmetic -/

/-- The value of an operation on numbers. An integer that has no 64 bits is computed again with
real numbers. -/
def calculate (exact : Int → Int → Int) (real : Float → Float → Float) (a b : Cell) : Cell :=
  match a.number, b.number with
  | int m, int n =>
    match int64? (exact m.toInt n.toInt) with
    | some k => int k
    | none => ofFloat (real (realOfInt m.toInt) (realOfInt n.toInt))
  | int m, .real y => ofFloat (real (realOfInt m.toInt) y)
  | .real x, int n => ofFloat (real x (realOfInt n.toInt))
  | .real x, .real y => ofFloat (real x y)
  | _, _ => null

/-- The quotient of two numbers, of integers without the fraction. Nothing can be divided by zero. -/
def divide (a b : Cell) : Cell :=
  match b.number with
  | int n => if n = 0 then null else calculate Int.tdiv (· / ·) a b
  | .real y => if y == 0 then null else calculate Int.tdiv (· / ·) a b
  | _ => null

/-- The bits that two integers share. -/
def bitAnd (a b : Cell) : Cell :=
  match a.int?, b.int? with
  | some m, some n => int (m &&& n)
  | _, _ => null

/-- One text behind another. -/
def concat (a b : Cell) : Cell :=
  match a.chars?, b.chars? with
  | some s, some t => text (String.ofList (s ++ t))
  | _, _ => null

/-! ### Moments -/

/-- The milliseconds of a day. -/
def dayMillis : Int := 86400000

/-- The milliseconds from noon of 4714-11-24 before our era to the start of 1970, from which the
database counts. -/
def epochMillis : Int := 210866760000000

/-- The number of milliseconds from where the database counts to the end of the year 9999. -/
def endMillis : Int := 464269060800000

/-- Milliseconds since the start of 1970, if the database knows the moment. -/
def knownMillis? (millis : Int) : Option Int :=
  if 0 ≤ millis + epochMillis ∧ millis + epochMillis < endMillis then some millis else none

/-- A number of seconds since the start of 1970, in milliseconds. -/
def secondsToMillis? : Cell → Option Int
  | int n => knownMillis? (n.toInt * 1000)
  | real x =>
    let millis := x * 1000 + realOfInt epochMillis
    if 0 ≤ millis && millis < realOfInt endMillis then
      knownMillis? ((millis + 0.5).toInt64.toInt - epochMillis)
    else none
  | _ => none

/-- The milliseconds since the start of 1970 of a cell that holds seconds. -/
def millis? (c : Cell) : Option Int := secondsToMillis? c.numberIfWhole

/-- The moment some calendar months later. A day that its month does not have counts on into the next
month. -/
def addMonths? (millis months : Int) : Option Int :=
  let d := Date.ofDayNumber (millis / dayMillis)
  let total := d.year * 12 + (d.month - 1 : Int) + months
  let year := total / 12
  let first : Date := ⟨year, (total % 12).toNat + 1, 1⟩
  if months.natAbs < 176546 ∧ -4713 ≤ year ∧ year ≤ 9999 then
    knownMillis? ((first.dayNumber + d.day - 1) * dayMillis + millis % dayMillis)
  else none

/-- The text of the seconds of a moment some calendar months later. -/
def monthsLater (months : Int64) (c : Cell) : Cell :=
  match c.millis?.bind fun millis => addMonths? millis months.toInt with
  | some millis => text (toString (millis / 1000))
  | none => null

/-- A number with zeros before its digits, `width` characters in all. -/
def padded (width : Nat) (n : Int) : List Char :=
  let digits := Nat.toDigits 10 n.natAbs
  let sign := if n < 0 then ['-'] else []
  sign ++ List.replicate (width - sign.length - digits.length) '0' ++ digits

/-- The text `YYYYMMDD` of the day of a moment. -/
def packedDay (c : Cell) : Cell :=
  match c.millis? with
  | some millis =>
    let d := Date.ofDayNumber (millis / dayMillis)
    text (String.ofList (padded 4 d.year ++ padded 2 d.month ++ padded 2 d.day))
  | none => null

end Cell

end MailQuery.Sql
