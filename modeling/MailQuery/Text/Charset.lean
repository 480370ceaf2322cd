import MailQuery.Text.Blank
import MailQuery.Text.Case
import MailQuery.Text.Utf8

/-!
# Character sets of mail

The character sets in which parts of a message are written, and the reading of raw header bytes,
which are taken for Windows-1252 when they are not UTF-8.
-/

namespace MailQuery.Text

/-- The characters that Windows-1252 has in the places of the control characters 0x80 to 0x9f. -/
def windows1252Table : List Nat :=
  [0x20ac, 0x81, 0x201a, 0x0192, 0x201e, 0x2026, 0x2020, 0x2021, 0x02c6, 0x2030, 0x0160, 0x2039,
   0x0152, 0x8d, 0x017d, 0x8f, 0x90, 0x2018, 0x2019, 0x201c, 0x201d, 0x2022, 0x2013, 0x2014,
   0x02dc, 0x2122, 0x0161, 0x203a, 0x0153, 0x9d, 0x017e, 0x0178]

/-- The character of Windows-1252 that a byte stands for. -/
def windows1252Char (b : UInt8) : Char :=
  Char.ofNat (if 0x80 ≤ b ∧ b < 0xa0 then windows1252Table.getD (b.toNat - 0x80) 0 else b.toNat)

/-- The character of ISO 8859-1 that a byte stands for. -/
def latin1Char (b : UInt8) : Char := Char.ofNat b.toNat

/-- A character set in which text is written. -/
inductive Charset where
  | utf8
  | latin1
  | windows1252
deriving DecidableEq, Repr

/-- The reading of bytes in a character set. -/
def Charset.decode : Charset → Bytes → List Char
  | utf8, bs => utf8Lenient bs
  | latin1, bs => bs.map latin1Char
  | windows1252, bs => bs.map windows1252Char

/-- The names of the character sets other than UTF-8 and its part ASCII. -/
def charsetNames : List (String × Charset) :=
  [("iso-8859-1", .latin1), ("iso_8859-1", .latin1), ("iso8859-1", .latin1), ("iso88591", .latin1),
   ("iso_8859-1:1987", .latin1), ("iso-ir-100", .latin1), ("latin1", .latin1), ("latin-1", .latin1),
   ("l1", .latin1), ("ibm819", .latin1), ("cp819", .latin1), ("csisolatin1", .latin1),
   ("windows-1252", .windows1252), ("cp1252", .windows1252), ("cp-1252", .windows1252),
   ("x-cp1252", .windows1252), ("windows1252", .windows1252), ("cswindows1252", .windows1252)]

/-- The character set of a name. Text in an unknown one is read as UTF-8. -/
def Charset.ofName (name : List Char) : Charset :=
  let name := (trim name).map Char.toLower
  ((charsetNames.find? fun e => e.1.toList == name).map (·.2)).getD .utf8

/-- The 16-bit units that pairs of bytes make up, `none` for a byte without a partner. -/
def units16 (bigEndian : Bool) : Bytes → List (Option Nat)
  | [] => []
  | [_] => [none]
  | a :: b :: bs =>
    some (if bigEndian then a.toNat * 256 + b.toNat else b.toNat * 256 + a.toNat) ::
      units16 bigEndian bs

/-- Whether a unit is the first half of a pair of units. -/
def isHighHalf (u : Nat) : Bool := 0xd800 ≤ u && u < 0xdc00

/-- Whether a unit is the second half of a pair of units. -/
def isLowHalf (u : Nat) : Bool := 0xdc00 ≤ u && u < 0xe000

/-- The lenient reading of 16-bit units as UTF-16 after the first half of a pair, if one is open. -/
def utf16Lenient (high : Option Nat) : List (Option Nat) → List Char
  | [] => (high.map fun _ => replacement).toList
  | none :: us => replacement :: utf16Lenient none us
  | some u :: us =>
    match high with
    | some h =>
      if isLowHalf u then
        Char.ofNat (0x10000 + (h - 0xd800) * 0x400 + (u - 0xdc00)) :: utf16Lenient none us
      else if isHighHalf u then replacement :: utf16Lenient (some u) us
      else replacement :: Char.ofNat u :: utf16Lenient none us
    | none =>
      if isHighHalf u then utf16Lenient (some u) us
      else (if isLowHalf u then replacement else Char.ofNat u) :: utf16Lenient none us

/-- The reading of raw header bytes: UTF-8 where they are well formed, else by their byte-order
mark, else Windows-1252. -/
def decodeHeaderBytes (bs : Bytes) : String :=
  match utf8? bs with
  | some s => s
  | none =>
    String.ofList <|
      match bs with
      | 0xef :: 0xbb :: 0xbf :: rest => utf8Lenient rest
      | 0xff :: 0xfe :: rest => utf16Lenient none (units16 false rest)
      | 0xfe :: 0xff :: rest => utf16Lenient none (units16 true rest)
      | _ => bs.map windows1252Char

end MailQuery.Text
