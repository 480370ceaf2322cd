import MailQuery.Text.Utf8

/-!
# ASCII bytes

The formats of mail are defined on bytes and mark their parts with ASCII characters. These are the
bytes of the characters that play a part, and the tests on bytes that go by ASCII.
-/

namespace MailQuery.Ascii

/-- The byte of an ASCII character. -/
def byte (c : Char) : UInt8 := c.toNat.toUInt8

/-- The bytes of an ASCII text. -/
def bytes (s : String) : Bytes := s.toList.map byte

/-- The line feed, which ends a line. -/
def newline : UInt8 := byte '\n'

/-- The carriage return, which may stand before a line feed. -/
def carriageReturn : UInt8 := byte '\r'

/-- Whether a byte is a space or a tab. -/
def isSpaceOrTab (b : UInt8) : Bool := b == byte ' ' || b == byte '\t'

/-- Whether a byte is white space of ASCII. -/
def isSpace (b : UInt8) : Bool :=
  isSpaceOrTab b || b == newline || b == carriageReturn || b == 0x0c

/-- The lower-case form of a byte. -/
def lowerByte (b : UInt8) : UInt8 := if 0x41 ≤ b ∧ b ≤ 0x5a then b + 0x20 else b

/-- Whether bytes spell a word, but for the case of letters. -/
def spells (word : String) (bs : Bytes) : Bool := bs.map lowerByte == bytes word

/-- Bytes without the white space of ASCII at their ends. -/
def trim (bs : Bytes) : Bytes :=
  ((bs.dropWhile isSpace).reverse.dropWhile isSpace).reverse

/-- The value of a hexadecimal digit. -/
def hexDigit? (b : UInt8) : Option Nat :=
  if 0x30 ≤ b ∧ b ≤ 0x39 then some (b.toNat - 0x30)
  else
    let l := lowerByte b
    if 0x61 ≤ l ∧ l ≤ 0x66 then some (l.toNat - 0x61 + 10) else none

end MailQuery.Ascii
