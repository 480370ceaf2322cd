/-!
# UTF-8

Bytes as a list, their reading as UTF-8, and the lenient reading that puts a replacement character
where bytes are not well formed. The lenient reading replaces each maximal start of a character that
breaks off by one replacement character.
-/

namespace MailQuery

/-- A sequence of bytes. -/
abbrev Bytes := List UInt8

namespace Text

/-- The UTF-8 bytes of a text. -/
def utf8Bytes (cs : List Char) : Bytes := cs.flatMap String.utf8EncodeChar

/-- The UTF-8 bytes of a string. -/
def bytesOf (s : String) : Bytes := utf8Bytes s.toList

/-- The number of bytes that a text takes in UTF-8. -/
def byteLength : List Char → Nat
  | [] => 0
  | c :: cs => c.utf8Size + byteLength cs

@[simp] theorem byteLength_nil : byteLength [] = 0 := rfl

@[simp] theorem byteLength_cons (c : Char) (cs : List Char) :
    byteLength (c :: cs) = c.utf8Size + byteLength cs := rfl

@[simp] theorem byteLength_append (as bs : List Char) :
    byteLength (as ++ bs) = byteLength as + byteLength bs := by
  induction as with
  | nil => simp
  | cons a as ih => simp [ih, Nat.add_assoc]

/-- The text that bytes write, if they are well-formed UTF-8. -/
def utf8? (bs : Bytes) : Option String := String.fromUTF8? bs.toByteArray

/-- The character that takes the place of bytes that cannot be read. -/
def replacement : Char := '\ufffd'

/-- Reads `count` further bytes of a character, the first of them from `low` to `high`. -/
def readTail (value : Nat) : (count : Nat) → (low high : UInt8) → Bytes → Option Nat × Bytes
  | 0, _, _, bs => (some value, bs)
  | _ + 1, _, _, [] => (none, [])
  | count + 1, low, high, b :: bs =>
    if low ≤ b ∧ b ≤ high then readTail (value * 64 + (b.toNat - 0x80)) count 0x80 0xbf bs
    else (none, b :: bs)

/-- Reads the character that starts with the byte `b`. -/
def readChar (b : UInt8) (bs : Bytes) : Option Nat × Bytes :=
  if b < 0x80 then (some b.toNat, bs)
  else if b < 0xc2 then (none, bs)
  else if b < 0xe0 then readTail (b.toNat - 0xc0) 1 0x80 0xbf bs
  else if b = 0xe0 then readTail 0 2 0xa0 0xbf bs
  else if b = 0xed then readTail 0xd 2 0x80 0x9f bs
  else if b < 0xf0 then readTail (b.toNat - 0xe0) 2 0x80 0xbf bs
  else if b = 0xf0 then readTail 0 3 0x90 0xbf bs
  else if b < 0xf4 then readTail (b.toNat - 0xf0) 3 0x80 0xbf bs
  else if b = 0xf4 then readTail 4 3 0x80 0x8f bs
  else (none, bs)

theorem length_readTail_le (value count : Nat) (low high : UInt8) (bs : Bytes) :
    (readTail value count low high bs).2.length ≤ bs.length := by
  induction count generalizing value low high bs with
  | zero => simp [readTail]
  | succ n ih =>
    cases bs with
    | nil => simp [readTail]
    | cons b bs =>
      simp only [readTail]
      split
      · exact Nat.le_trans (ih ..) (Nat.le_succ _)
      · exact Nat.le_refl _

theorem length_readChar_le (b : UInt8) (bs : Bytes) :
    (readChar b bs).2.length ≤ bs.length := by
  unfold readChar
  repeat' split
  all_goals first | exact Nat.le_refl _ | exact length_readTail_le ..

/-- The lenient reading of bytes as UTF-8. -/
def utf8Lenient : Bytes → List Char
  | [] => []
  | b :: bs =>
    let step := readChar b bs
    step.1.elim replacement Char.ofNat :: utf8Lenient step.2
termination_by bs => bs.length
decreasing_by
  have := length_readChar_le b bs
  simp only [List.length_cons]
  omega

end Text

end MailQuery
