import MailQuery.Text.Utf8

/-!
# Binary coding

Numbers have a fixed width with the least significant byte first; texts and lists are preceded by
their length in eight bytes, and what may be missing by a byte that says whether it is there.
`ofLittleEndian_littleEndian` is the law of numbers, on which all others rest.
-/

namespace MailQuery.Binary

open Text

/-! ### Writing -/

/-- The `count` bytes of a number, the least significant one first. -/
def littleEndian : (count n : Nat) → Bytes
  | 0, _ => []
  | count + 1, n => UInt8.ofNat n :: littleEndian count (n / 256)

/-- A length. -/
def writeLength (n : Nat) : Bytes := littleEndian 8 n

/-- A word of 32 bits. -/
def writeWord (w : UInt32) : Bytes := littleEndian 4 w.toNat

/-- A natural number of 64 bits. -/
def writeNat (n : UInt64) : Bytes := littleEndian 8 n.toNat

/-- An integer of 64 bits. -/
def writeInt (n : Int64) : Bytes := writeNat n.toUInt64

/-- A text. -/
def writeText (s : String) : Bytes :=
  let bs := bytesOf s
  writeLength bs.length ++ bs

/-- A list. -/
def writeList {α : Type} (write : α → Bytes) (xs : List α) : Bytes :=
  writeLength xs.length ++ xs.flatMap write

/-- Something that may be missing. -/
def writeOption {α : Type} (write : α → Bytes) : Option α → Bytes
  | none => [0]
  | some x => 1 :: write x

/-! ### Reading -/

/-- A reader takes what it reads from the start of some bytes. -/
abbrev Reader := StateT Bytes Option

/-- Reads `count` bytes. -/
def readBytes (count : Nat) : Reader Bytes := fun bs =>
  let found := bs.take count
  if found.length = count then some (found, bs.drop count) else none

/-- The number that some bytes write. -/
def ofLittleEndian : Bytes → Nat
  | [] => 0
  | b :: bs => b.toNat + 256 * ofLittleEndian bs

/-- Reads a number of `count` bytes. -/
def readNumber (count : Nat) : Reader Nat := ofLittleEndian <$> readBytes count

/-- Reads a length. -/
def readLength : Reader Nat := readNumber 8

/-- Reads a word of 32 bits. -/
def readWord : Reader UInt32 := UInt32.ofNat <$> readNumber 4

/-- Reads a natural number of 64 bits. -/
def readNat : Reader UInt64 := UInt64.ofNat <$> readNumber 8

/-- Reads an integer of 64 bits. -/
def readInt : Reader Int64 := UInt64.toInt64 <$> readNat

/-- Reads a text, which has to be well-formed UTF-8. -/
def readText : Reader String := do
  let length ← readLength
  let bs ← readBytes length
  (utf8? bs : Option String)

/-- Reads `n` things of one kind. -/
def readMany {α : Type} (read : Reader α) : Nat → Reader (List α)
  | 0 => pure []
  | n + 1 => do
    let x ← read
    let xs ← readMany read n
    pure (x :: xs)

/-- Reads a list. -/
def readList {α : Type} (read : Reader α) : Reader (List α) := do
  let length ← readLength
  readMany read length

/-- Reads something that may be missing. -/
def readOption {α : Type} (read : Reader α) : Reader (Option α) := do
  let tag ← readNumber 1
  match tag with
  | 0 => pure none
  | 1 => some <$> read
  | _ => failure

/-! ### Laws of numbers -/

theorem length_littleEndian (count n : Nat) : (littleEndian count n).length = count := by
  induction count generalizing n with
  | zero => rfl
  | succ count ih => simp [littleEndian, ih]

theorem ofLittleEndian_littleEndian (count n : Nat) :
    ofLittleEndian (littleEndian count n) = n % Nat.pow 256 count := by
  induction count generalizing n with
  | zero => simp [littleEndian, ofLittleEndian, Nat.mod_one]
  | succ count ih =>
    rw [littleEndian, ofLittleEndian, ih, UInt8.toNat_ofNat']
    rw [show Nat.pow 256 (count + 1) = 256 * Nat.pow 256 count from Nat.pow_succ']
    exact Nat.mod_mul.symm

theorem readBytes_append (bs rest : Bytes) : readBytes bs.length (bs ++ rest) = some (bs, rest) := by
  simp [readBytes]

end MailQuery.Binary
