import MailQuery.Text.Utf8

/-!
# SHA-256

The digest SHA-256 of a list of bytes. A message is padded to blocks of sixteen
words; each block is mixed into the state in 64 rounds.
-/

namespace MailQuery.Digest

/-- The eight words that the rounds work on. -/
structure State where
  a : UInt32
  b : UInt32
  c : UInt32
  d : UInt32
  e : UInt32
  f : UInt32
  g : UInt32
  h : UInt32
deriving DecidableEq, Repr, Inhabited

/-- The state before the first block. -/
def State.start : State :=
  ⟨0x6a09e667, 0xbb67ae85, 0x3c6ef372, 0xa54ff53a, 0x510e527f, 0x9b05688c, 0x1f83d9ab, 0x5be0cd19⟩

/-- The constants of the rounds. -/
def roundConstants : List UInt32 :=
  [0x428a2f98, 0x71374491, 0xb5c0fbcf, 0xe9b5dba5, 0x3956c25b, 0x59f111f1, 0x923f82a4, 0xab1c5ed5,
   0xd807aa98, 0x12835b01, 0x243185be, 0x550c7dc3, 0x72be5d74, 0x80deb1fe, 0x9bdc06a7, 0xc19bf174,
   0xe49b69c1, 0xefbe4786, 0x0fc19dc6, 0x240ca1cc, 0x2de92c6f, 0x4a7484aa, 0x5cb0a9dc, 0x76f988da,
   0x983e5152, 0xa831c66d, 0xb00327c8, 0xbf597fc7, 0xc6e00bf3, 0xd5a79147, 0x06ca6351, 0x14292967,
   0x27b70a85, 0x2e1b2138, 0x4d2c6dfc, 0x53380d13, 0x650a7354, 0x766a0abb, 0x81c2c92e, 0x92722c85,
   0xa2bfe8a1, 0xa81a664b, 0xc24b8b70, 0xc76c51a3, 0xd192e819, 0xd6990624, 0xf40e3585, 0x106aa070,
   0x19a4c116, 0x1e376c08, 0x2748774c, 0x34b0bcb5, 0x391c0cb3, 0x4ed8aa4a, 0x5b9cca4f, 0x682e6ff3,
   0x748f82ee, 0x78a5636f, 0x84c87814, 0x8cc70208, 0x90befffa, 0xa4506ceb, 0xbef9a3f7, 0xc67178f2]

/-- A word whose bits are moved to the right in a circle. -/
def rotate (w n : UInt32) : UInt32 := (w >>> n) ||| (w <<< (32 - n))

/-- One round with its constant and its word of the schedule. -/
def State.round (s : State) (constant word : UInt32) : State :=
  let mixed := rotate s.e 6 ^^^ rotate s.e 11 ^^^ rotate s.e 25
  let choice := (s.e &&& s.f) ^^^ (~~~s.e &&& s.g)
  let first := s.h + mixed + choice + constant + word
  let majority := (s.a &&& s.b) ^^^ (s.a &&& s.c) ^^^ (s.b &&& s.c)
  let second := (rotate s.a 2 ^^^ rotate s.a 13 ^^^ rotate s.a 22) + majority
  ⟨first + second, s.a, s.b, s.c, s.d + first, s.e, s.f, s.g⟩

/-- The next word of a schedule, of which the words so far are given from the last to the first. -/
def nextWord (words : List UInt32) : UInt32 :=
  let w15 := words.getD 14 0
  let w2 := words.getD 1 0
  let low := rotate w15 7 ^^^ rotate w15 18 ^^^ (w15 >>> 3)
  let high := rotate w2 17 ^^^ rotate w2 19 ^^^ (w2 >>> 10)
  words.getD 15 0 + low + words.getD 6 0 + high

/-- A schedule with `n` more words. The words are given from the last to the first. -/
def extend : Nat → List UInt32 → List UInt32
  | 0, words => words
  | n + 1, words => extend n (nextWord words :: words)

/-- The sum of two states, word by word. -/
def State.add (s t : State) : State :=
  ⟨s.a + t.a, s.b + t.b, s.c + t.c, s.d + t.d, s.e + t.e, s.f + t.f, s.g + t.g, s.h + t.h⟩

/-- The state after a block, whose sixteen words are given from the last to the first. -/
def State.absorb (s : State) (block : List UInt32) : State :=
  let schedule := (extend 48 block).reverse
  s.add ((roundConstants.zip schedule).foldl (fun t (constant, word) => t.round constant word) s)

/-- The words of a list of bytes, the most significant byte of each word first. -/
def wordsOf : Bytes → List UInt32
  | a :: b :: c :: d :: rest =>
    ((a.toUInt32 <<< 24) ||| (b.toUInt32 <<< 16) ||| (c.toUInt32 <<< 8) ||| d.toUInt32) ::
      wordsOf rest
  | _ => []

/-- The `count` bytes of a number, the most significant one first. -/
def bigEndian (count n : Nat) : Bytes :=
  (List.range count).map fun i => UInt8.ofNat (n / Nat.pow 256 (count - 1 - i))

/-- A message with the bit one, zeros and its length in bits behind it, so that it fills blocks of 64
bytes. -/
def padded (bs : Bytes) : Bytes :=
  bs ++ 0x80 :: List.replicate ((119 - bs.length % 64) % 64) 0 ++ bigEndian 8 (8 * bs.length)

/-- The state after some words. Behind `pending`, words of a block that is not complete, given from the
last to the first, they fill blocks. -/
def State.absorbAll (s : State) (pending : List UInt32) : List UInt32 → State
  | [] => s
  | w :: ws =>
    if pending.length = 15 then (s.absorb (w :: pending)).absorbAll [] ws
    else s.absorbAll (w :: pending) ws

/-- The bytes of a state. -/
def State.bytes (s : State) : Bytes :=
  [s.a, s.b, s.c, s.d, s.e, s.f, s.g, s.h].flatMap fun w => bigEndian 4 w.toNat

/-- The digest of a message, 32 bytes. -/
def sha256 (bs : Bytes) : Bytes := (State.start.absorbAll [] (wordsOf (padded bs))).bytes

theorem length_bigEndian (count n : Nat) : (bigEndian count n).length = count := by
  simp [bigEndian]

theorem length_sha256 (bs : Bytes) : (sha256 bs).length = 32 := by
  simp [sha256, State.bytes, length_bigEndian]

/-- A digit of the hexadecimal system. -/
def hexDigit (n : Nat) : Char := Nat.digitChar (n % 16)

/-- The hexadecimal text of some bytes, in lower case. -/
def hex (bs : Bytes) : List Char := bs.flatMap fun b => [hexDigit (b.toNat / 16), hexDigit b.toNat]

end MailQuery.Digest
