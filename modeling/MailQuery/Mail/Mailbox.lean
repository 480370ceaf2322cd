import MailQuery.Error
import MailQuery.Mail.Header

/-!
# Mailbox files

A mailbox file is a list of messages. Each message starts with a separator line, which starts with
the word `From` and a space; a byte-order mark may stand before the first one.
-/

namespace MailQuery.Mail

open Ascii Text

/-- A message cut out of a mailbox file, with its separator line. -/
structure Piece where
  span : Span
  bytes : Bytes
deriving DecidableEq, Repr

namespace Mailbox

/-- The lines of a file, with their line feeds. -/
def lines : Bytes → List Bytes
  | [] => []
  | b :: bs =>
    if b = newline then [b] :: lines bs
    else
      match lines bs with
      | [] => [[b]]
      | line :: rest => (b :: line) :: rest

theorem flatten_lines (bs : Bytes) : (lines bs).flatten = bs := by
  induction bs with
  | nil => rfl
  | cons b bs ih =>
    rw [lines]
    split
    · simp [ih]
    · split <;> rename_i h <;> rw [h] at ih <;> simpa using ih

/-- Whether a line that is not the first one starts a message. -/
def isSeparator (line : Bytes) : Bool := fromWord.isPrefixOf line

/-- Cuts lines into messages: all that follow the first line up to the next separator belong to its
message. -/
def group : List Bytes → List (List Bytes)
  | [] => []
  | line :: rest =>
    match rest, group rest with
    | next :: _, message :: messages =>
      if isSeparator next then [line] :: message :: messages
      else (line :: message) :: messages
    | _, _ => [[line]]

/-- The lines that are kept of a message of which `size` bytes are kept already. A line that makes
it longer than `limit` is left out. -/
def keep (limit size : Nat) : List Bytes → List Bytes
  | [] => []
  | line :: rest =>
    if size + line.length ≤ limit then line :: keep limit (size + line.length) rest
    else keep limit size rest

/-- The bytes that are kept of a message. The separator line always is. -/
def keptBytes (limit : Nat) : List Bytes → Bytes
  | [] => []
  | line :: rest => line ++ (keep limit line.length rest).flatten

/-- The messages of which the first one starts at an offset. -/
def place (limit offset : Nat) : List (List Bytes) → List Piece
  | [] => []
  | message :: rest =>
    let length := message.flatten.length
    ⟨⟨offset.toUInt64, length.toUInt64⟩, keptBytes limit message⟩ ::
      place limit (offset + length) rest

/-- The messages of a mailbox file. No more than `limit` bytes are kept of a message but for its
separator line. -/
def split (limit : Nat) (data : Bytes) : Except SearchError (List Piece) :=
  match lines data with
  | [] => .ok []
  | first :: rest =>
    if isSeparator (dropMark first) then .ok (place limit 0 (group (first :: rest)))
    else .error (.mime "stream does not start with a 'From ' line")

/-- The bytes of a span of a file, which has to lie within the file. -/
def readSpan (data : Bytes) (span : Span) : Except SearchError Bytes :=
  let bytes := (data.drop span.offset.toNat).take span.length.toNat
  if bytes.length = span.length.toNat then .ok bytes else .error .io

end Mailbox

end MailQuery.Mail
