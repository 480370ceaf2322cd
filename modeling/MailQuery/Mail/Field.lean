import MailQuery.Mail.EncodedWord

/-!
# Header fields

The fields at the start of a message or of a part of one: a name, a colon and a value, which goes on
in the next line when that starts with a blank. Lines without a colon are passed over, and a line
without text ends the fields.
-/

namespace MailQuery.Mail

open Ascii Text

/-- A header field as it is written. -/
structure Field where
  name : Bytes
  value : Bytes

/-- The value that starts here, and what follows its last line. -/
def splitValue : Bytes → Bytes × Bytes
  | [] => ([], [])
  | b :: bs =>
    if b = newline ∧ bs.head?.all (!isSpaceOrTab ·) then ([], bs)
    else
      let (value, rest) := splitValue bs
      (b :: value, rest)

theorem length_splitValue_le (bs : Bytes) : (splitValue bs).2.length ≤ bs.length := by
  induction bs with
  | nil => simp [splitValue]
  | cons b bs ih =>
    simp only [splitValue]
    split
    · simp
    · simp only [List.length_cons]
      omega

/-- Whether a byte ends the name of a field or a line without one. -/
def endsName (b : UInt8) : Bool := b == byte ':' || b == newline

theorem length_of_dropWhile_eq_cons {p : UInt8 → Bool} {bs rest : Bytes} {mark : UInt8}
    (h : bs.dropWhile p = mark :: rest) : rest.length < bs.length := by
  have hle := (List.dropWhile_sublist (l := bs) p).length_le
  rw [h] at hle
  simp only [List.length_cons] at hle
  omega

/-- The fields from here on, and what follows the line that ends them; nothing follows where the
bytes end before that line. -/
def readFields (bs : Bytes) : List Field × Option Bytes :=
  let name := trim (bs.takeWhile (!endsName ·))
  match _h : bs.dropWhile (!endsName ·) with
  | [] => (if name.isEmpty then [] else [⟨name, []⟩], none)
  | mark :: rest =>
    if mark = newline then
      if name.isEmpty then ([], some rest) else readFields rest
    else if name.isEmpty then readFields rest
    else
      let split := splitValue rest
      let (fields, body) := readFields split.2
      (⟨name, split.1⟩ :: fields, body)
termination_by bs.length
decreasing_by
  all_goals have hlt := length_of_dropWhile_eq_cons _h
  · exact hlt
  · exact hlt
  · exact Nat.lt_of_le_of_lt (length_splitValue_le rest) hlt

/-- The last field of a name, but for the case of letters. -/
def lastField? (name : String) (fields : List Field) : Option Field :=
  fields.reverse.find? fun f => spells name f.name

theorem length_rest_of_readFields {bs rest : Bytes} {fields : List Field}
    (h : readFields bs = (fields, some rest)) : rest.length < bs.length := by
  fun_induction readFields bs generalizing fields
  case case1 => simp at h
  case case2 _ hd => cases h; exact length_of_dropWhile_eq_cons hd
  case case3 _ hd ih => exact Nat.lt_trans (ih h) (length_of_dropWhile_eq_cons hd)
  case case4 hd _ _ ih => exact Nat.lt_trans (ih h) (length_of_dropWhile_eq_cons hd)
  case case5 r hd _ _ _ _ _ hrec ih =>
    cases h
    exact Nat.lt_of_lt_of_le (ih hrec)
      (Nat.le_trans (length_splitValue_le r) (Nat.le_of_lt (length_of_dropWhile_eq_cons hd)))

/-- A header value with its encoded words decoded. Where there is nothing to decode it is the value
without white space at its ends. -/
def decodeWords (value : String) : String :=
  let value := trimmed value
  if isInfixMark value.toList then
    let fields := (readFields (bytes "Subject: " ++ bytesOf value ++ [newline, newline])).1
    match (lastField? "subject" fields).bind fun f => decodeUnstructured f.value with
    | some text => String.ofList text
    | none => value
  else value
where
  /-- Whether the mark that starts an encoded word stands in the text. -/
  isInfixMark : List Char → Bool
    | '=' :: '?' :: _ => true
    | _ :: cs => isInfixMark cs
    | [] => false

end MailQuery.Mail
