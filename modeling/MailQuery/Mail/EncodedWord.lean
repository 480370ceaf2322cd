import MailQuery.Mail.TransferEncoding
import MailQuery.Text.Charset

/-!
# Encoded words

Header text may hold words of the form `=?charset?Q?text?=` or `=?charset?B?text?=` that write text
in another character set. `decodeUnstructured` decodes the words of a header value and sets one
space between what is encoded and what is not; neighbouring encoded words join without a space. What
looks like an encoded word and cannot be decoded stays as it is.
-/

namespace MailQuery.Mail

open Ascii Text

/-- One more byte in front of the text that was read. -/
def consByte (b : UInt8) (read : Option (Bytes × Bytes)) : Option (Bytes × Bytes) :=
  read.map fun (text, rest) => (b :: text, rest)

/-- Reads the text of a `Q` word up to its end mark. -/
def readQuotedWord (escape : Escape) : Bytes → Option (Bytes × Bytes)
  | [] => none
  | b :: bs =>
    if b = byte '=' then (if escape = .absent then readQuotedWord .equals bs else none)
    else if b = byte '?' then
      if bs.head? = some (byte '=') then some ([], bs.drop 1)
      else consByte b (readQuotedWord escape bs)
    else if b = byte '_' then consByte (byte ' ') (readQuotedWord escape bs)
    else if b = carriageReturn then readQuotedWord escape bs
    else if b = newline then
      (if bs.head?.any isSpaceOrTab then readQuotedWord escape bs else none)
    else
      match escape with
      | .absent => consByte b (readQuotedWord .absent bs)
      | .equals => (hexDigit? b).bind fun high => readQuotedWord (.digit high) bs
      | .digit high =>
        (hexDigit? b).bind fun low =>
          consByte (high * 16 + low).toUInt8 (readQuotedWord .absent bs)

/-- Reads the text of a `B` word up to its end mark. -/
def readBase64Word (bs : Bytes) : Option (Bytes × Bytes) :=
  let text := bs.takeWhile (· != byte '?')
  match bs.dropWhile (· != byte '?') with
  | _ :: e :: rest =>
    if e = byte '=' then (decodeBase64 text).map fun decoded => (decoded, rest) else none
  | _ => none

/-- Reads an encoded word after its first character, the equals sign. -/
def readEncodedWord : Bytes → Option (List Char × Bytes)
  | [] => none
  | q :: bs =>
    if q ≠ byte '?' then none
    else
      let label := bs.takeWhile (· != byte '?')
      let charset := label.takeWhile (· != byte '*')
      if label.contains newline ∨ charset.length < 2 then none
      else
        match bs.drop label.length with
        | _ :: kind :: mark :: rest =>
          if mark ≠ byte '?' then none
          else
            let read :=
              if kind = byte 'q' ∨ kind = byte 'Q' then readQuotedWord .absent rest
              else if kind = byte 'b' ∨ kind = byte 'B' then readBase64Word rest
              else none
            read.map fun (text, rest) =>
              ((Charset.ofName (charset.map latin1Char)).decode text, rest)
        | _ => none

/-- The text decoded so far. -/
structure Decoded where
  text : List Char
  /-- Whether there is no piece of text yet, not even an empty one. -/
  isBlank : Bool
  /-- Whether the last piece was an encoded word. -/
  afterWord : Bool
  /-- The bytes of the plain piece that is being read, last byte first. -/
  runRev : Bytes

/-- Nothing is decoded yet. -/
def Decoded.start : Decoded := ⟨[], true, true, []⟩

/-- Ends the plain piece that is being read. Blanks at its end are dropped. -/
def Decoded.endRun (d : Decoded) : Decoded :=
  match d.runRev.dropWhile isSpace with
  | [] => { d with runRev := [] }
  | run =>
    { text := d.text ++ (if d.isBlank then [] else [' ']) ++ utf8Lenient run.reverse
      isBlank := false
      afterWord := false
      runRev := [] }

/-- Adds an encoded word. -/
def Decoded.addWord (d : Decoded) (word : List Char) : Decoded :=
  let d := d.endRun
  { d with
    text := d.text ++ (if d.afterWord then [] else [' ']) ++ word
    isBlank := false
    afterWord := true }

/-- Adds a byte to the plain piece. Blanks before its first byte are dropped. -/
def Decoded.addByte (d : Decoded) (b : UInt8) : Decoded :=
  if d.runRev.isEmpty && isSpace b then d else { d with runRev := b :: d.runRev }

theorem length_of_readQuotedWord {escape : Escape} {bs text rest : Bytes}
    (h : readQuotedWord escape bs = some (text, rest)) : rest.length ≤ bs.length := by
  induction bs generalizing escape text rest with
  | nil => simp [readQuotedWord] at h
  | cons b bs ih =>
    have step : ∀ {e : Escape} {c : UInt8},
        consByte c (readQuotedWord e bs) = some (text, rest) → rest.length ≤ bs.length + 1 := by
      intro e c he
      obtain ⟨⟨t, r⟩, hr, hp⟩ := Option.map_eq_some_iff.1 he
      cases hp
      exact Nat.le_succ_of_le (ih hr)
    unfold readQuotedWord at h
    simp only [List.length_cons]
    split at h
    · split at h
      · exact Nat.le_succ_of_le (ih h)
      · cases h
    split at h
    · split at h
      · cases h
        simp only [List.length_drop]
        omega
      · exact step h
    split at h
    · exact step h
    split at h
    · exact Nat.le_succ_of_le (ih h)
    split at h
    · split at h
      · exact Nat.le_succ_of_le (ih h)
      · cases h
    split at h
    · exact step h
    · obtain ⟨x, _, hx⟩ := Option.bind_eq_some_iff.1 h
      exact Nat.le_succ_of_le (ih hx)
    · obtain ⟨x, _, hx⟩ := Option.bind_eq_some_iff.1 h
      exact step hx

theorem length_of_readBase64Word {bs text rest : Bytes}
    (h : readBase64Word bs = some (text, rest)) : rest.length ≤ bs.length := by
  unfold readBase64Word at h
  split at h
  · rename_i e r hd
    split at h
    · obtain ⟨_, _, hp⟩ := Option.map_eq_some_iff.1 h
      cases hp
      have := (List.dropWhile_sublist (l := bs) (· != byte '?')).length_le
      rw [hd] at this
      simp only [List.length_cons] at this
      omega
    · cases h
  · cases h

theorem length_of_readEncodedWord {bs rest : Bytes} {text : List Char}
    (h : readEncodedWord bs = some (text, rest)) : rest.length ≤ bs.length := by
  cases bs with
  | nil => simp [readEncodedWord] at h
  | cons q bs =>
    simp only [readEncodedWord] at h
    split at h
    · cases h
    split at h
    · cases h
    split at h
    · rename_i m kind mark r hd
      have hlen := congrArg List.length hd
      simp only [List.length_drop, List.length_cons] at hlen
      split at h
      · cases h
      obtain ⟨⟨t, r'⟩, hr, hp⟩ := Option.map_eq_some_iff.1 h
      cases hp
      simp only [List.length_cons]
      split at hr
      · have := length_of_readQuotedWord hr
        omega
      split at hr
      · have := length_of_readBase64Word hr
        omega
      · cases hr
    · cases h

/-- Decodes the value of a header from `bs` on. A line feed only folds the value. -/
def decodeFrom (d : Decoded) : Bytes → Decoded
  | [] => d.endRun
  | b :: bs =>
    if b = newline then decodeFrom d.endRun bs
    else if b = byte '=' then
      match _h : readEncodedWord bs with
      | some (word, rest) => decodeFrom (d.addWord word) rest
      | none => decodeFrom (d.addByte b) bs
    else decodeFrom (d.addByte b) bs
termination_by bs => bs.length
decreasing_by
  · simp
  · have := length_of_readEncodedWord _h
    simp only [List.length_cons]
    omega
  · simp
  · simp

/-- The text of an unstructured header value, if it has any. -/
def decodeUnstructured (bs : Bytes) : Option (List Char) :=
  let d := decodeFrom .start bs
  if d.isBlank then none else some d.text

end MailQuery.Mail
