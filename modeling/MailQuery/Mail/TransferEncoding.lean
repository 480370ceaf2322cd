import MailQuery.Text.Ascii

/-!
# Transfer encodings

Base64 and quoted-printable, in the bodies of messages and inside encoded words. A reader fails on
bytes that the encoding does not have.
-/

namespace MailQuery.Mail

open Ascii

/-- The six bits that a character of base64 stands for. -/
def base64Digit? (b : UInt8) : Option Nat :=
  if byte 'A' ≤ b ∧ b ≤ byte 'Z' then some (b - byte 'A').toNat
  else if byte 'a' ≤ b ∧ b ≤ byte 'z' then some ((b - byte 'a').toNat + 26)
  else if byte '0' ≤ b ∧ b ≤ byte '9' then some ((b - byte '0').toNat + 52)
  else if b = byte '+' then some 62
  else if b = byte '/' then some 63
  else none

/-- The bytes of a group of base64 digits that padding ends early. -/
def base64Padded : List Nat → Bytes
  | [a] => [(a * 4).toUInt8]
  | [a, b] => [(a * 4 + b / 16).toUInt8]
  | [a, b, c] => [(a * 4 + b / 16).toUInt8, (b % 16 * 16 + c / 4).toUInt8]
  | _ => []

/-- Reads base64 with the digits of the current group in `group`. Digits of a last group without
padding count for nothing. -/
def decodeBase64From (group : List Nat) : Bytes → Option Bytes
  | [] => some []
  | b :: bs =>
    match base64Digit? b with
    | some d =>
      match group with
      | [x, y, z] =>
        (decodeBase64From [] bs).map fun rest =>
          (x * 4 + y / 16).toUInt8 :: (y % 16 * 16 + z / 4).toUInt8 :: (z % 4 * 64 + d).toUInt8 :: rest
      | _ => decodeBase64From (group ++ [d]) bs
    | none =>
      if b = byte '=' then (decodeBase64From [] bs).map (base64Padded group ++ ·)
      else if isSpace b then decodeBase64From group bs
      else none

/-- The bytes that base64 writes. -/
def decodeBase64 (bs : Bytes) : Option Bytes := decodeBase64From [] bs

/-- How much of an escape has been read: none of it, its equals sign, or also its first digit. -/
inductive Escape where
  | absent
  | equals
  | digit (high : Nat)
deriving DecidableEq, Repr

/-- Reads quoted-printable. `blanks` are the blanks read last, nearest first, which count only if
something but a line end follows; `afterReturn` says that a carriage return was read last, and `final`
that the end of the bytes ends a line. -/
def decodeQuotedFrom (final : Bool) (escape : Escape) (blanks : Bytes) (afterReturn : Bool) :
    Bytes → Option Bytes
  | [] => some (if final then [] else blanks.reverse)
  | b :: bs =>
    if b = newline then
      match escape with
      | .equals => (decodeQuotedFrom final .absent [] false bs).map (blanks.reverse ++ ·)
      | _ =>
        (decodeQuotedFrom final escape [] false bs).map
          ((if afterReturn then [carriageReturn, newline] else [newline]) ++ ·)
    else if b = carriageReturn then decodeQuotedFrom final escape blanks true bs
    else
      match escape with
      | .absent =>
        if b = byte '=' then decodeQuotedFrom final .equals blanks false bs
        else if isSpaceOrTab b then decodeQuotedFrom final .absent (b :: blanks) false bs
        else (decodeQuotedFrom final .absent [] false bs).map (blanks.reverse ++ b :: ·)
      | .equals =>
        match hexDigit? b with
        | some high => decodeQuotedFrom final (.digit high) blanks false bs
        | none => if isSpace b then decodeQuotedFrom final .equals blanks false bs else none
      | .digit high =>
        (hexDigit? b).bind fun low =>
          (decodeQuotedFrom final .absent [] false bs).map
            (blanks.reverse ++ (high * 16 + low).toUInt8 :: ·)

/-- The bytes that quoted-printable writes. Blanks at the end of a line are dropped, also in the
last line if `final` says that the end of the bytes ends it. -/
def decodeQuoted (final : Bool) (bs : Bytes) : Option Bytes :=
  decodeQuotedFrom final .absent [] false bs

/-- A way in which bytes are written in the body of a message. -/
inductive TransferEncoding where
  | identity
  | base64
  | quotedPrintable
deriving DecidableEq, Repr

/-- The bytes that a body writes, where `final` says that its end ends a line. -/
def TransferEncoding.decode (final : Bool) : TransferEncoding → Bytes → Option Bytes
  | identity, bs => some bs
  | base64, bs => decodeBase64 bs
  | quotedPrintable, bs => decodeQuoted final bs

end MailQuery.Mail
