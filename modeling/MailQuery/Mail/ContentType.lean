import MailQuery.Mail.Field

/-!
# Media types

The value of a `Content-Type` or `Content-Disposition` field: a type, after a slash its subtype, and
parameters `name=value` set off by semicolons, their values quoted or not.
-/

namespace MailQuery.Mail

open Ascii Text

/-- A media type with its parameters. -/
structure ContentType where
  main : Bytes
  sub : Bytes
  parameters : List (Bytes × Bytes)

/-- A quoted value after its opening quote, and what follows the closing one. -/
def quotedValue : Bytes → Bytes × Bytes
  | [] => ([], [])
  | b :: bs =>
    if b = byte '"' then ([], bs)
    else if b = byte '\\' then
      match bs with
      | [] => ([], [])
      | c :: cs =>
        let (value, rest) := quotedValue cs
        (c :: value, rest)
    else
      let (value, rest) := quotedValue bs
      (b :: value, rest)

/-- Splits a field value at the semicolons outside quotes. -/
def splitParameters (quoted : Bool) : Bytes → List Bytes
  | [] => [[]]
  | b :: bs =>
    match splitParameters (if b = byte '"' then !quoted else quoted) bs with
    | [] => [[b]]
    | piece :: pieces =>
      if b = byte ';' ∧ !quoted then [] :: piece :: pieces else (b :: piece) :: pieces

/-- The name and the value of a parameter. -/
def parameter? (piece : Bytes) : Option (Bytes × Bytes) :=
  match piece.dropWhile (· != byte '=') with
  | [] => none
  | _ :: value =>
    let name := (trim (piece.takeWhile (· != byte '='))).map lowerByte
    let value := trim value
    some (name,
      match value with
      | b :: bs => if b = byte '"' then (quotedValue bs).1 else value
      | [] => value)

/-- Reads the value of a field as a media type. A value without text is none. -/
def ContentType.parse? (value : Bytes) : Option ContentType :=
  match splitParameters false value with
  | [] => none
  | first :: rest =>
    let first := trim first
    let main := trim (first.takeWhile (· != byte '/'))
    if main.isEmpty then none
    else some ⟨main, trim ((first.dropWhile (· != byte '/')).drop 1), rest.filterMap parameter?⟩

/-- The value of a parameter. -/
def ContentType.parameter? (t : ContentType) (name : String) : Option Bytes :=
  t.parameters.lookup (bytes name)

/-- Whether the type is the given one, but for the case of letters. -/
def ContentType.isMain (t : ContentType) (name : String) : Bool := spells name t.main

/-- Whether the subtype is the given one, but for the case of letters. -/
def ContentType.isSub (t : ContentType) (name : String) : Bool := spells name t.sub

/-- The media type that a field of the given name holds. -/
def contentTypeField? (name : String) (fields : List Field) : Option ContentType :=
  (lastField? name fields).bind fun f => ContentType.parse? f.value

end MailQuery.Mail
