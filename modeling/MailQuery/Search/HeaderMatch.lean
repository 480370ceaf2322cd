import MailQuery.Expr.Builtin
import MailQuery.Mail.Address
import MailQuery.Mail.Field
import MailQuery.Search.Soundex
import MailQuery.Search.Words

/-!
# Matching header values

How the value of a header is compared with a search pattern: in which style, and as what kind of
header. All styles but soundex fold case.
-/

namespace MailQuery.Search

open Text Mail

/-- What a header value holds. -/
inductive HeaderKind where
  /-- Text, compared as it is. -/
  | plain
  /-- Raw text, in which encoded words are decoded first. -/
  | encoded
  /-- Addresses: the whole text is compared, and then each name and address by itself. -/
  | addresses
  /-- The name of a mailing list. A name without `@` is compared with the local part of the
  pattern. -/
  | mailingList
deriving DecidableEq, Repr

/-- Whether `needle` stands in `haystack`, but for case. -/
def containsFolded (haystack needle : List Char) : Bool :=
  needle.isEmpty || isInfix (lower needle) (lower haystack)

/-- Whether a character is punctuation of ASCII. -/
def isPunctuation (c : Char) : Bool :=
  0x21 ≤ c.toNat && c.toNat ≤ 0x7e && !c.isAlphanum

/-- A text with spaces in the place of punctuation. -/
def withoutPunctuation (cs : List Char) : List Char :=
  cs.map fun c => if isPunctuation c then ' ' else c

/-- Whether every word of `needle` is a word of `haystack`. Punctuation separates words. -/
def hasWords (haystack needle : List Char) : Bool :=
  let present := (splitWords (withoutPunctuation haystack)).map Word.text
  (splitWords (withoutPunctuation needle)).all fun w => present.contains w.text

/-- Whether a text matches a pattern in a style. A text of fewer bytes than the pattern never
matches but by soundex. -/
def textMatches (style : MatchStyle) (value pattern : List Char) : Bool :=
  match style with
  | .soundex =>
    let code := Search.soundex pattern
    !code.isEmpty && (words value).any fun w => Search.soundex w == code
  | _ =>
    if byteLength value < byteLength pattern then false
    else
      match style with
      | .exact => lower value == lower pattern
      | .contains => isInfix (lower pattern) (lower value)
      | .startsWith => (lower pattern).isPrefixOf (lower value)
      | .endsWith => (lower pattern).isSuffixOf (lower value)
      | _ => hasWords value pattern

/-- The pattern that the name of a mailing list is compared with. -/
def mailingListPattern (value pattern : List Char) : List Char :=
  match cutWhere? (· == '@') pattern with
  | some (localPart, _) =>
    if !localPart.isEmpty && !value.contains '@' then localPart else pattern
  | none => pattern

/-- Whether a header value matches a pattern. -/
def headerMatches (value pattern : String) (style : MatchStyle) (kind : HeaderKind) : Bool :=
  let value := trimStart (value.toList.filter fun c => c != '\r' && c != '\n')
  let pattern := pattern.toList
  match kind with
  | .plain => textMatches style value pattern
  | .encoded => textMatches style (decodeWords (String.ofList value)).toList pattern
  | .mailingList => textMatches style value (mailingListPattern value pattern)
  | .addresses =>
    textMatches style value pattern ||
      (Address.parseList (decodeWords (String.ofList value))).any fun a =>
        (a.name != "" && textMatches style a.name.toList pattern) ||
          textMatches style a.email.toList pattern

end MailQuery.Search
