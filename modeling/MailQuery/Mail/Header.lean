import MailQuery.Mail.Address
import MailQuery.Mail.Date
import MailQuery.Mail.Summary

/-!
# Headers of a raw message

A raw message may start with a byte-order mark and the separator line of a mailbox file. Then comes
the header block, up to the first of the two pairs of line ends that close it, and then the body.
The header block gives the summary of the message.
-/

namespace MailQuery.Mail

open Ascii Text

/-- A header whose folded lines are joined. The value keeps the blanks after the colon. -/
structure Header where
  name : String
  value : String
deriving DecidableEq, Repr

/-- Bytes without the byte-order mark of UTF-8 at their start. -/
def dropMark : Bytes → Bytes
  | 0xef :: 0xbb :: 0xbf :: rest => rest
  | bs => bs

/-- The word that a separator line starts with. -/
def fromWord : Bytes := bytes "From "

/-- A raw message without its separator line. -/
def skipFromLine (raw : Bytes) : Bytes :=
  let raw := dropMark raw
  if fromWord.isPrefixOf raw then (raw.dropWhile (· != newline)).drop 1 else raw

/-- The header block with its last line end, and the body behind the line end that follows it. -/
def splitBlock : Bytes → Bytes × Bytes
  | [] => ([], [])
  | b :: bs =>
    if b = newline ∧ bs.head? = some newline then ([b], bs.drop 1)
    else if b = carriageReturn ∧ (bytes "\n\r\n").isPrefixOf bs then ([b, newline], bs.drop 3)
    else
      let (block, body) := splitBlock bs
      (b :: block, body)

/-- The header block and the body of a raw message. -/
def splitMessage (raw : Bytes) : Bytes × Bytes := splitBlock (skipFromLine raw)

/-- The lines of a text, without their line ends. A line feed at the end starts no further line. -/
def lines : List Char → List (List Char)
  | [] => []
  | c :: cs =>
    if c = '\n' then [] :: lines cs
    else
      match lines cs with
      | [] => [[c]]
      | line :: rest => (c :: line) :: rest

/-- A line without the carriage returns at its end. -/
def dropReturns (line : List Char) : List Char :=
  (line.reverse.dropWhile (· == '\r')).reverse

/-- The header that a line starts, if it has a name: text before a colon without spaces inside. -/
def headerOfLine (line : List Char) : Option Header :=
  (cutWhere? (· == ':') line).bind fun (name, value) =>
    let name := trim name
    if name.isEmpty || name.contains ' ' then none
    else some ⟨String.ofList name, String.ofList value⟩

/-- Adds a line to the headers read so far, last header first. -/
def addLine (headers : List Header) (line : List Char) : List Header :=
  if line.head? = some ' ' ∨ line.head? = some '\t' then
    match headers with
    | [] => []
    | last :: rest => { last with value := last.value ++ String.ofList line } :: rest
  else (headerOfLine line).toList ++ headers

/-- The headers of the lines of a block. -/
def headersOfText (text : List Char) : List Header :=
  (((lines text).map dropReturns).foldl addLine []).reverse

/-- The headers of a header block. -/
def rawHeaders (block : Bytes) : List Header := headersOfText (decodeHeaderBytes block).toList

/-- Whether a header has the given name, but for the case of letters. -/
def Header.isNamed (h : Header) (name : String) : Bool :=
  eqIgnoreAsciiCase h.name.toList name.toList

/-- The value of the first header of a name. -/
def headerValue? (headers : List Header) (name : String) : Option String :=
  (headers.find? (·.isNamed name)).map (·.value)

/-- Every piece of a text in angle brackets, without the brackets and the blanks inside them. -/
def angleIds (cs : List Char) : List (List Char) :=
  match _h : cutWhere? (· == '<') cs with
  | none => []
  | some (_, after) =>
    match _h₂ : cutWhere? (· == '>') after with
    | none => []
    | some (inside, rest) =>
      let id := trim inside
      if id.isEmpty then angleIds rest else id :: angleIds rest
termination_by cs.length
decreasing_by
  all_goals
    have hle : ∀ {p : Char → Bool} {a before after : List Char},
        cutWhere? p a = some (before, after) → after.length < a.length := by
      intro p a before after h
      unfold cutWhere? at h
      split at h
      · cases h
      · rename_i hd
        cases h
        have := (List.dropWhile_sublist (l := a) (!p ·)).length_le
        rw [hd] at this
        simp only [List.length_cons] at this
        omega
    exact Nat.lt_trans (hle _h₂) (hle _h)

/-- The first piece in angle brackets, or else the text without white space at its ends. -/
def stripAngles (cs : List Char) : List Char := ((angleIds cs).head?).getD (trim cs)

/-- An address header decoded and written again. -/
def addressHeader (value : String) : String :=
  Address.formatList (Address.parseList (decodeWords value))

/-- The mailing list that a message came through: the address in its `List-Post` header, or else the
name in its `List-Id` header. -/
def mailingListOf (headers : List Header) : String :=
  let byId :=
    match headerValue? headers "list-id" with
    | some id => String.ofList (stripAngles (trim id.toList))
    | none => ""
  match headerValue? headers "list-post" with
  | some post =>
    match stripStart? "mailto:".toList (stripAngles (trim post.toList)) with
    | some address => String.ofList (address.takeWhile (· != '?'))
    | none => byId
  | none => byId

/-- The flags that one header sets or clears. -/
def flagsOfHeader (flags : Flags) (h : Header) : Flags :=
  let value := trim h.value.toList
  let ifHas := fun (flags : Flags) (letter : Char) (bit : UInt32) =>
    if value.contains letter then flags.set bit true else flags
  if h.isNamed "status" then flags.set Flags.seen (value.contains 'R')
  else if h.isNamed "x-status" then
    let flags := ifHas flags 'A' Flags.answered
    let flags := ifHas flags 'F' Flags.flagged
    let flags := ifHas flags 'D' Flags.deleted
    ifHas flags 'T' Flags.draft
  else if h.isNamed "x-spam-flag" then
    flags.set Flags.junk (eqIgnoreAsciiCase value "yes".toList)
  else if h.isNamed "content-type" then
    let lower := value.map Char.toLower
    let starts := fun (kind : String) => kind.toList.isPrefixOf lower
    let flags := if starts "multipart/mixed" then flags.set Flags.attachments true else flags
    if starts "multipart/signed" || starts "multipart/encrypted" then flags.set Flags.secure true
    else flags
  else flags

/-- The labels that a header lists, with underscores for spaces. -/
def labelsOfHeader (h : Header) : List String :=
  if h.isNamed "x-keywords" || h.isNamed "x-gmail-labels" then
    ((splitOn (· == ',') (decodeWords h.value).toList).map fun label =>
      String.ofList ((trim label).map fun c => if c = ' ' then '_' else c)).filter (· != "")
  else []

/-- The summary of a raw message. -/
def Summary.ofRaw (uid : String) (raw : Bytes) (span : Option Span) : Summary :=
  let headers := rawHeaders (splitMessage raw).1
  let get := fun name => (headerValue? headers name).map trimmed
  let ids := fun (value : String) => (angleIds value.toList).map String.ofList
  let sent := ((get "date").bind parseDate).getD 0
  { uid
    flags := headers.foldl flagsOfHeader .none
    userFlags := TextSet.ofList (headers.flatMap labelsOfHeader)
    userTags := ∅
    subject := (get "subject").elim "" decodeWords
    sender := (get "from").elim "" addressHeader
    recipients := (get "to").elim "" addressHeader
    copies := (get "cc").elim "" addressHeader
    mailingList := mailingListOf headers
    sent
    received := (parseFromLineDate raw).getD sent
    size := raw.length.toUInt64
    messageId := (get "message-id").elim "" fun v => String.ofList (stripAngles v.toList)
    inReplyTo := (get "in-reply-to").bind fun v => (ids v).getLast?
    references := (get "references").elim [] ids
    span }

end MailQuery.Mail
