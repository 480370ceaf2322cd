import MailQuery.Mail.ContentType
import MailQuery.Mail.Html

/-!
# The text of a message

A message is a tree: containers that list parts between boundary lines, and leaves. The parts are
read in one pass over the bytes with the open containers on a stack. A part belongs to the text of
the message if it is shown inline; of an alternative only the plain text is taken, or the HTML
where there is no plain text. Attached messages are not searched.

The pass ends where the bytes end or a part is not closed by the boundary of its container.
-/

namespace MailQuery.Mail

open Ascii Text

/-- The kinds of container. -/
inductive Container where
  | mixed
  | alternative
  | related
  | digest
deriving DecidableEq, Repr

/-- What a part of a message is. -/
inductive PartKind where
  | container (kind : Container)
  | plain
  | html
  | otherText
  /-- Shown in place, but not as text. -/
  | media
  | message
  | other
deriving DecidableEq, Repr

/-- What a part is, by its media type and the kind of its container. -/
def PartKind.of (type? : Option ContentType) (within : Container) : PartKind :=
  match type? with
  | none => if within = .digest then message else plain
  | some t =>
    if t.isMain "multipart" then
      container <|
        if t.isSub "alternative" then .alternative
        else if t.isSub "related" then .related
        else if t.isSub "digest" then .digest
        else .mixed
    else if t.isMain "text" then
      if t.isSub "plain" then plain else if t.isSub "html" then html else otherText
    else if t.isMain "image" ∨ t.isMain "audio" ∨ t.isMain "video" then media
    else if t.isMain "message" ∧ (t.isSub "rfc822" ∨ t.isSub "global") then message
    else other

/-- A part that is shown, as the text it adds. Media add none, and the text ends there. -/
abbrev Shown := Option (List Char)

/-- The parts that are shown to a reader of plain text and to a reader of HTML, in order. -/
structure Views where
  text : List Shown
  html : List Shown

/-- A container that is being read. The outermost one stands for the message and has no boundary. -/
structure OpenContainer where
  kind : Container
  boundary : Option Bytes
  inAlternative : Bool
  needText : Bool
  needHtml : Bool
  /-- What was shown before the container. -/
  before : Views
  /-- The number of parts that have been read. -/
  parts : Nat

/-- The message itself as a container. -/
def OpenContainer.outermost : OpenContainer := ⟨.mixed, none, false, true, true, ⟨[], []⟩, 0⟩

/-- What follows the first place where two dashes and the boundary stand. -/
def seekBoundary (boundary : Bytes) (bs : Bytes) : Option Bytes :=
  if boundary.isEmpty then none else seek (bytes "--" ++ boundary) bs
where
  /-- What follows the first place where the mark stands. -/
  seek (mark : Bytes) : Bytes → Option Bytes
    | [] => none
    | b :: bs =>
      if mark.isPrefixOf (b :: bs) then some ((b :: bs).drop mark.length) else seek mark bs

/-- The bytes before the line that starts with a mark, and what follows the mark. `lineStart` says
that a line starts here. -/
def cutAtLine (mark : Bytes) (lineStart : Bool) : Bytes → Option (Bytes × Bytes)
  | [] => none
  | b :: bs =>
    if lineStart && mark.isPrefixOf (b :: bs) then some ([], (b :: bs).drop mark.length)
    else (cutAtLine mark (b == newline) bs).map fun (before, rest) => (b :: before, rest)

/-- Bytes without the line end that they may end with. -/
def dropLineEnd (bs : Bytes) : Bytes :=
  match bs.reverse with
  | [] => []
  | b :: rest =>
    if b = newline then
      (if rest.head? = some carriageReturn then rest.drop 1 else rest).reverse
    else bs

/-- The content of a part up to the boundary of its container, without the line end before it, and
what follows the boundary. -/
def cutPart (boundary : Bytes) (bs : Bytes) : Option (Bytes × Bytes) :=
  (cutAtLine (bytes "--" ++ boundary) true bs).map fun (before, rest) => (dropLineEnd before, rest)

/-- What follows the rest of a line that holds only blanks. -/
def skipLineEnd : Bytes → Bytes
  | [] => []
  | b :: bs =>
    if b = newline then bs
    else if isSpaceOrTab b ∨ b = carriageReturn then skipLineEnd bs
    else b :: bs

/-- Whether the boundary just read ends its container, and what follows it. -/
def afterBoundary : Bytes → Bool × Bytes
  | a :: b :: bs =>
    if a = byte '-' ∧ b = byte '-' then (true, bs) else (false, skipLineEnd (a :: b :: bs))
  | bs => (false, skipLineEnd bs)

/-- The way in which the body below some fields is written. -/
def transferEncoding (fields : List Field) : TransferEncoding :=
  match (lastField? "content-transfer-encoding" fields).bind fun f => decodeUnstructured f.value with
  | none => .identity
  | some name =>
    let name := name.map Char.toLower
    if name = "base64".toList then .base64
    else if name = "quoted-printable".toList then .quotedPrintable
    else .identity

/-- Whether a part is shown in place, given that it decodes. -/
def isInline (within : OpenContainer) (kind : PartKind) (fields : List Field)
    (type? : Option ContentType) : Bool :=
  let shownKind := kind = .plain ∨ kind = .html ∨ kind = .media
  let attached := (contentTypeField? "content-disposition" fields).any (·.isMain "attachment")
  let named := type?.any fun t => (t.parameter? "name").isSome
  shownKind && !attached &&
    (within.parts == 1 || (within.kind != .related && (kind == .media || !named)))

/-- The text that a shown part of a kind adds. -/
def shownPart (kind : PartKind) (type? : Option ContentType) (content : Bytes) : Shown :=
  let charset := (type?.bind (·.parameter? "charset")).elim .utf8 fun name =>
    Charset.ofName (name.map latin1Char)
  match kind with
  | .plain => some (charset.decode content)
  | .html => some (Html.toText (charset.decode content))
  | _ => none

/-- Adds a part to the views where it belongs, which may decide what its container still needs. -/
def addPart (within : OpenContainer) (views : Views) (kind : PartKind) (inPlace : Bool)
    (part : Shown) : OpenContainer × Views :=
  if within.kind = .alternative then
    match kind with
    | .html => (within, { views with html := views.html ++ [part] })
    | .plain => (within, { views with text := views.text ++ [part] })
    | _ => (within, views)
  else if !inPlace then (within, views)
  else
    let decided :=
      if within.inAlternative && (within.needText || within.needHtml) then
        match kind with
        | .html => { within with needText := false }
        | .plain => { within with needHtml := false }
        | _ => within
      else within
    (decided,
      { text := if decided.needText then views.text ++ [part] else views.text
        html := if decided.needHtml then views.html ++ [part] else views.html })

/-- What is shown once a container is closed: an alternative with one form only shows it to both
readers. -/
def closeViews (c : OpenContainer) (views : Views) : Views :=
  if c.kind = .alternative ∧ c.needText ∧ c.needHtml then
    let text := views.text.drop c.before.text.length
    let html := views.html.drop c.before.html.length
    if text.isEmpty then { views with text := views.text ++ html }
    else if html.isEmpty then { views with html := views.html ++ text }
    else views
  else views

/-- Goes on behind a boundary of the innermost container: at its next part, or, where it ends, at
the next part of a container around it. -/
def climb : List OpenContainer → Views → Bytes → Views × Option (List OpenContainer × Bytes)
  | [], views, _ => (views, none)
  | c :: outer, views, bs =>
    match afterBoundary bs with
    | (false, rest) => (views, some (c :: outer, rest))
    | (true, rest) =>
      let views := closeViews c views
      match outer with
      | [] => (views, none)
      | p :: _ =>
        match p.boundary.bind (seekBoundary · rest) with
        | some rest => climb outer views rest
        | none => (views, none)

/-- What has been read after one part: the views, and where more parts follow, in which containers
and from which bytes on. -/
abbrev Progress := Views × Option (List OpenContainer × Bytes)

/-- Reads one part whose fields are read already and whose content starts here. -/
def readPart (c : OpenContainer) (outer : List OpenContainer) (views : Views) (fields : List Field)
    (bs : Bytes) : Progress :=
  let c := { c with parts := c.parts + 1 }
  let type? := contentTypeField? "content-type" fields
  let kind := PartKind.of type? c.kind
  let boundary := type?.bind (·.parameter? "boundary")
  match kind, boundary.bind fun b => (seekBoundary b bs).map fun rest => (b, rest) with
  | .container inner, some (b, rest) =>
    let opened : OpenContainer :=
      { kind := inner
        boundary := some b
        inAlternative := c.inAlternative || inner = .alternative
        needText := c.needText
        needHtml := c.needHtml
        before := views
        parts := 0 }
    (views, some (opened :: c :: outer, skipLineEnd rest))
  | _, _ =>
    let encoding := transferEncoding fields
    match c.boundary with
    | none =>
      match encoding.decode false bs with
      | some content =>
        let part := shownPart kind type? content
        ((addPart c views kind (isInline c kind fields type?) part).2, none)
      | none => (views, none)
    | some b =>
      match cutPart b bs with
      | none => (views, none)
      | some (raw, rest) =>
        match encoding.decode true raw with
        | some content =>
          let part := shownPart kind type? content
          let (c, views) := addPart c views kind (isInline c kind fields type?) part
          climb (c :: outer) views rest
        | none => climb (c :: outer) views rest

theorem length_of_seek {mark bs rest : Bytes} (h : seekBoundary.seek mark bs = some rest) :
    rest.length ≤ bs.length := by
  induction bs with
  | nil => simp [seekBoundary.seek] at h
  | cons b bs ih =>
    simp only [seekBoundary.seek] at h
    split at h
    · cases h
      simp only [List.length_drop]
      omega
    · exact Nat.le_succ_of_le (ih h)

theorem length_of_seekBoundary {boundary bs rest : Bytes}
    (h : seekBoundary boundary bs = some rest) : rest.length ≤ bs.length := by
  unfold seekBoundary at h
  split at h
  · cases h
  · exact length_of_seek h

theorem length_of_cutAtLine {mark bs before rest : Bytes} {lineStart : Bool}
    (h : cutAtLine mark lineStart bs = some (before, rest)) : rest.length ≤ bs.length := by
  induction bs generalizing before lineStart with
  | nil => simp [cutAtLine] at h
  | cons b bs ih =>
    simp only [cutAtLine] at h
    split at h
    · cases h
      simp only [List.length_drop]
      omega
    · obtain ⟨⟨t, r⟩, hr, hp⟩ := Option.map_eq_some_iff.1 h
      cases hp
      exact Nat.le_succ_of_le (ih hr)

theorem length_of_cutPart {boundary bs content rest : Bytes}
    (h : cutPart boundary bs = some (content, rest)) : rest.length ≤ bs.length := by
  obtain ⟨⟨t, r⟩, hr, hp⟩ := Option.map_eq_some_iff.1 h
  cases hp
  exact length_of_cutAtLine hr

theorem length_skipLineEnd_le (bs : Bytes) : (skipLineEnd bs).length ≤ bs.length := by
  induction bs with
  | nil => simp [skipLineEnd]
  | cons b bs ih =>
    simp only [skipLineEnd]
    split
    · simp
    split
    · exact Nat.le_succ_of_le ih
    · exact Nat.le_refl _

theorem length_afterBoundary_le (bs : Bytes) : (afterBoundary bs).2.length ≤ bs.length := by
  unfold afterBoundary
  split
  · split
    · simp only [List.length_cons]
      omega
    · exact length_skipLineEnd_le _
  · exact length_skipLineEnd_le _

theorem length_of_climb {containers cs : List OpenContainer} {views v : Views} {bs next : Bytes}
    (h : climb containers views bs = (v, some (cs, next))) : next.length ≤ bs.length := by
  induction containers generalizing views bs with
  | nil => simp [climb] at h
  | cons c outer ih =>
    have hle := length_afterBoundary_le bs
    unfold climb at h
    split at h
    · rename_i rest hb
      cases h
      rw [hb] at hle
      exact hle
    · rename_i rest hb
      rw [hb] at hle
      simp only at h
      split at h
      · cases h
      · split at h
        · rename_i hs
          obtain ⟨b, _, hb⟩ := Option.bind_eq_some_iff.1 hs
          exact Nat.le_trans (ih h) (Nat.le_trans (length_of_seekBoundary hb) hle)
        · cases h

theorem length_of_readPart {c : OpenContainer} {outer cs : List OpenContainer} {views v : Views}
    {fields : List Field} {bs next : Bytes}
    (h : readPart c outer views fields bs = (v, some (cs, next))) : next.length ≤ bs.length := by
  unfold readPart at h
  simp only at h
  split at h
  · rename_i hb
    cases h
    obtain ⟨b, _, hs⟩ := Option.bind_eq_some_iff.1 hb
    obtain ⟨r, hr, hp⟩ := Option.map_eq_some_iff.1 hs
    cases hp
    exact Nat.le_trans (length_skipLineEnd_le _) (length_of_seekBoundary hr)
  · split at h
    · split at h <;> cases h
    · split at h
      · cases h
      · rename_i hc
        have := length_of_cutPart hc
        split at h <;> exact Nat.le_trans (length_of_climb h) this

/-- Reads the parts from here on, in the given open containers, innermost first. -/
def readParts (containers : List OpenContainer) (views : Views) (bs : Bytes) : Views :=
  match containers with
  | [] => views
  | c :: outer =>
    match _h : readFields bs with
    | (_, none) => views
    | (fields, some rest) =>
      match _hp : readPart c outer views fields rest with
      | (views, none) => views
      | (views, some (containers, next)) => readParts containers views next
termination_by bs.length
decreasing_by
  exact Nat.lt_of_le_of_lt (length_of_readPart _hp) (length_rest_of_readFields _h)

/-- The texts of a message that are shown to a reader of plain text, up to the first part that is no
text. There is no such list where the bytes do not even start a header. -/
def bodyTexts? (bs : Bytes) : Option (List String) :=
  match readFields bs with
  | ([], none) => none
  | _ =>
    let views := readParts [.outermost] ⟨[], []⟩ bs
    some ((views.text.takeWhile Option.isSome).filterMap fun t => t.map String.ofList)

end MailQuery.Mail
