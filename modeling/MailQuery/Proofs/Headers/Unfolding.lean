import MailQuery.Mail.Message
import MailQuery.Proofs.Files.Coding
import MailQuery.Proofs.Text.Pieces

/-!
# Folded headers

A header may be written on several lines: a line that starts with a space or a tab goes on with the value of the header before
it. `Folds` says which texts write a value, with line breaks before some of its spaces and tabs, and `Renders` which texts
write a list of headers, with either kind of line end behind each line. Reading the headers of such a text gives the list
again.

The reader keeps a list of headers and takes the lines one after the other, so that all follows from what one line does to
the list (`readLines_append`). The induction is on how a value is folded: what the lines so far have made of the header is
the front of its value, and the rest of the current line is what comes next (`readLines_of_folds`).

Whatever headers are read from a text in which carriage returns stand only before line feeds could have been written in this
way (`IsHeader`), and `Message.headerBlock` writes them so, but for a space in front of some values. The main statement is
`rawHeaders_of_renders`.
-/

namespace MailQuery.Mail

open Text

/-! ### Lines -/

/-- A text without line ends. -/
def IsLine (cs : List Char) : Prop := ∀ c ∈ cs, c ≠ '\r' ∧ c ≠ '\n'

instance (cs : List Char) : Decidable (IsLine cs) := inferInstanceAs (Decidable (∀ c ∈ cs, c ≠ '\r' ∧ c ≠ '\n'))

/-- How a line ends. -/
inductive LineEnd where
  | feed
  | returnAndFeed
deriving DecidableEq, Repr

/-- The characters that end a line. -/
def LineEnd.text : LineEnd → List Char
  | feed => ['\n']
  | returnAndFeed => ['\r', '\n']

theorem isLine_nil : IsLine [] := List.forall_mem_nil _

theorem isLine_cons {c : Char} {cs : List Char} : IsLine (c :: cs) ↔ (c ≠ '\r' ∧ c ≠ '\n') ∧ IsLine cs :=
  List.forall_mem_cons

theorem isLine_append {cs ds : List Char} (hcs : IsLine cs) (hds : IsLine ds) : IsLine (cs ++ ds) := fun c hc =>
  (List.mem_append.1 hc).elim (hcs c) (hds c)

theorem lines_append_feed {line : List Char} (h : '\n' ∉ line) (rest : List Char) :
    lines (line ++ '\n' :: rest) = line :: lines rest := by
  induction line with
  | nil => rw [List.nil_append, lines, if_pos rfl]
  | cons c line ih =>
    rw [List.mem_cons, not_or] at h
    rw [List.cons_append, lines, if_neg (Ne.symm h.1), ih h.2]

theorem dropReturns_eq_self {line : List Char} (h : IsLine line) : dropReturns line = line := by
  have hlast : line.reverse.dropWhile (· == '\r') = line.reverse := by
    rw [List.dropWhile_eq_self_iff]
    intro hpos
    have hmem := List.mem_reverse.1 (List.getElem_mem hpos)
    simpa using (h _ hmem).1
  rw [dropReturns, hlast, List.reverse_reverse]

theorem dropReturns_append_return {line : List Char} (h : IsLine line) : dropReturns (line ++ ['\r']) = line := by
  rw [dropReturns, List.reverse_append]
  exact dropReturns_eq_self h

/-- Adds the lines of a text to the headers read so far, last header first. -/
def readLines (headers : List Header) (text : List Char) : List Header :=
  ((lines text).map dropReturns).foldl addLine headers

/-- **The lines of a text are read one after the other**, and it does not matter how they end. -/
theorem readLines_append {line : List Char} (h : IsLine line) (e : LineEnd) (headers : List Header) (rest : List Char) :
    readLines headers (line ++ (e.text ++ rest)) = readLines (addLine headers line) rest := by
  have hfeed : '\n' ∉ line := fun hmem => (h _ hmem).2 rfl
  cases e with
  | feed =>
    show readLines headers (line ++ '\n' :: rest) = _
    rw [readLines, lines_append_feed hfeed, List.map_cons, List.foldl_cons, dropReturns_eq_self h, readLines]
  | returnAndFeed =>
    have hreturn : '\n' ∉ line ++ ['\r'] := by simpa using hfeed
    have htext : line ++ (LineEnd.returnAndFeed.text ++ rest) = (line ++ ['\r']) ++ '\n' :: rest := by simp [LineEnd.text]
    rw [htext, readLines, lines_append_feed hreturn, List.map_cons, List.foldl_cons, dropReturns_append_return h, readLines]

/-! ### What one line does -/

/-- An empty line adds nothing. -/
theorem addLine_nil (headers : List Header) : addLine headers [] = headers := rfl

/-- A line that starts with a space or a tab goes on with the value of the last header. -/
theorem addLine_of_fold {c : Char} (hc : c = ' ' ∨ c = '\t') (name : String) (front : List Char) (headers : List Header)
    (line : List Char) : addLine (⟨name, String.ofList front⟩ :: headers) (c :: line) =
      ⟨name, String.ofList (front ++ c :: line)⟩ :: headers := by
  have hhead : (c :: line).head? = some ' ' ∨ (c :: line).head? = some '\t' :=
    hc.imp (congrArg some) (congrArg some)
  rw [String.ofList_append]
  exact if_pos hhead

/-- Any other line starts a header, if it has a name. -/
theorem addLine_of_not_fold {line : List Char} (h : ¬ (line.head? = some ' ' ∨ line.head? = some '\t'))
    (headers : List Header) : addLine headers line = (headerOfLine line).toList ++ headers := if_neg h

/-- The name of a header, as it can be read from a line. -/
structure IsName (name : List Char) : Prop where
  ne_nil : name ≠ []
  trimmed : IsTrimmed name
  plain : ∀ c ∈ name, c ≠ ':' ∧ c ≠ ' '
  line : IsLine name

/-- A name without white space inside. -/
theorem IsName.of_forall {name : List Char} (hne : name ≠ []) (h : ∀ c ∈ name, c ≠ ':' ∧ isBlank c = false) :
    IsName name := by
  have hnot : ∀ {blank c : Char}, isBlank blank = true → c ∈ name → c ≠ blank := by
    rintro blank _ hblank hc rfl
    rw [(h _ hc).2] at hblank
    cases hblank
  refine ⟨hne, ⟨fun c hc => (h c (List.mem_of_mem_head? hc)).2, fun c hc => (h c (List.mem_of_mem_getLast? hc)).2⟩, ?_, ?_⟩
  · exact fun c hc => ⟨(h c hc).1, hnot rfl hc⟩
  · exact fun c hc => ⟨hnot rfl hc, hnot rfl hc⟩

/-- A line with a name and a colon starts a header. -/
theorem addLine_of_isName {name : List Char} (h : IsName name) (headers : List Header) (value : List Char) :
    addLine headers (name ++ ':' :: value) = ⟨String.ofList name, String.ofList value⟩ :: headers := by
  have hcolon : cutWhere? (· == ':') (name ++ ':' :: value) = some (name, value) :=
    cutWhere?_append rfl fun c hc => by simpa using (h.plain c hc).1
  have hheader : headerOfLine (name ++ ':' :: value) = some ⟨String.ofList name, String.ofList value⟩ := by
    have hspace : name.contains ' ' = false := by
      rw [List.contains_eq_mem, decide_eq_false_iff_not]
      exact fun hmem => (h.plain _ hmem).2 rfl
    have hempty : name.isEmpty = false := by simpa using h.ne_nil
    rw [headerOfLine, hcolon, Option.bind_some]
    simp only [h.trimmed.trim_eq, hempty, hspace, Bool.or_self, Bool.false_eq_true, if_false]
  obtain ⟨c, cs, rfl⟩ := List.exists_cons_of_ne_nil h.ne_nil
  have hblank : isBlank c = false := h.trimmed.head c rfl
  have hfold : ¬ ((c :: cs ++ ':' :: value).head? = some ' ' ∨ (c :: cs ++ ':' :: value).head? = some '\t') := by
    rintro (hc | hc)
    · cases hc
      cases hblank
    · cases hc
      cases hblank
  rw [addLine_of_not_fold hfold, hheader]
  rfl

/-! ### Writing on several lines -/

/-- The second text is the first with one or more line breaks before some of its spaces and tabs. -/
inductive Folds : List Char → List Char → Prop
  | nil : Folds [] []
  | char (c : Char) {value written : List Char} (h : Folds value written) : Folds (c :: value) (c :: written)
  | fold (e : LineEnd) (more : List LineEnd) {c : Char} {value written : List Char} (hc : c = ' ' ∨ c = '\t')
    (h : Folds value written) : Folds (c :: value) (e.text ++ (more.flatMap LineEnd.text ++ c :: written))

/-- The text writes the headers, with any line ends and any folding. -/
inductive Renders : List Header → List Char → Prop
  | nil : Renders [] []
  | cons {h : Header} {headers : List Header} {value rest : List Char} (hvalue : Folds h.value.toList value) (e : LineEnd)
    (hrest : Renders headers rest) : Renders (h :: headers) (h.name.toList ++ ':' :: value ++ (e.text ++ rest))

theorem Folds.refl (value : List Char) : Folds value value := by
  induction value with
  | nil => exact .nil
  | cons c value ih => exact .char c ih

/-- Line ends alone make empty lines, which add nothing. -/
theorem readLines_ends (ends : List LineEnd) (headers : List Header) (rest : List Char) :
    readLines headers (ends.flatMap LineEnd.text ++ rest) = readLines headers rest := by
  induction ends with
  | nil => rfl
  | cons e ends ih =>
    have hempty := readLines_append isLine_nil e headers (ends.flatMap LineEnd.text ++ rest)
    rw [List.nil_append, addLine_nil] at hempty
    rw [List.flatMap_cons, List.append_assoc, hempty, ih]

/-- **A folded value is read as it was before it was folded.** The line so far has made the front of the value. -/
theorem readLines_of_folds {value written : List Char} (h : Folds value written) (hvalue : IsLine value) {line : List Char}
    (hline : IsLine line) {name : String} (front : List Char) {headers before : List Header}
    (hopen : ∀ rest, addLine headers (line ++ rest) = ⟨name, String.ofList (front ++ rest)⟩ :: before) (e : LineEnd)
    (after : List Char) : readLines headers (line ++ (written ++ (e.text ++ after))) =
      readLines (⟨name, String.ofList (front ++ value)⟩ :: before) after := by
  induction h generalizing line front headers before with
  | nil =>
    have hclosed := hopen []
    rw [List.append_nil] at hclosed
    rw [List.nil_append, readLines_append hline, hclosed]
  | char c h ih =>
    -- The character is on the line that is open.
    obtain ⟨hc, hvalue⟩ := isLine_cons.1 hvalue
    have hnext := ih hvalue (isLine_append hline (isLine_cons.2 ⟨hc, isLine_nil⟩)) (front ++ [c])
      (fun rest => by simpa using hopen (c :: rest))
    simpa using hnext
  | @fold end' more c value written hc h ih =>
    -- The line that is open is added, and the character opens another one, which goes on with the same header.
    have hclosed := hopen []
    rw [List.append_nil, List.append_nil] at hclosed
    obtain ⟨hchar, hvalue⟩ := isLine_cons.1 hvalue
    have hnext := ih hvalue (isLine_cons.2 ⟨hchar, isLine_nil⟩) (front ++ [c])
      (fun rest => by simpa using addLine_of_fold hc name front before rest)
    rw [List.append_assoc, readLines_append hline, hclosed, List.append_assoc, readLines_ends]
    simpa using hnext

/-- A header that can be read from lines. -/
structure IsHeader (h : Header) : Prop where
  name : IsName h.name.toList
  value : IsLine h.value.toList

/-- **The headers that a text writes are read from it.** -/
theorem readLines_of_renders {headers : List Header} {text : List Char} (h : Renders headers text)
    (hheaders : ∀ h ∈ headers, IsHeader h) (before : List Header) :
    readLines before text = headers.reverse ++ before := by
  induction h generalizing before with
  | nil => rfl
  | @cons h headers value rest hvalue e hrest ih =>
    obtain ⟨hheader, hheaders⟩ := List.forall_mem_cons.1 hheaders
    have hcolon : IsLine [':'] := by decide
    -- The line is open behind the colon.
    have hline : IsLine (h.name.toList ++ [':']) := isLine_append hheader.name.line hcolon
    have hopen : ∀ more,
        addLine before (h.name.toList ++ [':'] ++ more) = ⟨h.name, String.ofList ([] ++ more)⟩ :: before :=
      fun more => by simpa using addLine_of_isName hheader.name before more
    have hread := readLines_of_folds hvalue hheader.value hline [] hopen e rest
    have htext : h.name.toList ++ ':' :: value ++ (e.text ++ rest) =
        h.name.toList ++ [':'] ++ (value ++ (e.text ++ rest)) := by simp
    rw [htext, hread, List.nil_append, String.ofList_toList, ih hheaders]
    simp

theorem headersOfText_of_renders {headers : List Header} {text : List Char} (h : Renders headers text)
    (hheaders : ∀ h ∈ headers, IsHeader h) : headersOfText text = headers := by
  have hread := readLines_of_renders h hheaders []
  rw [List.append_nil] at hread
  exact (congrArg List.reverse hread).trans (List.reverse_reverse headers)

/-! ### What is read can be written -/

/-- Carriage returns stand only before line feeds. -/
def HasNoBareReturn (cs : List Char) : Prop := ∀ after, '\r' :: after <:+ cs → after.head? = some '\n'

theorem hasNoBareReturn_cons {c : Char} {cs : List Char} :
    HasNoBareReturn (c :: cs) ↔ (c = '\r' → cs.head? = some '\n') ∧ HasNoBareReturn cs := by
  constructor
  · exact fun h => ⟨fun hc => h cs (hc ▸ List.suffix_rfl), fun after hafter => h after (List.suffix_cons_iff.2 (.inr hafter))⟩
  · rintro ⟨hc, hcs⟩ after hafter
    rcases List.suffix_cons_iff.1 hafter with heq | hafter
    · obtain ⟨rfl, rfl⟩ := List.cons.inj heq
      exact hc rfl
    · exact hcs after hafter

instance : ∀ cs : List Char, Decidable (HasNoBareReturn cs)
  | [] => isTrue fun _ h => nomatch List.suffix_nil.1 h
  | _ :: cs =>
    have : Decidable (HasNoBareReturn cs) := instDecidableHasNoBareReturn cs
    decidable_of_iff _ hasNoBareReturn_cons.symm

/-- Without a bare carriage return there is none inside a line. -/
theorem HasNoBareReturn.exists_isLine {cs : List Char} (h : HasNoBareReturn cs) :
    ∀ line ∈ lines cs, ∃ plain, IsLine plain ∧ (line = plain ∨ line = plain ++ ['\r']) := by
  induction cs with
  | nil => exact fun line hline => nomatch hline
  | cons c cs ih =>
    obtain ⟨hfollowed, htail⟩ := hasNoBareReturn_cons.1 h
    have hrest := ih htail
    rw [lines]
    split
    · exact List.forall_mem_cons.2 ⟨⟨[], isLine_nil, .inl rfl⟩, hrest⟩
    · next hfeed =>
      by_cases hreturn : c = '\r'
      · -- The line ends with it.
        obtain ⟨rest, rfl⟩ : ∃ rest, cs = '\n' :: rest := List.head?_eq_some_iff.1 (hfollowed hreturn)
        rw [lines, if_pos rfl] at hrest ⊢
        exact List.forall_mem_cons.2 ⟨⟨[], isLine_nil, .inr (by rw [hreturn]; rfl)⟩, (List.forall_mem_cons.1 hrest).2⟩
      · cases hlines : lines cs with
        | nil =>
          exact List.forall_mem_singleton.2 ⟨[c], isLine_cons.2 ⟨⟨hreturn, hfeed⟩, isLine_nil⟩, .inl rfl⟩
        | cons line rest =>
          rw [hlines] at hrest
          obtain ⟨⟨plain, hplain, hline⟩, hrest⟩ := List.forall_mem_cons.1 hrest
          refine List.forall_mem_cons.2 ⟨⟨c :: plain, isLine_cons.2 ⟨⟨hreturn, hfeed⟩, hplain⟩, ?_⟩, hrest⟩
          exact hline.imp (congrArg (c :: ·)) (congrArg (c :: ·))

theorem HasNoBareReturn.isLine_dropReturns {cs line : List Char} (h : HasNoBareReturn cs) (hline : line ∈ lines cs) :
    IsLine (dropReturns line) := by
  obtain ⟨plain, hplain, rfl | rfl⟩ := h.exists_isLine line hline
  · rw [dropReturns_eq_self hplain]
    exact hplain
  · rw [dropReturns_append_return hplain]
    exact hplain

/-- A header that a line starts can be read from a line. -/
theorem isHeader_of_headerOfLine {line : List Char} {h : Header} (hline : IsLine line) (hheader : headerOfLine line = some h) :
    IsHeader h := by
  obtain ⟨⟨before, value⟩, hcut, hname⟩ := Option.bind_eq_some_iff.1 hheader
  obtain ⟨c, rfl, -, hcolon⟩ := exists_of_cutWhere? hcut
  dsimp only at hname
  split at hname
  · cases hname
  · next hplain =>
    cases hname
    rw [Bool.or_eq_true, not_or, List.isEmpty_iff, List.contains_eq_mem, decide_eq_true_eq] at hplain
    refine ⟨?_, ?_⟩
    · rw [String.toList_ofList]
      refine ⟨hplain.1, isTrimmed_trim before, fun d hd => ⟨?_, ?_⟩, fun d hd => ?_⟩
      · simpa using hcolon d (mem_of_mem_trim hd)
      · exact fun hspace => hplain.2 (hspace ▸ hd)
      · exact hline d (List.mem_append_left _ (mem_of_mem_trim hd))
    · rw [String.toList_ofList]
      exact fun d hd => hline d (List.mem_append_right _ (List.mem_cons_of_mem c hd))

/-- A line keeps all headers such that they can be read from lines. -/
theorem isHeader_addLine {headers : List Header} {line : List Char} (hline : IsLine line)
    (hheaders : ∀ h ∈ headers, IsHeader h) : ∀ h ∈ addLine headers line, IsHeader h := by
  unfold addLine
  split
  · cases headers with
    | nil => exact hheaders
    | cons last rest =>
      obtain ⟨hlast, hrest⟩ := List.forall_mem_cons.1 hheaders
      refine List.forall_mem_cons.2 ⟨⟨hlast.name, ?_⟩, hrest⟩
      rw [String.toList_append, String.toList_ofList]
      exact isLine_append hlast.value hline
  · rintro h hmem
    rcases List.mem_append.1 hmem with hnew | hold
    · exact isHeader_of_headerOfLine hline (Option.mem_toList.1 hnew)
    · exact hheaders h hold

theorem isHeader_foldl_addLine {ls : List (List Char)} (hlines : ∀ line ∈ ls, IsLine line) {headers : List Header}
    (hheaders : ∀ h ∈ headers, IsHeader h) : ∀ h ∈ ls.foldl addLine headers, IsHeader h := by
  induction ls generalizing headers with
  | nil => exact hheaders
  | cons line ls ih =>
    obtain ⟨hline, hlines⟩ := List.forall_mem_cons.1 hlines
    exact ih hlines (isHeader_addLine hline hheaders)

/-- **What is read from a text without bare carriage returns can be written again.** -/
theorem isHeader_of_mem_headersOfText {text : List Char} (htext : HasNoBareReturn text) {h : Header}
    (hmem : h ∈ headersOfText text) : IsHeader h := by
  refine isHeader_foldl_addLine (fun line hline => ?_) (List.forall_mem_nil _) h (List.mem_reverse.1 hmem)
  obtain ⟨raw, hraw, rfl⟩ := List.mem_map.1 hline
  exact htext.isLine_dropReturns hraw

/-- A header with a space in front of its value, unless the value starts with white space. -/
def Header.spaced (h : Header) : Header :=
  { h with value := (if h.value.toList.head?.any isBlank then "" else " ") ++ h.value }

theorem IsHeader.spaced {h : Header} (hheader : IsHeader h) : IsHeader h.spaced := by
  refine ⟨hheader.name, ?_⟩
  rw [Header.spaced, String.toList_append]
  refine isLine_append ?_ hheader.value
  split
  · exact isLine_nil
  · show IsLine [' ']
    decide

/-- The lines of a message write its headers, unfolded. -/
theorem renders_headerBlock (m : Message) : Renders (m.headers.map Header.spaced) m.headerBlock.toList := by
  rw [Message.headerBlock]
  induction m.headers with
  | nil => exact .nil
  | cons h headers ih =>
    have hcons := Renders.cons (h := h.spaced) (.refl _) .feed ih
    simpa [Message.headerLine, Header.spaced, LineEnd.text, String.join_cons] using hcons

/-! ### Main statement -/

theorem rawHeaders_of_utf8 {block : Bytes} {s : String} (h : utf8? block = some s) :
    rawHeaders block = headersOfText s.toList := by
  unfold rawHeaders decodeHeaderBytes
  rw [h]

/-- **Unfolding inverts every folding.** Headers whose names are not empty and have no colon and no white space, of which line
ends are a kind, and whose values have no line ends, are read from every text that writes them, with any line ends and with
line breaks before any spaces and tabs of the values. And what is read from a block in which carriage returns stand only before
line feeds is read again from the lines that a message writes of it, with one space in front of the values that start without
white space. -/
theorem rawHeaders_of_renders :
    (∀ (headers : List Header) (text : List Char),
      (∀ h ∈ headers, h.name ≠ "" ∧ (∀ c ∈ h.name.toList, c ≠ ':' ∧ isBlank c = false) ∧ IsLine h.value.toList) →
      Renders headers text → rawHeaders (bytesOf (String.ofList text)) = headers) ∧
    ∀ (block : Bytes) (s : String) (m : Message), utf8? block = some s → HasNoBareReturn s.toList →
      m.headers = rawHeaders block → rawHeaders (bytesOf m.headerBlock) = m.headers.map Header.spaced := by
  refine ⟨fun headers text hheaders htext => ?_, fun block s m hutf8 hreturns hm => ?_⟩
  · rw [rawHeaders_of_utf8 (utf8?_bytesOf _), String.toList_ofList]
    refine headersOfText_of_renders htext fun h hh => ?_
    obtain ⟨hne, hname, hvalue⟩ := hheaders h hh
    exact ⟨.of_forall (mt String.toList_eq_nil_iff.1 hne) hname, hvalue⟩
  · rw [rawHeaders_of_utf8 (utf8?_bytesOf _)]
    refine headersOfText_of_renders (renders_headerBlock m) fun h hh => ?_
    obtain ⟨h, hmem, rfl⟩ := List.mem_map.1 hh
    rw [hm, rawHeaders_of_utf8 hutf8] at hmem
    exact (isHeader_of_mem_headersOfText hreturns hmem).spaced

/-- Breaks before a space and the tab behind it make a line of one space only, and a break before the first character of a
value leaves the colon at the end of its line. In the second text a line that goes on stands behind one that has no name. -/
theorem rawHeaders_of_renders_mixed :
    rawHeaders (bytesOf (String.ofList "To:\r\n é\n \r\n\tb\nX:\r\n".toList)) = [⟨"To", " é \tb"⟩, ⟨"X", ""⟩] ∧
      rawHeaders (bytesOf "A\tB:b\r\n c\r\nno name: d\r\n e") = [⟨"A\tB", "b c e"⟩] ∧
      rawHeaders (bytesOf (Message.mk [⟨"A\tB", "b c e"⟩] []).headerBlock) = [⟨"A\tB", " b c e"⟩] := by
  have hblock : rawHeaders (bytesOf "A\tB:b\r\n c\r\nno name: d\r\n e") = [⟨"A\tB", "b c e"⟩] := by
    rw [rawHeaders_of_utf8 (utf8?_bytesOf _)]
    decide +kernel
  have hreturns : HasNoBareReturn "A\tB:b\r\n c\r\nno name: d\r\n e".toList := by decide +kernel
  have hfolds : Folds " é \tb".toList ('\r' :: '\n' :: ' ' :: 'é' :: '\n' :: ' ' :: '\r' :: '\n' :: '\t' :: 'b' :: []) :=
    .fold .returnAndFeed [] (.inl rfl) (.char 'é' (.fold .feed [] (.inl rfl) (.fold .returnAndFeed [] (.inr rfl)
      (.char 'b' .nil))))
  have hrenders : Renders [⟨"To", " é \tb"⟩, ⟨"X", ""⟩] "To:\r\n é\n \r\n\tb\nX:\r\n".toList :=
    .cons (h := ⟨"To", " é \tb"⟩) hfolds .feed (.cons (h := ⟨"X", ""⟩) .nil .returnAndFeed .nil)
  refine ⟨rawHeaders_of_renders.1 _ _ (by decide +kernel) hrenders, hblock, ?_⟩
  exact rawHeaders_of_renders.2 _ _ ⟨[⟨"A\tB", "b c e"⟩], []⟩ (utf8?_bytesOf _) hreturns hblock.symm

end MailQuery.Mail
