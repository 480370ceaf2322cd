import Mathlib.Data.List.TakeWhile
import MailQuery.Mail.Message
import MailQuery.Proofs.Mailbox.Lines

/-!
# Where the header block ends

The scan for the end of the header block looks for two pairs of line ends and not for a line: for two line feeds one behind
the other, and for two carriage returns with line feeds (`splitBlock`). On lines this is a test of each line and the one
before it (`Closes`, `splitBlock_eq_splitLines`). So an empty line is not found where it is the first one, nor where it has
a carriage return and the line before it has none (`Overlooked`). The lines behind it are then read as headers.

`splitMessage_eq_cutAtEmptyLine_iff` is the main statement.
-/

namespace MailQuery.Mail.Mailbox

open Ascii

variable {bs line prev : Bytes} {ls before after : List Bytes}

/-- The two bytes of a line end with carriage return. -/
def returnAndFeed : Bytes := [carriageReturn, newline]

/-- A line of which there is nothing but its end, with or without carriage return. -/
def isEmptyLine (line : Bytes) : Bool := line == [newline] || line == returnAndFeed

/-- The lines before the first empty line. -/
def headerLines (bs : Bytes) : List Bytes := (lines bs).takeWhile (!isEmptyLine ·)

/-- The lines before the first empty line, and the bytes behind it. -/
def cutAtEmptyLine (bs : Bytes) : Bytes × Bytes :=
  ((headerLines bs).flatten, (((lines bs).dropWhile (!isEmptyLine ·)).drop 1).flatten)

/-! ### The scan on lines -/

/-- Two lines of which the ends are one of the pairs that the scan looks for. -/
def Closes (prev line : Bytes) : Prop := line = [newline] ∨ (line = returnAndFeed ∧ returnAndFeed <:+ prev)

instance : Decidable (Closes prev line) := inferInstanceAs (Decidable (_ ∨ _))

/-- The lines up to the first that the next one closes, and the bytes behind that one. -/
def splitLines : List Bytes → Bytes × Bytes
  | [] => ([], [])
  | [line] => (line, [])
  | prev :: line :: rest =>
    if Closes prev line then (prev, rest.flatten)
    else (prev ++ (splitLines (line :: rest)).1, (splitLines (line :: rest)).2)

theorem splitLines_of_closes (h : Closes prev line) (rest : List Bytes) :
    splitLines (prev :: line :: rest) = (prev, rest.flatten) := if_pos h

theorem splitLines_of_not_closes (h : ¬ Closes prev line) (rest : List Bytes) :
    splitLines (prev :: line :: rest) = (prev ++ (splitLines (line :: rest)).1, (splitLines (line :: rest)).2) := if_neg h

theorem lines_newline_cons (bs : Bytes) : lines (newline :: bs) = [newline] :: lines bs := by rw [lines, if_pos rfl]

/-- A byte more in the first line, where it does not make the next line one that closes. -/
theorem splitLines_cons {b : UInt8} (h : ∀ next ∈ ls.head?, Closes (b :: line) next → Closes line next) :
    splitLines ((b :: line) :: ls) = (b :: (splitLines (line :: ls)).1, (splitLines (line :: ls)).2) := by
  cases ls with
  | nil => rfl
  | cons next rest =>
    by_cases hclose : Closes (b :: line) next
    · rw [splitLines_of_closes hclose, splitLines_of_closes (h next rfl hclose)]
    · have hopen : ¬ Closes line next := by
        rintro (rfl | ⟨rfl, hsuffix⟩)
        · exact hclose (.inl rfl)
        · exact hclose (.inr ⟨rfl, hsuffix.trans (List.suffix_cons ..)⟩)
      rw [splitLines_of_not_closes hclose, splitLines_of_not_closes hopen]
      rfl

/-- **The scan is a test of lines.** -/
theorem splitBlock_eq_splitLines (bs : Bytes) : splitBlock bs = splitLines (lines bs) := by
  induction bs with
  | nil => rfl
  | cons b bs ih =>
    rw [splitBlock]
    split
    · next h =>
      -- Two line feeds: the second one is a line of its own.
      obtain ⟨rfl, hnext⟩ := h
      obtain ⟨bs, rfl⟩ := List.head?_eq_some_iff.1 hnext
      rw [lines_newline_cons, lines_newline_cons, splitLines_of_closes (.inl rfl), flatten_lines]
      rfl
    · next hfeeds =>
      split
      · next h =>
        -- The first carriage return ends the line with its line feed, and the second one starts a line.
        obtain ⟨rfl, hnext⟩ := h
        obtain ⟨bs, rfl⟩ := List.isPrefixOf_iff_prefix.1 hnext
        have hlines : lines (carriageReturn :: (bytes "\n\r\n" ++ bs)) = returnAndFeed :: returnAndFeed :: lines bs := rfl
        rw [hlines, splitLines_of_closes (.inr ⟨rfl, List.suffix_rfl⟩), flatten_lines]
        rfl
      · next hreturns =>
        rw [ih]
        by_cases hb : b = newline
        · subst hb
          rw [lines_newline_cons]
          cases hlines : lines bs with
          | nil => rfl
          | cons line rest =>
            have hopen : ¬ Closes [newline] line := by
              rintro (rfl | ⟨-, hsuffix⟩)
              · rw [← flatten_lines bs, hlines] at hfeeds
                exact hfeeds ⟨rfl, rfl⟩
              · exact absurd hsuffix (by decide)
            rw [splitLines_of_not_closes hopen]
            rfl
        · rw [lines, if_neg hb]
          cases hlines : lines bs with
          | nil => rfl
          | cons line rest =>
            refine (splitLines_cons fun next hnext hclose => ?_).symm
            obtain rfl | ⟨rfl, hsuffix⟩ := hclose
            · exact .inl rfl
            · obtain heq | hsuffix := List.suffix_cons_iff.1 hsuffix
              · -- The line is a carriage return with its line feed: this is the second pair.
                obtain ⟨rfl, rfl⟩ := List.cons.inj heq
                obtain ⟨more, rfl⟩ := List.head?_eq_some_iff.1 hnext
                rw [← flatten_lines bs, hlines] at hreturns
                exact absurd ⟨rfl, List.isPrefixOf_iff_prefix.2 (List.prefix_append _ more.flatten)⟩ hreturns
              · exact .inr ⟨rfl, hsuffix⟩

/-! ### Empty lines -/

theorem isEmptyLine_iff : isEmptyLine line = true ↔ line = [newline] ∨ line = returnAndFeed := by
  rw [isEmptyLine, Bool.or_eq_true, beq_iff_eq, beq_iff_eq]

theorem not_closes_of_nonempty (h : isEmptyLine line = false) (prev : Bytes) : ¬ Closes prev line := by
  rintro (rfl | ⟨rfl, -⟩)
  · cases h
  · cases h

/-- The scan goes on over lines that are not empty. -/
theorem splitLines_append (hbefore : ∀ l ∈ before, isEmptyLine l = false) (hline : isEmptyLine line = false)
    (after : List Bytes) :
    splitLines (before ++ line :: after) =
      (before.flatten ++ (splitLines (line :: after)).1, (splitLines (line :: after)).2) := by
  induction before with
  | nil => rfl
  | cons first before ih =>
    obtain ⟨hfirst, hbefore⟩ := List.forall_mem_cons.1 hbefore
    have hnext : ∃ next rest, before ++ line :: after = next :: rest ∧ isEmptyLine next = false := by
      cases before with
      | nil => exact ⟨line, after, rfl, hline⟩
      | cons next before => exact ⟨next, before ++ line :: after, rfl, hbefore next (List.mem_cons_self ..)⟩
    obtain ⟨next, rest, heq, hnonempty⟩ := hnext
    rw [List.cons_append, heq, splitLines_of_not_closes (not_closes_of_nonempty hnonempty first), ← heq, ih hbefore,
      List.flatten_cons, List.append_assoc]

theorem prefix_splitLines (line : Bytes) (rest : List Bytes) : line <+: (splitLines (line :: rest)).1 := by
  cases rest with
  | nil => exact List.prefix_rfl
  | cons next rest =>
    by_cases h : Closes line next
    · rw [splitLines_of_closes h]
    · rw [splitLines_of_not_closes h]
      exact List.prefix_append ..

/-- The first empty line of some lines, with the lines before and behind it. -/
structure FirstEmpty (ls before : List Bytes) (line : Bytes) (after : List Bytes) : Prop where
  eq : ls = before ++ line :: after
  nonempty : ∀ l ∈ before, isEmptyLine l = false
  empty : isEmptyLine line = true

/-- An empty line that the scan does not find: there is no line before it, or it has a carriage return and the line before it
has none. -/
def Overlooked (before : List Bytes) (line : Bytes) : Prop :=
  before = [] ∨ line = returnAndFeed ∧ ∃ init prev, before = init ++ [prev] ∧ ¬ returnAndFeed <:+ prev

theorem forall_nonempty_or_firstEmpty (ls : List Bytes) :
    (∀ l ∈ ls, isEmptyLine l = false) ∨ ∃ before line after, FirstEmpty ls before line after := by
  induction ls with
  | nil => exact .inl fun l hl => absurd hl List.not_mem_nil
  | cons first ls ih =>
    cases hfirst : isEmptyLine first with
    | true => exact .inr ⟨[], first, ls, rfl, fun l hl => absurd hl List.not_mem_nil, hfirst⟩
    | false =>
      obtain hall | ⟨before, line, after, rfl, hbefore, hline⟩ := ih
      · exact .inl (List.forall_mem_cons.2 ⟨hfirst, hall⟩)
      · exact .inr ⟨first :: before, line, after, rfl, List.forall_mem_cons.2 ⟨hfirst, hbefore⟩, hline⟩

theorem cutAtEmptyLine_of_forall (h : ∀ l ∈ lines bs, isEmptyLine l = false) : cutAtEmptyLine bs = (bs, []) := by
  have hall : ∀ l ∈ lines bs, (!isEmptyLine l) = true := fun l hl => by rw [h l hl, Bool.not_false]
  rw [cutAtEmptyLine, headerLines, List.takeWhile_eq_self_iff.2 hall, List.dropWhile_eq_nil_iff.2 hall, flatten_lines]
  rfl

theorem cutAtEmptyLine_of_firstEmpty (h : FirstEmpty (lines bs) before line after) :
    cutAtEmptyLine bs = (before.flatten, after.flatten) := by
  have hbefore : ∀ l ∈ before, (!isEmptyLine l) = true := fun l hl => by rw [h.nonempty l hl, Bool.not_false]
  have hline : ¬ (!isEmptyLine line) = true := by rw [h.empty, Bool.not_true]; exact Bool.false_ne_true
  have htake : (line :: after).takeWhile (!isEmptyLine ·) = [] := List.takeWhile_cons_of_neg hline
  have hdrop : (line :: after).dropWhile (!isEmptyLine ·) = line :: after := List.dropWhile_cons_of_neg hline
  rw [cutAtEmptyLine, headerLines, h.eq, List.takeWhile_append_of_pos hbefore, List.dropWhile_append_of_pos hbefore, htake,
    hdrop, List.append_nil, List.drop_one, List.tail_cons]

/-! ### What the scan finds -/

theorem splitLines_of_forall (h : ∀ l ∈ ls, isEmptyLine l = false) : splitLines ls = (ls.flatten, []) := by
  obtain rfl | ⟨init, last, rfl⟩ := List.eq_nil_or_concat' ls
  · rfl
  · obtain ⟨hinit, hlast⟩ := List.forall_mem_append.1 h
    rw [splitLines_append hinit (hlast last (List.mem_singleton_self _)), List.flatten_append, List.flatten_singleton]
    rfl

/-- The first empty line closes the header block if the scan finds it. -/
theorem splitLines_of_not_overlooked (h : FirstEmpty ls before line after) (hfound : ¬ Overlooked before line) :
    splitLines ls = (before.flatten, after.flatten) := by
  obtain rfl | ⟨init, prev, rfl⟩ := List.eq_nil_or_concat' before
  · exact absurd (.inl rfl) hfound
  · obtain ⟨hinit, hprev⟩ := List.forall_mem_append.1 h.nonempty
    have hcloses : Closes prev line := by
      obtain hline | hline := isEmptyLine_iff.1 h.empty
      · exact .inl hline
      · refine .inr ⟨hline, Decidable.not_not.1 fun hsuffix => hfound ?_⟩
        exact .inr ⟨hline, init, prev, rfl, hsuffix⟩
    have hls : ls = init ++ prev :: line :: after := h.eq.trans (List.append_assoc ..)
    rw [hls, splitLines_append hinit (hprev prev (List.mem_singleton_self _)), splitLines_of_closes hcloses,
      List.flatten_append, List.flatten_singleton]

/-- Otherwise it is a line of the header block. -/
theorem prefix_splitLines_of_overlooked (h : FirstEmpty ls before line after) (hmissed : Overlooked before line) :
    (before ++ [line]).flatten <+: (splitLines ls).1 := by
  obtain rfl | ⟨rfl, init, prev, rfl, hsuffix⟩ := hmissed
  · rw [h.eq, List.nil_append, List.nil_append, List.flatten_singleton]
    exact prefix_splitLines ..
  · obtain ⟨hinit, hprev⟩ := List.forall_mem_append.1 h.nonempty
    have hopen : ¬ Closes prev returnAndFeed := by
      rintro (heq | ⟨-, hprev⟩)
      · cases heq
      · exact hsuffix hprev
    have hls : ls = init ++ prev :: returnAndFeed :: after := h.eq.trans (List.append_assoc ..)
    rw [hls, splitLines_append hinit (hprev prev (List.mem_singleton_self _)), splitLines_of_not_closes hopen,
      List.append_assoc, List.flatten_append, List.prefix_append_right_inj, List.singleton_append, List.flatten_cons,
      List.flatten_singleton, List.prefix_append_right_inj]
    exact prefix_splitLines ..

/-! ### Messages -/

/-- The scan finds the first empty line, if there is one. -/
def FindsEmptyLine (bs : Bytes) : Prop :=
  ∀ before line after, FirstEmpty (lines bs) before line after → ¬ Overlooked before line

theorem splitBlock_of_findsEmptyLine (h : FindsEmptyLine bs) : splitBlock bs = cutAtEmptyLine bs := by
  rw [splitBlock_eq_splitLines]
  obtain hall | ⟨before, line, after, hfirst⟩ := forall_nonempty_or_firstEmpty (lines bs)
  · rw [splitLines_of_forall hall, cutAtEmptyLine_of_forall hall, flatten_lines]
  · rw [splitLines_of_not_overlooked hfirst (h before line after hfirst), cutAtEmptyLine_of_firstEmpty hfirst]

/-- A summary is made of the header block, the separator line and the number of bytes. -/
theorem summary_eq_of_block {raw raw' : Bytes} (hblock : (splitMessage raw).1 = (splitMessage raw').1)
    (hdate : parseFromLineDate raw = parseFromLineDate raw') (uid : String) (span : Option Span) :
    Summary.ofRaw uid raw span = { Summary.ofRaw uid raw' span with size := raw.length.toUInt64 } := by
  unfold Summary.ofRaw
  dsimp only
  rw [hblock, hdate]

/-- **Where the headers of a message end.** The header block is the lines before the first empty line and the body is the
bytes behind it, unless the first line is the empty one or it has a carriage return and the line before it has none: then the
empty line is a line of the header block. Otherwise nothing that is read from the headers depends on the body. -/
theorem splitMessage_eq_cutAtEmptyLine_iff (raw : Bytes) :
    (splitMessage raw = cutAtEmptyLine (skipFromLine raw) ↔ FindsEmptyLine (skipFromLine raw)) ∧
    (∀ before line after, FirstEmpty (lines (skipFromLine raw)) before line after → Overlooked before line →
      (before ++ [line]).flatten <+: (splitMessage raw).1) ∧
    (∀ raw', FindsEmptyLine (skipFromLine raw) → FindsEmptyLine (skipFromLine raw') →
      headerLines (skipFromLine raw) = headerLines (skipFromLine raw') → parseFromLineDate raw = parseFromLineDate raw' →
      ∀ uid span, Summary.ofRaw uid raw span = { Summary.ofRaw uid raw' span with size := raw.length.toUInt64 }) ∧
    (FindsEmptyLine (skipFromLine (skipFromLine raw)) →
      (Message.ofRaw raw).headers = rawHeaders (headerLines (skipFromLine (skipFromLine raw))).flatten) := by
  have hmissed : ∀ before line after, FirstEmpty (lines (skipFromLine raw)) before line after → Overlooked before line →
      (before ++ [line]).flatten <+: (splitMessage raw).1 := by
    intro before line after hfirst hover
    rw [splitMessage, splitBlock_eq_splitLines]
    exact prefix_splitLines_of_overlooked hfirst hover
  refine ⟨⟨?_, splitBlock_of_findsEmptyLine⟩, hmissed, ?_, ?_⟩
  · intro heq before line after hfirst hover
    -- The block would be shorter than the lines that it starts with.
    have hprefix := (hmissed before line after hfirst hover).length_le
    have hpos : 0 < line.length := by
      obtain rfl | rfl := isEmptyLine_iff.1 hfirst.empty
      · exact Nat.one_pos
      · exact Nat.two_pos
    rw [heq, cutAtEmptyLine_of_firstEmpty hfirst, List.flatten_append, List.flatten_singleton, List.length_append] at hprefix
    exact absurd hprefix (Nat.not_le_of_lt (Nat.lt_add_of_pos_right hpos))
  · intro raw' h h' hlines hdate uid span
    have hblock : (splitMessage raw).1 = (splitMessage raw').1 := by
      rw [splitMessage, splitMessage, splitBlock_of_findsEmptyLine h, splitBlock_of_findsEmptyLine h', cutAtEmptyLine,
        cutAtEmptyLine, hlines]
    exact summary_eq_of_block hblock hdate uid span
  · intro h
    rw [Message.ofRaw, splitMessage, splitBlock_of_findsEmptyLine h, cutAtEmptyLine]

/-- Lines that all have a carriage return. The summary is that of a message without body. -/
theorem splitMessage_eq_cutAtEmptyLine_iff_returns :
    let raw := bytes "From a\r\nSubject: a\r\n\r\nStatus: R\r\n"
    let short := bytes "From a\r\nSubject: a\r\n\r\n"
    splitMessage raw = (bytes "Subject: a\r\n", bytes "Status: R\r\n") ∧ FindsEmptyLine (skipFromLine raw) ∧
      Summary.ofRaw "1" raw none = { Summary.ofRaw "1" short none with size := 33 } := by
  intro raw short
  have hraw : FindsEmptyLine (skipFromLine raw) := (splitMessage_eq_cutAtEmptyLine_iff raw).1.1 (by decide)
  have hshort : FindsEmptyLine (skipFromLine short) := (splitMessage_eq_cutAtEmptyLine_iff short).1.1 (by decide)
  exact ⟨by decide, hraw,
    (splitMessage_eq_cutAtEmptyLine_iff raw).2.2.1 short hraw hshort (by decide) (by decide) "1" none⟩

/-- **Lines of the body are read as headers.** The empty line has a carriage return and the line before it has none. -/
theorem not_forall_splitMessage_eq_cutAtEmptyLine :
    ¬ ∀ raw, splitMessage raw = cutAtEmptyLine (skipFromLine raw) := by
  intro h
  have hsplit := h (bytes "Subject: a\n\r\nStatus: R\n\nbody\n")
  revert hsplit
  decide

end MailQuery.Mail.Mailbox
