import MailQuery.Proofs.Mailbox.Lines

/-!
# What is kept of long messages

Of a message that is longer than the limit whole lines are left out: each line that does not fit behind those that were kept
before it. Where a shorter line behind such a line fits again it is kept, so that the message is not cut off but has a
hole (`not_forall_isPrefix_bytes`). `Overflows` says which line is the first that is left out, and it is the first line kept
behind it that decides whether what is kept is a prefix (`exists_kept`).

`isPrefix_bytes_iff` is the main statement.
-/

namespace MailQuery.Mail.Mailbox

open Ascii

variable {limit size : Nat} {data line : Bytes} {before after ls message : List Bytes} {p : Piece}

/-! ### Lines that are kept -/

theorem keep_append_of_fits (h : size + before.flatten.length ≤ limit) (ls : List Bytes) :
    keep limit size (before ++ ls) = before ++ keep limit (size + before.flatten.length) ls := by
  induction before generalizing size with
  | nil => rfl
  | cons line before ih =>
    rw [List.flatten_cons, List.length_append] at h ⊢
    rw [List.cons_append, keep, if_pos (by omega), ih (by omega), List.cons_append, Nat.add_assoc]

/-- None of some lines is kept if none of them fits. Otherwise the first that fits is kept, and then some of the others. -/
theorem exists_kept (limit size : Nat) (ls : List Bytes) :
    ((∀ line ∈ ls, limit < size + line.length) ∧ keep limit size ls = []) ∨
      ∃ before line after, ls = before ++ line :: after ∧ (∀ l ∈ before, limit < size + l.length) ∧
        size + line.length ≤ limit ∧ keep limit size ls = line :: keep limit (size + line.length) after := by
  induction ls with
  | nil => exact .inl ⟨fun line hline => absurd hline List.not_mem_nil, rfl⟩
  | cons line ls ih =>
    rw [keep]
    by_cases hfits : size + line.length ≤ limit
    · rw [if_pos hfits]
      exact .inr ⟨[], line, ls, rfl, fun l hl => absurd hl List.not_mem_nil, hfits, rfl⟩
    · rw [if_neg hfits]
      obtain ⟨hnone, hkeep⟩ | ⟨before, first, after, rfl, hbefore, hfirst, hkeep⟩ := ih
      · exact .inl ⟨List.forall_mem_cons.2 ⟨Nat.lt_of_not_le hfits, hnone⟩, hkeep⟩
      · exact .inr ⟨line :: before, first, after, rfl, List.forall_mem_cons.2 ⟨Nat.lt_of_not_le hfits, hbefore⟩, hfirst, hkeep⟩

theorem sublist_keep (limit size : Nat) (ls : List Bytes) : (keep limit size ls).Sublist ls := by
  induction ls generalizing size with
  | nil => exact .slnil
  | cons line ls ih =>
    rw [keep]
    split
    · exact (ih _).cons_cons _
    · exact (ih _).cons _

theorem length_keep_le (h : size ≤ limit) (ls : List Bytes) : size + (keep limit size ls).flatten.length ≤ limit := by
  induction ls generalizing size with
  | nil => exact h
  | cons line ls ih =>
    rw [keep]
    split
    · next hfits =>
      have hrest := ih hfits
      rw [List.flatten_cons, List.length_append]
      omega
    · exact ih h

/-! ### The first line that is left out -/

/-- A message of which all lines are kept up to one that does not fit. The separator line is always kept. -/
structure Overflows (limit : Nat) (message before : List Bytes) (line : Bytes) (after : List Bytes) : Prop where
  eq : message = before ++ line :: after
  separator : before ≠ []
  fits : before.length = 1 ∨ before.flatten.length ≤ limit
  exceeds : limit < before.flatten.length + line.length

theorem keptBytes_of_overflows (h : Overflows limit message before line after) :
    keptBytes limit message = before.flatten ++ (keep limit before.flatten.length after).flatten := by
  obtain ⟨first, rest, rfl⟩ := List.exists_cons_of_ne_nil h.separator
  have hexceeds := h.exceeds
  rw [List.flatten_cons, List.length_append] at hexceeds ⊢
  -- The lines before are kept, either as there are none but the first or as they fit.
  have hkeep : keep limit first.length (rest ++ line :: after) =
      rest ++ keep limit (first.length + rest.flatten.length) (line :: after) := by
    obtain hone | hfits := h.fits
    · obtain rfl : rest = [] := List.eq_nil_of_length_eq_zero (Nat.succ.inj hone)
      rfl
    · rw [List.flatten_cons, List.length_append] at hfits
      exact keep_append_of_fits hfits _
  rw [h.eq, List.cons_append, keptBytes, hkeep, List.flatten_append, keep, if_neg (Nat.not_le_of_lt hexceeds),
    List.append_assoc]

/-- Behind lines that are kept, all others are kept or one of them is the first that is left out. -/
theorem keep_eq_self_or_exists (limit size : Nat) (ls : List Bytes) :
    keep limit size ls = ls ∨ ∃ before line after, ls = before ++ line :: after ∧
      (before = [] ∨ size + before.flatten.length ≤ limit) ∧ limit < size + before.flatten.length + line.length := by
  induction ls generalizing size with
  | nil => exact .inl rfl
  | cons line ls ih =>
    rw [keep]
    by_cases hfits : size + line.length ≤ limit
    · rw [if_pos hfits]
      obtain hkeep | ⟨before, first, after, rfl, hbefore, hfirst⟩ := ih (size + line.length)
      · exact .inl (congrArg _ hkeep)
      · refine .inr ⟨line :: before, first, after, rfl, .inr ?_, ?_⟩
        · rw [List.flatten_cons, List.length_append]
          obtain rfl | hbefore := hbefore
          · simpa using hfits
          · omega
        · rw [List.flatten_cons, List.length_append]
          omega
    · exact .inr ⟨[], line, ls, rfl, .inl rfl, by simpa using hfits⟩

/-- A message is kept whole, or there is a first line that is left out. -/
theorem keptBytes_eq_or_overflows (limit : Nat) (message : List Bytes) :
    keptBytes limit message = message.flatten ∨ ∃ before line after, Overflows limit message before line after := by
  cases message with
  | nil => exact .inl rfl
  | cons first rest =>
    obtain hkeep | ⟨before, line, after, rfl, hbefore, hline⟩ := keep_eq_self_or_exists limit first.length rest
    · exact .inl (by rw [keptBytes, hkeep, List.flatten_cons])
    · refine .inr ⟨first :: before, line, after, rfl, List.cons_ne_nil _ _, ?_, ?_⟩
      · obtain rfl | hbefore := hbefore
        · exact .inl rfl
        · exact .inr (by rwa [List.flatten_cons, List.length_append])
      · rwa [List.flatten_cons, List.length_append]

/-! ### Prefixes -/

/-- A line that is shorter than one that it is a prefix of has no line feed. -/
theorem not_mem_of_isPrefix {l : Bytes} (hline : IsTerminated line) (h : l <+: line) (hlt : l.length < line.length) :
    newline ∉ l := by
  obtain ⟨body, hbody, rfl⟩ := hline
  rw [List.length_append, List.length_singleton] at hlt
  have hstart : l <+: body := List.prefix_of_prefix_length_le h (List.prefix_append ..) (by omega)
  exact fun hmem => hbody (hstart.subset hmem)

/-- A later line that fits behind the lines before the first one left out is shorter than that one. If it is how that one
starts it has no line feed, so that it is the last line. -/
theorem Overflows.eq_nil_of_isPrefix {l : Bytes} {pre post : List Bytes} (hmessage : lines message.flatten = message)
    (h : Overflows limit message before line (pre ++ l :: post)) (hfits : before.flatten.length + l.length ≤ limit)
    (hl : l <+: line) : post = [] := by
  have hlines : lines message.flatten = before ++ line :: (pre ++ l :: post) := hmessage.trans h.eq
  have hline : IsTerminated line := by
    cases pre with
    | nil => exact isTerminated_of_lines hlines
    | cons next pre => exact isTerminated_of_lines hlines
  have hlt : l.length < line.length := by
    have := h.exceeds
    omega
  have hlater : lines message.flatten = (before ++ line :: pre) ++ l :: post := by
    rw [hlines, List.append_assoc, List.cons_append]
  exact eq_nil_of_not_mem hlater (not_mem_of_isPrefix hline hl hlt)

/-- What is kept is a prefix exactly if each later line that fits behind the lines before the first one left out is how
that one starts. There can only be one such line, the last of the file without a line feed. -/
theorem isPrefix_keptBytes_iff (limit : Nat) (hmessage : lines message.flatten = message) :
    keptBytes limit message <+: message.flatten ↔ ∀ before line after, Overflows limit message before line after →
      ∀ l ∈ after, before.flatten.length + l.length ≤ limit → l <+: line := by
  constructor
  · intro hkept before line after h l hl hfits
    rw [keptBytes_of_overflows h, h.eq, List.flatten_append, List.prefix_append_right_inj, List.flatten_cons] at hkept
    obtain ⟨hnone, -⟩ | ⟨pre, first, post, rfl, hpre, hfirst, hkeep⟩ := exists_kept limit before.flatten.length after
    · exact absurd hfits (Nat.not_le_of_lt (hnone l hl))
    · rw [hkeep, List.flatten_cons] at hkept
      have hle : first.length ≤ line.length := by
        have := h.exceeds
        omega
      have hstart : first <+: line :=
        List.prefix_of_prefix_length_le ((List.prefix_append ..).trans hkept) (List.prefix_append ..) hle
      obtain rfl := h.eq_nil_of_isPrefix hmessage hfirst hstart
      -- All lines before it do not fit, and there are none behind it.
      rcases List.mem_append.1 hl with hl | hl
      · exact absurd hfits (Nat.not_le_of_lt (hpre l hl))
      · rwa [List.mem_singleton.1 hl]
  · intro hlater
    obtain hwhole | ⟨before, line, after, h⟩ := keptBytes_eq_or_overflows limit message
    · rw [hwhole]
    · rw [keptBytes_of_overflows h, h.eq, List.flatten_append, List.prefix_append_right_inj, List.flatten_cons]
      obtain ⟨-, hkeep⟩ | ⟨pre, first, post, rfl, -, hfirst, hkeep⟩ := exists_kept limit before.flatten.length after
      · rw [hkeep]
        exact List.nil_prefix
      · have hstart := hlater before line _ h first (List.mem_append_right pre (List.mem_cons_self ..)) hfirst
        obtain rfl := h.eq_nil_of_isPrefix hmessage hfirst hstart
        rw [hkeep, keep, List.flatten_singleton]
        exact hstart.trans (List.prefix_append ..)

/-! ### Files -/

/-- Each piece is what is kept of the lines of its span. -/
theorem exists_message_of_mem_place {messages : List (List Bytes)} {start : Bytes}
    (hsize : (start ++ messages.flatten.flatten).length < UInt64.size) (hp : p ∈ place limit start.length messages) :
    ∃ message ∈ messages, p.span.slice (start ++ messages.flatten.flatten) = message.flatten ∧
      p.bytes = keptBytes limit message := by
  induction messages generalizing start with
  | nil => cases hp
  | cons message messages ih =>
    rw [List.flatten_cons, List.flatten_append] at hsize ⊢
    rcases List.mem_cons.1 hp with rfl | hp
    · rw [List.length_append, List.length_append] at hsize
      have hoffset : start.length.toUInt64.toNat = start.length := UInt64.toNat_ofNat_of_lt' (by omega)
      have hlength : message.flatten.length.toUInt64.toNat = message.flatten.length := UInt64.toNat_ofNat_of_lt' (by omega)
      refine ⟨message, List.mem_cons_self .., ?_, rfl⟩
      simp only [Span.slice, hoffset, hlength, List.drop_left, List.take_left]
    · rw [← List.length_append] at hp
      rw [← List.append_assoc] at hsize ⊢
      obtain ⟨message', hmem, hslice, hbytes⟩ := ih hsize hp
      exact ⟨message', List.mem_cons_of_mem _ hmem, hslice, hbytes⟩

/-- **A piece is what is kept of the lines of its span.** -/
theorem bytes_of_split {pieces : List Piece} (hsize : data.length < UInt64.size) (hsplit : split limit data = .ok pieces)
    (hp : p ∈ pieces) :
    p.bytes = keptBytes limit (lines (p.span.slice data)) ∧ lines (p.span.slice data) ≠ [] := by
  obtain ⟨-, rfl⟩ | ⟨_, _, -, -, rfl⟩ := split_cases hsplit
  · cases hp
  · have hflat : [] ++ (group (lines data)).flatten.flatten = data := by
      rw [flatten_group, flatten_lines, List.nil_append]
    have hstart : p ∈ place limit ([] : Bytes).length (group (lines data)) := hp
    obtain ⟨message, hmem, hslice, hbytes⟩ := exists_message_of_mem_place (by rw [hflat]; exact hsize) hstart
    rw [hflat] at hslice
    obtain ⟨before, after, hgroup⟩ := List.append_of_mem hmem
    have hinfix : lines data = before.flatten ++ message ++ after.flatten := by
      rw [← flatten_group (lines data), hgroup, List.flatten_append, List.flatten_cons, List.append_assoc]
    rw [hslice, lines_flatten_of_infix hinfix]
    exact ⟨hbytes, ne_nil_of_mem_group hmem⟩

/-- **What is kept of a message.** It is the separator line and some of the lines that follow, in their order; unless the
separator line alone is longer, it is no longer than the limit. It is a prefix of the message exactly if no later line fits
behind the lines before the first one that is left out, but for one that is how that line starts. -/
theorem isPrefix_bytes_iff {pieces : List Piece} (hsize : data.length < UInt64.size)
    (hsplit : split limit data = .ok pieces) (hp : p ∈ pieces) :
    (∃ (separator : Bytes) (rest kept : List Bytes), lines (p.span.slice data) = separator :: rest ∧ kept.Sublist rest ∧
      p.bytes = separator ++ kept.flatten ∧ p.bytes.length ≤ max limit separator.length) ∧
    (p.bytes <+: p.span.slice data ↔
      ∀ before line after, Overflows limit (lines (p.span.slice data)) before line after →
        ∀ l ∈ after, before.flatten.length + l.length ≤ limit → l <+: line) := by
  obtain ⟨hbytes, hne⟩ := bytes_of_split hsize hsplit hp
  constructor
  · obtain ⟨separator, rest, hmessage⟩ := List.exists_cons_of_ne_nil hne
    rw [hmessage, keptBytes] at hbytes
    refine ⟨separator, rest, keep limit separator.length rest, hmessage, sublist_keep .., hbytes, ?_⟩
    rw [hbytes, List.length_append]
    by_cases hfits : separator.length ≤ limit
    · exact Nat.le_trans (length_keep_le hfits rest) (Nat.le_max_left ..)
    · obtain ⟨-, hkeep⟩ | ⟨_, line, _, _, _, hline, _⟩ := exists_kept limit separator.length rest
      · rw [hkeep]
        exact Nat.le_max_right ..
      · omega
  · have hflat : (lines (p.span.slice data)).flatten = p.span.slice data := flatten_lines _
    have hiff := isPrefix_keptBytes_iff limit (congrArg lines hflat)
    rwa [hflat, ← hbytes] at hiff

/-- The second line does not fit. The last one does and has no line feed, so that it is how the second line starts. -/
theorem isPrefix_bytes_iff_unterminated :
    let data := bytes "From a\nlong long line\nlo"
    data.length < UInt64.size ∧ ∃ p, split 12 data = .ok [p] ∧ p.bytes = bytes "From a\nlo" ∧
      ∀ before line after, Overflows 12 (lines (p.span.slice data)) before line after →
        ∀ l ∈ after, before.flatten.length + l.length ≤ 12 → l <+: line := by
  intro data
  have hsize : data.length < UInt64.size := by decide
  have hsplit : split 12 data = .ok [⟨⟨0, 24⟩, bytes "From a\nlo"⟩] := by rfl
  refine ⟨hsize, _, hsplit, rfl, (isPrefix_bytes_iff hsize hsplit (List.mem_singleton_self _)).2.1 ?_⟩
  decide

/-- **Long messages are not cut off.** The second line does not fit and the third one does. -/
theorem not_forall_isPrefix_bytes :
    ¬ ∀ (limit : Nat) (data : Bytes) (pieces : List Piece), data.length < UInt64.size → split limit data = .ok pieces →
      ∀ p ∈ pieces, p.bytes <+: p.span.slice data := by
  intro h
  have hsplit : split 12 (bytes "From a\nlong long line\nb\n") = .ok [⟨⟨0, 24⟩, bytes "From a\nb\n"⟩] := by rfl
  have hprefix := h 12 _ _ (by decide) hsplit _ (List.mem_singleton_self _)
  revert hprefix
  decide

end MailQuery.Mail.Mailbox
