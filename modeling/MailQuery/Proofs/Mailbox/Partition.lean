import Mathlib.Data.List.Infix
import MailQuery.Mail.Mailbox

/-!
# Mailbox files are cut without loss

The pieces of a mailbox file lie one behind the other from its start to its end (`Contiguous`), and they start where
a separator line starts (`IsStart`). A piece that is not too long holds the bytes that stand in the file.

A separator line is found by its first word, which holds no line feed: a line starts with such a word if and only if
the bytes from there on do (`isPrefix_line_iff`). With that, where the later messages start is read off the lines
(`laterStarts`) and off the bytes (`mem_laterStarts_lines`) alike. `place` puts messages one behind the other,
whatever they are, so that the rest of the statement does not depend on how the lines are grouped.

`split_partitions` is the main statement.
-/

namespace MailQuery.Mail.Mailbox

open Ascii

variable {limit offset : Nat} {data bs line : Bytes} {rest : List Bytes} {messages : List (List Bytes)}

/-! ### Partitions of a file -/

/-- Spans one behind the other from one offset to another, none of which is empty. -/
def Contiguous (start stop : Nat) : List Span → Prop
  | [] => start = stop
  | span :: spans =>
    span.offset.toNat = start ∧ 0 < span.length.toNat ∧ Contiguous (start + span.length.toNat) stop spans

theorem Contiguous.le {start stop : Nat} {spans : List Span} (h : Contiguous start stop spans) : start ≤ stop := by
  induction spans generalizing start with
  | nil => exact Nat.le_of_eq h
  | cons span spans ih =>
    obtain ⟨-, -, hrest⟩ := h
    exact Nat.le_trans (Nat.le_add_right ..) (ih hrest)

theorem Contiguous.end_le {start stop : Nat} {span : Span} {spans : List Span} (h : Contiguous start stop spans)
    (hspan : span ∈ spans) : span.offset.toNat + span.length.toNat ≤ stop := by
  induction spans generalizing start with
  | nil => cases hspan
  | cons first spans ih =>
    obtain ⟨hoffset, -, hrest⟩ := h
    rcases List.mem_cons.1 hspan with rfl | hspan
    · rw [hoffset]
      exact hrest.le
    · exact ih hrest hspan

/-- The offset of the file or of a later line that starts with the word of separator lines. -/
def IsStart (data : Bytes) (n : Nat) : Prop :=
  n = 0 ∨ ∃ before after, data = before ++ newline :: after ∧ n = before.length + 1 ∧ fromWord <+: after

/-- The pieces of a file. -/
structure IsPartition (limit : Nat) (data : Bytes) (pieces : List Piece) : Prop where
  contiguous : Contiguous 0 data.length (pieces.map (·.span))
  starts : ∀ n, n ∈ pieces.map (·.span.offset.toNat) ↔ IsStart data n
  whole : ∀ p ∈ pieces, p.span.length.toNat ≤ limit →
    p.bytes = (data.drop p.span.offset.toNat).take p.span.length.toNat ∧ readSpan data p.span = .ok p.bytes

/-! ### Lines -/

theorem lines_eq_nil (h : lines bs = []) : bs = [] := by
  have := flatten_lines bs
  rw [h] at this
  exact this.symm

theorem ne_nil_of_mem_lines (h : line ∈ lines bs) : line ≠ [] := by
  induction bs generalizing line with
  | nil => cases h
  | cons b bs ih =>
    rw [lines] at h
    split at h
    · rcases List.mem_cons.1 h with rfl | h
      · exact List.cons_ne_nil _ _
      · exact ih h
    · split at h
      · rw [List.mem_singleton.1 h]
        exact List.cons_ne_nil _ _
      · next first others hlines =>
        rcases List.mem_cons.1 h with rfl | h
        · exact List.cons_ne_nil _ _
        · exact ih (by rw [hlines]; exact List.mem_cons_of_mem _ h)

/-- A word without line feeds stands at the start of the first line or not at all. -/
theorem isPrefix_line_iff {word : Bytes} (hword : newline ∉ word) (h : lines bs = line :: rest) :
    word <+: line ↔ word <+: bs := by
  induction bs generalizing word line rest with
  | nil => cases h
  | cons b bs ih =>
    cases word with
    | nil => exact iff_of_true (List.nil_prefix) (List.nil_prefix)
    | cons w word =>
      obtain ⟨hw, hword⟩ := not_or.1 (mt List.mem_cons.2 hword)
      rw [lines] at h
      split at h
      · next hb =>
        -- The line is just a line feed, which is not what the word starts with.
        cases h
        have hne : w ≠ b := fun heq => hw (by rw [heq, hb])
        rw [List.cons_prefix_cons, List.cons_prefix_cons]
        exact iff_of_false (fun h => hne h.1) (fun h => hne h.1)
      · split at h
        · next hlines =>
          cases h
          rw [lines_eq_nil hlines]
        · next first others hlines =>
          cases h
          rw [List.cons_prefix_cons, List.cons_prefix_cons, ih hword hlines]

theorem newline_not_mem_fromWord : newline ∉ fromWord := by decide

theorem isSeparator_iff (h : lines bs = line :: rest) : isSeparator line = true ↔ fromWord <+: bs := by
  rw [isSeparator, List.isPrefixOf_iff_prefix, isPrefix_line_iff newline_not_mem_fromWord h]

/-- The byte-order mark of UTF-8. -/
def mark : Bytes := [0xef, 0xbb, 0xbf]

theorem dropMark_mark_append (bs : Bytes) : dropMark (mark ++ bs) = bs := rfl

theorem dropMark_of_not_marked (h : ¬ mark <+: bs) : dropMark bs = bs := by
  unfold dropMark
  split
  · next rest => exact absurd (List.prefix_append mark rest) h
  · rfl

theorem fromWord_prefix_dropMark_iff : fromWord <+: dropMark bs ↔ mark ++ fromWord <+: bs ∨ fromWord <+: bs := by
  by_cases hmark : mark <+: bs
  · obtain ⟨rest, rfl⟩ := hmark
    have hnot : ¬ fromWord <+: mark ++ rest := by
      rintro ⟨more, hmore⟩
      cases hmore
    rw [dropMark_mark_append, List.prefix_append_right_inj, or_iff_left hnot]
  · have hnot : ¬ mark ++ fromWord <+: bs := fun h => hmark ((List.prefix_append _ _).trans h)
    rw [dropMark_of_not_marked hmark, or_iff_right hnot]

theorem isSeparator_dropMark_iff (h : lines bs = line :: rest) :
    isSeparator (dropMark line) = true ↔ fromWord <+: dropMark bs := by
  rw [isSeparator, List.isPrefixOf_iff_prefix, fromWord_prefix_dropMark_iff, fromWord_prefix_dropMark_iff,
    isPrefix_line_iff newline_not_mem_fromWord h, isPrefix_line_iff (by decide) h]

/-! ### Where messages start -/

/-- The offsets of the separator lines among lines of which the first one stands at an offset. -/
def laterStarts (offset : Nat) : List Bytes → List Nat
  | [] => []
  | line :: rest =>
    if isSeparator line then offset :: laterStarts (offset + line.length) rest
    else laterStarts (offset + line.length) rest

/-- A line behind the first that starts with the word, in bytes that stand at an offset. -/
def IsLaterStart (offset : Nat) (bs : Bytes) (n : Nat) : Prop :=
  ∃ before after, bs = before ++ newline :: after ∧ n = offset + before.length + 1 ∧ fromWord <+: after

/-- Such a line starts behind the first byte or, as seen from the next byte, further behind. -/
theorem isLaterStart_cons {b : UInt8} {n : Nat} :
    IsLaterStart offset (b :: bs) n ↔
      (b = newline ∧ n = offset + 1 ∧ fromWord <+: bs) ∨ IsLaterStart (offset + 1) bs n := by
  constructor
  · rintro ⟨before, after, hbs, hn, hword⟩
    cases before with
    | nil =>
      cases hbs
      exact .inl ⟨rfl, hn, hword⟩
    | cons c before =>
      cases hbs
      rw [List.length_cons] at hn
      exact .inr ⟨before, after, rfl, by omega, hword⟩
  · rintro (⟨rfl, hn, hword⟩ | ⟨before, after, rfl, hn, hword⟩)
    · exact ⟨[], bs, rfl, hn, hword⟩
    · refine ⟨b :: before, after, rfl, ?_, hword⟩
      rw [List.length_cons]
      omega

theorem not_isLaterStart_nil {n : Nat} : ¬ IsLaterStart offset [] n := by
  rintro ⟨before, after, hbs, -⟩
  exact absurd hbs.symm (List.append_ne_nil_of_right_ne_nil _ (List.cons_ne_nil _ _))

/-- The separator lines behind the first line, found in the bytes. -/
theorem mem_laterStarts_lines {n : Nat} (h : lines bs = line :: rest) :
    n ∈ laterStarts (offset + line.length) rest ↔ IsLaterStart offset bs n := by
  induction bs generalizing offset line rest with
  | nil => cases h
  | cons b bs ih =>
    rw [lines] at h
    rw [isLaterStart_cons]
    split at h
    · next hb =>
      cases h
      rw [List.length_singleton, and_iff_right hb]
      cases hlines : lines bs with
      | nil =>
        have hword : ¬ fromWord <+: [] := by decide
        rw [lines_eq_nil hlines]
        exact iff_of_false List.not_mem_nil fun h => h.elim (fun h => hword h.2) not_isLaterStart_nil
      | cons next others =>
        -- The next line starts here, and the lines behind it are found in the rest.
        rw [laterStarts, ← ih hlines]
        by_cases hsep : isSeparator next = true
        · rw [if_pos hsep, List.mem_cons, and_iff_left ((isSeparator_iff hlines).1 hsep)]
        · rw [if_neg hsep, ← isSeparator_iff hlines, or_iff_right (fun h => hsep h.2)]
    · next hb =>
      rw [or_iff_right (fun h => hb h.1)]
      split at h
      · next hlines =>
        cases h
        rw [lines_eq_nil hlines]
        exact iff_of_false List.not_mem_nil not_isLaterStart_nil
      · next first others hlines =>
        cases h
        rw [← ih hlines, List.length_cons, Nat.add_assoc offset, Nat.add_comm 1]

/-! ### Messages -/

theorem exists_group_cons (line : Bytes) (rest : List Bytes) :
    ∃ message messages, group (line :: rest) = message :: messages := by
  rw [group.eq_def]
  split
  · next heq => cases heq
  · split
    · split <;> exact ⟨_, _, rfl⟩
    · exact ⟨_, _, rfl⟩

/-- A separator line starts a message of its own. -/
theorem group_cons_of_isSeparator {next : Bytes} (h : isSeparator next = true) :
    group (line :: next :: rest) = [line] :: group (next :: rest) := by
  obtain ⟨message, messages, hgroup⟩ := exists_group_cons next rest
  rw [group.eq_def]
  simp only [hgroup]
  exact if_pos h

/-- Any other line belongs to the message of the line before. -/
theorem group_cons_of_not_isSeparator {next : Bytes} (h : ¬ isSeparator next = true) {message : List Bytes}
    (hgroup : group (next :: rest) = message :: messages) :
    group (line :: next :: rest) = (line :: message) :: messages := by
  rw [group.eq_def]
  simp only [hgroup]
  exact if_neg h

theorem flatten_group (ls : List Bytes) : (group ls).flatten = ls := by
  match ls with
  | [] => rfl
  | [line] => rfl
  | line :: next :: rest =>
    have ih := flatten_group (next :: rest)
    by_cases h : isSeparator next = true
    · rw [group_cons_of_isSeparator h, List.flatten_cons, ih]
      rfl
    · obtain ⟨message, messages, hgroup⟩ := exists_group_cons next rest
      rw [hgroup, List.flatten_cons] at ih
      rw [group_cons_of_not_isSeparator h hgroup, List.flatten_cons, List.cons_append, ih]

theorem ne_nil_of_mem_group {ls message : List Bytes} (h : message ∈ group ls) : message ≠ [] := by
  match ls with
  | [] => cases h
  | [line] =>
    rw [List.mem_singleton.1 h]
    exact List.cons_ne_nil _ _
  | line :: next :: rest =>
    have ih := fun {m} (hm : m ∈ group (next :: rest)) => ne_nil_of_mem_group hm
    by_cases hsep : isSeparator next = true
    · rw [group_cons_of_isSeparator hsep] at h
      rcases List.mem_cons.1 h with rfl | h
      · exact List.cons_ne_nil _ _
      · exact ih h
    · obtain ⟨first, messages, hgroup⟩ := exists_group_cons next rest
      rw [group_cons_of_not_isSeparator hsep hgroup] at h
      rcases List.mem_cons.1 h with rfl | h
      · exact List.cons_ne_nil _ _
      · exact ih (by rw [hgroup]; exact List.mem_cons_of_mem _ h)

/-- No message of a file is empty. -/
theorem flatten_ne_nil_of_mem_group_lines {message : List Bytes} (h : message ∈ group (lines data)) :
    message.flatten ≠ [] := by
  obtain ⟨line, rest, rfl⟩ := List.exists_cons_of_ne_nil (ne_nil_of_mem_group h)
  have hline : line ∈ lines data := by
    rw [← flatten_group (lines data)]
    exact List.mem_flatten_of_mem h (List.mem_cons_self ..)
  rw [List.flatten_cons]
  exact List.append_ne_nil_of_left_ne_nil (ne_nil_of_mem_lines hline) _

/-! ### Places -/

theorem span_place (limit limit' offset : Nat) (messages : List (List Bytes)) :
    (place limit offset messages).map (·.span) = (place limit' offset messages).map (·.span) := by
  induction messages generalizing offset with
  | nil => rfl
  | cons message messages ih => rw [place, place, List.map_cons, List.map_cons, ih]

theorem contiguous_place {stop : Nat} (hmessages : ∀ m ∈ messages, m.flatten ≠ [])
    (hstop : offset + messages.flatten.flatten.length = stop) (hsize : stop < UInt64.size) :
    Contiguous offset stop ((place limit offset messages).map (·.span)) := by
  induction messages generalizing offset with
  | nil => exact hstop
  | cons message messages ih =>
    rw [List.flatten_cons, List.flatten_append, List.length_append] at hstop
    have hpos := List.length_pos_iff.2 (hmessages message (List.mem_cons_self ..))
    have hlength : message.flatten.length.toUInt64.toNat = message.flatten.length := UInt64.toNat_ofNat_of_lt' (by omega)
    refine ⟨UInt64.toNat_ofNat_of_lt' (by omega), ?_, ?_⟩
    · rw [hlength]
      exact hpos
    · rw [hlength]
      exact ih (fun m hm => hmessages m (List.mem_cons_of_mem _ hm)) (by omega)

/-- The first message starts where it is put, the others at their separator lines. -/
theorem offset_place_group (limit offset : Nat) (line : Bytes) (rest : List Bytes) :
    (place limit offset (group (line :: rest))).map (·.span.offset) =
      (offset :: laterStarts (offset + line.length) rest).map Nat.toUInt64 := by
  match rest with
  | [] => rfl
  | next :: rest =>
    have ih := offset_place_group limit (offset + line.length) next rest
    by_cases h : isSeparator next = true
    · rw [group_cons_of_isSeparator h, place, List.map_cons, List.flatten_singleton, ih, laterStarts, if_pos h]
      rfl
    · obtain ⟨message, messages, hgroup⟩ := exists_group_cons next rest
      rw [hgroup, place, List.map_cons, List.map_cons, List.cons.injEq] at ih
      rw [group_cons_of_not_isSeparator h hgroup, place, List.map_cons, List.flatten_cons, List.length_append,
        ← Nat.add_assoc, ih.2, laterStarts, if_neg h]
      rfl

/-- Nothing is left out of lines that are not longer than the limit. -/
theorem keep_eq_self {size : Nat} {ls : List Bytes} (h : size + ls.flatten.length ≤ limit) :
    keep limit size ls = ls := by
  induction ls generalizing size with
  | nil => rfl
  | cons line ls ih =>
    rw [List.flatten_cons, List.length_append] at h
    rw [keep, if_pos (by omega), ih (by omega)]

theorem keptBytes_eq_flatten {message : List Bytes} (h : message.flatten.length ≤ limit) :
    keptBytes limit message = message.flatten := by
  cases message with
  | nil => rfl
  | cons line rest =>
    rw [List.flatten_cons, List.length_append] at h
    rw [keptBytes, keep_eq_self h, List.flatten_cons]

/-- A message that is not too long is what stands at its place. -/
theorem bytes_of_mem_place {p : Piece} {before : Bytes} (hsize : (before ++ messages.flatten.flatten).length < UInt64.size)
    (hp : p ∈ place limit before.length messages) (hlimit : p.span.length.toNat ≤ limit) :
    p.bytes = ((before ++ messages.flatten.flatten).drop p.span.offset.toNat).take p.span.length.toNat ∧
      p.bytes.length = p.span.length.toNat := by
  induction messages generalizing before with
  | nil => cases hp
  | cons message messages ih =>
    rw [List.flatten_cons, List.flatten_append] at hsize ⊢
    rcases List.mem_cons.1 hp with rfl | hp
    · rw [List.length_append, List.length_append] at hsize
      have hoffset : before.length.toUInt64.toNat = before.length := UInt64.toNat_ofNat_of_lt' (by omega)
      have hlength : message.flatten.length.toUInt64.toNat = message.flatten.length := UInt64.toNat_ofNat_of_lt' (by omega)
      have hbytes : keptBytes limit message = message.flatten := keptBytes_eq_flatten (hlength ▸ hlimit)
      simp only [hoffset, hlength, hbytes, List.drop_left, List.take_left, and_self]
    · rw [← List.length_append] at hp
      rw [← List.append_assoc] at hsize ⊢
      exact ih hsize hp

/-! ### Whole files -/

/-- The pieces of the lines of a file are a partition of it. -/
theorem isPartition_place (hsize : data.length < UInt64.size) (h : lines data = line :: rest) :
    IsPartition limit data (place limit 0 (group (lines data))) where
  contiguous := by
    refine contiguous_place (fun m hm => flatten_ne_nil_of_mem_group_lines hm) ?_ hsize
    rw [flatten_group, flatten_lines, Nat.zero_add]
  starts n := by
    have hcomp : (place limit 0 (group (lines data))).map (·.span.offset.toNat) =
        (0 :: laterStarts (0 + line.length) rest).map fun n => n.toUInt64.toNat := by
      have hoffsets := congrArg (List.map UInt64.toNat) (offset_place_group limit 0 line rest)
      rw [List.map_map, List.map_map] at hoffsets
      rw [h]
      exact hoffsets
    have hsmall : ∀ m ∈ 0 :: laterStarts (0 + line.length) rest, m.toUInt64.toNat = m := by
      intro m hm
      rcases List.mem_cons.1 hm with rfl | hm
      · rfl
      · obtain ⟨before, after, rfl, rfl, -⟩ := (mem_laterStarts_lines h).1 hm
        rw [List.length_append, List.length_cons] at hsize
        exact UInt64.toNat_ofNat_of_lt' (by omega)
    rw [hcomp, List.map_congr_left hsmall, List.map_id', List.mem_cons, mem_laterStarts_lines h, IsStart,
      IsLaterStart]
    simp only [Nat.zero_add]
  whole p hp hlimit := by
    have hflat : [] ++ (group (lines data)).flatten.flatten = data := by
      rw [flatten_group, flatten_lines, List.nil_append]
    have hstart : p ∈ place limit ([] : Bytes).length (group (lines data)) := hp
    obtain ⟨hbytes, hlength⟩ := bytes_of_mem_place (by rw [hflat]; exact hsize) hstart hlimit
    rw [hflat] at hbytes
    refine ⟨hbytes, ?_⟩
    rw [readSpan, ← hbytes, if_pos hlength]

/-- A file that is cut is empty, or it starts with a separator line and the messages of its lines are put one behind the
other. -/
theorem split_cases {pieces : List Piece} (h : split limit data = .ok pieces) :
    (data = [] ∧ pieces = []) ∨ ∃ line rest, lines data = line :: rest ∧ isSeparator (dropMark line) = true ∧
      pieces = place limit 0 (group (lines data)) := by
  rw [split] at h
  split at h
  · next hlines =>
    cases h
    exact .inl ⟨lines_eq_nil hlines, rfl⟩
  · next line rest hlines =>
    split at h
    · next hline =>
      cases h
      exact .inr ⟨line, rest, hlines, hline, by rw [hlines]⟩
    · cases h

/-- The pieces of a file lie one behind the other from its start to its end. -/
theorem contiguous_of_split {pieces : List Piece} (hsize : data.length < UInt64.size)
    (h : split limit data = .ok pieces) : Contiguous 0 data.length (pieces.map (·.span)) := by
  obtain ⟨rfl, rfl⟩ | ⟨line, rest, hlines, -, rfl⟩ := split_cases h
  · rfl
  · exact (isPartition_place hsize hlines).contiguous

/-- **Splitting loses nothing.** A file without a byte has no messages, and one that does not start with a separator
line is an error. Any other is cut into pieces that fill it, start at the separator lines and hold their bytes. How
much is kept of long messages does not matter for their places. -/
theorem split_partitions (limit : Nat) (data : Bytes) (hsize : data.length < UInt64.size) :
    (data = [] → split limit data = .ok []) ∧
    (data ≠ [] → ¬ fromWord <+: dropMark data →
      split limit data = .error (.mime "stream does not start with a 'From ' line")) ∧
    (fromWord <+: dropMark data → ∃ pieces, split limit data = .ok pieces ∧ IsPartition limit data pieces) ∧
    ∀ limit', (split limit' data).map (·.map (·.span)) = (split limit data).map (·.map (·.span)) := by
  cases hlines : lines data with
  | nil =>
    obtain rfl := lines_eq_nil hlines
    exact ⟨fun _ => rfl, fun h => absurd rfl h, fun h => absurd h (by decide), fun _ => rfl⟩
  | cons line rest =>
    have hsplit : ∀ limit, split limit data =
        if fromWord <+: dropMark data then .ok (place limit 0 (group (lines data)))
        else .error (.mime "stream does not start with a 'From ' line") := by
      intro limit
      rw [split, hlines]
      simp only [isSeparator_dropMark_iff hlines]
    refine ⟨?_, ?_, ?_, ?_⟩
    · rintro rfl
      cases hlines
    · intro _ h
      rw [hsplit, if_neg h]
    · intro h
      rw [hsplit, if_pos h]
      exact ⟨_, rfl, isPartition_place hsize hlines⟩
    · intro limit'
      rw [hsplit, hsplit]
      split
      · exact congrArg Except.ok (span_place limit' limit 0 _)
      · rfl

theorem split_partitions_marked :
    (mark ++ bytes "From a\nFrom b\nx\n").length < UInt64.size ∧ ∃ pieces,
      split 9 (mark ++ bytes "From a\nFrom b\nx\n") = .ok pieces ∧ pieces.map (·.span) = [⟨0, 10⟩, ⟨10, 9⟩] ∧
      IsPartition 9 (mark ++ bytes "From a\nFrom b\nx\n") pieces := by
  have hsize : (mark ++ bytes "From a\nFrom b\nx\n").length < UInt64.size := by decide
  have hstart : fromWord <+: dropMark (mark ++ bytes "From a\nFrom b\nx\n") := by decide
  have hspans : (split 9 (mark ++ bytes "From a\nFrom b\nx\n")).map (·.map (·.span)) =
      .ok [⟨0, 10⟩, ⟨10, 9⟩] := by rfl
  obtain ⟨pieces, hpieces, hpartition⟩ := (split_partitions 9 _ hsize).2.2.1 hstart
  rw [hpieces] at hspans
  exact ⟨hsize, pieces, hpieces, Except.ok.inj hspans, hpartition⟩

end MailQuery.Mail.Mailbox
