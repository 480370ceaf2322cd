import MailQuery.Proofs.Mailbox.Partition

/-!
# Lines of a mailbox file

A line ends with the first line feed from its start on, or it is what is left at the end of the file
(`isTerminated_or_rest_nil`). So lines are found again in every piece of a file that was cut between lines
(`lines_flatten_of_infix`).
-/

namespace MailQuery.Mail

open Ascii

/-- The bytes of a file that a span is about. -/
def Span.slice (span : Span) (data : Bytes) : Bytes := (data.drop span.offset.toNat).take span.length.toNat

namespace Mailbox

variable {bs line : Bytes} {before message after rest : List Bytes}

/-- A line with its line feed. -/
def IsTerminated (line : Bytes) : Prop := ∃ body, newline ∉ body ∧ line = body ++ [newline]

theorem lines_append_of_isTerminated (h : IsTerminated line) (bs : Bytes) : lines (line ++ bs) = line :: lines bs := by
  obtain ⟨body, hbody, rfl⟩ := h
  induction body with
  | nil => rw [List.nil_append, List.singleton_append, lines, if_pos rfl]
  | cons b body ih =>
    obtain ⟨hb, hbody⟩ := not_or.1 (mt List.mem_cons.2 hbody)
    rw [List.cons_append, List.cons_append, lines, if_neg (Ne.symm hb), ih hbody]

theorem lines_of_not_mem (h : newline ∉ bs) (hne : bs ≠ []) : lines bs = [bs] := by
  induction bs with
  | nil => exact absurd rfl hne
  | cons b bs ih =>
    obtain ⟨hb, hbs⟩ := not_or.1 (mt List.mem_cons.2 h)
    rw [lines, if_neg (Ne.symm hb)]
    cases bs with
    | nil => rfl
    | cons c bs => rw [ih hbs (List.cons_ne_nil _ _)]

/-- The first line has its line feed, and the others are the lines of what follows it, or it is all there is. -/
theorem isTerminated_or_rest_nil (h : lines bs = line :: rest) :
    (IsTerminated line ∧ ∃ bs', bs = line ++ bs' ∧ rest = lines bs') ∨ (newline ∉ line ∧ rest = []) := by
  induction bs generalizing line rest with
  | nil => cases h
  | cons b bs ih =>
    rw [lines] at h
    split at h
    · next hb =>
      cases h
      rw [hb]
      exact .inl ⟨⟨[], List.not_mem_nil, rfl⟩, bs, rfl, rfl⟩
    · next hb =>
      split at h
      · cases h
        exact .inr ⟨fun hmem => hb (List.mem_singleton.1 hmem).symm, rfl⟩
      · next first others hlines =>
        cases h
        obtain ⟨⟨body, hbody, rfl⟩, bs', rfl, hrest⟩ | ⟨hfirst, hrest⟩ := ih hlines
        · refine .inl ⟨⟨b :: body, ?_, rfl⟩, bs', rfl, hrest⟩
          exact not_or.2 ⟨Ne.symm hb, hbody⟩ ∘ List.mem_cons.1
        · exact .inr ⟨not_or.2 ⟨Ne.symm hb, hfirst⟩ ∘ List.mem_cons.1, hrest⟩

/-- The lines behind some first lines are the lines of what follows these. -/
theorem exists_lines_of_append (h : lines bs = before ++ rest) : ∃ bs', bs = before.flatten ++ bs' ∧ rest = lines bs' := by
  induction before generalizing bs with
  | nil => exact ⟨bs, rfl, h.symm⟩
  | cons line before ih =>
    obtain ⟨-, bs', rfl, hrest⟩ | ⟨-, hrest⟩ := isTerminated_or_rest_nil h
    · obtain ⟨bs'', rfl, hlines⟩ := ih hrest.symm
      exact ⟨bs'', by rw [List.flatten_cons, List.append_assoc], hlines⟩
    · obtain ⟨rfl, rfl⟩ := List.append_eq_nil_iff.1 hrest
      refine ⟨[], ?_, rfl⟩
      rw [← flatten_lines bs, h, List.append_nil, List.append_nil]

theorem lines_flatten_of_append (h : lines bs = message ++ after) : lines message.flatten = message := by
  induction message generalizing bs with
  | nil => rfl
  | cons line message ih =>
    obtain ⟨hline, bs', -, hrest⟩ | ⟨hline, hrest⟩ := isTerminated_or_rest_nil h
    · rw [List.flatten_cons, lines_append_of_isTerminated hline, ih hrest.symm]
    · obtain ⟨rfl, -⟩ := List.append_eq_nil_iff.1 hrest
      have hne : line ≠ [] := ne_nil_of_mem_lines (h ▸ List.mem_append_left after (List.mem_singleton_self line))
      rw [List.flatten_singleton, lines_of_not_mem hline hne]

/-- **Lines are found again** in a part of a file that is made of whole lines. -/
theorem lines_flatten_of_infix (h : lines bs = before ++ message ++ after) : lines message.flatten = message := by
  rw [List.append_assoc] at h
  obtain ⟨bs', -, hlines⟩ := exists_lines_of_append h
  exact lines_flatten_of_append hlines.symm

/-- A line that is not the last one has its line feed. -/
theorem isTerminated_of_lines {next : Bytes} (h : lines bs = before ++ line :: next :: after) : IsTerminated line := by
  obtain ⟨bs', -, hlines⟩ := exists_lines_of_append h
  obtain ⟨hline, -⟩ | ⟨-, hrest⟩ := isTerminated_or_rest_nil hlines.symm
  · exact hline
  · cases hrest

/-- A line without line feed is the last one. -/
theorem eq_nil_of_not_mem (h : lines bs = before ++ line :: after) (hline : newline ∉ line) : after = [] := by
  cases after with
  | nil => rfl
  | cons next after =>
    obtain ⟨body, -, rfl⟩ := isTerminated_of_lines h
    exact absurd (List.mem_append_right body (List.mem_singleton_self newline)) hline

end Mailbox

end MailQuery.Mail
