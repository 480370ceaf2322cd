import MailQuery.Text.Blank
import MailQuery.Text.Case
import MailQuery.Text.Find

/-!
# Subjects of replies

A reply repeats the subject of its message behind a mark. `baseSubject` is the subject without all
such marks, in lower case.
-/

namespace MailQuery.Search

open Text

/-- The marks that start the subject of a reply or a forwarded message, in lower case. -/
def replyMarks : List (List Char) := [['r', 'e', ':'], ['f', 'w', 'd', ':'], ['f', 'w', ':']]

/-- The mark at the start of a text, in any case. -/
def replyMark? (cs : List Char) : Option (List Char) :=
  replyMarks.find? fun mark => mark.isPrefixOf (lower cs)

/-- Whether a subject is that of a reply or a forwarded message. -/
def isReplySubject (subject : String) : Bool := (replyMark? (trim subject.toList)).isSome

theorem length_pos_of_replyMark? {cs mark : List Char} (h : replyMark? cs = some mark) :
    0 < mark.length := by
  have hm : mark ∈ replyMarks := List.mem_of_find?_eq_some h
  simp only [replyMarks, List.mem_cons, List.not_mem_nil, or_false] at hm
  rcases hm with rfl | rfl | rfl <;> decide

theorem ne_nil_of_replyMark? {cs mark : List Char} (h : replyMark? cs = some mark) : cs ≠ [] := by
  rintro rfl
  have : replyMark? [] = none := by decide
  rw [this] at h
  cases h

theorem length_trimStart_le (cs : List Char) : (trimStart cs).length ≤ cs.length :=
  (List.dropWhile_sublist _).length_le

/-- A text without the marks at its start and the blanks behind each of them. -/
def dropReplyMarks (cs : List Char) : List Char :=
  match _h : replyMark? cs with
  | some mark => dropReplyMarks (trimStart (cs.drop mark.length))
  | none => cs
termination_by cs.length
decreasing_by
  have h₁ := length_trimStart_le (cs.drop mark.length)
  have h₂ := length_pos_of_replyMark? _h
  have h₃ := List.length_pos_iff.2 (ne_nil_of_replyMark? _h)
  simp only [List.length_drop] at h₁
  omega

/-- A subject without the marks of replies, in lower case. -/
def baseSubject (subject : String) : String :=
  String.ofList (lower (dropReplyMarks (trim subject.toList)))

end MailQuery.Search
