import MailQuery.Text.CharRange

/-!
# White space

The characters with the Unicode property `White_Space`, and what is defined by them: trimming a
text and cutting it into words. All functions work on lists of characters.
-/

namespace MailQuery.Text

/-- Ranges of the characters with the property `White_Space`. -/
def blankRanges : List CharRange :=
  [⟨0x09, 0x0d⟩, ⟨0x20, 0x20⟩, ⟨0x85, 0x85⟩, ⟨0xa0, 0xa0⟩, ⟨0x1680, 0x1680⟩, ⟨0x2000, 0x200a⟩,
   ⟨0x2028, 0x2029⟩, ⟨0x202f, 0x202f⟩, ⟨0x205f, 0x205f⟩, ⟨0x3000, 0x3000⟩]

/-- Whether a character is white space. -/
def isBlank (c : Char) : Bool := blankRanges.any (·.contains c)

/-- A text without the white space at its start. -/
def trimStart (cs : List Char) : List Char := cs.dropWhile isBlank

/-- A text without the white space at its end. -/
def trimEnd (cs : List Char) : List Char := (cs.reverse.dropWhile isBlank).reverse

/-- A text without the white space at its two ends. -/
def trim (cs : List Char) : List Char := trimEnd (trimStart cs)

/-- The pieces of a text between the characters that `p` marks, empty pieces included. -/
def splitOn (p : Char → Bool) : List Char → List (List Char)
  | [] => [[]]
  | c :: cs =>
    match splitOn p cs with
    | [] => [[]]
    | piece :: pieces => if p c then [] :: piece :: pieces else (c :: piece) :: pieces

/-- The maximal runs of characters that `p` does not mark. -/
def runsWithout (p : Char → Bool) (cs : List Char) : List (List Char) :=
  (splitOn p cs).filter (!·.isEmpty)

/-- The words of a text: its maximal runs without white space. -/
def words (cs : List Char) : List (List Char) := runsWithout isBlank cs

theorem trimStart_cons_of_blank {c : Char} (cs : List Char) (h : isBlank c = true) :
    trimStart (c :: cs) = trimStart cs := by
  simp [trimStart, h]

theorem trimStart_cons_of_not_blank {c : Char} (cs : List Char) (h : isBlank c = false) :
    trimStart (c :: cs) = c :: cs := by
  simp [trimStart, h]

theorem splitOn_ne_nil (p : Char → Bool) (cs : List Char) : splitOn p cs ≠ [] := by
  cases cs with
  | nil => simp [splitOn]
  | cons c cs =>
    simp only [splitOn]
    split
    · simp
    · split <;> simp

/-- `String` form of `trim`. -/
def trimmed (s : String) : String := String.ofList (trim s.toList)

end MailQuery.Text
