import MailQuery.Text.Case.Table

/-!
# Lower case and case folding

`lowerChar` maps one character, `lower` a whole text. A text differs from its characters in one
letter: a capital sigma that ends a word becomes `ς`. `fold` is simple case folding, the map under
which two characters that differ only in case become equal.
-/

namespace MailQuery.Text

/-- The single character that is the lower-case form of `c`, where there is one. -/
def simpleLower (c : Char) : Char :=
  if c.toNat < 128 then c.toLower
  else (lowerRuns.findSome? (·.lower? c.toNat)).elim c Char.ofNat

/-- The lower-case form of one character on its own. -/
def lowerChar (c : Char) : List Char :=
  if c = 'İ' then ['i', '\u0307'] else [simpleLower c]

/-- Whether a character has a case. -/
def isCased (c : Char) : Bool := casedRanges.any (·.contains c)

/-- Whether a character is passed over when the end of a cased word is sought. -/
def isCaseIgnorable (c : Char) : Bool := caseIgnorableRanges.any (·.contains c)

/-- Whether the first character that counts has a case. -/
def startsCased (cs : List Char) : Bool :=
  ((cs.dropWhile isCaseIgnorable).head?).any isCased

/-- The lower-case form of a text whose preceding characters, nearest first, are `before`. -/
def lowerAfter (before : List Char) : List Char → List Char
  | [] => []
  | c :: cs =>
    let here :=
      if c = 'Σ' then (if startsCased before && !startsCased cs then ['ς'] else ['σ'])
      else lowerChar c
    here ++ lowerAfter (c :: before) cs

/-- The lower-case form of a text. -/
def lower (cs : List Char) : List Char := lowerAfter [] cs

/-- Simple case folding of a character. -/
def fold (c : Char) : Char :=
  match foldExceptions.lookup c.toNat with
  | some n => Char.ofNat n
  | none => simpleLower c

/-- The characters that fold to the same character as `c`. -/
def caseVariants (c : Char) : List Char :=
  let f := fold c
  let n := f.toNat
  let ascii := if n < 128 then [f.toUpper] else []
  let runs := (lowerRuns.filterMap (·.upper? n)).map Char.ofNat
  let exceptions := (foldExceptions.filter (·.2 == n)).map fun e => Char.ofNat e.1
  f :: (ascii ++ runs ++ exceptions).filter (fold · == f)

/-- Whether two texts are equal but for the case of ASCII letters. -/
def eqIgnoreAsciiCase (a b : List Char) : Bool := a.map Char.toLower == b.map Char.toLower

theorem lowerChar_of_ascii {c : Char} (h : c.toNat < 128) : lowerChar c = [c.toLower] := by
  have : c ≠ 'İ' := by rintro rfl; exact absurd h (by decide)
  simp [lowerChar, simpleLower, this, h]

/-- An ASCII text is lowered character by character. -/
theorem lowerAfter_of_ascii (before : List Char) {cs : List Char} (h : ∀ c ∈ cs, c.toNat < 128) :
    lowerAfter before cs = cs.map Char.toLower := by
  induction cs generalizing before with
  | nil => rfl
  | cons c cs ih =>
    have hc : c.toNat < 128 := h c (by simp)
    have hs : c ≠ 'Σ' := by rintro rfl; exact absurd hc (by decide)
    simp [lowerAfter, hs, lowerChar_of_ascii hc, ih (c :: before) fun d hd => h d (by simp [hd])]

theorem lower_of_ascii {cs : List Char} (h : ∀ c ∈ cs, c.toNat < 128) :
    lower cs = cs.map Char.toLower :=
  lowerAfter_of_ascii [] h

end MailQuery.Text
