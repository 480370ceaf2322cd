/-!
# Ranges of characters

A set of characters of Unicode is given as a list of ranges of code points.
-/

namespace MailQuery.Text

/-- The code points from `first` to `last`, both included. -/
structure CharRange where
  first : Nat
  last : Nat
deriving DecidableEq, Repr

/-- Whether a character lies in a range. -/
def CharRange.contains (r : CharRange) (c : Char) : Bool :=
  r.first ≤ c.toNat && c.toNat ≤ r.last

/-- The range that holds one character. -/
def CharRange.single (c : Char) : CharRange := ⟨c.toNat, c.toNat⟩

theorem CharRange.contains_iff {r : CharRange} {c : Char} :
    r.contains c = true ↔ r.first ≤ c.toNat ∧ c.toNat ≤ r.last := by
  simp [CharRange.contains]

theorem CharRange.contains_single {c d : Char} : (single c).contains d = true ↔ d = c := by
  rw [contains_iff]
  constructor
  · intro h
    exact Char.toNat_inj.1 (Nat.le_antisymm h.2 h.1)
  · rintro rfl
    exact ⟨Nat.le_refl _, Nat.le_refl _⟩

end MailQuery.Text
