import MailQuery.Sql.Limits

/-!
# Conditions within the limits of the database

A condition is within the limits (`Expr.WithinLimits`) if its tree is not too high and all of its patterns are texts that
are not too long. In no row it comes to a pattern that is too long then, whatever the parts in front of a pattern come to
(`Expr.meetsLongPattern_eq_false`). A chain of conjunctions passes the limit of height by its length alone
(`Expr.isShallow_chain`).
-/

namespace MailQuery.Sql.Expr

/-- Whether an expression is a text that a value can be compared with. -/
def isShortText : Expr → Bool
  | string s => Text.byteLength s.toList ≤ maxPattern
  | _ => false

/-- Whether all patterns in an expression are texts that are not too long. -/
def hasShortPatterns : Expr → Bool
  | binary op l r =>
    l.hasShortPatterns && r.hasShortPatterns && (r.isShortText || op != .like && op != .notLike)
  | enclosed _ e | negated _ e | minus e | isNull e | notNull _ e | cast _ e | monthsLater e _ | packedDay e =>
    e.hasShortPatterns
  | column _ | int _ | string _ | null | written _ => true

/-- A condition that the database takes, whatever the rows are. -/
structure WithinLimits (e : Expr) : Prop where
  shallow : e.isShallow = true
  patterns : e.hasShortPatterns = true

instance (e : Expr) : Decidable e.WithinLimits :=
  decidable_of_iff (e.isShallow = true ∧ e.hasShortPatterns = true) ⟨fun ⟨h, h'⟩ => ⟨h, h'⟩, fun ⟨h, h'⟩ => ⟨h, h'⟩⟩

theorem not_isLongPattern {e : Expr} (h : e.isShortText = true) (row : Row) : isLongPattern (e.eval row) = false := by
  cases e with
  | string s =>
    show decide (maxPattern < Text.byteLength s.toList) = false
    exact decide_eq_false (Nat.not_lt.2 (of_decide_eq_true h))
  | _ => cases h

/-- Short patterns are no hindrance in any row. -/
theorem meetsLongPattern_eq_false {e : Expr} (h : e.hasShortPatterns = true) (row : Row) (unknown : Bool) :
    e.meetsLongPattern row unknown = false := by
  induction e generalizing unknown with
  | binary op l r ihl ihr =>
    rw [hasShortPatterns, Bool.and_eq_true, Bool.and_eq_true] at h
    obtain ⟨⟨hl, hr⟩, hop⟩ := h
    cases op with
    | like | notLike =>
      have htext : r.isShortText = true := by simpa using hop
      simp [meetsLongPattern, ihl hl, ihr hr, not_isLongPattern htext row]
    | _ => simp [meetsLongPattern, ihl hl, ihr hr]
  | enclosed _ e ih | negated _ e ih | minus e ih | isNull e ih | notNull _ e ih | cast _ e ih | monthsLater e _ ih
  | packedDay e ih =>
    rw [hasShortPatterns] at h
    rw [meetsLongPattern, ih h]
  | _ => rfl

/-- A conjunction of truth values. -/
def chain (n : Nat) : Expr := (List.replicate n (truth true)).foldl (binary .and) (truth true)

theorem chain_succ (n : Nat) : chain (n + 1) = binary .and (chain n) (truth true) := by
  rw [chain, List.replicate_succ', List.foldl_append, List.foldl_cons, List.foldl_nil, chain]

/-- Each part of a conjunction is one level more. -/
theorem shape?_chain (n : Nat) : (chain n).shape? = if n < maxHeight then some ⟨n + 1, false, false⟩ else none := by
  induction n with
  | zero => rfl
  | succ n ih =>
    have htruth : (truth true).shape? = some .leaf := rfl
    rw [chain_succ, shape?, ih, htruth]
    by_cases h : n < maxHeight
    · rw [if_pos h]
      have hbeside : Shape.beside ⟨n + 1, false, false⟩ .leaf = ⟨n + 1, false, false⟩ := by
        rw [Shape.beside, Shape.leaf, Nat.max_eq_left (Nat.le_add_left 1 n), Bool.or_false]
      show (Shape.beside ⟨n + 1, false, false⟩ .leaf).above? 1 = _
      rw [hbeside, Shape.above?]
      rfl
    · rw [if_neg h, if_neg (by omega)]

/-- A conjunction of more than a thousand parts is too high. -/
theorem isShallow_chain (n : Nat) : (chain n).isShallow = decide (n < maxHeight) := by
  rw [isShallow, shape?_chain]
  split <;> simp [*]

end MailQuery.Sql.Expr
