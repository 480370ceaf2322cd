import MailQuery.Search.Arithmetic
import MailQuery.Sql.Operand
import MailQuery.Store.Row

/-!
# Cells of integers and texts

What the operators of the database do with cells that hold integers, truth values and texts. These are the cells
of the columns, so that no real number occurs in them, and a comparison or conjunction of them is known to be true
or false.

The last part is about patterns: one that ends with `%` looks for a prefix and one that starts with `%` looks for a
suffix, without regard to the case of ASCII letters. A pattern with wildcards in it may be like more texts, but it is
always like the text that is written the same (`isLike_append`).
-/

namespace MailQuery.Sql

open Text

namespace Cell

/-! ### Truth values -/

@[simp] theorem truth?_ofBool (b : Bool) : (ofBool b).truth? = some b := by
  cases b <;> rfl

@[simp] theorem truth?_ofTruth? (b? : Option Bool) : (ofTruth? b?).truth? = b? := by
  cases b? with
  | none => rfl
  | some b => exact truth?_ofBool b

@[simp] theorem and?_some (a b : Bool) : and? (some a) (some b) = some (a && b) := by
  cases a <;> cases b <;> rfl

@[simp] theorem or?_some (a b : Bool) : or? (some a) (some b) = some (a || b) := by
  cases a <;> cases b <;> rfl

theorem and?_false (b? : Option Bool) : and? (some false) b? = some false := by
  cases b? <;> rfl

/-! ### Integers -/

/-- Integers are compared by size, whatever they are taken for. -/
theorem compareWith_int (accept : Ordering → Bool) (affinity : Affinity) (a b : Int64) :
    compareWith accept affinity (int a) (int b) = ofBool (accept (compareOfLessAndEq a b)) := by
  cases affinity <;> rfl

/-- An operation on integers is exact where its value has 64 bits. -/
theorem calculate_int {exact : Int → Int → Int} {real : Float → Float → Float} {a b k : Int64}
    (hk : int64? (exact a.toInt b.toInt) = some k) : calculate exact real (int a) (int b) = int k := by
  unfold calculate
  simp only [number, hk]

theorem divide_int {a b k : Int64} (hb : b ≠ 0) (hk : int64? (a.toInt.tdiv b.toInt) = some k) :
    divide (int a) (int b) = int k := by
  show (if b = 0 then null else calculate Int.tdiv (· / ·) (int a) (int b)) = int k
  rw [if_neg hb]
  exact calculate_int hk

end Cell

/-- A comparison of the database and one of values accept the same orders. -/
theorem apply_operator (c : Comparison) (affinity : Cell.Affinity) (a b : Int64) :
    (Operand.operator c).apply affinity (.int a) (.int b) =
      .ofBool (Search.comparisonHolds c (compareOfLessAndEq a b)) := by
  cases c with
  | equal =>
    show Cell.compareWith (· == .eq) affinity (.int a) (.int b) = _
    rw [Cell.compareWith_int]
    cases compareOfLessAndEq a b <;> rfl
  | less =>
    show Cell.compareWith (· == .lt) affinity (.int a) (.int b) = _
    rw [Cell.compareWith_int]
    cases compareOfLessAndEq a b <;> rfl
  | greater =>
    show Cell.compareWith (· == .gt) affinity (.int a) (.int b) = _
    rw [Cell.compareWith_int]
    cases compareOfLessAndEq a b <;> rfl

/-! ### Patterns -/

namespace Cell

/-- A text without the characters that have a meaning of their own in patterns, or that end a text. -/
def IsLiteral (ps : List Char) : Prop := ∀ c ∈ ps, c ≠ '%' ∧ c ≠ '_' ∧ c ≠ '\x00'

theorem mem_suffixes {α : Type} {xs ys : List α} : ys ∈ suffixes xs ↔ ys <:+ xs := by
  induction xs with
  | nil =>
    rw [suffixes, List.mem_singleton, List.suffix_nil]
  | cons x xs ih => rw [suffixes, List.mem_cons, ih, List.suffix_cons_iff]

/-- The pattern behind `%` is tried on every end of the text. -/
theorem isLike_any_cons (ps cs : List Char) : isLike ('%' :: ps) cs = (suffixes cs).any (isLike ps) := rfl

theorem isLike_cons_nil {p : Char} (hp : p ≠ '%') (ps : List Char) : isLike (p :: ps) [] = false := by
  show (if p = '%' then _ else _) = _
  rw [if_neg hp]

theorem isLike_cons_cons {p : Char} (hany : p ≠ '%') (hone : p ≠ '_') (ps : List Char) (c : Char)
    (cs : List Char) : isLike (p :: ps) (c :: cs) = (p.toLower == c.toLower && isLike ps cs) := by
  show (if p = '%' then _ else ((p = '_' || p.toLower == c.toLower) && isLike ps cs)) = _
  rw [if_neg hany, decide_eq_false hone, Bool.false_or]

/-- A literal pattern is only like a text that differs from it in case. -/
theorem isLike_literal {ps : List Char} (hps : IsLiteral ps) (cs : List Char) :
    isLike ps cs = (ps.map Char.toLower == cs.map Char.toLower) := by
  induction ps generalizing cs with
  | nil => cases cs <;> rfl
  | cons p ps ih =>
    obtain ⟨hany, hone, -⟩ := hps p (List.mem_cons_self ..)
    cases cs with
    | nil => exact isLike_cons_nil hany ps
    | cons c cs =>
      rw [isLike_cons_cons hany hone, ih fun d hd => hps d (List.mem_cons_of_mem _ hd)]
      rfl

/-- A literal pattern in front of `%` looks for a prefix. -/
theorem isLike_append_any {ps : List Char} (hps : IsLiteral ps) (cs : List Char) :
    isLike (ps ++ ['%']) cs = (ps.map Char.toLower).isPrefixOf (cs.map Char.toLower) := by
  induction ps generalizing cs with
  | nil =>
    show (suffixes cs).any (isLike []) = true
    exact List.any_eq_true.2 ⟨[], mem_suffixes.2 (List.nil_suffix ..), rfl⟩
  | cons p ps ih =>
    obtain ⟨hany, hone, -⟩ := hps p (List.mem_cons_self ..)
    rw [List.cons_append]
    cases cs with
    | nil => exact isLike_cons_nil hany _
    | cons c cs =>
      rw [isLike_cons_cons hany hone, ih fun d hd => hps d (List.mem_cons_of_mem _ hd)]
      rfl

/-- A literal pattern behind `%` looks for a suffix. -/
theorem isLike_any_literal {ps : List Char} (hps : IsLiteral ps) (cs : List Char) :
    isLike ('%' :: ps) cs = (ps.map Char.toLower).isSuffixOf (cs.map Char.toLower) := by
  rw [isLike_any_cons, Bool.eq_iff_iff, List.any_eq_true, List.isSuffixOf_iff_suffix]
  constructor
  · rintro ⟨tail, htail, hlike⟩
    rw [isLike_literal hps, beq_iff_eq] at hlike
    rw [hlike]
    exact (mem_suffixes.1 htail).map Char.toLower
  · intro hsuffix
    obtain ⟨tail, htail, heq⟩ := List.suffix_map_iff.1 hsuffix
    refine ⟨tail, mem_suffixes.2 htail, ?_⟩
    rw [isLike_literal hps, heq, beq_self_eq_true]

/-- **A text is like itself, whatever stands in it**, and like what differs from it in case: a wildcard of the pattern is met
by the same character of the text. The rest of the pattern is compared with the rest of the text. -/
theorem isLike_append {ps cs : List Char} (h : ps.map Char.toLower = cs.map Char.toLower) {qs ds : List Char}
    (hrest : isLike qs ds = true) : isLike (ps ++ qs) (cs ++ ds) = true := by
  induction ps generalizing cs with
  | nil =>
    obtain rfl : cs = [] := List.map_eq_nil_iff.1 h.symm
    exact hrest
  | cons p ps ih =>
    cases cs with
    | nil => cases h
    | cons c cs =>
      obtain ⟨hhead, htail⟩ := List.cons_eq_cons.1 h
      have hlike := ih htail
      rw [List.cons_append, List.cons_append]
      by_cases hany : p = '%'
      · rw [hany, isLike_any_cons, List.any_eq_true]
        exact ⟨cs ++ ds, mem_suffixes.2 (List.suffix_cons ..), hlike⟩
      · show (if p = '%' then _ else ((p = '_' || p.toLower == c.toLower) && isLike (ps ++ qs) (cs ++ ds))) = true
        rw [if_neg hany, hhead, beq_self_eq_true, Bool.or_true, hlike]
        rfl

theorem isLike_any_of_suffix {ps cs ds : List Char} (hsuffix : ds <:+ cs) (h : isLike ps ds = true) :
    isLike ('%' :: ps) cs = true := by
  rw [isLike_any_cons, List.any_eq_true]
  exact ⟨ds, mem_suffixes.2 hsuffix, h⟩

theorem isLike_any (cs : List Char) : isLike ['%'] cs = true := isLike_any_of_suffix List.nil_suffix rfl

/-- A pattern between two `%` is like every text in which it stands. -/
theorem isLike_of_infix {ps cs : List Char} (h : ps <:+: cs) : isLike ('%' :: (ps ++ ['%'])) cs = true := by
  obtain ⟨before, after, rfl⟩ := h
  rw [List.append_assoc]
  exact isLike_any_of_suffix (List.suffix_append ..) (isLike_append rfl (isLike_any after))

/-- A literal pattern between two `%` looks for a part. -/
theorem isLike_any_append_any {ps : List Char} (hps : IsLiteral ps) (cs : List Char) :
    isLike ('%' :: (ps ++ ['%'])) cs = isInfix (ps.map Char.toLower) (cs.map Char.toLower) := by
  rw [isLike_any_cons, Bool.eq_iff_iff, List.any_eq_true, isInfix_iff, List.infix_iff_prefix_suffix]
  constructor
  · rintro ⟨tail, htail, hlike⟩
    rw [isLike_append_any hps, List.isPrefixOf_iff_prefix] at hlike
    exact ⟨_, hlike, (mem_suffixes.1 htail).map Char.toLower⟩
  · rintro ⟨tail', hprefix, hsuffix⟩
    obtain ⟨tail, htail, rfl⟩ := List.suffix_map_iff.1 hsuffix
    refine ⟨tail, mem_suffixes.2 htail, ?_⟩
    rw [isLike_append_any hps, List.isPrefixOf_iff_prefix]
    exact hprefix

theorem untilNul_eq_self {cs : List Char} (h : '\x00' ∉ cs) : untilNul cs = cs := by
  induction cs with
  | nil => rfl
  | cons c cs ih =>
    have hc : (c != '\x00') = true := bne_iff_ne.2 fun heq => h (heq ▸ List.mem_cons_self ..)
    have hcs : untilNul cs = cs := ih fun hmem => h (List.mem_cons_of_mem _ hmem)
    rw [untilNul, List.takeWhile_cons, if_pos hc]
    exact congrArg (c :: ·) hcs

/-- A text without a character 0 is matched as a whole. -/
theorem like?_text {value pattern : String} (hvalue : '\x00' ∉ value.toList)
    (hpattern : '\x00' ∉ pattern.toList) :
    like? (text value) (text pattern) = some (isLike pattern.toList value.toList) := by
  show some (isLike (untilNul pattern.toList) (untilNul value.toList)) = _
  rw [untilNul_eq_self hvalue, untilNul_eq_self hpattern]

end Cell

end MailQuery.Sql
