import MailQuery.Proofs.Sql.Words

/-!
# Words that an expression spells

`Expr.words` writes down the words of an expression. The text of a readable expression (`Expr.IsReadable`) is cut into
just these words (`Expr.IsReadable.spells`), unless it has a character 0 in it.
-/

namespace MailQuery.Sql

open Text

/-! ### Words of expressions -/

/-- The words of an operator. -/
def Operator.words : Operator → List Word
  | or => [.name "OR"]
  | and => [.name "AND"]
  | like => [.name "LIKE"]
  | notLike => [.name "NOT", .name "LIKE"]
  | op => [.mark op.sql]

namespace Expr

/-- The words of an expression. A text that stands for itself has none of its own. -/
def words : Expr → List Word
  | column c => [.name c.name]
  | int n => if n < 0 then [.mark "-", .number n.toInt.natAbs] else [.number n.toInt.natAbs]
  | string s => [.string s]
  | null => [.name "NULL"]
  | enclosed _ e => .mark "(" :: (e.words ++ [.mark ")"])
  | binary op l r => l.words ++ (op.words ++ r.words)
  | negated small e => .name (if small then "not" else "NOT") :: e.words
  | minus e => .mark "-" :: e.words
  | isNull e => e.words ++ [.name "IS", .name "NULL"]
  | notNull long e => e.words ++ if long then [.name "IS", .name "NOT", .name "NULL"] else [.name "NOTNULL"]
  | cast type e => .name "CAST" :: .mark "(" :: (e.words ++ [.name "AS", .name type.sql, .mark ")"])
  | monthsLater e months =>
    .name "strftime" :: .mark "(" :: .string "%s" :: .mark "," ::
      (e.words ++ [.mark ",", .string "unixepoch", .mark ",", .string (signed months ++ " months"), .mark ")"])
  | packedDay e =>
    .name "strftime" :: .mark "(" :: .string "%Y%m%d" :: .mark "," ::
      (e.words ++ [.mark ",", .string "unixepoch", .mark ",", .string "localtime", .mark ")"])
  | written _ => []

/-- How strongly an expression holds together. Between parentheses and in calls, everything does. -/
def level : Expr → Nat
  | binary op _ _ => op.level
  | negated _ _ => 3
  | isNull _ | notNull _ _ => 4
  | _ => 10

/-- An expression of the kinds that are compiled to, with parentheses wherever its operators would bind in another
way. -/
inductive IsReadable : Expr → Prop where
  | column (c : Column) : IsReadable (column c)
  | int (n : Int64) : IsReadable (int n)
  | string (value : String) : IsReadable (string value)
  | enclosed {e : Expr} (wide : Bool) (h : e.IsReadable) : IsReadable (enclosed wide e)
  | binary {op : Operator} {l r : Expr} (hop : op ≠ .multiply) (hleft : op.level ≤ l.level) (hright : op.level < r.level)
      (hl : l.IsReadable) (hr : r.IsReadable) : IsReadable (binary op l r)
  | negated {e : Expr} (small : Bool) (hlevel : 3 ≤ e.level) (h : e.IsReadable) : IsReadable (negated small e)
  | notNull {e : Expr} (long : Bool) (hlevel : 4 ≤ e.level) (h : e.IsReadable) : IsReadable (notNull long e)
  | cast {e : Expr} (type : CastType) (h : e.IsReadable) : IsReadable (cast type e)
  | monthsLater {e : Expr} (months : Int64) (h : e.IsReadable) : IsReadable (monthsLater e months)
  | packedDay {e : Expr} (h : e.IsReadable) : IsReadable (packedDay e)

end Expr

/-- An operator is spelled by its words. Its sign starts no comment, as it stands in front of a space. -/
theorem Spells.operator (op : Operator) : Spells op.sql.toList op.words := by
  cases op with
  | or => exact name _ (by decide)
  | and => exact name _ (by decide)
  | like => exact name _ (by decide)
  | notLike => exact append_blank (name "NOT" (by decide)) (name "LIKE" (by decide))
  | _ =>
    refine word fun rest hrest => ?_
    rcases hrest.cases with rfl | ⟨cs, rfl | rfl | rfl | rfl⟩ <;> exact ⟨rfl, rfl⟩

/-- The text of an integer is its digits, with a sign before them if it is negative. -/
theorem toList_decimal (n : Int64) :
    (decimal n).toList = if n < 0 then '-' :: Nat.toDigits 10 n.toInt.natAbs else Nat.toDigits 10 n.toInt.natAbs := by
  have hneg : n < 0 ↔ n.toInt < 0 := Int64.lt_iff_toInt_lt
  rw [decimal, Int.toString_eq_repr, Int.repr_eq_if]
  by_cases h : n.toInt < 0
  · rw [if_neg (by omega), if_pos (hneg.2 h), String.toList_append, Nat.toList_repr]
    have habs : (-n.toInt).toNat = n.toInt.natAbs := by omega
    rw [habs]
    rfl
  · rw [if_pos (by omega), if_neg (mt hneg.1 h), Nat.toList_repr]
    have habs : n.toInt.toNat = n.toInt.natAbs := by omega
    rw [habs]

theorem Spells.decimal (n : Int64) : Spells (decimal n).toList (Expr.int n).words := by
  rw [toList_decimal, Expr.words]
  split
  · exact minus
  · exact digits _

/-! ### Texts of expressions -/

namespace Expr

theorem toList_sql_enclosed_true (e : Expr) :
    (enclosed true e).sql.toList = '(' :: ' ' :: (e.sql.toList ++ [' ', ')']) := by
  show ("( " ++ e.sql ++ " )").toList = _
  simp

theorem toList_sql_enclosed_false (e : Expr) : (enclosed false e).sql.toList = '(' :: (e.sql.toList ++ [')']) := by
  show ("(" ++ e.sql ++ ")").toList = _
  simp

theorem toList_sql_binary (op : Operator) (l r : Expr) :
    (binary op l r).sql.toList = l.sql.toList ++ ' ' :: (op.sql.toList ++ ' ' :: r.sql.toList) := by
  show (l.sql ++ " " ++ op.sql ++ " " ++ r.sql).toList = _
  simp

theorem toList_sql_negated (small : Bool) (e : Expr) :
    (negated small e).sql.toList = (if small then "not" else "NOT").toList ++ ' ' :: e.sql.toList := by
  show ((if small then "not " else "NOT ") ++ e.sql).toList = _
  cases small <;> simp

theorem toList_sql_notNull_true (e : Expr) :
    (notNull true e).sql.toList = e.sql.toList ++ ' ' :: ("IS".toList ++ ' ' :: ("NOT".toList ++ ' ' :: "NULL".toList)) := by
  show (e.sql ++ " IS NOT NULL").toList = _
  simp

theorem toList_sql_notNull_false (e : Expr) :
    (notNull false e).sql.toList = e.sql.toList ++ ' ' :: "NOTNULL".toList := by
  show (e.sql ++ " NOTNULL").toList = _
  simp

theorem toList_sql_cast (type : CastType) (e : Expr) :
    (cast type e).sql.toList =
      "CAST".toList ++ '(' :: (e.sql.toList ++ ' ' :: ("AS".toList ++ ' ' :: (type.sql.toList ++ [')']))) := by
  show ("CAST(" ++ e.sql ++ " AS " ++ type.sql ++ ")").toList = _
  simp

/-- The text of a call of `strftime`, in which all arguments but the second one are strings. -/
theorem toList_strftime {text : String} (format modifier : String) (e : Expr)
    (htext : text = "strftime(" ++ quote format ++ ", " ++ e.sql ++ ", 'unixepoch', " ++ quote modifier ++ ")") :
    text.toList = "strftime".toList ++ '(' :: ((quote format).toList ++ ',' :: ' ' :: (e.sql.toList ++ ',' :: ' ' ::
      ((quote "unixepoch").toList ++ ',' :: ' ' :: ((quote modifier).toList ++ [')'])))) := by
  have hunit : quote "unixepoch" = "'unixepoch'" := by rfl
  rw [htext, hunit]
  simp

theorem sql_packedDay (e : Expr) :
    (packedDay e).sql =
      "strftime(" ++ quote "%Y%m%d" ++ ", " ++ e.sql ++ ", 'unixepoch', " ++ quote "localtime" ++ ")" := by
  have hformat : quote "%Y%m%d" = "'%Y%m%d'" := by rfl
  have hmodifier : quote "localtime" = "'localtime'" := by rfl
  refine String.toList_inj.1 ?_
  rw [hformat, hmodifier]
  show ("strftime('%Y%m%d', " ++ e.sql ++ ", 'unixepoch', 'localtime')").toList = _
  simp

end Expr

theorem doubled_of_not_mem {mark : Char} {cs : List Char} (h : mark ∉ cs) : doubled mark cs = cs := by
  induction cs with
  | nil => rfl
  | cons c cs ih =>
    rw [List.mem_cons, not_or] at h
    rw [doubled, List.flatMap_cons, if_neg (Ne.symm h.1)]
    exact congrArg (c :: ·) (ih h.2)

theorem mem_doubled_iff {mark c : Char} {cs : List Char} : c ∈ doubled mark cs ↔ c ∈ cs := by
  have hsingle : ∀ d, (c ∈ if d = mark then [d, d] else [d]) ↔ c = d := by
    intro d
    split <;> simp
  simp [doubled, List.mem_flatMap, hsingle]

theorem mem_quote_iff {c : Char} (hc : c ≠ '\'') {value : String} :
    c ∈ (quote value).toList ↔ c ∈ value.toList := by
  simp [quote, hc, mem_doubled_iff]

theorem not_mem_digits {c : Char} (hc : c.isDigit = false) (m : Nat) : c ∉ Nat.toDigits 10 m := by
  intro hmem
  rw [Nat.isDigit_of_mem_toDigits (by decide) (by decide) hmem] at hc
  cases hc

theorem not_mem_decimal {c : Char} (hc : c.isDigit = false) (hdash : c ≠ '-') (n : Int64) : c ∉ (decimal n).toList := by
  rw [toList_decimal]
  split
  · exact List.not_mem_cons_of_ne_of_not_mem hdash (not_mem_digits hc _)
  · exact not_mem_digits hc _

theorem not_mem_months {c : Char} (hc : c.isDigit = false) (hrest : c ∉ "+- months".toList) (n : Int64) :
    c ∉ (signed n ++ " months").toList := by
  have hchars : ∀ d ∈ ['+', '-'], c ≠ d := by
    rintro d hd rfl
    exact hrest (by revert hd; simp; rintro (rfl | rfl) <;> simp)
  rw [signed, String.toList_append, String.toList_append, List.mem_append, List.mem_append]
  rintro ((hmem | hmem) | hmem)
  · split at hmem
    · exact hchars '+' (by decide) (List.mem_singleton.1 hmem)
    · cases hmem
  · exact not_mem_decimal hc (hchars '-' (by decide)) n hmem
  · exact hrest (List.mem_append_right ['+', '-'] hmem)

theorem Expr.sql_monthsLater (e : Expr) (months : Int64) :
    (monthsLater e months).sql =
      "strftime(" ++ quote "%s" ++ ", " ++ e.sql ++ ", 'unixepoch', " ++ quote (signed months ++ " months") ++ ")" := by
  have hformat : quote "%s" = "'%s'" := by rfl
  have hmodifier : quote (signed months ++ " months") = "'" ++ (signed months ++ " months") ++ "'" := by
    rw [quote, doubled_of_not_mem (not_mem_months (by decide) (by decide) months)]
    exact String.toList_inj.1 (by simp)
  refine String.toList_inj.1 ?_
  rw [hformat, hmodifier]
  show ("strftime('%s', " ++ e.sql ++ ", 'unixepoch', '" ++ signed months ++ " months')").toList = _
  simp

/-! ### Words of whole expressions -/

theorem Spells.strftime {format modifier : String} {e : Expr} {text : String} (he : Spells e.sql.toList e.words)
    (hformat : '\x00' ∉ format.toList) (hmodifier : '\x00' ∉ modifier.toList)
    (htext : text = "strftime(" ++ Sql.quote format ++ ", " ++ e.sql ++ ", 'unixepoch', " ++ Sql.quote modifier ++ ")") :
    Spells text.toList (.name "strftime" :: .mark "(" :: .string format :: .mark "," ::
      (e.words ++ [.mark ",", .string "unixepoch", .mark ",", .string modifier, .mark ")"])) := by
  have hparts : ∀ cs, Parts (',' :: cs) := .cons (by decide)
  have hlast := (Spells.quote hmodifier).append nil.closing (.cons (by decide) _)
  have hepoch : Spells (Sql.quote "unixepoch").toList [.string "unixepoch"] := .quote (by decide)
  have hunit := hepoch.append hlast.comma (hparts _)
  have harguments := (Spells.quote hformat).append (he.append hunit.comma (hparts _)).comma (hparts _)
  rw [Expr.toList_strftime format modifier e htext]
  exact (name "strftime" (by decide)).append harguments.opening (.cons (by decide) _)

/-- **The text of an expression is cut into its words.** -/
theorem Expr.IsReadable.spells {e : Expr} (h : e.IsReadable) (huncut : '\x00' ∉ e.sql.toList) :
    Spells e.sql.toList e.words := by
  induction h with
  | column c => exact .name _ (by cases c <;> decide)
  | int n => exact .decimal n
  | string value =>
    exact .quote (mt (mem_quote_iff (by decide)).2 huncut)
  | @enclosed e wide _ ih =>
    cases wide with
    | false =>
      rw [toList_sql_enclosed_false] at huncut ⊢
      have he := ih (by simp_all)
      exact (he.append Spells.nil.closing (.cons (by decide) _)).opening
    | true =>
      rw [toList_sql_enclosed_true] at huncut ⊢
      have he := ih (by simp_all)
      exact (he.append_blank Spells.nil.closing).blank.opening
  | binary _ _ _ _ _ ihl ihr =>
    rw [toList_sql_binary] at huncut ⊢
    have hl := ihl (by simp_all)
    have hr := ihr (by simp_all)
    exact hl.append_blank ((Spells.operator _).append_blank hr)
  | negated small _ _ ih =>
    rw [toList_sql_negated] at huncut ⊢
    have he := ih (by simp_all)
    exact (Spells.name _ (by cases small <;> decide)).append_blank he
  | notNull long _ _ ih =>
    cases long with
    | false =>
      rw [toList_sql_notNull_false] at huncut ⊢
      have he := ih (by simp_all)
      exact he.append_blank (.name _ (by decide))
    | true =>
      rw [toList_sql_notNull_true] at huncut ⊢
      have he := ih (by simp_all)
      have htest := (Spells.name "NOT" (by decide)).append_blank (Spells.name "NULL" (by decide))
      exact he.append_blank ((Spells.name "IS" (by decide)).append_blank htest)
  | cast type _ ih =>
    rw [toList_sql_cast] at huncut ⊢
    have he := ih (by simp_all)
    have htype : Spells type.sql.toList [.name type.sql] := .name _ (by cases type <;> decide)
    have has := (Spells.name "AS" (by decide)).append_blank
      (htype.append Spells.nil.closing (.cons (by decide) _))
    exact (Spells.name "CAST" (by decide)).append (he.append_blank has).opening (.cons (by decide) _)
  | @monthsLater e months _ ih =>
    have hnul := not_mem_months (c := '\x00') (by decide) (by decide) months
    refine Spells.strftime (ih fun hmem => huncut ?_) (by decide) hnul (sql_monthsLater e months)
    rw [toList_strftime _ _ _ (sql_monthsLater e months)]
    simp [hmem]
  | @packedDay e _ ih =>
    refine Spells.strftime (ih fun hmem => huncut ?_) (by decide) (by decide) (sql_packedDay e)
    rw [toList_strftime _ _ _ (sql_packedDay e)]
    simp [hmem]

end MailQuery.Sql
