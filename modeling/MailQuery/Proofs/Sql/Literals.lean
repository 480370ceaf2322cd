import Mathlib.Data.List.Infix
import MailQuery.Proofs.Sql.Spelling

/-!
# String literals in the text of expressions

`outside?` scans a text for string literals by the rule of SQL, by which two quotation marks inside of a literal stand
for one, and gives what stands outside of them. A text is confined (`IsConfined`) if every literal is closed and what
stands outside has balanced parentheses and nothing that ends a statement, starts a name or starts a comment.

Confined texts do not join to a confined text, since two of them may make a comment where they meet. `IsSealed` is
the stronger property that does: it has one rule for each way in which the text of an expression is put together,
with quoting (`IsSealed.quote`) as the one that takes any text. So the texts of all readable expressions are sealed
(`Expr.IsSealed.of_isReadable`).
-/

namespace MailQuery.Sql

open Text

/-! ### Scanning -/

/-- What stands outside of the string literals of a text, if each of them is closed. The scan may start inside of a
literal, where two quotation marks stand for one. -/
def outside? : (inLiteral : Bool) → List Char → Option (List Char)
  | false, [] => some []
  | true, [] => none
  | true, '\'' :: '\'' :: cs => outside? true cs
  | true, '\'' :: cs => outside? false cs
  | true, _ :: cs => outside? true cs
  | false, '\'' :: cs => outside? true cs
  | false, c :: cs => (outside? false cs).map (c :: ·)

/-- Parentheses match: none is closed before it was opened, and all are closed in the end. -/
structure IsBalanced (cs : List Char) : Prop where
  opened : ∀ n, (cs.take n).count ')' ≤ (cs.take n).count '('
  closed : cs.count '(' = cs.count ')'

/-- A text from whose string literals nothing escapes. -/
def IsConfined (sql : String) : Prop :=
  ∃ rest, outside? false sql.toList = some rest ∧ IsBalanced rest ∧ ';' ∉ rest ∧ '"' ∉ rest ∧
    ¬ ['-', '-'] <:+: rest ∧ ¬ ['/', '*'] <:+: rest

/-- A quotation mark ends the literal, also where the one behind it starts the next. -/
theorem outside?_true_quote (cs : List Char) : outside? true ('\'' :: cs) = outside? false cs := by
  cases cs with
  | nil => rfl
  | cons c cs =>
    by_cases hc : c = '\''
    · subst hc
      rw [outside?, outside?]
    · rw [outside?.eq_4]
      rintro ds heq
      exact hc (List.cons.inj heq).1

theorem outside?_false_quote (cs : List Char) : outside? false ('\'' :: cs) = outside? true cs := by
  rw [outside?]

theorem outside?_true_cons {c : Char} (hc : c ≠ '\'') (cs : List Char) :
    outside? true (c :: cs) = outside? true cs := by
  rw [outside?]
  · rintro ds rfl
    exact absurd rfl hc
  · exact hc

theorem outside?_false_cons {c : Char} (hc : c ≠ '\'') (cs : List Char) :
    outside? false (c :: cs) = (outside? false cs).map (c :: ·) := by
  rw [outside?]
  exact hc

/-- Behind a text whose literals are closed, the scan starts anew. -/
theorem outside?_append {b : Bool} {as out : List Char} (h : outside? b as = some out) (cs : List Char) :
    outside? b (as ++ cs) = (outside? false cs).map (out ++ ·) := by
  induction as generalizing b out with
  | nil =>
    cases b with
    | false =>
      cases h
      simp
    | true => cases h
  | cons a as ih =>
    rw [List.cons_append]
    by_cases ha : a = '\''
    · subst ha
      cases b with
      | false =>
        rw [outside?_false_quote] at h ⊢
        exact ih h
      | true =>
        rw [outside?_true_quote] at h ⊢
        exact ih h
    · cases b with
      | false =>
        rw [outside?_false_cons ha] at h ⊢
        obtain ⟨rest, hrest, rfl⟩ := Option.map_eq_some_iff.1 h
        rw [ih hrest, Option.map_map]
        rfl
      | true =>
        rw [outside?_true_cons ha] at h ⊢
        exact ih h

/-- A text without quotation marks stands outside as a whole. -/
theorem outside?_of_not_mem {cs : List Char} (h : '\'' ∉ cs) : outside? false cs = some cs := by
  induction cs with
  | nil => rfl
  | cons c cs ih =>
    rw [List.mem_cons, not_or] at h
    rw [outside?_false_cons (Ne.symm h.1), ih h.2]
    rfl

/-- Inside of a literal, a text with its quotation marks doubled does not come to the end of the literal. -/
theorem outside?_doubled (cs rest : List Char) :
    outside? true (doubled '\'' cs ++ rest) = outside? true rest := by
  induction cs with
  | nil => rfl
  | cons c cs ih =>
    rw [doubled, List.flatMap_cons, List.append_assoc]
    split
    · next hc =>
      subst hc
      rw [List.cons_append, outside?_true_quote, List.singleton_append, outside?_false_quote]
      exact ih
    · next hc =>
      rw [List.singleton_append, outside?_true_cons hc]
      exact ih

/-! ### Balance -/

namespace IsBalanced

variable {as bs cs : List Char}

theorem of_not_mem (hopen : '(' ∉ cs) (hclose : ')' ∉ cs) : IsBalanced cs := by
  refine ⟨fun n => ?_, ?_⟩
  · rw [List.count_eq_zero_of_not_mem fun hmem => hclose (List.mem_of_mem_take hmem)]
    exact Nat.zero_le _
  · rw [List.count_eq_zero_of_not_mem hopen, List.count_eq_zero_of_not_mem hclose]

theorem append (has : IsBalanced as) (hbs : IsBalanced bs) : IsBalanced (as ++ bs) := by
  refine ⟨fun n => ?_, ?_⟩
  · rw [List.take_append, List.count_append, List.count_append]
    exact Nat.add_le_add (has.opened n) (hbs.opened _)
  · rw [List.count_append, List.count_append, has.closed, hbs.closed]

theorem enclosed (h : IsBalanced cs) : IsBalanced ('(' :: cs ++ [')']) := by
  refine ⟨fun n => ?_, ?_⟩
  · cases n with
    | zero => exact Nat.le_refl _
    | succ n =>
      -- The closing parenthesis counts at most once, and the opening one is there before it.
      have hlast : ([')'].take (n - cs.length)).count ')' ≤ 1 :=
        Nat.le_trans List.count_le_length (List.length_take_le' _ _)
      have hinner := h.opened n
      rw [List.cons_append, List.take_succ_cons, List.take_append, List.count_cons_self,
        List.count_cons_of_ne (by decide), List.count_append, List.count_append]
      omega
  · have hclosed := h.closed
    simp only [List.cons_append, List.count_cons, List.count_append, List.count_nil]
    simp [hclosed]

end IsBalanced

/-! ### Sealed texts -/

/-- A text with which nothing ends and no name or comment starts, neither in itself nor where such a text goes on. -/
structure IsQuiet (cs : List Char) : Prop where
  chars : ∀ c ∈ cs, c ∉ [';', '"', '*']
  apart : ¬ ['-', '-'] <:+: cs
  last : cs.getLast? ≠ some '-'

theorem IsQuiet.append {as bs : List Char} (has : IsQuiet as) (hbs : IsQuiet bs) : IsQuiet (as ++ bs) := by
  refine ⟨?_, ?_, ?_⟩
  · intro c hc
    rcases List.mem_append.1 hc with hc | hc
    · exact has.chars c hc
    · exact hbs.chars c hc
  · intro hdashes
    rcases List.infix_append_iff_ne_nil.1 hdashes with hin | hin | ⟨before, after, hbefore, hafter, heq, hsuffix, -⟩
    · exact has.apart hin
    · exact hbs.apart hin
    · -- Where the texts meet, the first one would have to end with a dash.
      obtain rfl : before = ['-'] := by
        rcases List.append_eq_cons_iff.1 heq.symm with ⟨hnil, -⟩ | ⟨cs, rfl, hcs⟩
        · exact absurd hnil hbefore
        · rcases List.append_eq_cons_iff.1 hcs.symm with ⟨rfl, -⟩ | ⟨ds, -, hds⟩
          · rfl
          · exact absurd (List.append_eq_nil_iff.1 hds.symm).2 hafter
      obtain ⟨front, rfl⟩ := hsuffix
      exact has.last List.getLast?_concat
  · intro hlast
    rw [List.getLast?_append] at hlast
    rcases Option.or_eq_some_iff.1 hlast with hlast | ⟨-, hlast⟩
    · exact hbs.last hlast
    · exact has.last hlast

/-- A quiet text without quotation marks and parentheses. -/
structure IsPlain (cs : List Char) : Prop extends IsQuiet cs where
  unmarked : ∀ c ∈ cs, c ∉ ['\'', '(', ')']

instance (cs : List Char) : Decidable (IsPlain cs) :=
  decidable_of_iff (((∀ c ∈ cs, c ∉ [';', '"', '*']) ∧ ¬ ['-', '-'] <:+: cs ∧ cs.getLast? ≠ some '-') ∧
      ∀ c ∈ cs, c ∉ ['\'', '(', ')'])
    ⟨fun ⟨⟨hchars, hapart, hlast⟩, hunmarked⟩ => ⟨⟨hchars, hapart, hlast⟩, hunmarked⟩,
      fun h => ⟨⟨h.chars, h.apart, h.last⟩, h.unmarked⟩⟩

/-- A text whose literals are closed, with balanced parentheses and a quiet text outside of them. -/
def IsSealed (cs : List Char) : Prop := ∃ out, outside? false cs = some out ∧ IsBalanced out ∧ IsQuiet out

namespace IsSealed

variable {as bs cs : List Char}

theorem append (has : IsSealed as) (hbs : IsSealed bs) : IsSealed (as ++ bs) := by
  obtain ⟨out, hout, hbalanced, hquiet⟩ := has
  obtain ⟨out', hout', hbalanced', hquiet'⟩ := hbs
  refine ⟨out ++ out', ?_, hbalanced.append hbalanced', hquiet.append hquiet'⟩
  rw [outside?_append hout, hout']
  rfl

theorem plain (h : IsPlain cs) : IsSealed cs := by
  have hnot : ∀ c ∈ ['\'', '(', ')'], c ∉ cs := fun c hc hmem => h.unmarked c hmem hc
  exact ⟨cs, outside?_of_not_mem (hnot _ (by decide)), .of_not_mem (hnot _ (by decide)) (hnot _ (by decide)),
    h.toIsQuiet⟩

theorem enclosed (h : IsSealed cs) : IsSealed ('(' :: cs ++ [')']) := by
  obtain ⟨out, hout, hbalanced, hquiet⟩ := h
  have hopen : IsQuiet ['('] := ⟨by decide, by decide, by decide⟩
  have hclose : IsQuiet [')'] := ⟨by decide, by decide, by decide⟩
  refine ⟨'(' :: out ++ [')'], ?_, hbalanced.enclosed, (hopen.append hquiet).append hclose⟩
  rw [List.cons_append, outside?_false_cons (by decide), outside?_append hout]
  rfl

/-- Quoting seals any text in. -/
theorem quote (value : String) : IsSealed (Sql.quote value).toList := by
  refine ⟨[], ?_, .of_not_mem (by decide) (by decide), ⟨by decide, by decide, by decide⟩⟩
  rw [Sql.quote, String.toList_ofList, List.cons_append, outside?_false_quote, outside?_doubled, outside?_true_quote]
  rfl

theorem isConfined {sql : String} (h : IsSealed sql.toList) : IsConfined sql := by
  obtain ⟨out, hout, hbalanced, hquiet⟩ := h
  have hnot : ∀ c ∈ [';', '"', '*'], c ∉ out := fun c hc hmem => hquiet.chars c hmem hc
  refine ⟨out, hout, hbalanced, hnot _ (by decide), hnot _ (by decide), hquiet.apart, fun hcomment => ?_⟩
  exact hnot '*' (by decide) (hcomment.subset (by decide))

end IsSealed

/-! ### Sealed expressions -/

theorem isPlain_digits (m : Nat) : IsPlain (Nat.toDigits 10 m) := by
  have hchars : ∀ special : List Char, (∀ d ∈ special, d.isDigit = false) →
      ∀ c ∈ Nat.toDigits 10 m, c ∉ special := fun special hspecial c hc hmem =>
    not_mem_digits (hspecial c hmem) m hc
  have hdash : '-' ∉ Nat.toDigits 10 m := not_mem_digits (by decide) m
  refine ⟨⟨hchars _ (by decide), ?_, ?_⟩, hchars _ (by decide)⟩
  · exact fun hin => hdash (hin.subset (by decide))
  · exact fun hlast => hdash (List.mem_of_getLast? hlast)

/-- The text of an integer is plain also where a sign stands before it. -/
theorem isPlain_decimal (n : Int64) : IsPlain (decimal n).toList := by
  rw [toList_decimal]
  split
  · obtain ⟨⟨hchars, hapart, hlast⟩, hunmarked⟩ := isPlain_digits n.toInt.natAbs
    refine ⟨⟨List.forall_mem_cons.2 ⟨by decide, hchars⟩, ?_, ?_⟩, List.forall_mem_cons.2 ⟨by decide, hunmarked⟩⟩
    · intro hin
      rcases List.infix_cons_iff.1 hin with hprefix | hin
      · exact not_mem_digits (by decide) _ ((List.cons_prefix_cons.1 hprefix).2.subset (List.mem_singleton.2 rfl))
      · exact hapart hin
    · rwa [List.getLast?_cons_of_ne_nil Nat.toDigits_ne_nil]
  · exact isPlain_digits _

/-- An expression whose text is sealed. -/
def Expr.IsSealed (e : Expr) : Prop := Sql.IsSealed e.sql.toList

namespace Expr.IsSealed

variable {e l r : Expr}

theorem isConfined (h : e.IsSealed) : IsConfined e.sql := Sql.IsSealed.isConfined h

theorem everything : Expr.everything.IsSealed := .plain (by decide)

theorem enclosed (h : e.IsSealed) (wide : Bool) : (Expr.enclosed wide e).IsSealed := by
  have hspace : Sql.IsSealed [' '] := .plain (by decide)
  cases wide with
  | true =>
    have hinner := ((hspace.append h).append hspace).enclosed
    rw [IsSealed, toList_sql_enclosed_true]
    simpa using hinner
  | false =>
    rw [IsSealed, toList_sql_enclosed_false]
    exact Sql.IsSealed.enclosed h

/-- A text goes on with a sealed one behind a space. -/
theorem append_blank {as bs : List Char} (has : Sql.IsSealed as) (hbs : Sql.IsSealed bs) :
    Sql.IsSealed (as ++ ' ' :: bs) :=
  has.append (Sql.IsSealed.append (show Sql.IsSealed [' '] from .plain (by decide)) hbs)

/-- Operators stand between blanks, so that no comment starts with the sign of what follows. -/
theorem binary {op : Operator} (hop : op ≠ .multiply) (hl : l.IsSealed) (hr : r.IsSealed) :
    (Expr.binary op l r).IsSealed := by
  -- The sign is taken with the space behind it, as a dash must not be the last character.
  have hsign : Sql.IsSealed (op.sql.toList ++ [' ']) := by
    refine .plain ?_
    cases op with
    | multiply => exact absurd rfl hop
    | _ => decide
  have hall := append_blank hl (hsign.append hr)
  rw [IsSealed, toList_sql_binary]
  simpa using hall

theorem negated (h : e.IsSealed) (small : Bool) : (Expr.negated small e).IsSealed := by
  rw [IsSealed, toList_sql_negated]
  exact append_blank (.plain (by cases small <;> decide)) h

theorem notNull (h : e.IsSealed) (long : Bool) : (Expr.notNull long e).IsSealed := by
  cases long with
  | true =>
    rw [IsSealed, toList_sql_notNull_true]
    exact append_blank h (.plain (by decide))
  | false =>
    rw [IsSealed, toList_sql_notNull_false]
    exact append_blank h (.plain (by decide))

theorem cast (h : e.IsSealed) (type : CastType) : (Expr.cast type e).IsSealed := by
  have htype : IsPlain ("AS".toList ++ ' ' :: type.sql.toList) := by cases type <;> decide
  have hname : IsPlain "CAST".toList := by decide
  have hall := (Sql.IsSealed.plain hname).append (append_blank h (.plain htype)).enclosed
  rw [IsSealed, toList_sql_cast]
  simpa using hall

/-- The call of a function whose arguments are constants but for the second one. -/
theorem strftime (h : e.IsSealed) (format modifier : String) {text : String}
    (htext : text = "strftime(" ++ quote format ++ ", " ++ e.sql ++ ", 'unixepoch', " ++ quote modifier ++ ")") :
    Sql.IsSealed text.toList := by
  have hname : IsPlain "strftime".toList := by decide
  have hcomma : Sql.IsSealed ", ".toList := .plain (by decide)
  have harguments := (((((Sql.IsSealed.quote format).append hcomma).append h).append hcomma).append
    (.quote "unixepoch")).append hcomma |>.append (.quote modifier)
  have hall := (Sql.IsSealed.plain hname).append harguments.enclosed
  rw [toList_strftime format modifier e htext]
  simpa using hall

/-- **The text of a readable expression is sealed.** -/
theorem of_isReadable (h : e.IsReadable) : e.IsSealed := by
  induction h with
  | column c => exact .plain (by cases c <;> decide)
  | int n => exact .plain (isPlain_decimal n)
  | string value => exact .quote value
  | enclosed wide _ ih => exact ih.enclosed wide
  | binary hop _ _ _ _ ihl ihr => exact ihl.binary hop ihr
  | negated small _ _ ih => exact ih.negated small
  | notNull long _ _ ih => exact ih.notNull long
  | cast type _ ih => exact ih.cast type
  | monthsLater months _ ih => exact ih.strftime _ _ (sql_monthsLater _ months)
  | packedDay _ ih => exact ih.strftime _ _ (sql_packedDay _)

end Expr.IsSealed

end MailQuery.Sql
