import MailQuery.Proofs.Sql.Bounds
import MailQuery.Proofs.Sql.Statements
import MailQuery.Sql.Operand

/-!
# Texts of conditions

The compilers and the store look at the text of a condition before they use it: whether it says nothing, whether
it is cut short by a character 0, and whether it is the condition for completed tasks. Of `Expr.Definite` the first two
are ruled out, which is enough for the store: a readable condition that is definite is read from its statement as it is
(`Expr.Definite.conditionOf?_sql`). Of `Expr.Plain` all of them are ruled out. It holds of the columns but for `uid` and
`usertags` and of all constants, and both are kept by what is built from them.
-/

namespace MailQuery.Sql

open Text

/-- A text that starts, behind parentheses and spaces, with neither white space nor a `u`. The condition for
completed tasks does not start like this, nor does a text that says nothing. -/
inductive StartsPlainly : List Char → Prop where
  | start {c : Char} {cs : List Char} (hblank : isBlank c = false) (hopening : c ≠ '(') (hu : c ≠ 'u') :
      StartsPlainly (c :: cs)
  | opening {c : Char} {cs : List Char} (hopening : c = '(' ∨ c = ' ') (h : StartsPlainly cs) :
      StartsPlainly (c :: cs)

namespace StartsPlainly

variable {cs : List Char}

theorem append (h : StartsPlainly cs) (rest : List Char) : StartsPlainly (cs ++ rest) := by
  induction h with
  | start hblank hopening hu => exact .start hblank hopening hu
  | opening hopening _ ih => exact .opening hopening ih

theorem ne_nil (h : StartsPlainly cs) : cs ≠ [] := by
  rintro rfl
  cases h

theorem exists_not_blank (h : StartsPlainly cs) : ∃ c ∈ cs, isBlank c = false := by
  induction h with
  | @start c cs hblank _ _ => exact ⟨c, List.mem_cons_self .., hblank⟩
  | opening _ _ ih =>
    obtain ⟨c, hc, hblank⟩ := ih
    exact ⟨c, List.mem_cons_of_mem _ hc, hblank⟩

theorem of_opening (h : StartsPlainly ('(' :: cs)) : StartsPlainly cs := by
  cases h with
  | start _ hopening _ => exact absurd rfl hopening
  | opening _ h => exact h

theorem of_space (h : StartsPlainly (' ' :: cs)) : StartsPlainly cs := by
  cases h with
  | start hblank _ _ => cases hblank
  | opening _ h => exact h

theorem not_u (h : StartsPlainly ('u' :: cs)) : False := by
  cases h with
  | start _ _ hu => exact hu rfl
  | opening hopening _ => rcases hopening with h | h <;> exact absurd h (by decide)

end StartsPlainly

theorem not_startsPlainly_completedOn : ¬ StartsPlainly (Expr.enclosed true completedOn).sql.toList := by
  intro h
  -- Behind the parentheses and the space the text goes on with the name of the column for tags.
  have htext : (Expr.enclosed true completedOn).sql.toList = '(' :: ' ' :: '(' :: 'u' ::
      "sertags LIKE '%completed-on 0%' AND usertags LIKE '%completed-on%') )".toList := by decide +kernel
  rw [htext] at h
  exact h.of_opening.of_space.of_opening.not_u

/-! ### Characters of literals and names -/

/-- A digit can start a condition. -/
theorem plain_of_isDigit {c : Char} (h : c.isDigit = true) :
    isBlank c = false ∧ c ≠ '(' ∧ c ≠ 'u' :=
  forall_ascii (P := fun c => c.isDigit = true → isBlank c = false ∧ c ≠ '(' ∧ c ≠ 'u')
    (by decide +kernel) (Nat.lt_of_le_of_lt (Char.isDigit_iff_toNat.1 h).2 (by decide)) h

theorem startsPlainly_decimal (n : Int64) : StartsPlainly (decimal n).toList := by
  rw [toList_decimal]
  split
  · exact .start (by decide) (by decide) (by decide)
  · cases hdigits : Nat.toDigits 10 n.toInt.natAbs with
    | nil => exact absurd hdigits Nat.toDigits_ne_nil
    | cons d ds =>
      have hd : d.isDigit = true := Nat.isDigit_of_mem_toDigits (by decide) (by decide)
        (hdigits ▸ List.mem_cons_self ..)
      obtain ⟨hblank, hopening, hu⟩ := plain_of_isDigit hd
      exact .start hblank hopening hu

theorem nul_not_mem_quote {value : String} (h : '\x00' ∉ value.toList) : '\x00' ∉ (quote value).toList :=
  mt (mem_quote_iff (by decide)).1 h

theorem startsPlainly_name {c : Column} (huid : c ≠ .uid) (htags : c ≠ .tags) : StartsPlainly c.name.toList := by
  have hhead : ∀ c ∈ Column.all, c ≠ .uid → c ≠ .tags →
      c.name.toList.head?.any (fun d => !isBlank d && d != '(' && d != 'u') = true := by decide +kernel
  have hany := hhead c c.mem_all huid htags
  cases hname : c.name.toList with
  | nil => rw [hname] at hany; cases hany
  | cons d ds =>
    rw [hname, List.head?_cons, Option.any_some] at hany
    simp only [Bool.and_eq_true, Bool.not_eq_true', bne_iff_ne] at hany
    exact .start hany.1.1 hany.1.2 hany.2

theorem nul_not_mem_name (c : Column) : '\x00' ∉ c.name.toList := by
  cases c <;> decide

theorem nul_not_mem_operator (op : Operator) : '\x00' ∉ op.sql.toList := by
  cases op <;> decide

/-! ### Definite expressions -/

/-- An expression whose text says something and is not cut short. -/
structure Expr.Definite (e : Expr) : Prop where
  nonblank : ∃ c ∈ e.sql.toList, isBlank c = false
  uncut : '\x00' ∉ e.sql.toList

namespace Expr.Definite

variable {e l r : Expr}

theorem enclosed (h : e.Definite) (wide : Bool) : (Expr.enclosed wide e).Definite := by
  obtain ⟨c, hc, hblank⟩ := h.nonblank
  cases wide with
  | true =>
    refine ⟨⟨c, ?_, hblank⟩, ?_⟩
    · rw [toList_sql_enclosed_true]
      simp [hc]
    · rw [toList_sql_enclosed_true]
      simpa using h.uncut
  | false =>
    refine ⟨⟨c, ?_, hblank⟩, ?_⟩
    · rw [toList_sql_enclosed_false]
      simp [hc]
    · rw [toList_sql_enclosed_false]
      simpa using h.uncut

theorem binary (op : Operator) (hl : l.Definite) (hr : r.Definite) : (Expr.binary op l r).Definite := by
  obtain ⟨c, hc, hblank⟩ := hl.nonblank
  refine ⟨⟨c, ?_, hblank⟩, ?_⟩
  · rw [toList_sql_binary]
    exact List.mem_append_left _ hc
  · rw [toList_sql_binary]
    simp [hl.uncut, hr.uncut, nul_not_mem_operator]

theorem sql_ne_empty (h : e.Definite) : e.sql ≠ "" := by
  intro hempty
  obtain ⟨c, hc, -⟩ := h.nonblank
  rw [hempty] at hc
  exact List.not_mem_nil hc

/-- **A definite condition is read as it is**, unless its tree is too high. -/
theorem conditionOf?_sql (h : e.Definite) (hreadable : e.IsReadable) :
    conditionOf? e.sql = if e.isShallow then some (.plain e.narrow) else none := by
  rw [conditionOf?, isNoCondition_eq_false h.nonblank, if_neg (by decide), hreadable.readText_sql,
    isCut_eq_false_iff.2 h.uncut, Bool.not_false, Bool.true_and]

/-- Within the limits of the database, a definite condition is taken for what it is. -/
theorem isTakenFor (h : e.Definite) (hreadable : e.IsReadable) (hlimits : e.WithinLimits) (rows : List Row) :
    IsTakenFor e.sql e.narrow rows where
  read := by rw [h.conditionOf?_sql hreadable, if_pos hlimits.shallow]
  patterns row _ := by rw [e.meetsLongPattern_narrow, meetsLongPattern_eq_false hlimits.patterns]

/-- A definite condition that is too high is refused, whatever the rows are. -/
theorem isRefused (h : e.Definite) (hreadable : e.IsReadable) (hhigh : e.isShallow = false) (rows : List Row) :
    IsRefused e.sql rows := by
  intro p hread
  rw [h.conditionOf?_sql hreadable, hhigh, if_neg (by decide)] at hread
  cases hread

/-- **A definite condition is taken for what it is, or refused**, and it is refused only beyond the limits. -/
theorem isTakenFor_or_isRefused (h : e.Definite) (hreadable : e.IsReadable) (rows : List Row) :
    IsTakenFor e.sql e.narrow rows ∨ ¬ e.WithinLimits ∧ IsRefused e.sql rows := by
  by_cases hlimits : e.WithinLimits
  · exact .inl (h.isTakenFor hreadable hlimits rows)
  cases hshallow : e.isShallow with
  | false => exact .inr ⟨hlimits, h.isRefused hreadable hshallow rows⟩
  | true =>
    have hread : conditionOf? e.sql = some (.plain e.narrow) := by rw [h.conditionOf?_sql hreadable, if_pos hshallow]
    by_cases hlong : ∃ row ∈ rows, e.narrow.meetsLongPattern row false = true
    · refine .inr ⟨hlimits, fun p hp => ?_⟩
      obtain rfl : Parsed.plain e.narrow = p := Option.some.inj (hread.symm.trans hp)
      exact hlong
    · refine .inl ⟨hread, fun row hrow => ?_⟩
      rw [← Bool.not_eq_true]
      exact fun hmeets => hlong ⟨row, hrow, hmeets⟩

end Expr.Definite

/-! ### Plain expressions -/

/-- An expression whose text the compilers and the store take for nothing else. -/
structure Expr.Plain (e : Expr) : Prop where
  starts : StartsPlainly e.sql.toList
  uncut : '\x00' ∉ e.sql.toList

namespace Expr.Plain

variable {e l r : Expr}

theorem int (n : Int64) : (Expr.int n).Plain := ⟨startsPlainly_decimal n, not_mem_decimal (by decide) (by decide) n⟩

theorem column {c : Column} (huid : c ≠ .uid) (htags : c ≠ .tags) : (Expr.column c).Plain :=
  ⟨startsPlainly_name huid htags, nul_not_mem_name c⟩

theorem string {value : String} (h : '\x00' ∉ value.toList) : (Expr.string value).Plain := by
  refine ⟨?_, nul_not_mem_quote h⟩
  show StartsPlainly (quote value).toList
  rw [quote, String.toList_ofList]
  exact .start (by decide) (by decide) (by decide)

theorem enclosed (h : e.Plain) (wide : Bool) : (Expr.enclosed wide e).Plain := by
  cases wide with
  | true =>
    refine ⟨?_, ?_⟩
    · rw [toList_sql_enclosed_true]
      exact .opening (.inl rfl) (.opening (.inr rfl) (h.starts.append _))
    · rw [toList_sql_enclosed_true]
      simpa using h.uncut
  | false =>
    refine ⟨?_, ?_⟩
    · rw [toList_sql_enclosed_false]
      exact .opening (.inl rfl) (h.starts.append _)
    · rw [toList_sql_enclosed_false]
      simpa using h.uncut

theorem binary (op : Operator) (hl : l.Plain) (hr : r.Plain) : (Expr.binary op l r).Plain := by
  refine ⟨?_, ?_⟩
  · rw [toList_sql_binary]
    exact hl.starts.append _
  · rw [toList_sql_binary]
    simp [hl.uncut, hr.uncut, nul_not_mem_operator]

theorem negated (h : e.Plain) : (Expr.negated false e).Plain := by
  refine ⟨?_, ?_⟩
  · rw [toList_sql_negated]
    exact .append (.start (by decide) (by decide) (by decide)) _
  · rw [toList_sql_negated]
    simp [h.uncut]

theorem notNull (h : e.Plain) : (Expr.notNull true e).Plain := by
  refine ⟨?_, ?_⟩
  · rw [toList_sql_notNull_true]
    exact h.starts.append _
  · rw [toList_sql_notNull_true]
    simp [h.uncut]

theorem truth (b : Bool) : (Expr.truth b).Plain := int _

theorem sql_ne_empty (h : e.Plain) : e.sql ≠ "" := by
  intro hempty
  exact h.starts.ne_nil (by rw [hempty]; rfl)

theorem sql_ne_completedOn (h : e.Plain) : e.sql ≠ (Expr.enclosed true completedOn).sql := by
  intro heq
  exact not_startsPlainly_completedOn (heq ▸ h.starts)

theorem definite (h : e.Plain) : e.Definite := ⟨h.starts.exists_not_blank, h.uncut⟩

end Expr.Plain

end MailQuery.Sql
