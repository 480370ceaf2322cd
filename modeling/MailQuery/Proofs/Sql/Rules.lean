import MailQuery.Proofs.Sql.Spelling
import MailQuery.Sql.Operand

/-!
# Calls of readable operands

The compilers put parentheses around whatever an operator could tear apart. A condition that they pass on binds more
strongly than `AND` (`Expr.IsWhole`) or says nothing, and an expression over columns holds together as one word does
(`Expr.IsClosed`). An operand is readable if this is so of its expression (`Operand.IsReadable`); constants have none yet.
There is one lemma for each way in which an operand is made: what a function does with readable operands is readable
again. Only the condition that stands in a text as it is written is left out of this, and `Operand.isReadable_call` says
so for all functions at once.
-/

namespace MailQuery.Sql

open Text

namespace Expr

variable {e l r : Expr}

/-- A readable expression that can stand on either side of `AND` and `OR`. -/
structure IsWhole (e : Expr) : Prop where
  readable : e.IsReadable
  level : 2 < e.level

/-- A readable expression that can stand on either side of every operator. -/
structure IsClosed (e : Expr) : Prop where
  readable : e.IsReadable
  level : e.level = 10

theorem IsClosed.isWhole (h : e.IsClosed) : e.IsWhole := ⟨h.readable, by rw [h.level]; decide⟩

theorem IsReadable.enclosed_isWhole (h : e.IsReadable) (wide : Bool) : (Expr.enclosed wide e).IsWhole :=
  ⟨.enclosed wide h, by simp [level]⟩

theorem IsReadable.enclosed_isClosed (h : e.IsReadable) (wide : Bool) : (Expr.enclosed wide e).IsClosed :=
  ⟨.enclosed wide h, rfl⟩

theorem isClosed_column (c : Column) : (Expr.column c).IsClosed := ⟨.column c, rfl⟩

theorem isClosed_int (n : Int64) : (Expr.int n).IsClosed := ⟨.int n, rfl⟩

theorem isClosed_truth (b : Bool) : (Expr.truth b).IsClosed := isClosed_int _

theorem isClosed_string (value : String) : (Expr.string value).IsClosed := ⟨.string value, rfl⟩

theorem IsClosed.cast (h : e.IsClosed) (type : CastType) : (Expr.cast type e).IsClosed := ⟨.cast type h.readable, rfl⟩

/-- Operators bind less strongly than what holds together. -/
theorem IsClosed.binary {op : Operator} (hop : op ≠ .multiply) (hl : l.IsClosed) (hr : r.IsClosed) :
    (Expr.binary op l r).IsReadable := by
  have hlevel : op.level < 10 := by cases op <;> decide
  exact .binary hop (by rw [hl.level]; exact Nat.le_of_lt hlevel) (by rw [hr.level]; exact hlevel) hl.readable hr.readable

/-- Expressions with an operator between them are read from left to right. -/
theorem IsReadable.foldl {op : Operator} (hop : op ≠ .multiply) {es : List Expr}
    (hes : ∀ e ∈ es, e.IsReadable ∧ op.level < e.level) (he : e.IsReadable) (hlevel : op.level ≤ e.level) :
    (es.foldl (.binary op) e).IsReadable := by
  induction es generalizing e with
  | nil => exact he
  | cons d ds ih =>
    obtain ⟨hd, hds⟩ := List.forall_mem_cons.1 hes
    exact ih hds (.binary hop hlevel hd.2 he hd.1) (Nat.le_refl _)

end Expr

namespace Operand

/-- An operand whose expression is readable wherever it is put. Constants are none yet. -/
def IsReadable : Operand → Prop
  | condition e => e = .everything ∨ e.IsWhole
  | scalar e => e.IsClosed
  | string _ | int _ | bool _ => True

variable {o : Operand} {args : List Operand} {e : Expr} {now : Int64}

theorem isClosed_of_comparable? (h : o.IsReadable) (he : o.comparable? = some e) : e.IsClosed := by
  cases o with
  | condition d => cases he
  | scalar d => cases he; exact h
  | string s => cases he; exact Expr.isClosed_string s
  | int n => cases he; exact Expr.isClosed_int n
  | bool b => cases he; exact Expr.isClosed_truth b

theorem isClosed_of_number? (h : o.IsReadable) (he : o.number? = some e) : e.IsClosed := by
  cases o with
  | scalar d => cases he; exact h
  | int n => cases he; exact Expr.isClosed_int n
  | _ => cases he

/-- A condition that is made says nothing or is readable. -/
theorem isReadable_finish (h : o.IsReadable) (he : o.finish = .ok e) : e = .everything ∨ e.IsReadable := by
  cases o with
  | condition d => cases he; exact h.imp_right (·.readable)
  | bool b => cases he; exact .inr (Expr.isClosed_truth b).readable
  | _ => cases he

/-- Parentheses hold everything together. -/
theorem isReadable_enclosed (h : e.IsReadable) (wide : Bool) : (condition (.enclosed wide e)).IsReadable :=
  .inr (h.enclosed_isWhole wide)

/-- A condition with a text is more than the one that says nothing. -/
theorem isWhole_of_sql_ne (h : (condition e).IsReadable) (hne : e.sql ≠ "") : e.IsWhole :=
  h.resolve_left fun heq => hne (heq ▸ rfl)

/-! ### Operands that are always readable -/

theorem isReadable_never : never.IsReadable := isReadable_enclosed (Expr.isClosed_int 0).readable false

theorem isReadable_always : always.IsReadable := isReadable_enclosed (Expr.isClosed_int 1).readable false

theorem isReadable_truth (b : Bool) : (condition (.truth b)).IsReadable := .inr (Expr.isClosed_truth b).isWhole

theorem isReadable_isLike (c : Column) (pattern : String) : (Expr.isLike c pattern).IsReadable :=
  (Expr.isClosed_column c).binary (by decide) (Expr.isClosed_string pattern)

theorem isWhole_isLike (c : Column) (pattern : String) : (Expr.isLike c pattern).IsWhole :=
  ⟨isReadable_isLike c pattern, by simp [Expr.isLike, Expr.level, Operator.level]⟩

theorem isWhole_hasInfix (c : Column) (text : String) : (Expr.hasInfix c text).IsWhole := isWhole_isLike c _

/-- The conjunction of two conditions. -/
theorem isReadable_and {l r : Expr} (hl : l.IsWhole) (hr : r.IsWhole) : (Expr.binary .and l r).IsReadable :=
  .binary (by decide) (Nat.le_of_lt hl.level) hr.level hl.readable hr.readable

theorem isWhole_completedOn : completedOn.IsWhole :=
  (isReadable_and (isWhole_hasInfix ..) (isWhole_hasInfix ..)).enclosed_isWhole false

theorem isWhole_notCompletedOn : notCompletedOn.IsWhole := by
  have hnot : (Expr.enclosed false (.negated true (.enclosed false
      (.hasInfix .tags "completed-on 0")))).IsWhole :=
    (Expr.IsReadable.negated true (by decide)
      ((isWhole_hasInfix ..).readable.enclosed_isWhole false).readable).enclosed_isWhole false
  exact (isReadable_and hnot (isWhole_hasInfix ..)).enclosed_isWhole true

theorem isWhole_noFollowUp : noFollowUp.IsWhole :=
  ⟨(Expr.isClosed_column .tags).binary (by decide) (Expr.isClosed_string _), by decide⟩

/-! ### Logical operators -/

theorem isReadable_parts {isAnd : Bool} (hargs : ∀ o ∈ args, o.IsReadable) {es : List Expr}
    (h : parts isAnd args = .ok es) : ∀ e ∈ es, e.IsWhole := by
  induction args generalizing es with
  | nil => cases h; simp
  | cons o os ih =>
    rw [parts] at h
    split at h
    · cases h
    · next part hpart =>
      split at h
      · cases h
      · next rest hrest =>
        cases h
        intro e he
        rcases List.mem_append.1 he with he | he
        · -- An operand adds its own expression or a truth value.
          have ho := hargs o (List.mem_cons_self ..)
          obtain rfl : part = some e := by simpa using he
          cases o with
          | condition d =>
            rw [part?] at hpart
            split at hpart
            · split at hpart
              · cases hpart
              · cases hpart; exact (Expr.isClosed_truth true).isWhole
            · next hne => cases hpart; exact isWhole_of_sql_ne ho hne
          | bool b => cases hpart; exact (Expr.isClosed_truth b).isWhole
          | _ => cases hpart
        · exact ih (fun o ho => hargs o (List.mem_cons_of_mem _ ho)) hrest e he

theorem isReadable_join {isAnd : Bool} (hargs : ∀ o ∈ args, o.IsReadable) (h : join isAnd args = .ok o) :
    o.IsReadable := by
  rw [join] at h
  split at h
  · cases h
  · cases h
    cases isAnd with
    | true => exact .inl rfl
    | false => exact isReadable_truth false
  · next e es hparts =>
    cases h
    have hes := isReadable_parts hargs hparts
    obtain ⟨he, hes⟩ := List.forall_mem_cons.1 hes
    -- Both operators bind less strongly than a part.
    have hop : (if isAnd then Operator.and else .or) ≠ .multiply ∧ (if isAnd then Operator.and else .or).level ≤ 2 := by
      cases isAnd <;> decide
    have hparts : ∀ d ∈ es, d.IsReadable ∧ (if isAnd then Operator.and else .or).level < d.level := fun d hd =>
      ⟨(hes d hd).readable, Nat.lt_of_le_of_lt hop.2 (hes d hd).level⟩
    exact isReadable_enclosed (.foldl hop.1 hparts he.readable (Nat.le_trans hop.2 (Nat.le_of_lt he.level))) true

theorem isReadable_negate {arg : Option Operand} (harg : ∀ o ∈ arg, o.IsReadable) (h : negate arg = .ok o) :
    o.IsReadable := by
  cases arg with
  | none => cases h; exact isReadable_truth false
  | some a =>
    have ha := harg a rfl
    cases a with
    | bool b => cases h; exact isReadable_truth _
    | condition d =>
      cases h
      show Operand.IsReadable (condition _)
      split
      · exact ha
      split
      · exact .inr isWhole_notCompletedOn
      · next hne _ =>
        have hd := (isWhole_of_sql_ne ha hne).readable.enclosed_isWhole false
        exact isReadable_enclosed (.negated false hd.level hd.readable) false
    | _ => cases h

/-! ### Comparisons -/

theorem isReadable_compareWith {c : Comparison} {l : Expr} {right : Operand} (hl : l.IsClosed)
    (hright : right.IsReadable) (h : compareWith c l right = .ok o) : o.IsReadable := by
  rw [compareWith] at h
  split at h
  · split at h
    · cases h
    · cases h
      exact isReadable_enclosed (isReadable_isLike ..) true
  · split at h
    · cases h
    · next r hr =>
      cases h
      exact isReadable_enclosed (hl.binary (by cases c <;> decide) (isClosed_of_comparable? hright hr)) true

theorem isReadable_compare {c : Comparison} (hargs : ∀ o ∈ args, o.IsReadable) (h : compare c args = .ok o) :
    o.IsReadable := by
  unfold compare at h
  split at h
  · next e right =>
    split at h
    · next hsame =>
      cases h
      have hne : e.sql ≠ "" := by
        obtain ⟨-, heq | heq⟩ := hsame <;> rw [heq] <;> decide +kernel
      exact isReadable_enclosed (isWhole_of_sql_ne (hargs (condition e) (by simp)) hne).readable true
    · cases h
  · next left right _ =>
    split at h
    · cases h
    · next l hl =>
      exact isReadable_compareWith (isClosed_of_comparable? (hargs left (by simp)) hl) (hargs right (by simp)) h
  · cases h
    exact isReadable_never

/-! ### Headers, flags and tags -/

theorem isWhole_presentAndLike (c : Column) (pattern : String) : (presentAndLike c pattern).IsWhole := by
  have hpresent : (Expr.notNull true (.column c)).IsWhole :=
    ⟨.notNull true (by simp [Expr.level]) (.column c), by simp [Expr.level]⟩
  exact (isReadable_and hpresent (isWhole_isLike c pattern)).enclosed_isWhole false

theorem isReadable_header {style : MatchStyle} (h : header style args = .ok o) : o.IsReadable := by
  unfold header at h
  split at h
  · split at h
    · cases h
    · next name rest _ c hc =>
      simp only at h
      split at h
      · cases h
        exact isReadable_always
      · have hall : ∀ e ∈ (rest.filterMap text?).map fun v => presentAndLike c (headerPattern style v), e.IsWhole := by
          intro e he
          obtain ⟨v, -, rfl⟩ := List.mem_map.1 he
          exact isWhole_presentAndLike c _
        split at h
        · cases h
          exact isReadable_never
        · next e he =>
          cases h
          exact .inr (hall e (by rw [he]; exact List.mem_singleton.2 rfl))
        · next e es hne he =>
          cases h
          rw [he] at hall
          obtain ⟨hfirst, hrest⟩ := List.forall_mem_cons.1 hall
          have hrest : ∀ d ∈ es, d.IsReadable ∧ Operator.or.level < d.level := fun d hd =>
            ⟨(hrest d hd).readable, Nat.lt_of_succ_lt (hrest d hd).level⟩
          exact isReadable_enclosed (.foldl (by decide) hrest hfirst.readable
            (Nat.le_of_lt (Nat.lt_of_succ_lt hfirst.level))) true
  · cases h

theorem isReadable_headerExists (h : headerExists args = .ok o) : o.IsReadable := by
  unfold headerExists at h
  split at h
  · split at h
    · cases h
    · cases h
      exact isReadable_enclosed (.notNull false (by simp [Expr.level]) (.column _)) false
  · cases h

theorem isReadable_flagSet (name : String) : (flagSet name).IsReadable := by
  rw [flagSet]
  split
  · exact isReadable_enclosed ((Expr.isClosed_column _).binary (by decide) (Expr.isClosed_int 1)) false
  · simp only
    split
    · exact isReadable_never
    · have hbits := fun n => (Expr.isClosed_column .flags).binary (show Operator.bitAnd ≠ .multiply by decide) (Expr.isClosed_int n)
      exact isReadable_enclosed (((hbits _).enclosed_isClosed false).binary (by decide) (Expr.isClosed_int 0)) false

theorem isReadable_systemFlag (h : systemFlag args = .ok o) : o.IsReadable := by
  unfold systemFlag at h
  split at h
  · cases h
    exact isReadable_flagSet _
  · cases h

theorem isReadable_userFlag (args : List Operand) : (userFlag args).IsReadable := by
  unfold userFlag
  split
  · exact isReadable_enclosed (isReadable_isLike ..) false
  · exact isReadable_never

theorem isReadable_userTag (h : userTag args = .ok o) : o.IsReadable := by
  unfold userTag at h
  split at h
  · cases h
    split
    · exact .inr isWhole_completedOn
    split
    · exact .inr isWhole_noFollowUp
    · exact Expr.isClosed_column _
  · cases h

/-! ### Numbers and dates -/

theorem isReadable_arithmetic {isSum : Bool} (hargs : ∀ o ∈ args, o.IsReadable) (h : arithmetic isSum args = .ok o) :
    o.IsReadable := by
  rw [arithmetic] at h
  split at h
  · cases h; trivial
  split at h
  · split at h <;> cases h <;> trivial
  · split at h
    · cases h
    · have hnumbers : ∀ e ∈ args.filterMap number?, e.IsClosed := by
        intro e he
        obtain ⟨a, ha, hnumber⟩ := List.mem_filterMap.1 he
        exact isClosed_of_number? (hargs a ha) hnumber
      split at h
      · cases h; trivial
      · next e es hes =>
        cases h
        rw [hes] at hnumbers
        obtain ⟨hfirst, hrest⟩ := List.forall_mem_cons.1 hnumbers
        have hop : (if isSum then Operator.add else .subtract) ≠ .multiply ∧
            (if isSum then Operator.add else .subtract).level = 7 := by cases isSum <;> decide
        refine Expr.IsReadable.enclosed_isClosed (.foldl hop.1 (fun d hd => ⟨(hrest d hd).readable, ?_⟩) hfirst.readable ?_)
          false
        · rw [hop.2, (hrest d hd).level]
          decide
        · rw [hop.2, hfirst.level]
          decide

theorem isReadable_castInt (hargs : ∀ o ∈ args, o.IsReadable) (h : castInt args = .ok o) : o.IsReadable := by
  unfold castInt at h
  split at h
  case h_4 e => cases h; exact Expr.IsClosed.cast (hargs (scalar e) (by simp)) .integer
  all_goals cases h
  all_goals trivial

theorem isReadable_castString (hargs : ∀ o ∈ args, o.IsReadable) (h : castString args = .ok o) : o.IsReadable := by
  unfold castString at h
  split at h
  case h_4 e => cases h; exact Expr.IsClosed.cast (hargs (scalar e) (by simp)) .text
  all_goals cases h
  all_goals trivial

theorem isReadable_relativeMonths (hargs : ∀ o ∈ args, o.IsReadable) : (relativeMonths now args).IsReadable := by
  unfold relativeMonths
  split
  case h_3 e months =>
    have he : e.IsClosed := hargs (scalar e) (by simp)
    exact ⟨.cast .integer (.monthsLater months he.readable), rfl⟩
  all_goals trivial

theorem isReadable_compareDate (hargs : ∀ o ∈ args, o.IsReadable) (h : compareDate args = .ok o) : o.IsReadable := by
  unfold compareDate at h
  split at h
  · next a b =>
    split at h
    · next d d' hd hd' =>
      cases h
      have ha := isClosed_of_number? (hargs a (by simp)) hd
      have hb := isClosed_of_number? (hargs b (by simp)) hd'
      have hday : ∀ {e : Expr}, e.IsClosed → (Expr.cast .integer (.packedDay e)).IsClosed := fun he =>
        ⟨.cast .integer (.packedDay he.readable), rfl⟩
      exact ((hday ha).binary (by decide) (hday hb)).enclosed_isClosed false
    · cases h; trivial
  · cases h

/-! ### Calls -/

/-- **A call of readable operands is readable**, unless it writes the condition itself. -/
theorem isReadable_call {f : Builtin} (hf : f ≠ .sqlExp) (hargs : ∀ o ∈ args, o.IsReadable)
    (h : call now f args = .ok o) : o.IsReadable := by
  cases f with
  | sqlExp => exact absurd rfl hf
  | header style => cases style <;> first | exact isReadable_header h | cases h
  | headerExists => exact isReadable_headerExists h
  | systemFlag => exact isReadable_systemFlag h
  | userFlag => cases h; exact isReadable_userFlag args
  | userTag => exact isReadable_userTag h
  | sentDate => cases h; exact Expr.isClosed_column _
  | receivedDate => cases h; exact Expr.isClosed_column _
  | size =>
    cases h
    exact ((Expr.isClosed_column _).binary (by decide) (Expr.isClosed_int _)).enclosed_isClosed false
  | relativeMonths => cases h; exact isReadable_relativeMonths hargs
  | compare c => exact isReadable_compare hargs h
  | add => exact isReadable_arithmetic hargs h
  | subtract => exact isReadable_arithmetic hargs h
  | compareDate => exact isReadable_compareDate hargs h
  | castInt => exact isReadable_castInt hargs h
  | castString => exact isReadable_castString hargs h
  | currentDate => cases h; trivial
  | makeTime => cases h; trivial
  | _ => cases h

end Operand

end MailQuery.Sql
