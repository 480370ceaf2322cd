import MailQuery.Proofs.Compilers.Grammar
import MailQuery.Proofs.Compilers.Readability
import MailQuery.Proofs.Evaluation.Equations
import MailQuery.Proofs.Routes.Operands

/-!
# Conditions that are evaluated and lowered alike

`IsTest` are the terms about one message which the evaluator and the database answer alike: flags, the start and end
of subjects, comparisons of moments and sizes (`IsNumber`) with constants (`IsConstant`), and what is built from them
with logical operators. Each of these terms has a meaning, a number or a test of messages, that both sides arrive at:
the evaluator with a value and the compiler of terms with an operand. `Term.exists_test` is the result for conditions.
-/

namespace MailQuery

open Mail Sql Search

namespace Term

/-- Terms that stand for themselves. -/
def IsLiteral : Term → Prop
  | .bool _ | .int _ | .string _ => True
  | .call _ _ => False

/-- Numbers that do not depend on a message. -/
inductive IsConstant : Term → Prop where
  | int (n : Int64) : IsConstant (.int n)
  | currentDate : IsConstant (.call "get-current-date" [])
  | makeTime {t : Term} (h : IsLiteral t) : IsConstant (.call "make-time" [t])
  | relativeMonths (n : Int64) : IsConstant (.call "get-relative-months" [.int n])
  | sum {args : List Term} (hargs : ∀ a ∈ args, IsConstant a) : IsConstant (.call "+" args)
  | difference {args : List Term} (hargs : ∀ a ∈ args, IsConstant a) : IsConstant (.call "-" args)

/-- Numbers of a message. -/
inductive IsNumber : Term → Prop where
  | constant {t : Term} (h : IsConstant t) : IsNumber t
  | sentDate : IsNumber (.call "get-sent-date" [])
  | receivedDate : IsNumber (.call "get-received-date" [])
  | size : IsNumber (.call "get-size" [])

/-- Conditions on a message. -/
inductive IsTest : Term → Prop where
  | bool (b : Bool) : IsTest (.bool b)
  | systemFlag (name : String) : IsTest (.call "system-flag" [.string name])
  | compare (c : Comparison) {l r : Term} (hl : IsNumber l) (hr : IsNumber r) : IsTest (.call c.name [l, r])
  | startsWith {patterns : List String} (h : ∀ p ∈ patterns, Operand.IsPattern p) :
      IsTest (.call "header-starts-with" (.string "subject" :: patterns.map .string))
  | endsWith {patterns : List String} (h : ∀ p ∈ patterns, Operand.IsPattern p) :
      IsTest (.call "header-ends-with" (.string "subject" :: patterns.map .string))
  | not {t : Term} (h : IsTest t) : IsTest (.call "not" [t])
  | and {args : List Term} (hargs : ∀ a ∈ args, IsTest a) (hne : args ≠ []) : IsTest (.call "and" args)
  | or {args : List Term} (hargs : ∀ a ∈ args, IsTest a) (hne : args ≠ []) : IsTest (.call "or" args)

variable {t : Term}

theorem writesNone_strings {name : String} (hname : name ≠ "sql-exp") (texts : List String) :
    WritesNone (.call name (texts.map .string)) :=
  writesNone_call_iff.2 ⟨hname, List.forall_mem_map.2 fun s _ => writesNone_string s⟩

theorem IsConstant.writesNone (h : t.IsConstant) : t.WritesNone := by
  induction h with
  | int n => exact writesNone_int n
  | currentDate => exact writesNone_strings (by decide) []
  | @makeTime t h =>
    refine writesNone_call_iff.2 ⟨by decide, List.forall_mem_singleton.2 ?_⟩
    cases t with
    | bool b => exact writesNone_bool b
    | int n => exact writesNone_int n
    | string s => exact writesNone_string s
    | call _ _ => exact h.elim
  | relativeMonths n => exact writesNone_call_iff.2 ⟨by decide, List.forall_mem_singleton.2 (writesNone_int n)⟩
  | sum _ ih => exact writesNone_call_iff.2 ⟨by decide, ih⟩
  | difference _ ih => exact writesNone_call_iff.2 ⟨by decide, ih⟩

theorem IsNumber.writesNone (h : t.IsNumber) : t.WritesNone := by
  cases h with
  | constant h => exact h.writesNone
  | sentDate | receivedDate | size => exact writesNone_strings (by decide) []

theorem IsTest.writesNone (h : t.IsTest) : t.WritesNone := by
  induction h with
  | bool b => exact writesNone_bool b
  | systemFlag name => exact writesNone_strings (by decide) [name]
  | compare c hl hr =>
    refine writesNone_call_iff.2 ⟨by cases c <;> decide, ?_⟩
    exact List.forall_mem_cons.2 ⟨hl.writesNone, List.forall_mem_singleton.2 hr.writesNone⟩
  | @startsWith patterns _ => exact writesNone_strings (by decide) ("subject" :: patterns)
  | @endsWith patterns _ => exact writesNone_strings (by decide) ("subject" :: patterns)
  | not _ ih => exact writesNone_call_iff.2 ⟨by decide, List.forall_mem_singleton.2 ih⟩
  | and _ _ ih => exact writesNone_call_iff.2 ⟨by decide, ih⟩
  | or _ _ ih => exact writesNone_call_iff.2 ⟨by decide, ih⟩

end Term

/-! ### Lists of arguments -/

theorem exists_forall₂ {α β : Type} {R : α → β → Prop} {as : List α} (h : ∀ a ∈ as, ∃ b, R a b) :
    ∃ bs, List.Forall₂ R as bs := by
  induction as with
  | nil => exact ⟨[], .nil⟩
  | cons a as ih =>
    obtain ⟨b, hb⟩ := h a (List.mem_cons_self ..)
    obtain ⟨bs, hbs⟩ := ih fun a ha => h a (List.mem_cons_of_mem _ ha)
    exact ⟨b :: bs, .cons hb hbs⟩

/-- What is found for each pair of two lists, in one list. -/
theorem exists_forall₂_and {α β γ : Type} {R : α → γ → Prop} {S : β → γ → Prop} {as : List α} {bs : List β}
    (h : List.Forall₂ (fun a b => ∃ c, R a c ∧ S b c) as bs) : ∃ cs, List.Forall₂ R as cs ∧ List.Forall₂ S bs cs := by
  induction h with
  | nil => exact ⟨[], .nil, .nil⟩
  | cons hfirst _ ih =>
    obtain ⟨c, hr, hs⟩ := hfirst
    obtain ⟨cs, hrs, hss⟩ := ih
    exact ⟨c :: cs, .cons hr hrs, .cons hs hss⟩

theorem Sql.Tree.lowerAll_eq {now : Int64} {args : List Term} {os : List Operand}
    (h : List.Forall₂ (fun a o => lower now a = .ok o) args os) : lowerAll now args = .ok os := by
  induction h with
  | nil => rw [lowerAll]
  | cons ha _ ih =>
    rw [lowerAll_cons, ha, ih]
    rfl

namespace Search

variable {s : Scope} {current : Option Summary} {args : List Term}

theorem evalAll_eq {values : List Value} (h : List.Forall₂ (fun a v => eval s current a = pure v) args values) :
    evalAll s current args = pure values := by
  induction h with
  | nil => rw [evalAll]
  | cons ha _ ih =>
    rw [evalAll_cons, ha, ih]
    rfl

/-- A strict function of arguments that read no message is applied to their values. -/
theorem eval_call_eq {name : String} {f : Builtin} (hname : Builtin.ofName? name = some f) (hf : f.IsStrict)
    {values : List Value} (h : List.Forall₂ (fun a v => eval s current a = pure v) args values) :
    eval s current (.call name args) = apply s current f values := by
  rw [eval_strict hname hf, evalAll_eq h]
  rfl

/-- A conjunction or disjunction of truth values is joined from left to right, up to the first that decides. -/
theorem evalJoined_eq (isAnd : Bool) {bs : List Bool}
    (h : List.Forall₂ (fun a b => eval s current a = pure (.bool b)) args bs) {seen : Joined}
    (hseen : ∀ hits, seen ≠ .sets hits) :
    evalJoined s current isAnd seen args = pure (.bool (joinTruths isAnd bs)) := by
  induction h generalizing seen with
  | nil =>
    rw [evalJoined_nil]
    cases seen with
    | sets hits => exact absurd rfl (hseen hits)
    | nothing | verdicts => rfl
  | @cons a b args bs ha _ ih =>
    have hadd : seen.add isAnd (.bool b) = .ok (if b = isAnd then .inl .verdicts else .inr b) := by
      cases seen with
      | sets hits => exact absurd rfl (hseen hits)
      | nothing | verdicts => rfl
    rw [evalJoined_cons, ha, Reading.pure_bind, hadd, joinTruths]
    -- A truth value that decides ends the evaluation; what is behind it is not looked at.
    by_cases hb : b = isAnd
    · rw [if_pos hb, if_pos hb]
      exact ih fun hits => Joined.noConfusion
    · rw [if_neg hb, if_neg hb]

end Search

/-! ### Sums and differences -/

/-- The sum or difference of numbers. -/
def foldNumbers (isSum : Bool) : List Int64 → Int64
  | [] => 0
  | n :: ns => ns.foldl (if isSum then addClamped else subClamped) n

theorem Sql.Operand.arithmetic_int (isSum : Bool) (ns : List Int64) :
    Operand.arithmetic isSum (ns.map .int) = .ok (.int (foldNumbers isSum ns)) := by
  have htext : (isSum && !(ns.map Operand.int).isEmpty && (ns.map Operand.int).all (·.text?.isSome)) = false := by
    cases ns <;> cases isSum <;> rfl
  have hall : (ns.map Operand.int).all (·.int?.isSome) = true := by
    rw [List.all_map, List.all_eq_true]
    exact fun _ _ => rfl
  have hints : (ns.map Operand.int).filterMap Operand.int? = ns := by
    rw [List.filterMap_map]
    exact List.filterMap_some
  rw [Operand.arithmetic, htext, if_neg (by decide), hall, if_pos rfl, hints]
  cases ns <;> rfl

namespace Search

variable {values : List Value} {ns : List Int64}

theorem numbers_eq (h : List.Forall₂ (fun v n => Value.number? v = some n) values ns) : numbers values = .ok ns := by
  induction h with
  | nil => rfl
  | cons hv _ ih => rw [numbers, hv, ih]

theorem number?_numberLike (values : List Value) (n : Int64) : (numberLike values n).number? = some n := by
  unfold numberLike
  split <;> rfl

theorem text?_of_number? {v : Value} {n : Int64} (h : v.number? = some n) : v.text? = none := by
  cases v with
  | int _ | time _ => rfl
  | bool _ | string _ | uids _ => cases h

theorem sum_eq (h : List.Forall₂ (fun v n => Value.number? v = some n) values ns) :
    sum values = .ok (numberLike values (foldNumbers true ns)) := by
  -- Texts are joined and not added, so that it has to be known that not all values are texts.
  have htext : (!values.isEmpty && values.all (·.text?.isSome)) = false := by
    cases h with
    | nil => rfl
    | cons hv _ => rw [List.all_cons, text?_of_number? hv]; rfl
  rw [sum, htext, if_neg (by decide), numbers_eq h]
  cases ns with
  | nil => rfl
  | cons n ns =>
    -- Evaluation starts at zero where the compiler starts at the first number.
    have hfirst : addClamped 0 n = n := by
      rw [addClamped, Int64.toInt_zero, Int.zero_add, Int64.ofIntClamp_toInt]
    show Except.ok (numberLike values (ns.foldl addClamped (addClamped 0 n))) = _
    rw [hfirst]
    rfl

theorem difference_eq (h : List.Forall₂ (fun v n => Value.number? v = some n) values ns) :
    difference values = .ok (numberLike values (foldNumbers false ns)) := by
  rw [difference, numbers_eq h]
  cases h with
  | nil => rfl
  | cons _ _ => rfl

end Search

namespace Term

variable {now : Int64} {t : Term}

/-! ### Constants -/

/-- A constant is lowered to the number that every evaluation of it gives. -/
structure HasConstant (now : Int64) (t : Term) (n : Int64) : Prop where
  lower : Tree.lower now t = .ok (.int n)
  eval : ∀ {s : Scope} (current : Option Summary), s.now = now →
    ∃ v : Value, eval s current t = pure v ∧ v.number? = some n

theorem HasConstant.exists_values {args : List Term} {ns : List Int64} (h : List.Forall₂ (HasConstant now) args ns)
    {s : Scope} (current : Option Summary) (hnow : s.now = now) :
    ∃ values : List Value, List.Forall₂ (fun a v => Search.eval s current a = pure v) args values ∧
      List.Forall₂ (fun v n => Value.number? v = some n) values ns := by
  induction h with
  | nil => exact ⟨[], .nil, .nil⟩
  | cons ha _ ih =>
    obtain ⟨v, hv, hn⟩ := ha.eval current hnow
    obtain ⟨values, hvalues, hns⟩ := ih
    exact ⟨v :: values, .cons hv hvalues, .cons hn hns⟩

theorem HasConstant.arithmetic (isSum : Bool) {args : List Term} {ns : List Int64}
    (h : List.Forall₂ (HasConstant now) args ns) :
    HasConstant now (.call (if isSum then "+" else "-") args) (foldNumbers isSum ns) := by
  have hlower : Tree.lowerAll now args = .ok (ns.map .int) := by
    refine Tree.lowerAll_eq (List.forall₂_map_right_iff.2 (h.imp fun _ _ ha => ha.lower))
  cases isSum with
  | true =>
    have hname : Builtin.ofName? "+" = some .add := by decide +kernel
    refine ⟨?_, fun {s} current hnow => ?_⟩
    · show Tree.lower now (.call "+" args) = _
      rw [Tree.lower_call hname rfl, hlower]
      exact Operand.arithmetic_int true ns
    · obtain ⟨values, hvalues, hns⟩ := HasConstant.exists_values h current hnow
      refine ⟨numberLike values (foldNumbers true ns), ?_, number?_numberLike ..⟩
      show Search.eval s current (.call "+" args) = _
      rw [eval_call_eq hname trivial hvalues]
      exact congrArg Reading.done (sum_eq hns)
  | false =>
    have hname : Builtin.ofName? "-" = some .subtract := by decide +kernel
    refine ⟨?_, fun {s} current hnow => ?_⟩
    · show Tree.lower now (.call "-" args) = _
      rw [Tree.lower_call hname rfl, hlower]
      exact Operand.arithmetic_int false ns
    · obtain ⟨values, hvalues, hns⟩ := HasConstant.exists_values h current hnow
      refine ⟨numberLike values (foldNumbers false ns), ?_, number?_numberLike ..⟩
      show Search.eval s current (.call "-" args) = _
      rw [eval_call_eq hname trivial hvalues]
      exact congrArg Reading.done (difference_eq hns)

/-- A literal is the same value on both sides. -/
theorem IsLiteral.exists_value (h : t.IsLiteral) (now : Int64) :
    ∃ o : Operand, Tree.lower now t = .ok o ∧ ∀ (s : Scope) (current : Option Summary),
      Search.eval s current t = pure o.value := by
  cases t with
  | bool b => exact ⟨.bool b, by rw [Tree.lower], fun s current => by rw [Search.eval]; rfl⟩
  | int n => exact ⟨.int n, by rw [Tree.lower], fun s current => by rw [Search.eval]; rfl⟩
  | string text => exact ⟨.string text, by rw [Tree.lower], fun s current => by rw [Search.eval]; rfl⟩
  | call _ _ => exact h.elim

theorem exists_constant (now : Int64) (h : t.IsConstant) : ∃ n, HasConstant now t n := by
  induction h with
  | int n =>
    refine ⟨n, by rw [Tree.lower], fun current _ => ⟨.int n, by rw [Search.eval], rfl⟩⟩
  | currentDate =>
    have hname : Builtin.ofName? "get-current-date" = some .currentDate := by decide +kernel
    refine ⟨now, ?_, fun current hnow => ⟨.int now, ?_, rfl⟩⟩
    · rw [Tree.lower_call hname rfl, Tree.lowerAll_eq .nil]
      rfl
    · rw [eval_call_eq hname trivial .nil, ← hnow]
      rfl
  | @makeTime t h =>
    have hname : Builtin.ofName? "make-time" = some .makeTime := by decide +kernel
    obtain ⟨o, hlower, heval⟩ := h.exists_value now
    refine ⟨makeTime o.value, ?_, fun {s} current _ => ⟨.time (makeTime o.value), ?_, rfl⟩⟩
    · rw [Tree.lower_call hname rfl, Tree.lowerAll_eq (.cons hlower .nil)]
      rfl
    · rw [eval_call_eq hname trivial (.cons (heval s current) .nil)]
      rfl
  | relativeMonths n =>
    have hname : Builtin.ofName? "get-relative-months" = some .relativeMonths := by decide +kernel
    refine ⟨addMonths now n, ?_, fun {s} current hnow => ⟨.int (addMonths now n), ?_, rfl⟩⟩
    · rw [Tree.lower_call hname rfl,
        Tree.lowerAll_eq (.cons (show Tree.lower now (.int n) = .ok (.int n) by rw [Tree.lower]) .nil)]
      rfl
    · rw [eval_call_eq hname trivial
        (.cons (show Search.eval s current (.int n) = pure (.int n) by rw [Search.eval]) .nil), ← hnow]
      rfl
  | sum _ ih =>
    obtain ⟨ns, hns⟩ := exists_forall₂ ih
    exact ⟨_, HasConstant.arithmetic true hns⟩
  | difference _ ih =>
    obtain ⟨ns, hns⟩ := exists_forall₂ ih
    exact ⟨_, HasConstant.arithmetic false hns⟩

/-! ### Numbers of messages -/

/-- A number is lowered to what gives it from the row, and evaluated to it from the summary. -/
structure HasNumber (now : Int64) (t : Term) (get : Summary → Int64) : Prop where
  lower : ∃ o : Operand, Tree.lower now t = .ok o ∧ o.Gives get
  eval : ∀ {s : Scope} {m : Summary}, s.now = now →
    ∃ v : Value, Search.eval s (some m) t = pure v ∧ v.number? = some (get m)

theorem exists_number (now : Int64) (h : t.IsNumber) : ∃ get, HasNumber now t get := by
  -- The numbers that are not constant are calls without arguments, which are lowered to one expression.
  have hcolumn : ∀ {name : String} {f : Builtin} {e : Expr} {get : Summary → Int64},
      Builtin.ofName? name = some f → f.IsStrict → Stack.take? f = some (.operands 0) →
      Operand.call now f [] = .ok (.scalar e) → (Operand.scalar e).Gives get →
      (∀ (s : Scope) (m : Summary), apply s (some m) f [] = pure (.int (get m))) →
      HasNumber now (.call name []) get := by
    intro name f e get hname hstrict htake hcall hgives happly
    refine ⟨⟨.scalar e, ?_, hgives⟩, fun {s m} _ => ⟨.int (get m), ?_, rfl⟩⟩
    · rw [Tree.lower_call hname htake, Tree.lowerAll_eq .nil]
      exact hcall
    · rw [eval_call_eq hname hstrict .nil]
      exact happly s m
  cases h with
  | constant h =>
    obtain ⟨n, hlower, heval⟩ := exists_constant now h
    exact ⟨fun _ => n, ⟨.int n, hlower, fun _ => rfl⟩, fun {s m} hnow => heval (some m) hnow⟩
  | sentDate =>
    exact ⟨Summary.sent, hcolumn (f := .sentDate) (by decide +kernel) trivial rfl rfl
      ⟨.column (by decide) (by decide), by decide, fun _ => rfl⟩ fun _ _ => rfl⟩
  | receivedDate =>
    exact ⟨Summary.received, hcolumn (f := .receivedDate) (by decide +kernel) trivial rfl rfl
      ⟨.column (by decide) (by decide), by decide, fun _ => rfl⟩ fun _ _ => rfl⟩
  | size =>
    have hcolumn' : (Expr.column .size).Plain := .column (by decide) (by decide)
    refine ⟨fun m => (m.size / 1024).toInt64, hcolumn (f := .size) (by decide +kernel) trivial rfl rfl
      ⟨(hcolumn'.binary .divide (.int 1024)).enclosed false, by decide, fun {m} hm => ?_⟩ fun _ _ => rfl⟩
    exact m.divide_size hm.size

/-! ### Conditions -/

/-- Two numbers are compared by size, of whatever kind they are. -/
theorem compareValues_eq (c : Comparison) {v v' : Value} {a b : Int64} (hv : v.number? = some a)
    (hv' : v'.number? = some b) :
    compareValues c [v, v'] = .ok (.bool (comparisonHolds c (compareOfLessAndEq a b))) := by
  have horder : Search.order? v v' = some (compareOfLessAndEq a b) := by
    cases v with
    | int _ | time _ =>
      cases v' with
      | int _ | time _ =>
        cases hv
        cases hv'
        rfl
      | bool _ | string _ | uids _ => cases hv'
    | bool _ | string _ | uids _ => cases hv
  rw [compareValues, horder]

/-- A term is lowered to what decides a test. -/
def LowersTo (now : Int64) (t : Term) (test : Summary → Bool) : Prop :=
  ∃ o : Operand, Tree.lower now t = .ok o ∧ o.Decides test

theorem LowersTo.not {test : Summary → Bool} (h : LowersTo now t test) :
    LowersTo now (.call "not" [t]) fun m => !test m := by
  obtain ⟨o, hlower, hdecides⟩ := h
  obtain ⟨e, hnegate, hopposite⟩ := Operand.negate_decides hdecides
  refine ⟨.condition e, ?_, hopposite⟩
  show Tree.lower now (.call Stack.Logic.not.name [t]) = _
  rw [Tree.lower_logic, Tree.lowerAll_eq (.cons hlower .nil)]
  exact hnegate

theorem LowersTo.exists_operands {args : List Term} {tests : List (Summary → Bool)}
    (h : List.Forall₂ (LowersTo now) args tests) :
    ∃ os, Tree.lowerAll now args = .ok os ∧ List.Forall₂ Operand.Decides os tests := by
  induction h with
  | nil => exact ⟨[], by rw [Tree.lowerAll], .nil⟩
  | cons ha _ ih =>
    obtain ⟨o, hlower, hdecides⟩ := ha
    obtain ⟨os, hlowerAll, hos⟩ := ih
    refine ⟨o :: os, ?_, .cons hdecides hos⟩
    rw [Tree.lowerAll_cons, hlower, hlowerAll]
    rfl

theorem LowersTo.join (isAnd : Bool) {args : List Term} {tests : List (Summary → Bool)}
    (h : List.Forall₂ (LowersTo now) args tests) (hne : args ≠ []) :
    LowersTo now (.call (if isAnd then "and" else "or") args) fun m => joinTruths isAnd (tests.map (· m)) := by
  obtain ⟨os, hlowerAll, hos⟩ := LowersTo.exists_operands h
  have hosne : os ≠ [] := by
    rintro rfl
    cases hos
    cases h
    exact hne rfl
  obtain ⟨e, hjoin, hdecides⟩ := Operand.join_decides isAnd hos hosne
  refine ⟨.condition e, ?_, hdecides⟩
  cases isAnd with
  | true =>
    show Tree.lower now (.call Stack.Logic.and.name args) = _
    rw [Tree.lower_logic, hlowerAll]
    exact hjoin
  | false =>
    show Tree.lower now (.call Stack.Logic.or.name args) = _
    rw [Tree.lower_logic, hlowerAll]
    exact hjoin

/-- A condition is lowered to what decides a test, and evaluated to the verdict of the test. -/
structure HasTest (now : Int64) (t : Term) (test : Summary → Bool) : Prop where
  lower : LowersTo now t test
  eval : ∀ {s : Scope} {m : Summary}, s.now = now → Search.eval s (some m) t = pure (.bool (test m))

theorem HasTest.compare (c : Comparison) {l r : Term} {get get' : Summary → Int64} (hl : HasNumber now l get)
    (hr : HasNumber now r get') :
    HasTest now (.call c.name [l, r]) fun m => comparisonHolds c (compareOfLessAndEq (get m) (get' m)) := by
  have hname : Builtin.ofName? c.name = some (.compare c) := by
    cases c <;> decide +kernel
  obtain ⟨o, hlower, hgives⟩ := hl.lower
  obtain ⟨o', hlower', hgives'⟩ := hr.lower
  obtain ⟨e, hcompare, hdecides⟩ := Operand.compare_decides c hgives hgives'
  refine ⟨⟨.condition e, ?_, hdecides⟩, fun {s m} hnow => ?_⟩
  · rw [Tree.lower_call hname rfl, Tree.lowerAll_eq (.cons hlower (.cons hlower' .nil))]
    exact hcompare
  · obtain ⟨v, hv, hnumber⟩ := hl.eval (m := m) hnow
    obtain ⟨v', hv', hnumber'⟩ := hr.eval (m := m) hnow
    rw [eval_call_eq hname trivial (.cons hv (.cons hv' .nil))]
    exact congrArg Reading.done (compareValues_eq c hnumber hnumber')

/-- Strings are lowered to themselves. -/
theorem forall₂_lower_string (now : Int64) (texts : List String) :
    List.Forall₂ (fun a o => Tree.lower now a = .ok o) (texts.map Term.string) (texts.map Operand.string) := by
  rw [List.forall₂_map_left_iff, List.forall₂_map_right_iff, List.forall₂_same]
  intro text _
  rw [Tree.lower]

/-- Strings are evaluated to themselves. -/
theorem forall₂_eval_string (s : Scope) (current : Option Summary) (texts : List String) :
    List.Forall₂ (fun a v => Search.eval s current a = pure v) (texts.map Term.string) (texts.map Value.string) := by
  rw [List.forall₂_map_left_iff, List.forall₂_map_right_iff, List.forall₂_same]
  intro text _
  rw [Search.eval]

theorem texts_map_string (texts : List String) : Value.texts (texts.map Value.string) = texts := by
  rw [Value.texts, List.filterMap_map]
  exact List.filterMap_some

/-- A test of subjects is lowered as a whole, unless sounds are compared. -/
theorem lower_header {style : MatchStyle} (hstyle : style ≠ .soundex) (patterns : List String) :
    Tree.lower now (.call (Builtin.header style).name (.string "subject" :: patterns.map .string)) =
      Operand.header style (.string "subject" :: patterns.map .string) := by
  have hname : Builtin.ofName? (Builtin.header style).name = some (.header style) := by
    cases style <;> decide +kernel
  have htake : Stack.take? (.header style) = some (.operands 2) := by
    cases style <;> first | rfl | exact absurd rfl hstyle
  have hlowerAll : Tree.lowerAll now (.string "subject" :: patterns.map Term.string) =
      .ok (.string "subject" :: patterns.map Operand.string) :=
    Tree.lowerAll_eq (forall₂_lower_string now ("subject" :: patterns))
  rw [Tree.lower_call hname htake, hlowerAll]
  cases style <;> first | rfl | exact absurd rfl hstyle

/-- A test of subjects is evaluated on the summaries alone. -/
theorem eval_header (s : Scope) (current : Option Summary) {style : MatchStyle} (hstyle : style ≠ .contains)
    (patterns : List String) :
    Search.eval s current (.call (Builtin.header style).name (.string "subject" :: patterns.map .string)) =
      s.judge current fun m => pure (Operand.subjectTest style patterns m) := by
  have hname : Builtin.ofName? (Builtin.header style).name = some (.header style) := by
    cases style <;> decide +kernel
  have hvalues := forall₂_eval_string s current ("subject" :: patterns)
  rw [List.map_cons, List.map_cons] at hvalues
  rw [eval_call_eq hname trivial hvalues]
  show s.judge current (headerTest style "subject" (Value.texts (patterns.map Value.string))) = _
  rw [texts_map_string, funext (Operand.headerTest_subject hstyle patterns)]

/-- A test of the start or end of subjects. -/
theorem HasTest.header {style : MatchStyle} (hstyle : Operand.IsEndStyle style) {patterns : List String}
    (h : ∀ p ∈ patterns, Operand.IsPattern p) :
    HasTest now (.call (Builtin.header style).name (.string "subject" :: patterns.map .string))
      (Operand.subjectTest style patterns) := by
  obtain ⟨o, hheader, hdecides⟩ := Operand.header_decides hstyle h
  refine ⟨⟨o, ?_, hdecides⟩, fun {s m} _ => eval_header s (some m) hstyle.ne_contains patterns⟩
  rw [lower_header hstyle.ne_soundex, hheader]

theorem HasTest.not {test : Summary → Bool} (h : HasTest now t test) :
    HasTest now (.call "not" [t]) fun m => !test m := by
  have hname : Builtin.ofName? "not" = some .not := by decide +kernel
  refine ⟨h.lower.not, fun {s m} hnow => ?_⟩
  rw [eval_call_eq hname trivial (.cons (h.eval hnow) .nil)]
  rfl

theorem HasTest.join (isAnd : Bool) {args : List Term} {tests : List (Summary → Bool)}
    (h : List.Forall₂ (HasTest now) args tests) (hne : args ≠ []) :
    HasTest now (.call (if isAnd then "and" else "or") args) fun m => joinTruths isAnd (tests.map (· m)) := by
  refine ⟨LowersTo.join isAnd (h.imp fun _ _ ha => ha.lower) hne, fun {s m} hnow => ?_⟩
  have htruths : List.Forall₂ (fun a b => Search.eval s (some m) a = pure (.bool b)) args (tests.map (· m)) :=
    List.forall₂_map_right_iff.2 (h.imp fun _ _ ha => ha.eval hnow)
  cases isAnd with
  | true =>
    show Search.eval s (some m) (.call "and" args) = _
    rw [eval_and (by decide +kernel)]
    exact evalJoined_eq true htruths fun _ => Joined.noConfusion
  | false =>
    show Search.eval s (some m) (.call "or" args) = _
    rw [eval_or (by decide +kernel)]
    exact evalJoined_eq false htruths fun _ => Joined.noConfusion

/-- Every condition has a test that evaluation and lowering agree on. -/
theorem exists_test (now : Int64) (h : t.IsTest) : ∃ test, HasTest now t test := by
  induction h with
  | bool b =>
    refine ⟨fun _ => b, ⟨.bool b, by rw [Tree.lower], fun _ => rfl⟩, fun _ => by rw [Search.eval]⟩
  | systemFlag name =>
    have hname : Builtin.ofName? "system-flag" = some .systemFlag := by decide +kernel
    refine ⟨fun m => m.flags.isSet name, ⟨_, ?_, Operand.flagSet_decides name⟩, fun {s m} _ => ?_⟩
    · rw [Tree.lower_call hname rfl,
        Tree.lowerAll_eq (.cons (show Tree.lower now (.string name) = .ok (.string name) by rw [Tree.lower]) .nil)]
      rfl
    · rw [eval_call_eq hname trivial
        (.cons (show Search.eval s (some m) (.string name) = pure (.string name) by rw [Search.eval]) .nil)]
      rfl
  | compare c hl hr =>
    obtain ⟨get, hget⟩ := exists_number now hl
    obtain ⟨get', hget'⟩ := exists_number now hr
    exact ⟨_, HasTest.compare c hget hget'⟩
  | startsWith h => exact ⟨_, HasTest.header (.inl rfl) h⟩
  | endsWith h => exact ⟨_, HasTest.header (.inr rfl) h⟩
  | not _ ih =>
    obtain ⟨test, htest⟩ := ih
    exact ⟨_, htest.not⟩
  | and _ hne ih =>
    obtain ⟨tests, htests⟩ := exists_forall₂ ih
    exact ⟨_, HasTest.join true htests hne⟩
  | or _ hne ih =>
    obtain ⟨tests, htests⟩ := exists_forall₂ ih
    exact ⟨_, HasTest.join false htests hne⟩

end Term

end MailQuery
