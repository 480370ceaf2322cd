import MailQuery.Proofs.Routes.Inclusion
import MailQuery.Proofs.Routes.Routing

/-!
# Negations in the database

A condition over flags is true or false of each row and never unknown (`Expr.Certain`), so that its negation is true of all
other rows. That is what negation comes to for every condition that says something. As there are no patterns in it, the
database refuses it only if it is too high (`Session.search_of_not_fits`).

The conjunction of nothing says nothing. Its text is empty, which stands for all rows; a conjunction leaves such parts
out, and negation leaves them as they are. `Term.IsVoid` are the terms that come to this. A void term and its negation both
find every message, in contrast to the empty disjunction and the two constants, which are complemented.

`Session.search_complement` is the main statement, and `Session.not_forall_search_complement` has the empty conjunction.
-/

namespace MailQuery

open Mail Sql Search

namespace Term

/-- Conditions over flags and the constants. A conjunction or disjunction may have any number of parts. -/
inductive IsFlagTest : Term → Prop where
  | bool (b : Bool) : IsFlagTest (.bool b)
  | systemFlag (name : String) : IsFlagTest (.call "system-flag" [.string name])
  | not {t : Term} (h : IsFlagTest t) : IsFlagTest (.call "not" [t])
  | and {args : List Term} (hargs : ∀ a ∈ args, IsFlagTest a) : IsFlagTest (.call "and" args)
  | or {args : List Term} (hargs : ∀ a ∈ args, IsFlagTest a) : IsFlagTest (.call "or" args)

/-- Conjunctions without parts, and conjunctions and negations of such. -/
inductive IsVoid : Term → Prop where
  | not {t : Term} (h : IsVoid t) : IsVoid (.call "not" [t])
  | and {args : List Term} (hargs : ∀ a ∈ args, IsVoid a) : IsVoid (.call "and" args)

variable {t : Term} {args : List Term}

theorem IsVoid.eq_not_or_eq_and (h : t.IsVoid) :
    (∃ a, t = .call "not" [a] ∧ a.IsVoid) ∨ ∃ args, t = .call "and" args ∧ ∀ a ∈ args, a.IsVoid := by
  cases h with
  | not h => exact .inl ⟨_, rfl, h⟩
  | and hargs => exact .inr ⟨_, rfl, hargs⟩

theorem isVoid_not_iff : IsVoid (.call "not" [t]) ↔ t.IsVoid := by
  refine ⟨fun h => ?_, .not⟩
  obtain ⟨a, heq, ha⟩ | ⟨args, heq, -⟩ := h.eq_not_or_eq_and
  · cases heq
    exact ha
  · exact absurd (call.inj heq).1 (by decide)

theorem isVoid_and_iff : IsVoid (.call "and" args) ↔ ∀ a ∈ args, a.IsVoid := by
  refine ⟨fun h => ?_, .and⟩
  obtain ⟨a, heq, -⟩ | ⟨args', heq, hargs⟩ := h.eq_not_or_eq_and
  · exact absurd (call.inj heq).1 (by decide)
  · cases heq
    exact hargs

theorem not_isVoid_bool (b : Bool) : ¬ IsVoid (.bool b) := by
  rintro ⟨⟩

theorem not_isVoid_call {name : String} (hnot : name ≠ "not") (hand : name ≠ "and") : ¬ IsVoid (.call name args) := by
  intro h
  obtain ⟨a, heq, -⟩ | ⟨args', heq, -⟩ := h.eq_not_or_eq_and
  · exact hnot (call.inj heq).1
  · exact hand (call.inj heq).1

/-- Both compilers know the conditions over flags. -/
theorem IsFlagTest.isCondition (h : t.IsFlagTest) : IsCondition t := by
  induction h with
  | bool b => exact .value (.bool b)
  | systemFlag name =>
    exact .value (.call (f := .systemFlag) (by decide +kernel) rfl (Nat.le_refl 1) (by simp [IsValue.string]))
  | not _ ih => exact .not (List.forall_mem_singleton.2 ih)
  | and _ ih => exact .and ih
  | or _ ih => exact .or ih

end Term

theorem Term.IsFlagTest.writesNone {t : Term} (h : t.IsFlagTest) : t.WritesNone := by
  induction h with
  | bool b => exact writesNone_bool b
  | systemFlag name => exact writesNone_strings (by decide) [name]
  | not _ ih => exact writesNone_call_iff.2 ⟨by decide, List.forall_mem_singleton.2 ih⟩
  | and _ ih => exact writesNone_call_iff.2 ⟨by decide, ih⟩
  | or _ ih => exact writesNone_call_iff.2 ⟨by decide, ih⟩

/-! ### Conditions that are never unknown -/

/-- A plain condition without long patterns that is true or false of the row of each message. -/
structure Sql.Expr.Certain (e : Expr) : Prop extends e.Plain where
  certain : ∀ m : Summary, ∃ b, (e.eval m.row).truth? = some b
  patterns : e.hasShortPatterns = true

namespace Sql.Expr

variable {e e' : Expr}

namespace Certain

theorem truth (b : Bool) : (Expr.truth b).Certain := ⟨.truth b, fun _ => ⟨b, Cell.truth?_ofBool b⟩, rfl⟩

theorem enclosed (h : e.Certain) (wide : Bool) : (Expr.enclosed wide e).Certain :=
  ⟨h.toPlain.enclosed wide, h.certain, h.patterns⟩

theorem negated (h : e.Certain) : (Expr.negated false e).Certain := by
  refine ⟨h.toPlain.negated, fun m => ?_, h.patterns⟩
  obtain ⟨b, hb⟩ := h.certain m
  refine ⟨!b, ?_⟩
  show (Cell.ofTruth? ((e.eval m.row).truth?.map (!·))).truth? = _
  rw [hb, Cell.truth?_ofTruth?]
  rfl

theorem binary (isAnd : Bool) (h : e.Certain) (h' : e'.Certain) :
    (Expr.binary (if isAnd then .and else .or) e e').Certain := by
  have hpatterns : (Expr.binary (if isAnd then .and else .or) e e').hasShortPatterns = true := by
    cases isAnd <;> simp [hasShortPatterns, h.patterns, h'.patterns]
  refine ⟨.binary _ h.toPlain h'.toPlain, fun m => ?_, hpatterns⟩
  obtain ⟨b, hb⟩ := h.certain m
  obtain ⟨b', hb'⟩ := h'.certain m
  cases isAnd with
  | true =>
    refine ⟨b && b', ?_⟩
    show (Cell.ofTruth? (Cell.and? (e.eval m.row).truth? (e'.eval m.row).truth?)).truth? = _
    rw [hb, hb', Cell.truth?_ofTruth?, Cell.and?_some]
  | false =>
    refine ⟨b || b', ?_⟩
    show (Cell.ofTruth? (Cell.or? (e.eval m.row).truth? (e'.eval m.row).truth?)).truth? = _
    rw [hb, hb', Cell.truth?_ofTruth?, Cell.or?_some]

theorem foldl (isAnd : Bool) {es : List Expr} (hes : ∀ e' ∈ es, e'.Certain) (h : e.Certain) :
    (es.foldl (.binary (if isAnd then .and else .or)) e).Certain := by
  induction es generalizing e with
  | nil => exact h
  | cons e' es ih =>
    obtain ⟨hfirst, hrest⟩ := List.forall_mem_cons.1 hes
    exact ih hrest (h.binary isAnd hfirst)

/-- The negation of such a condition is true of all other rows. -/
theorem isTrueOf_negated (h : e.Certain) (m : Summary) :
    (Expr.negated false e).isTrueOf m.row = !e.isTrueOf m.row := by
  obtain ⟨b, hb⟩ := h.certain m
  show ((Cell.ofTruth? ((e.eval m.row).truth?.map (!·))).truth? == some true) = !((e.eval m.row).truth? == some true)
  rw [hb, Cell.truth?_ofTruth?]
  cases b <;> rfl

end Certain

end Sql.Expr

/-- There are no patterns in the condition for a flag. -/
theorem Sql.Operand.hasShortPatterns_of_flagSet {name : String} {e : Expr} (h : flagSet name = .condition e) :
    e.hasShortPatterns = true := by
  rw [flagSet] at h
  split at h
  · cases h
    rfl
  · dsimp only at h
    split at h
    · cases h
      rfl
    · cases h
      rfl

namespace Term

variable {now : Int64} {t : Term} {o : Operand} {e : Expr}

/-! ### Lowering -/

/-- What a condition over flags is lowered to: the text that says nothing, or a condition that is never unknown. -/
structure LowersCertainly (now : Int64) (t : Term) (o : Operand) : Prop where
  lower : Tree.lower now t = .ok o
  void : t.IsVoid → o = .condition .everything
  certain : ¬ t.IsVoid → ∃ e, o.Asks e ∧ e.Certain

theorem LowersCertainly.part? (h : LowersCertainly now t o) (isAnd : Bool) :
    ∃ part, o.part? isAnd = .ok part ∧ (∀ e ∈ part, e.Certain) ∧ (isAnd = true → (part = none ↔ t.IsVoid)) := by
  by_cases hvoid : t.IsVoid
  · rw [h.void hvoid]
    cases isAnd with
    | true => exact ⟨none, rfl, by simp, fun _ => iff_of_true rfl hvoid⟩
    | false => exact ⟨some (.truth true), rfl, by simp [Expr.Certain.truth], fun hand => by cases hand⟩
  · obtain ⟨e, hasks, he⟩ := h.certain hvoid
    refine ⟨some e, hasks.part? isAnd, ?_, fun _ => iff_of_false (by simp) hvoid⟩
    rintro e' ⟨⟩
    exact he

/-- The parts of a conjunction are those of its arguments which are not void. -/
theorem exists_parts {args : List Term} {os : List Operand} (h : List.Forall₂ (LowersCertainly now) args os)
    (isAnd : Bool) :
    ∃ es, Operand.parts isAnd os = .ok es ∧ (∀ e ∈ es, e.Certain) ∧
      (isAnd = true → (es = [] ↔ ∀ a ∈ args, a.IsVoid)) := by
  induction h with
  | nil => exact ⟨[], rfl, by simp, fun _ => by simp⟩
  | cons hfirst _ ih =>
    obtain ⟨part, hpart, hcertain, hnone⟩ := hfirst.part? isAnd
    obtain ⟨es, hparts, hall, hnil⟩ := ih
    refine ⟨part.toList ++ es, by rw [Operand.parts, hpart, hparts], fun e he => ?_, fun hand => ?_⟩
    · rcases List.mem_append.1 he with he | he
      · exact hcertain e (Option.mem_toList.1 he)
      · exact hall e he
    · rw [List.append_eq_nil_iff, Option.toList_eq_nil_iff, hnone hand, hnil hand, List.forall_mem_cons]

theorem exists_operand_and {args : List Term} {os : List Operand} (h : List.Forall₂ (LowersCertainly now) args os) :
    ∃ o, LowersCertainly now (.call "and" args) o := by
  obtain ⟨es, hparts, hall, hnil⟩ := exists_parts h true
  have hlower : Tree.lower now (.call "and" args) = Operand.join true os := by
    show Tree.lower now (.call Stack.Logic.and.name args) = _
    rw [Tree.lower_logic, Tree.lowerAll_eq (h.imp fun _ _ ha => ha.lower)]
    rfl
  rw [Operand.join, hparts] at hlower
  cases es with
  | nil =>
    have hvoid : IsVoid (.call "and" args) := .and ((hnil rfl).1 rfl)
    exact ⟨_, hlower, fun _ => rfl, fun hnot => absurd hvoid hnot⟩
  | cons e es =>
    obtain ⟨hfirst, hrest⟩ := List.forall_mem_cons.1 hall
    have hcertain := (hfirst.foldl true hrest).enclosed true
    refine ⟨_, hlower, fun hvoid => ?_, fun _ => ⟨_, .condition hcertain.definite, hcertain⟩⟩
    exact absurd ((hnil rfl).2 (isVoid_and_iff.1 hvoid)) (List.cons_ne_nil _ _)

theorem exists_operand_or {args : List Term} {os : List Operand} (h : List.Forall₂ (LowersCertainly now) args os) :
    ∃ o, LowersCertainly now (.call "or" args) o := by
  obtain ⟨es, hparts, hall, -⟩ := exists_parts h false
  have hlower : Tree.lower now (.call "or" args) = Operand.join false os := by
    show Tree.lower now (.call Stack.Logic.or.name args) = _
    rw [Tree.lower_logic, Tree.lowerAll_eq (h.imp fun _ _ ha => ha.lower)]
    rfl
  have hcertain : ∃ e, Operand.join false os = .ok (.condition e) ∧ e.Certain := by
    rw [Operand.join, hparts]
    cases es with
    | nil => exact ⟨_, rfl, .truth false⟩
    | cons e es =>
      obtain ⟨hfirst, hrest⟩ := List.forall_mem_cons.1 hall
      exact ⟨_, rfl, (hfirst.foldl false hrest).enclosed true⟩
  obtain ⟨e, hjoin, he⟩ := hcertain
  refine ⟨_, hlower.trans hjoin, fun hvoid => ?_, fun _ => ⟨e, .condition he.definite, he⟩⟩
  exact absurd hvoid (not_isVoid_call (by decide) (by decide))

/-- A condition that says something is negated to one that is true of all other rows. No condition for completed
tasks is met here, which has a negation of its own. -/
theorem exists_negation (hasks : o.Asks e) (he : e.Certain) :
    ∃ e', Operand.negate (some o) = .ok (.condition e') ∧ e'.Certain ∧
      ∀ m : Summary, e'.isTrueOf m.row = !e.isTrueOf m.row := by
  cases hasks with
  | condition _ =>
    refine ⟨_, ?_, ((he.enclosed false).negated).enclosed false, (he.enclosed false).isTrueOf_negated⟩
    rw [Operand.negate, if_neg he.sql_ne_empty, if_neg he.sql_ne_completedOn]
  | bool b =>
    refine ⟨_, rfl, .truth !b, fun m => ?_⟩
    rw [Expr.isTrueOf_truth, Expr.isTrueOf_truth]

theorem lower_not (h : Tree.lower now t = .ok o) : Tree.lower now (.call "not" [t]) = Operand.negate (some o) := by
  show Tree.lower now (.call Stack.Logic.not.name [t]) = _
  rw [Tree.lower_logic, Tree.lowerAll_eq (.cons h .nil)]
  rfl

theorem exists_operand_not (h : LowersCertainly now t o) : ∃ o', LowersCertainly now (.call "not" [t]) o' := by
  by_cases hvoid : t.IsVoid
  · -- Negation leaves the empty text as it is.
    have hlower := lower_not h.lower
    rw [h.void hvoid] at hlower
    exact ⟨_, hlower, fun _ => rfl, fun hnot => absurd hvoid.not hnot⟩
  · obtain ⟨e, hasks, he⟩ := h.certain hvoid
    obtain ⟨e', hnegate, he', -⟩ := exists_negation hasks he
    refine ⟨_, (lower_not h.lower).trans hnegate, fun hnot => absurd (isVoid_not_iff.1 hnot) hvoid, fun _ => ?_⟩
    exact ⟨e', .condition he'.definite, he'⟩

/-- **Every condition over flags is lowered**, to nothing if it is void and to a condition that is never unknown if not. -/
theorem exists_operand (now : Int64) (h : t.IsFlagTest) : ∃ o, LowersCertainly now t o := by
  induction h with
  | bool b =>
    refine ⟨.bool b, by rw [Tree.lower], fun hvoid => absurd hvoid (not_isVoid_bool b), fun _ => ?_⟩
    exact ⟨_, .bool b, .truth b⟩
  | systemFlag name =>
    have hname : Builtin.ofName? "system-flag" = some .systemFlag := by decide +kernel
    obtain ⟨e, hflag, hplain, htruth⟩ := Operand.exists_flagSet name
    refine ⟨.condition e, ?_, fun hvoid => absurd hvoid (not_isVoid_call (by decide) (by decide)), fun _ => ?_⟩
    · rw [lower_call_string hname rfl]
      exact congrArg Except.ok hflag
    · exact ⟨e, .condition hplain.definite, hplain, fun m => ⟨_, htruth m⟩, Operand.hasShortPatterns_of_flagSet hflag⟩
  | not _ ih =>
    obtain ⟨o, ho⟩ := ih
    exact exists_operand_not ho
  | and _ ih =>
    obtain ⟨os, hos⟩ := exists_forall₂ ih
    exact exists_operand_and hos
  | or _ ih =>
    obtain ⟨os, hos⟩ := exists_forall₂ ih
    exact exists_operand_or hos

theorem lower_matchAll_of_isVoid (hvoid : t.IsVoid) (h : LowersCertainly now t o) :
    Tree.lower now (.call "match-all" [t]) = .ok (.condition .everything) := by
  have hbool : ∀ b, t ≠ .bool b := by
    rintro b rfl
    exact not_isVoid_bool b hvoid
  rw [Tree.lower_matchAll hbool, h.lower, h.void hvoid]

end Term

/-! ### Searches -/

namespace Session

variable {s : Session} {f : Folder} {expression expression' : String} {t : Term}

theorem compile_of_isVoid (ht : t.IsFlagTest) (hvoid : t.IsVoid)
    (hparse : Term.parse expression = .ok (.call "match-all" [t])) :
    s.compiler.compile s.now expression = .ok .everything := by
  obtain ⟨o, ho⟩ := Term.exists_operand s.now ht
  rw [compile_eq_finish (fun _ => .matchAll ht.isCondition) hparse (Term.lower_matchAll_of_isVoid hvoid ho)]
  rfl

/-- What is found in the database for a term that says nothing. -/
theorem search_of_isVoid (hf : f.Synced) (ht : t.IsFlagTest) (hvoid : t.IsVoid) (hcancelled : s.cancelled = false)
    (hparse : Term.parse expression = .ok (.call "match-all" [t])) (hroute : f.route expression none = .database) :
    (s.search f expression none).1 = .ok f.uids := by
  rw [search_of_route_database (effective_of_parse hparse) hroute]
  show (s.searchDatabase f expression).1 = _
  rw [(database_of_isTakenFor hf.ready (isTakenFor_everything _) (compile_of_isVoid ht hvoid hparse)).1,
    answer_eq_ok hcancelled, Folder.found, List.filter_eq_self.2 fun m _ => Expr.isTrueOf_truth]
  rfl

/-- Beyond the limits, a condition over flags is too high and the database refuses it. -/
theorem search_of_not_fits (hf : f.Synced) (ht : t.IsFlagTest) (hcancelled : s.cancelled = false)
    (hparse : Term.parse expression = .ok (.call "match-all" [t])) (hroute : f.route expression none = .database)
    (hfits : ¬ s.Fits expression) : (s.search f expression none).1 = .error .store := by
  by_cases hvoid : t.IsVoid
  · exact absurd (Fits.of_compile (compile_of_isVoid ht hvoid hparse) ⟨rfl, rfl⟩) hfits
  · obtain ⟨o, ho⟩ := Term.exists_operand s.now ht
    obtain ⟨e, hasks, he⟩ := ho.certain hvoid
    have hcompile := compile_of_asks ht.isCondition ho.lower hasks hparse
    have hnone : (Term.call "match-all" [t]).WritesNone :=
      Term.writesNone_call_iff.2 ⟨by decide, List.forall_mem_singleton.2 ht.writesNone⟩
    have hhigh : e.isShallow = false := by
      rw [← Bool.not_eq_true]
      exact fun hshallow => hfits (.of_compile hcompile ⟨hshallow, he.patterns⟩)
    rw [search_of_route_database (effective_of_parse hparse) hroute]
    exact searchDatabase_of_not_isShallow hf.ready hparse hnone he.definite hcompile hhigh hcancelled

/-- **Negation is complement, except for what says nothing.** Searched in the database, a condition over flags and its
negation find each message of the folder once between them if the condition is not void. If it is void, both of them find
every message. A condition beyond the limits of the database is refused. -/
theorem search_complement (hf : f.Synced) (ht : t.IsFlagTest) (hcancelled : s.cancelled = false)
    (hparse : Term.parse expression = .ok (.call "match-all" [t]))
    (hparse' : Term.parse expression' = .ok (.call "match-all" [.call "not" [t]]))
    (hroute : f.route expression none = .database) (hroute' : f.route expression' none = .database) :
    (s.Fits expression → s.Fits expression' →
      ∃ yes no, (s.search f expression none).1 = .ok yes ∧ (s.search f expression' none).1 = .ok no ∧
        (¬ t.IsVoid → ∀ uid ∈ f.uids, uid ∈ yes ↔ uid ∉ no) ∧ (t.IsVoid → yes = f.uids ∧ no = f.uids)) ∧
    (¬ s.Fits expression → (s.search f expression none).1 = .error .store) ∧
    (¬ s.Fits expression' → (s.search f expression' none).1 = .error .store) := by
  refine ⟨fun hfits hfits' => ?_, search_of_not_fits hf ht hcancelled hparse hroute,
    search_of_not_fits hf ht.not hcancelled hparse' hroute'⟩
  by_cases hvoid : t.IsVoid
  · refine ⟨f.uids, f.uids, search_of_isVoid hf ht hvoid hcancelled hparse hroute,
      search_of_isVoid hf ht.not hvoid.not hcancelled hparse' hroute', fun hnot => absurd hvoid hnot, fun _ => ⟨rfl, rfl⟩⟩
  · obtain ⟨o, ho⟩ := Term.exists_operand s.now ht
    obtain ⟨e, hasks, he⟩ := ho.certain hvoid
    obtain ⟨e', hnegate, he', hopposite⟩ := Term.exists_negation hasks he
    have hlower' : Tree.lower s.now (.call "not" [t]) = .ok (.condition e') := (Term.lower_not ho.lower).trans hnegate
    have hyes := search_of_asks hf ht.isCondition ht.writesNone hcancelled ho.lower hasks hparse hroute
    have hno := search_of_asks hf ht.not.isCondition ht.not.writesNone hcancelled hlower' (.condition he'.definite) hparse'
      hroute'
    refine ⟨_, _, hyes.resolve_right fun hrefused => hrefused.1 hfits, hno.resolve_right fun hrefused => hrefused.1 hfits',
      fun _ uid huid => ?_, fun h => absurd h hvoid⟩
    obtain ⟨m, hm, rfl⟩ := List.mem_map.1 huid
    rw [Folder.mem_found_iff hf.ready.nodup hm, Folder.mem_found_iff hf.ready.nodup hm, hopposite]
    cases e.isTrueOf m.row <;> simp

/-- A void part of a conjunction is left out, so that what is left is complemented. -/
theorem search_complement_flagged :
    let raws := [("1", Ascii.bytes "Status: R\nSubject: one\n\n"), ("2", Ascii.bytes "Subject: two\n\n")]
    let f := ((Folder.ofMessages "in" raws).attachStore .empty).syncStore.2
    let s := Session.start .tree 0
    let t := Term.call "and" [.call "not" [.call "and" []], .call "system-flag" [.string "seen"]]
    let text := "(match-all (and (not (and)) (system-flag \"seen\")))"
    let text' := "(match-all (not (and (not (and)) (system-flag \"seen\"))))"
    f.Synced ∧ t.IsFlagTest ∧ ¬ t.IsVoid ∧ Term.parse text = .ok (.call "match-all" [t]) ∧
      Term.parse text' = .ok (.call "match-all" [.call "not" [t]]) ∧ f.route text none = .database ∧
      f.route text' none = .database ∧ (s.search f text none).1 = .ok ["1"] ∧ (s.search f text' none).1 = .ok ["2"] ∧
      ∀ uid ∈ f.uids, uid ∈ ["1"] ↔ uid ∉ ["2"] := by
  intro raws f s t text text'
  have hsynced : f.Synced := by
    have hsync : ((Folder.ofMessages "in" raws).attachStore .empty).syncStore = (.ok 2, f) :=
      Prod.ext (eq_ok_of_toOption (by decide +kernel)) rfl
    exact .syncStore rfl hsync
  have hempty : Term.IsFlagTest (.call "and" []) := .and fun a ha => absurd ha List.not_mem_nil
  have ht : t.IsFlagTest :=
    .and (List.forall_mem_cons.2 ⟨.not hempty, List.forall_mem_singleton.2 (.systemFlag "seen")⟩)
  have hnot : ¬ t.IsVoid := by
    intro hvoid
    have hflag := Term.isVoid_and_iff.1 hvoid (.call "system-flag" [.string "seen"]) (by simp)
    exact Term.not_isVoid_call (by decide) (by decide) hflag
  have hparse : Term.parse text = .ok (.call "match-all" [t]) := eq_ok_of_toOption (by decide +kernel)
  have hparse' : Term.parse text' = .ok (.call "match-all" [.call "not" [t]]) := eq_ok_of_toOption (by decide +kernel)
  have hroute : f.route text none = .database := by decide +kernel
  have hroute' : f.route text' none = .database := by decide +kernel
  have hyes : (s.search f text none).1 = .ok ["1"] := eq_ok_of_toOption (by decide +kernel)
  have hno : (s.search f text' none).1 = .ok ["2"] := eq_ok_of_toOption (by decide +kernel)
  have hfits : ∀ expression ∈ [text, text'], s.Fits expression := by decide +kernel
  obtain ⟨hanswered, -, -⟩ := search_complement (s := s) hsynced ht rfl hparse hparse' hroute hroute'
  obtain ⟨yes, no, hyes', hno', hcomplement, -⟩ := hanswered (hfits text (by simp)) (hfits text' (by simp))
  obtain rfl : ["1"] = yes := Except.ok.inj (hyes.symm.trans hyes')
  obtain rfl : ["2"] = no := Except.ok.inj (hno.symm.trans hno')
  exact ⟨hsynced, ht, hnot, hparse, hparse', hroute, hroute', hyes, hno, hcomplement hnot⟩

/-- The empty conjunction is not complemented: it and its negation find both messages of a folder. -/
theorem not_forall_search_complement :
    ¬ ∀ (s : Session) (f : Folder) (expression expression' : String) (t : Term), f.Synced → t.IsFlagTest →
      s.cancelled = false → Term.parse expression = .ok (.call "match-all" [t]) →
      Term.parse expression' = .ok (.call "match-all" [.call "not" [t]]) → f.route expression none = .database →
      f.route expression' none = .database →
      ∃ yes no, (s.search f expression none).1 = .ok yes ∧ (s.search f expression' none).1 = .ok no ∧
        ∀ uid ∈ f.uids, uid ∈ yes ↔ uid ∉ no := by
  intro h
  let raws := [("1", Ascii.bytes "Subject: one\n\n"), ("2", Ascii.bytes "Subject: two\n\n")]
  let f := ((Folder.ofMessages "in" raws).attachStore .empty).syncStore.2
  let s := Session.start .tree 0
  have hsync : ((Folder.ofMessages "in" raws).attachStore .empty).syncStore = (.ok 2, f) :=
    Prod.ext (eq_ok_of_toOption (by decide +kernel)) rfl
  have hempty : Term.IsFlagTest (.call "and" []) := .and fun a ha => absurd ha List.not_mem_nil
  have hyes : (s.search f "(match-all (and))" none).1 = .ok ["1", "2"] := eq_ok_of_toOption (by decide +kernel)
  have hno : (s.search f "(match-all (not (and)))" none).1 = .ok ["1", "2"] := eq_ok_of_toOption (by decide +kernel)
  obtain ⟨yes, no, hyes', hno', hcomplement⟩ := h s f "(match-all (and))" "(match-all (not (and)))" _
    (.syncStore rfl hsync) hempty rfl (eq_ok_of_toOption (by decide +kernel)) (eq_ok_of_toOption (by decide +kernel))
    (by decide +kernel) (by decide +kernel)
  obtain rfl : ["1", "2"] = yes := Except.ok.inj (hyes.symm.trans hyes')
  obtain rfl : ["1", "2"] = no := Except.ok.inj (hno.symm.trans hno')
  exact (hcomplement "1" (by decide +kernel)).1 (by decide) (by decide)

end Session

end MailQuery
