import MailQuery.Proofs.Compilers.Values

/-!
# The two compilers agree

The first pass writes a condition into the flat list, and the second pass makes one operand of what has been
written. `FoldsTo` says the second half: some entries of a level fold to operands of that level, whatever
lies to their right, as long as it is not deeper. `Adds` joins it with the first half: tokens add such
entries to the list, or both ways of compiling fail.

Entries of one level are put together with `Adds.append`, and one level is closed with `Adds.logic`. The
tokens of every condition are put together this way (`adds_of_isCondition`), and the main statement
`compile_eq_of_isCondition` follows for a whole text. The two compilers do not look at a term in the same
order, so that they may fail with different errors; what is said is that both fail.
-/

namespace MailQuery.Sql.Stack

open Text

variable {now : Int64}

/-! ### The second pass -/

theorem fold_cons (stack : List (Operand × Nat)) (item : Item) (items : List Item) :
    fold stack (item :: items) = foldItem stack item >>= fun s => fold s items := by
  rw [fold]
  cases foldItem stack item <;> rfl

/-- The one operand of a result. -/
def alone (x : Except SearchError Operand) : Except SearchError (List Operand) :=
  x >>= fun o => return [o]

/-- The operands of two results. -/
def both (x y : Except SearchError (List Operand)) : Except SearchError (List Operand) := do
  let os ← x
  let os' ← y
  return os ++ os'

/-- Entries of the flat list, the last one first, fold to operands of a level, unless both fail. -/
def FoldsTo (level : Nat) (items : List Item) (x : Except SearchError (List Operand)) : Prop :=
  ∀ stack more, (∀ v ∈ stack.head?, v.2 ≤ level) →
    (fold stack (items ++ more)).toOption =
      (x >>= fun os => fold (os.map (·, level) ++ stack) more).toOption

namespace FoldsTo

variable {level : Nat} {items items' : List Item} {x x' : Except SearchError (List Operand)}

theorem nil : FoldsTo level [] (.ok []) := fun _ _ _ => rfl

theorem operand (o : Operand) : FoldsTo level [.operand o level] (alone (.ok o)) := fun _ _ _ => rfl

theorem append (h : FoldsTo level items x) (h' : FoldsTo level items' x') :
    FoldsTo level (items' ++ items) (both x x') := by
  intro stack more hstack
  rw [List.append_assoc, h' stack _ hstack]
  cases x' with
  | error e => cases x <;> rfl
  | ok os' =>
    rw [ok_bind, h]
    · cases x with
      | error e => rfl
      | ok os => simp [both, pure, Except.pure]
    · intro v hv
      cases os' with
      | nil => exact hstack v hv
      | cons o os' =>
        obtain rfl : v = (o, level) := by simpa [eq_comm] using hv
        exact Nat.le_refl _

/-- An operator takes the operands of the level below it, and no others. -/
theorem logic (op : Logic) (h : FoldsTo (level + 1) items x) :
    FoldsTo level (items ++ [.op op level]) (alone (x >>= op.apply)) := by
  intro stack more hstack
  rw [List.append_assoc, h stack _ fun v hv => Nat.le_succ_of_le (hstack v hv)]
  cases x with
  | error e => rfl
  | ok os =>
    -- The operands of the level below lie on top, and what lies under them is not deeper than the operator.
    have hdeeper : ∀ v ∈ os.map (·, level + 1), decide (level < v.2) = true := by simp
    have hleft : stack.takeWhile (fun v => level < v.2) = [] ∧
        stack.dropWhile (fun v => level < v.2) = stack := by
      cases stack with
      | nil => exact ⟨rfl, rfl⟩
      | cons v stack =>
        have hv : ¬ level < v.2 := Nat.not_lt.2 (hstack v rfl)
        exact ⟨List.takeWhile_cons_of_neg (by simpa using hv), List.dropWhile_cons_of_neg (by simpa using hv)⟩
    have htake : ((os.map (·, level + 1) ++ stack).takeWhile fun v => level < v.2).map (·.1) = os := by
      rw [List.takeWhile_append_of_pos hdeeper, hleft.1, List.append_nil, List.map_map]
      exact List.map_id os
    have hdrop : (os.map (·, level + 1) ++ stack).dropWhile (fun v => level < v.2) = stack := by
      rw [List.dropWhile_append_of_pos hdeeper, hleft.2]
    rw [ok_bind, ok_bind, List.singleton_append, fold_cons, foldItem, htake, hdrop]
    cases op.apply os <;> rfl

/-- What folds to one operand has an entry. -/
theorem ne_nil {r : Except SearchError Operand} (h : FoldsTo level items (alone r)) : items ≠ [] := by
  rintro rfl
  have := h [] [] (by simp)
  cases r <;> cases this

end FoldsTo

/-! ### The first pass -/

/-- The frames in which a finished value goes to the flat list. -/
def Emits : List Frame → Prop
  | .call _ _ :: _ => False
  | _ => True

theorem deliver_of_emits {frames : List Frame} (h : Emits frames) (w : Work) (o : Operand) :
    deliver now frames w o = .ok ⟨frames, w.emit o⟩ := by
  cases frames with
  | nil => rfl
  | cons frame frames =>
    cases frame with
    | call => exact h.elim
    | _ => rfl

/-- Tokens add entries to the flat list that fold to the given operands, unless both fail. -/
def Adds (now : Int64) (lexemes : List Lexeme) (x : Except SearchError (List Operand)) : Prop :=
  ∀ frames, Emits frames → ∀ w : Work,
    (∃ items nextId, FoldsTo w.level items x ∧ ∀ rest,
      run now ⟨frames, w⟩ (moves (lexemes ++ rest)) =
        run now ⟨frames, { w with output := items ++ w.output, nextId }⟩ (moves rest)) ∨
    x.toOption = none ∧ ∀ rest, (run now ⟨frames, w⟩ (moves (lexemes ++ rest))).toOption = none

namespace Adds

variable {lexemes lexemes' : List Lexeme} {x x' : Except SearchError (List Operand)}

theorem nil : Adds now [] (.ok []) := fun _ _ w => .inl ⟨[], w.nextId, .nil, fun _ => rfl⟩

theorem append (h : Adds now lexemes x) (h' : Adds now lexemes' x') :
    Adds now (lexemes ++ lexemes') (both x x') := by
  intro frames hframes w
  -- Once the first tokens have failed, nothing that comes behind them matters.
  rcases h frames hframes w with ⟨items, nextId, hfolds, hrun⟩ | ⟨hnone, hrun⟩
  · rcases h' frames hframes { w with output := items ++ w.output, nextId } with
      ⟨items', nextId', hfolds', hrun'⟩ | ⟨hnone, hrun'⟩
    · refine .inl ⟨items' ++ items, nextId', hfolds.append hfolds', fun rest => ?_⟩
      rw [List.append_assoc, hrun, hrun', List.append_assoc]
    · refine .inr ⟨?_, fun rest => ?_⟩
      · cases x' with
        | ok => cases hnone
        | error => cases x <;> rfl
      · rw [List.append_assoc, hrun, hrun']
  · refine .inr ⟨?_, fun rest => ?_⟩
    · cases x with
      | ok => cases hnone
      | error => rfl
    · rw [List.append_assoc, hrun]

theorem value {t : Term} (h : IsValue t) (htokens : lexemes.map (·.token) = t.tokens) :
    Adds now lexemes (alone (Tree.lower now t)) := by
  intro frames hframes w
  obtain ⟨nextId, hrun⟩ := actsAsValue_of_isValue h htokens frames w
  cases hlower : Tree.lower now t with
  | error e =>
    refine .inr ⟨rfl, fun rest => ?_⟩
    rw [hrun, hlower]
    rfl
  | ok o =>
    refine .inl ⟨[.operand o w.level], nextId, .operand o, fun rest => ?_⟩
    rw [hrun, hlower, ok_bind, deliver_of_emits hframes]
    rfl

/-- A logical operator with its operands. -/
theorem logic (op : Logic) (start : List Lexeme) {offset : Nat}
    (hstart : ∀ rest, moves (start ++ (lexemes ++ ⟨.closeParen, offset⟩ :: rest)) =
      .openLogic op :: moves (lexemes ++ ⟨.closeParen, offset⟩ :: rest))
    (h : Adds now lexemes x) :
    Adds now (start ++ (lexemes ++ [⟨.closeParen, offset⟩])) (alone (x >>= op.apply)) := by
  intro frames hframes w
  have hopen : ∀ rest, run now ⟨frames, w⟩ (moves (start ++ (lexemes ++ ⟨.closeParen, offset⟩ :: rest))) =
      run now ⟨.logic :: frames, { w with output := .op op w.level :: w.output, level := w.level + 1 }⟩
        (moves (lexemes ++ ⟨.closeParen, offset⟩ :: rest)) := fun rest => by
    rw [hstart, run_cons]
    rfl
  -- The operator lies in the list before its operands are added, and is folded after them.
  rcases h (.logic :: frames) trivial { w with output := .op op w.level :: w.output, level := w.level + 1 }
    with ⟨items, nextId, hfolds, hrun⟩ | ⟨hnone, hrun⟩
  · refine .inl ⟨items ++ [.op op w.level], nextId, hfolds.logic op, fun rest => ?_⟩
    rw [List.append_assoc, List.append_assoc, List.singleton_append, hopen, hrun, moves, run_cons, step,
      close, ok_bind, List.append_assoc, List.singleton_append, Nat.add_sub_cancel]
  · refine .inr ⟨?_, fun rest => ?_⟩
    · cases x with
      | ok => cases hnone
      | error => rfl
    · rw [List.append_assoc, List.append_assoc, List.singleton_append, hopen, hrun]

/-- The argument of `match-all` stands for the call. It adds an entry, so that closing adds none. -/
theorem matchAll {r : Except SearchError Operand} (start : List Lexeme) {offset : Nat}
    (hstart : ∀ rest, moves (start ++ (lexemes ++ ⟨.closeParen, offset⟩ :: rest)) =
      .openMatchAll none :: moves (lexemes ++ ⟨.closeParen, offset⟩ :: rest))
    (h : Adds now lexemes (alone r)) :
    Adds now (start ++ (lexemes ++ [⟨.closeParen, offset⟩])) (alone r) := by
  intro frames hframes w
  have hopen : ∀ rest, run now ⟨frames, w⟩ (moves (start ++ (lexemes ++ ⟨.closeParen, offset⟩ :: rest))) =
      run now ⟨.matchAll w.output.length :: frames, w⟩
        (moves (lexemes ++ ⟨.closeParen, offset⟩ :: rest)) := fun rest => by
    rw [hstart, run_cons]
    rfl
  rcases h (.matchAll w.output.length :: frames) trivial w with ⟨items, nextId, hfolds, hrun⟩ | ⟨hnone, hrun⟩
  · refine .inl ⟨items, nextId, hfolds, fun rest => ?_⟩
    have hlength : (items ++ w.output).length ≠ w.output.length := by
      have := List.length_pos_iff.2 hfolds.ne_nil
      rw [List.length_append]
      omega
    rw [List.append_assoc, List.append_assoc, List.singleton_append, hopen, hrun, moves, run_cons, step,
      close]
    simp only [if_neg hlength, ok_bind]
  · refine .inr ⟨hnone, fun rest => ?_⟩
    rw [List.append_assoc, List.append_assoc, List.singleton_append, hopen, hrun]

/-- A `match-all` without argument or with a truth value. -/
theorem matchAllLiteral (literal : Option Bool) (start : List Lexeme) {offset : Nat}
    (hstart : ∀ rest, moves (start ++ ⟨.closeParen, offset⟩ :: rest) =
      .openMatchAll literal :: moves (⟨.closeParen, offset⟩ :: rest)) :
    Adds now (start ++ [⟨.closeParen, offset⟩])
      (alone (.ok (.condition (.truth (literal.getD true))))) := by
  intro frames hframes w
  refine .inl ⟨_, w.nextId, .operand _, fun rest => ?_⟩
  rw [List.append_assoc, List.singleton_append, hstart, moves, run_cons, step, ok_bind, run_cons, step,
    close]
  cases literal with
  | none => simp [Work.emit]
  | some b => simp [Work.emit]

theorem all {args : List Term} (hargs : ∀ a ∈ args, ∀ {lexemes : List Lexeme},
      lexemes.map (·.token) = a.tokens → Adds now lexemes (alone (Tree.lower now a)))
    (htokens : lexemes.map (·.token) = Term.tokensAll args) :
    Adds now lexemes (Tree.lowerAll now args) := by
  induction args generalizing lexemes with
  | nil =>
    obtain rfl : lexemes = [] := by simpa [Term.tokensAll] using htokens
    exact nil
  | cons a args ih =>
    obtain ⟨first, others, rfl, hfirst, hothers⟩ := List.map_eq_append_iff.1 htokens
    have hboth : both (alone (Tree.lower now a)) (Tree.lowerAll now args) =
        Tree.lowerAll now (a :: args) := by
      rw [Tree.lowerAll_cons, both, alone]
      simp only [bind_assoc, pure_bind, List.singleton_append]
    rw [← hboth]
    exact (hargs a (List.mem_cons_self ..) hfirst).append
      (ih (fun b hb => hargs b (List.mem_cons_of_mem _ hb)) hothers)

/-- A call of a logical operator by its name. -/
theorem call (op : Logic) {args : List Term} (hargs : ∀ a ∈ args, ∀ {lexemes : List Lexeme},
      lexemes.map (·.token) = a.tokens → Adds now lexemes (alone (Tree.lower now a)))
    (htokens : lexemes.map (·.token) = (Term.call op.name args).tokens) :
    Adds now lexemes (alone (Tree.lower now (.call op.name args))) := by
  obtain ⟨offset, offset', inner, offset'', hinner, rfl⟩ := Term.exists_of_map_token_call htokens
  rw [Tree.lower_logic]
  refine logic op [⟨.openParen, offset⟩, ⟨.symbol op.name, offset'⟩] (fun rest => ?_)
    (all hargs hinner)
  have hopening : opening op.name = .openLogic op := by cases op <;> decide +kernel
  have hthreads : op.name ≠ "match-threads" := by cases op <;> decide
  have hall : op.name ≠ "match-all" := by cases op <;> decide
  rw [List.cons_append, List.cons_append, List.nil_append,
    moves_open (fun h => absurd h hthreads) (fun h => absurd h hall), hopening]

end Adds

theorem opening_matchAll : opening "match-all" = .openMatchAll none := by
  rw [opening, ofName?_matchAll]

theorem opening_matchThreads : opening "match-threads" = .openLogic .and := by
  rw [opening, ofName?_matchThreads]

/-- The tokens of a condition add entries to the flat list that fold to its operand. -/
theorem adds_of_isCondition {t : Term} (h : IsCondition t) {lexemes : List Lexeme}
    (htokens : lexemes.map (·.token) = t.tokens) : Adds now lexemes (alone (Tree.lower now t)) := by
  induction h generalizing lexemes with
  | value h => exact .value h htokens
  | and _ ih => exact .call .and ih htokens
  | or _ ih => exact .call .or ih htokens
  | not _ ih => exact .call .not ih htokens
  | everyMessage =>
    obtain ⟨offset, offset', inner, offset'', hinner, rfl⟩ := Term.exists_of_map_token_call htokens
    obtain rfl : inner = [] := by simpa [Term.tokensAll] using hinner
    rw [Tree.lower_everyMessage]
    refine Adds.matchAllLiteral none [⟨.openParen, offset⟩, ⟨.symbol "match-all", offset'⟩]
      fun rest => ?_
    rw [List.cons_append, List.cons_append, List.nil_append, moves_open ?_ ?_, opening_matchAll]
    · exact fun h => absurd h (by decide)
    · rintro - b o ls ⟨⟩
  | @matchAll t _ ih =>
    obtain ⟨offset, offset', inner, offset'', hinner, rfl⟩ := Term.exists_of_map_token_call htokens
    rw [Term.tokensAll, Term.tokensAll, List.append_nil] at hinner
    -- A truth value right behind the name belongs to the opening of the call.
    by_cases hbool : ∃ b, t = .bool b
    · obtain ⟨b, rfl⟩ := hbool
      obtain ⟨o, rfl⟩ := Term.eq_singleton_of_map_token hinner
      rw [Tree.lower_matchAll_bool]
      refine Adds.matchAllLiteral (some b)
        [⟨.openParen, offset⟩, ⟨.symbol "match-all", offset'⟩, ⟨.bool b, o⟩] fun rest => ?_
      rw [List.cons_append, List.cons_append, List.cons_append, List.nil_append, moves]
    · rw [Tree.lower_matchAll fun b hb => hbool ⟨b, hb⟩]
      refine Adds.matchAll [⟨.openParen, offset⟩, ⟨.symbol "match-all", offset'⟩]
        (fun rest => ?_) (ih hinner)
      rw [List.cons_append, List.cons_append, List.nil_append, moves_open ?_ ?_, opening_matchAll]
      · exact fun h => absurd h (by decide)
      · exact fun _ b o ls hls => hbool ⟨b, Term.eq_bool_of_map_token hinner hls⟩
  | noThreads =>
    obtain ⟨offset, offset', inner, offset'', hinner, rfl⟩ := Term.exists_of_map_token_call htokens
    obtain rfl : inner = [] := by simpa [Term.tokensAll] using hinner
    rw [Tree.lower_noThreads]
    refine Adds.logic .and [⟨.openParen, offset⟩, ⟨.symbol "match-threads", offset'⟩]
      (x := .ok []) (fun rest => ?_) .nil
    rw [List.nil_append, List.cons_append, List.cons_append, List.nil_append, moves_open ?_ ?_,
      opening_matchThreads]
    · rintro - s o ls ⟨⟩
    · exact fun h => absurd h (by decide)
  | @matchThreads how args _ ih =>
    obtain ⟨offset, offset', inner, offset'', hinner, rfl⟩ := Term.exists_of_map_token_call htokens
    obtain ⟨first, others, rfl, hfirst, hothers⟩ := List.map_eq_append_iff.1 hinner
    obtain ⟨o, rfl⟩ := Term.eq_singleton_of_map_token hfirst
    rw [Tree.lower_matchThreads]
    refine Adds.logic .and
      [⟨.openParen, offset⟩, ⟨.symbol "match-threads", offset'⟩, ⟨.string how, o⟩] (fun rest => ?_) (.all ih hothers)
    rw [List.cons_append, List.cons_append, List.cons_append, List.nil_append, moves]

/-! ### Whole texts -/

theorem conclude_nil (stop : Nat) (w : Work) :
    conclude stop ⟨[], w⟩ = fold [] w.output >>= fun stack => single stack >>= Operand.finish := by
  simp only [conclude]
  cases fold [] w.output with
  | error e => rfl
  | ok stack => simp only [ok_bind]; cases single stack <;> rfl

/-- What the compiler of terms makes of a condition, the compiler of tokens makes of its text. -/
theorem compile_of_lower {text : String} {t : Term} (hparse : Term.parse text = .ok t) (h : IsCondition t)
    {o : Operand} (hlower : Tree.lower now t = .ok o) : compile now text = o.finish := by
  obtain ⟨lexemes, htokenize, htokens⟩ := Term.map_token_of_parse hparse
  obtain ⟨items, nextId, hfolds, hrun⟩ | ⟨hnone, -⟩ := adds_of_isCondition h htokens [] trivial .start
  · have hfold : fold [] items = .ok [(o, 0)] := by
      have hone := hfolds [] [] fun _ hv => nomatch hv
      rw [hlower, List.append_nil] at hone
      exact eq_ok_of_toOption hone
    have hpass : run now .start (moves lexemes) = .ok ⟨[], { Work.start with output := items, nextId }⟩ := by
      have hall := hrun []
      rw [List.append_nil] at hall
      rw [State.start, hall]
      show Except.ok (⟨[], { Work.start with output := items ++ [], nextId }⟩ : State) = _
      rw [List.append_nil]
    rw [compile, htokenize]
    dsimp only
    rw [hpass]
    dsimp only
    rw [conclude_nil, hfold]
    rfl
  · rw [hlower] at hnone
    cases hnone

/-- **The compilers agree.** On the terms that both know they make the same condition, or both fail. -/
theorem compile_eq_of_isCondition {text : String} {t : Term} (hparse : Term.parse text = .ok t)
    (h : IsCondition t) : (compile now text).toOption = (Tree.compile now text).toOption := by
  obtain ⟨lexemes, htokenize, htokens⟩ := Term.map_token_of_parse hparse
  have hcompile : compile now text =
      run now .start (moves (lexemes ++ [])) >>= conclude (Text.byteLength text.toList) := by
    simp only [compile, htokenize, List.append_nil]
    cases run now .start (moves lexemes) <;> rfl
  have htree : Tree.compile now text = Tree.lower now t >>= Operand.finish := by
    rw [Tree.compile, hparse]
    simp only [Tree.compileTerm]
    cases Tree.lower now t <;> rfl
  rw [hcompile, htree]
  have hadds : Adds now lexemes (alone (Tree.lower now t)) := adds_of_isCondition h htokens
  -- At the outermost level there is one operand in the end, and nothing below it.
  rcases hadds [] trivial .start with ⟨items, nextId, hfolds, hrun⟩ | ⟨hnone, hrun⟩
  · have hfold : (fold [] items).toOption = (Tree.lower now t).toOption.map fun o => [(o, 0)] := by
      rw [← List.append_nil items, hfolds [] [] (by simp)]
      cases Tree.lower now t <;> rfl
    rw [State.start, hrun, moves, run, ok_bind, conclude_nil, toOption_bind, toOption_bind]
    simp only [Work.start, List.append_nil]
    rw [hfold]
    cases Tree.lower now t <;> rfl
  · rw [toOption_bind, toOption_bind, State.start, hrun]
    cases hlower : Tree.lower now t with
    | error e => rfl
    | ok o => rw [hlower] at hnone; cases hnone

theorem compile_eq_on_nested_text :
    Term.parse "(match-all (or (not (system-flag \"seen\")) (< (get-size) 10)))" =
      .ok (.call "match-all" [.call "or" [.call "not" [.call "system-flag" [.string "seen"]],
        .call "<" [.call "get-size" [], .int 10]]]) ∧
    (compile 0 "(match-all (or (not (system-flag \"seen\")) (< (get-size) 10)))").toOption =
      (Tree.compile 0 "(match-all (or (not (system-flag \"seen\")) (< (get-size) 10)))").toOption := by
  have hparse : Term.parse "(match-all (or (not (system-flag \"seen\")) (< (get-size) 10)))" =
      .ok (.call "match-all" [.call "or" [.call "not" [.call "system-flag" [.string "seen"]],
        .call "<" [.call "get-size" [], .int 10]]]) := eq_ok_of_toOption (by decide +kernel)
  have hflag : IsValue (.call "system-flag" [.string "seen"]) :=
    .call (f := .systemFlag) (by decide +kernel) rfl (Nat.le_refl 1) (by simp [IsValue.string])
  have hsize : IsValue (.call "get-size" []) :=
    .call (f := .size) (by decide +kernel) rfl (Nat.le_refl 0) (by simp)
  have hless : IsValue (.call "<" [.call "get-size" [], .int 10]) :=
    .call (f := .compare .less) (by decide +kernel) rfl (Nat.le_refl 2)
      (by simp [hsize, IsValue.int])
  have hnot : IsCondition (.call "not" [.call "system-flag" [.string "seen"]]) :=
    .not (by simp [IsCondition.value hflag])
  exact ⟨hparse, compile_eq_of_isCondition hparse
    (.matchAll (.or (by simp [hnot, IsCondition.value hless])))⟩

end MailQuery.Sql.Stack
