import MailQuery.Proofs.Compilers.Grammar
import MailQuery.Proofs.Expr.Parsing

/-!
# Values in the first pass

The tokens of a value act on the stacks as if its operand had been handed over at once
(`ActsAsValue`). A call may be reduced before its closing parenthesis; the parenthesis then only takes
its frame away, and until then the frame stands above those of the state that the operand has led to. So
nothing has to be known about the frames and calls that are open around a value, and the statement is about
any of them.
-/

namespace MailQuery.Sql.Stack

open Text

variable {now : Int64}

/-! ### Moves -/

theorem run_cons (s : State) (m : Move) (ms : List Move) :
    run now s (m :: ms) = step now s m >>= fun t => run now t ms := by
  rw [run]
  cases step now s m <;> rfl

theorem opening_of_take? {name : String} {f : Builtin} {take : Take}
    (hname : Builtin.ofName? name = some f) (htake : take? f = some take) :
    opening name = .openCall f take := by
  rw [opening, hname]
  cases f with
  | header style => cases style <;> first | (cases htake; rfl) | cases htake
  | _ => first | (cases htake; rfl) | cases htake

/-- A name opens its call alone unless it is one that takes the literal after it along. -/
theorem moves_open {name : String} {rest : List Lexeme}
    (hthreads : name = "match-threads" → ∀ s offset ls, rest ≠ ⟨.string s, offset⟩ :: ls)
    (hall : name = "match-all" → ∀ b offset ls, rest ≠ ⟨.bool b, offset⟩ :: ls) (offset offset' : Nat) :
    moves (⟨.openParen, offset⟩ :: ⟨.symbol name, offset'⟩ :: rest) = opening name :: moves rest := by
  rw [moves]
  · exact fun s o ls hrest hname => hthreads hname s o ls hrest
  · exact fun b o ls hrest hname => hall hname b o ls hrest

/-- The name of a call of a value is none of those after which a literal belongs to the opening. -/
theorem ne_of_take? {name : String} {f : Builtin} {take : Take}
    (hname : Builtin.ofName? name = some f) (htake : take? f = some take) :
    name ≠ "match-threads" ∧ name ≠ "match-all" := by
  constructor
  · rintro rfl
    rw [ofName?_matchThreads] at hname
    cases hname
    cases htake
  · rintro rfl
    rw [ofName?_matchAll] at hname
    cases hname
    cases htake

/-! ### Calls -/

/-- The tokens of a term act on the stacks as its operand does. -/
def ActsAsValue (now : Int64) (t : Term) : Prop :=
  ∀ {lexemes : List Lexeme}, lexemes.map (·.token) = t.tokens → ∀ (frames : List Frame) (w : Work),
    ∃ nextId, ∀ rest, run now ⟨frames, w⟩ (moves (lexemes ++ rest)) = (do
      let o ← Tree.lower now t
      let s ← deliver now frames { w with nextId } o
      run now s (moves rest))

theorem reduce?_of_nodes {w : Work} {node : Node} {nodes : List Node} (hnodes : w.nodes = node :: nodes) :
    w.reduce? now = (do
      let value ← Operand.call now node.function (w.operands.drop node.base)
      return some (value, { w with nodes, operands := w.operands.take node.base })) := by
  simp only [Work.reduce?, hnodes]
  cases Operand.call now node.function (w.operands.drop node.base) <;> rfl

theorem reduceInto_of_nodes {w : Work} {node : Node} {nodes : List Node}
    (hnodes : w.nodes = node :: nodes) (frames : List Frame) :
    reduceInto now frames w = (do
      let value ← Operand.call now node.function (w.operands.drop node.base)
      deliver now frames { w with nodes, operands := w.operands.take node.base } value) := by
  rw [reduceInto, reduce?_of_nodes hnodes]
  cases Operand.call now node.function (w.operands.drop node.base) <;> rfl

theorem isReady_of_nodes {w : Work} {node : Node} {nodes : List Node} (hnodes : w.nodes = node :: nodes) :
    w.isReady node.id = true ↔ ¬ node.take.Awaits (w.operands.length - node.base) := by
  simp only [Work.isReady, hnodes]
  cases node.take <;> simp [Take.Awaits]

section

variable {w : Work} {node : Node} {nodes : List Node} (hnodes : w.nodes = node :: nodes)
  (hbase : node.base ≤ w.operands.length) (frames : List Frame) (o : Operand)

include hnodes hbase

theorem isReady_push :
    (w.push o).isReady node.id = true ↔ ¬ node.take.Awaits (w.operands.length - node.base + 1) := by
  rw [isReady_of_nodes (w := w.push o) hnodes, Work.push, List.length_append, List.length_singleton,
    Nat.sub_add_comm hbase]

/-- A call that waits for more keeps an operand. -/
theorem deliver_of_awaits (h : node.take.Awaits (w.operands.length - node.base + 1)) :
    deliver now (.call node.id false :: frames) w o = .ok ⟨.call node.id false :: frames, w.push o⟩ := by
  rw [deliver, if_neg fun hready => (isReady_push hnodes hbase o).1 hready h]

/-- A call is reduced with the last operand that it takes, and only its frame stays. -/
theorem deliver_of_not_awaits (h : ¬ node.take.Awaits (w.operands.length - node.base + 1)) :
    deliver now (.call node.id false :: frames) w o = (do
      let value ← Operand.call now node.function (w.operands.drop node.base ++ [o])
      let s ← deliver now frames { w with nodes, operands := w.operands.take node.base } value
      return ⟨.call node.id true :: s.frames, s.work⟩) := by
  -- The call is taken off its stack before its operand is handed to the frames around it.
  rw [deliver, if_pos ((isReady_push hnodes hbase o).2 h), reduce?_of_nodes (w := w.push o) hnodes]
  simp only [Work.push, List.drop_append_of_le_length hbase, List.take_append_of_le_length hbase]
  cases Operand.call now node.function (w.operands.drop node.base ++ [o]) with
  | error e => rfl
  | ok value =>
    simp only [ok_bind, pure, Except.pure]
    cases deliver now frames { w with nodes, operands := w.operands.take node.base } value <;> rfl

end

/-- The arguments of a call that is open, with its closing parenthesis, act as its operand. -/
theorem run_arguments {args : List Term} (hargs : ∀ a ∈ args, ActsAsValue now a)
    {lexemes : List Lexeme} (htokens : lexemes.map (·.token) = Term.tokensAll args)
    (frames : List Frame) (offset : Nat) {w : Work} {node : Node} {nodes : List Node}
    (hnodes : w.nodes = node :: nodes) (hbase : node.base ≤ w.operands.length)
    (hawaits : node.take.Awaits (w.operands.length - node.base))
    (hadmits : node.take.Admits (w.operands.length - node.base + args.length)) :
    ∃ nextId, ∀ rest,
      run now ⟨.call node.id false :: frames, w⟩ (moves (lexemes ++ ⟨.closeParen, offset⟩ :: rest)) = (do
        let os ← Tree.lowerAll now args
        let o ← Operand.call now node.function (w.operands.drop node.base ++ os)
        let s ← deliver now frames { w with nodes, operands := w.operands.take node.base, nextId } o
        run now s (moves rest)) := by
  -- The induction is on the arguments that are left; those before them are on the stack of operands.
  induction args generalizing lexemes w with
  | nil =>
    obtain rfl : lexemes = [] := by simpa [Term.tokensAll] using htokens
    refine ⟨w.nextId, fun rest => ?_⟩
    rw [List.nil_append, moves, run_cons, step, close]
    simp only [reduceInto_of_nodes hnodes, Tree.lowerAll, ok_bind, List.append_nil, bind_assoc]
  | cons a args ih =>
    obtain ⟨first, others, rfl, hfirst, hothers⟩ := List.map_eq_append_iff.1 htokens
    obtain ⟨nextId, hrun⟩ := hargs a (List.mem_cons_self ..) hfirst (.call node.id false :: frames) w
    cases hlower : Tree.lower now a with
    | error e =>
      refine ⟨nextId, fun rest => ?_⟩
      rw [List.append_assoc, hrun, Tree.lowerAll_cons, hlower]
      rfl
    | ok o =>
      have hlength : ({ w with nextId }.push o : Work).operands.length - node.base =
          w.operands.length - node.base + 1 := by
        rw [Work.push, List.length_append, List.length_singleton, Nat.sub_add_comm hbase]
      by_cases hmore : node.take.Awaits (w.operands.length - node.base + 1)
      · -- The operand waits for others.
        have hbase' : node.base ≤ ({ w with nextId }.push o : Work).operands.length := by
          rw [Work.push, List.length_append]
          exact Nat.le_add_right_of_le hbase
        obtain ⟨nextId', hrun'⟩ := ih (fun b hb => hargs b (List.mem_cons_of_mem _ hb)) hothers
          (w := { w with nextId }.push o) hnodes hbase' (by rwa [hlength])
          (by rwa [hlength, Nat.add_assoc, Nat.add_comm 1])
        refine ⟨nextId', fun rest => ?_⟩
        rw [List.append_assoc, hrun, Tree.lowerAll_cons, hlower, ok_bind,
          deliver_of_awaits (w := { w with nextId }) hnodes hbase frames o hmore, ok_bind, hrun', ok_bind]
        simp only [Work.push, List.drop_append_of_le_length hbase, List.take_append_of_le_length hbase,
          bind_assoc, pure_bind, List.append_assoc, List.singleton_append]
      · -- The call is reduced with this operand, which is the last one.
        have hnil : args = [] := by
          refine List.eq_nil_of_length_eq_zero (Take.eq_zero_of_admits hmore ?_)
          rwa [Nat.add_assoc, Nat.add_comm 1]
        subst hnil
        obtain rfl : others = [] := by simpa [Term.tokensAll] using hothers
        refine ⟨nextId, fun rest => ?_⟩
        rw [List.append_assoc, hrun, Tree.lowerAll_cons, hlower, ok_bind,
          deliver_of_not_awaits (w := { w with nextId }) hnodes hbase frames o hmore]
        simp only [bind_assoc, pure_bind, Tree.lowerAll, ok_bind, List.nil_append]
        rw [moves]
        simp only [run_cons, step, close, ok_bind]

theorem actsAsValue_literal {t : Term} {token : Token} {o : Operand} (htokens : t.tokens = [token])
    (hmoves : ∀ offset rest, moves (⟨token, offset⟩ :: rest) = .value o :: moves rest)
    (hlower : Tree.lower now t = .ok o) : ActsAsValue now t := by
  intro lexemes hlexemes frames w
  obtain ⟨offset, rfl⟩ := Term.eq_singleton_of_map_token (hlexemes.trans htokens)
  refine ⟨w.nextId, fun rest => ?_⟩
  rw [List.singleton_append, hmoves, run_cons, hlower]
  rfl

theorem actsAsValue_call {name : String} {args : List Term} {f : Builtin} {take : Take}
    (hname : Builtin.ofName? name = some f) (htake : take? f = some take)
    (hadmits : take.Admits args.length) (hargs : ∀ a ∈ args, ActsAsValue now a) :
    ActsAsValue now (.call name args) := by
  intro lexemes hlexemes frames w
  obtain ⟨offset, offset', inner, offset'', hinner, rfl⟩ := Term.exists_of_map_token_call hlexemes
  obtain ⟨hthreads, hall⟩ := ne_of_take? hname htake
  let node : Node := ⟨w.nextId, f, take, w.operands.length⟩
  let w' : Work := { w with nodes := node :: w.nodes, nextId := w.nextId + 1 }
  have hopen : ∀ rest, run now ⟨frames, w⟩ (moves (⟨.openParen, offset⟩ :: ⟨.symbol name, offset'⟩ :: rest)) =
      openCall now ⟨frames, w⟩ f take >>= fun s => run now s (moves rest) := fun rest => by
    rw [moves_open (fun h => absurd h hthreads) (fun h => absurd h hall), opening_of_take? hname htake,
      run_cons, step]
  have hnodes : w'.nodes = node :: w.nodes := rfl
  have hdrop : w'.operands.drop node.base = [] := List.drop_length
  have hkeep : w'.operands.take node.base = w.operands := List.take_length
  by_cases hzero : take = .operands 0
  · -- The call is reduced before its closing parenthesis, which is the next token.
    subst hzero
    obtain rfl : args = [] := List.eq_nil_of_length_eq_zero (Nat.le_zero.1 hadmits)
    obtain rfl : inner = [] := by simpa [Term.tokensAll] using hinner
    refine ⟨w.nextId + 1, fun rest => ?_⟩
    rw [List.cons_append, List.cons_append, List.nil_append, List.singleton_append, hopen, openCall,
      if_pos rfl, reduceInto_of_nodes hnodes, hdrop, hkeep,
      Tree.lower_call hname htake, Tree.lowerAll, ok_bind]
    cases Operand.call now f [] with
    | error e => rfl
    | ok value =>
      rw [ok_bind, ok_bind]
      cases deliver now frames { w with nextId := w.nextId + 1 } value with
      | error e => rfl
      | ok s => rw [moves]; rfl
  · obtain ⟨nextId, hrun⟩ := run_arguments hargs hinner frames offset'' hnodes (Nat.le_refl _)
      (by rw [Nat.sub_self]; exact Take.awaits_zero hzero) (by rwa [Nat.sub_self, Nat.zero_add])
    refine ⟨nextId, fun rest => ?_⟩
    rw [List.cons_append, List.cons_append, List.append_assoc, List.singleton_append, hopen, openCall,
      if_neg hzero, ok_bind, hrun, hdrop, hkeep, Tree.lower_call hname htake, bind_assoc]
    rfl

/-- **Values act as their operands.** The induction is over the grammar, so that the arguments of a call act as
their operands in the frame of that call. -/
theorem actsAsValue_of_isValue {t : Term} (h : IsValue t) : ActsAsValue now t := by
  induction h with
  | bool b => exact actsAsValue_literal rfl (fun _ _ => by rw [moves]) rfl
  | int n => exact actsAsValue_literal rfl (fun _ _ => by rw [moves]) rfl
  | string s => exact actsAsValue_literal rfl (fun _ _ => by rw [moves]) rfl
  | call hname htake hadmits _ ih => exact actsAsValue_call hname htake hadmits ih

end MailQuery.Sql.Stack
