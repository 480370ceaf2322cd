import MailQuery.Search.Evaluator

/-!
# Equations of the evaluator

`eval` goes by the function that is called. Most functions are strict: their arguments are evaluated from left
to right and then applied (`eval_strict`). The others have an equation each.
-/

namespace MailQuery

open Mail

/-- Whether the arguments of a function are evaluated before it is applied. -/
def Builtin.IsStrict : Builtin → Prop
  | .and | .or | .ifThen | .matchAll | .matchThreads | .sqlExp => False
  | _ => True

namespace Search

variable {s : Scope} {current : Option Summary} {name : String} {args : List Term}

/-! ### Calls -/

/-- The evaluation of a call, from which the equations of the functions follow. -/
theorem eval_call : eval s current (.call name args) =
    match Builtin.ofName? name with
    | none | some .sqlExp => .fail (.unknownFunction name)
    | some .and => evalJoined s current true .nothing args
    | some .or => evalJoined s current false .nothing args
    | some .ifThen =>
      match args with
      | [condition, yes] => do
        let v ← eval s current condition
        let holds ← asVerdict "if" v
        if holds then eval s current yes else pure (.bool false)
      | [condition, yes, no] => do
        let v ← eval s current condition
        let holds ← asVerdict "if" v
        if holds then eval s current yes else eval s current no
      | _ => .fail (.arity "if" .conditionAndBranches)
    | some .matchAll =>
      match args with
      | [] => s.judge current fun _ => pure true
      | inner :: _ =>
        s.judge current fun m => do
          let v ← eval s (some m) inner
          asVerdict "match-all" v
    | some .matchThreads =>
      match current with
      | some _ => .fail (.wrongKind "match-threads" .insideMatchAll)
      | none =>
        match args with
        | [] => .fail (.arity "match-threads" .matchType)
        | how :: rest => do
          let v ← eval s none how
          match v with
          | .string kind => do
            let values ← evalAll s none rest
            .done (threadSeeds s (.ofName kind) values.getLast?)
          | _ => .fail (.arity "match-threads" .matchType)
    | some f => (do
      let values ← evalAll s current args
      apply s current f values) :=
  eval.eq_def s current (.call name args)

theorem eval_unknown (h : Builtin.ofName? name = none) :
    eval s current (.call name args) = .fail (.unknownFunction name) := by
  rw [eval_call]
  simp only [h]

theorem eval_sqlExp (h : Builtin.ofName? name = some .sqlExp) :
    eval s current (.call name args) = .fail (.unknownFunction name) := by
  rw [eval_call]
  simp only [h]

theorem eval_and (h : Builtin.ofName? name = some .and) :
    eval s current (.call name args) = evalJoined s current true .nothing args := by
  rw [eval_call]
  simp only [h]

theorem eval_or (h : Builtin.ofName? name = some .or) :
    eval s current (.call name args) = evalJoined s current false .nothing args := by
  rw [eval_call]
  simp only [h]

theorem eval_matchAll_nil (h : Builtin.ofName? name = some .matchAll) :
    eval s current (.call name []) = s.judge current fun _ => pure true := by
  rw [eval_call]
  simp only [h]

theorem eval_matchAll_cons (h : Builtin.ofName? name = some .matchAll) {inner : Term} {rest : List Term} :
    eval s current (.call name (inner :: rest)) = s.judge current fun m => (do
      let v ← eval s (some m) inner
      asVerdict "match-all" v) := by
  rw [eval_call]
  simp only [h]

theorem eval_ifThen_two (h : Builtin.ofName? name = some .ifThen) {condition yes : Term} :
    eval s current (.call name [condition, yes]) = (do
      let v ← eval s current condition
      let holds ← asVerdict "if" v
      if holds then eval s current yes else pure (.bool false)) := by
  rw [eval_call]
  simp only [h]

theorem eval_ifThen_three (h : Builtin.ofName? name = some .ifThen) {condition yes no : Term} :
    eval s current (.call name [condition, yes, no]) = (do
      let v ← eval s current condition
      let holds ← asVerdict "if" v
      if holds then eval s current yes else eval s current no) := by
  rw [eval_call]
  simp only [h]

theorem eval_ifThen_arity (h : Builtin.ofName? name = some .ifThen) (htwo : args.length ≠ 2)
    (hthree : args.length ≠ 3) :
    eval s current (.call name args) = .fail (.arity "if" .conditionAndBranches) := by
  rw [eval_call]
  simp only [h]
  split
  · exact absurd rfl htwo
  · exact absurd rfl hthree
  · rfl

theorem eval_matchThreads_inside (h : Builtin.ofName? name = some .matchThreads) {m : Summary} :
    eval s (some m) (.call name args) = .fail (.wrongKind "match-threads" .insideMatchAll) := by
  rw [eval_call]
  simp only [h]

theorem eval_matchThreads_nil (h : Builtin.ofName? name = some .matchThreads) :
    eval s none (.call name []) = .fail (.arity "match-threads" .matchType) := by
  rw [eval_call]
  simp only [h]

theorem eval_matchThreads_cons (h : Builtin.ofName? name = some .matchThreads) {how : Term}
    {rest : List Term} : eval s none (.call name (how :: rest)) = (do
      let v ← eval s none how
      match v with
      | .string kind => do
        let values ← evalAll s none rest
        .done (threadSeeds s (.ofName kind) values.getLast?)
      | _ => .fail (.arity "match-threads" .matchType)) := by
  rw [eval_call]
  simp only [h]

theorem eval_strict {f : Builtin} (h : Builtin.ofName? name = some f) (hf : f.IsStrict) :
    eval s current (.call name args) = (do
      let values ← evalAll s current args
      apply s current f values) := by
  rw [eval_call]
  simp only [h]
  cases f <;> first | rfl | exact hf.elim

/-- A choice between two computations depends on the results of its three parts. -/
theorem run_choice_congr {fetch fetch' : String → Except SearchError Message}
    {condition condition' yes yes' no no' : Reading Value}
    (hcondition : condition.run fetch = condition'.run fetch') (hyes : yes.run fetch = yes'.run fetch')
    (hno : no.run fetch = no'.run fetch') :
    (do
      let v ← condition
      let holds ← asVerdict "if" v
      if holds then yes else no : Reading Value).run fetch =
    (do
      let v ← condition'
      let holds ← asVerdict "if" v
      if holds then yes' else no' : Reading Value).run fetch' := by
  rw [Reading.run_bind, Reading.run_bind, hcondition]
  refine congrArg _ (funext fun v => ?_)
  rw [Reading.run_bind, Reading.run_bind]
  show v.expectBool "if" >>= _ = v.expectBool "if" >>= _
  refine congrArg _ (funext fun holds => ?_)
  cases holds with
  | true => exact hyes
  | false => exact hno

/-! ### Arguments -/

theorem evalAll_cons {t : Term} {ts : List Term} : evalAll s current (t :: ts) = (do
    let v ← eval s current t
    let vs ← evalAll s current ts
    pure (v :: vs)) := by
  rw [evalAll]

theorem evalJoined_nil {isAnd : Bool} {seen : Joined} :
    evalJoined s current isAnd seen [] = pure (seen.value isAnd) := by
  rw [evalJoined]

theorem evalJoined_cons {isAnd : Bool} {seen : Joined} {t : Term} {ts : List Term} :
    evalJoined s current isAnd seen (t :: ts) = (do
      let v ← eval s current t
      match seen.add isAnd v with
      | .error e => .fail e
      | .ok (.inr b) => pure (.bool b)
      | .ok (.inl seen) => evalJoined s current isAnd seen ts) :=
  evalJoined.eq_def s current isAnd seen (t :: ts)

end Search

end MailQuery
