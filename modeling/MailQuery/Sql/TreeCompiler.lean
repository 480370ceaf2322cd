import MailQuery.Expr.Parser
import MailQuery.Sql.Operand

/-!
# Compiling a term to a condition

The term is lowered from its leaves up. `match-all` stands for its first argument, and of
`match-threads` only the conditions are kept, joined with `and`.
-/

namespace MailQuery.Sql.Tree

mutual

/-- The lowered form of a term. -/
def lower (now : Int64) : Term → Except SearchError Operand
  | .bool b => .ok (.bool b)
  | .int n => .ok (.int n)
  | .string s => .ok (.string s)
  | .call name args =>
    match Builtin.ofName? name with
    | some .matchAll =>
      match args with
      | [] => .ok (.condition (.truth true))
      | .bool b :: _ => .ok (.condition (.truth b))
      | inner :: _ => lower now inner
    | some .matchThreads =>
      match args with
      | [] => Operand.join true []
      | _ :: conditions =>
        match lowerAll now conditions with
        | .error e => .error e
        | .ok operands => Operand.join true operands
    | f =>
      match lowerAll now args with
      | .error e => .error e
      | .ok operands =>
        match f with
        | some .and => Operand.join true operands
        | some .or => Operand.join false operands
        | some .not => Operand.negate operands.head?
        | some f => Operand.call now f operands
        | none => .error (.unknownFunction name)

/-- The lowered forms of terms, from left to right. -/
def lowerAll (now : Int64) : List Term → Except SearchError (List Operand)
  | [] => .ok []
  | t :: ts =>
    match lower now t with
    | .error e => .error e
    | .ok operand =>
      match lowerAll now ts with
      | .error e => .error e
      | .ok operands => .ok (operand :: operands)

end

/-- The condition of a term. -/
def compileTerm (now : Int64) (t : Term) : Except SearchError Expr :=
  match lower now t with
  | .error e => .error e
  | .ok operand => operand.finish

/-- The condition of an expression. -/
def compile (now : Int64) (text : String) : Except SearchError Expr :=
  match Term.parse text with
  | .error e => .error e
  | .ok t => compileTerm now t

end MailQuery.Sql.Tree
