import MailQuery.Sql.StackCompiler
import MailQuery.Sql.TreeCompiler

/-!
# The terms that both compilers know

`IsValue` are the terms that become one operand without the help of logical operators, and `IsCondition`
those that combine them. Both follow the way in which the compiler without a term reads its tokens: a call
must not have more arguments than its function takes, since the call is reduced before they are read.

The lemmas of the form `lower_…` say what the compiler of terms makes of each of these.
-/

namespace MailQuery.Sql

open Stack

/-- Whether a call that is reduced in this way may have the given number of arguments. -/
def Stack.Take.Admits : Take → Nat → Prop
  | .operands count, n => n ≤ count
  | .untilClose, _ => True

/-- Whether a call that is reduced in this way waits for more when it has the given number of operands. -/
def Stack.Take.Awaits : Take → Nat → Prop
  | .operands count, n => n < count
  | .untilClose, _ => True

theorem Stack.Take.awaits_zero {take : Take} (h : take ≠ .operands 0) : take.Awaits 0 := by
  cases take with
  | operands count => exact Nat.pos_of_ne_zero fun hcount => h (by rw [hcount])
  | untilClose => trivial

theorem Stack.Take.eq_zero_of_admits {take : Take} {n more : Nat} (hfull : ¬ take.Awaits n)
    (h : take.Admits (n + more)) : more = 0 := by
  cases take with
  | operands count =>
    have hle : n + more ≤ count := h
    have hge : ¬ n < count := hfull
    omega
  | untilClose => exact absurd trivial hfull

/-- Literals, and calls of functions on columns and constants. -/
inductive IsValue : Term → Prop where
  | bool (b : Bool) : IsValue (.bool b)
  | int (n : Int64) : IsValue (.int n)
  | string (s : String) : IsValue (.string s)
  | call {name : String} {args : List Term} {f : Builtin} {take : Take}
      (hname : Builtin.ofName? name = some f) (htake : take? f = some take)
      (hadmits : take.Admits args.length) (hargs : ∀ a ∈ args, IsValue a) : IsValue (.call name args)

/-- Values, and what is built from them with logical operators. -/
inductive IsCondition : Term → Prop where
  | value {t : Term} (h : IsValue t) : IsCondition t
  | and {args : List Term} (hargs : ∀ a ∈ args, IsCondition a) : IsCondition (.call "and" args)
  | or {args : List Term} (hargs : ∀ a ∈ args, IsCondition a) : IsCondition (.call "or" args)
  | not {args : List Term} (hargs : ∀ a ∈ args, IsCondition a) : IsCondition (.call "not" args)
  | everyMessage : IsCondition (.call "match-all" [])
  | matchAll {t : Term} (h : IsCondition t) : IsCondition (.call "match-all" [t])
  | noThreads : IsCondition (.call "match-threads" [])
  | matchThreads {how : String} {args : List Term} (hargs : ∀ a ∈ args, IsCondition a) :
      IsCondition (.call "match-threads" (.string how :: args))

/-- The name of a logical operator. -/
def Stack.Logic.name : Logic → String
  | .and => "and"
  | .or => "or"
  | .not => "not"

theorem ofName?_matchAll : Builtin.ofName? "match-all" = some .matchAll := by decide +kernel

theorem ofName?_matchThreads : Builtin.ofName? "match-threads" = some .matchThreads := by
  decide +kernel

namespace Tree

variable {now : Int64} {name : String} {args : List Term}

theorem lowerAll_cons {t : Term} {ts : List Term} : lowerAll now (t :: ts) = (do
    let operand ← lower now t
    let operands ← lowerAll now ts
    return operand :: operands) := by
  rw [lowerAll]
  cases lower now t with
  | error e => rfl
  | ok operand => cases lowerAll now ts <;> rfl

theorem lower_call {f : Builtin} {take : Take} (hname : Builtin.ofName? name = some f)
    (htake : take? f = some take) :
    lower now (.call name args) = lowerAll now args >>= Operand.call now f := by
  rw [lower.eq_def]
  simp only [hname]
  cases f <;> first | (cases lowerAll now args <;> rfl) | cases htake

theorem lower_logic (op : Logic) :
    lower now (.call op.name args) = lowerAll now args >>= op.apply := by
  have hname : Builtin.ofName? op.name = some (match op with | .and => .and | .or => .or | .not => .not) := by
    cases op <;> decide +kernel
  rw [lower.eq_def]
  simp only [hname]
  cases op <;> cases lowerAll now args <;> rfl

theorem lower_matchAll {t : Term} (h : ∀ b, t ≠ .bool b) :
    lower now (.call "match-all" [t]) = lower now t := by
  rw [lower.eq_def]
  simp only [ofName?_matchAll]

theorem lower_matchAll_bool (b : Bool) :
    lower now (.call "match-all" [.bool b]) = .ok (.condition (.truth b)) := by
  rw [lower.eq_def]
  simp only [ofName?_matchAll]

theorem lower_everyMessage : lower now (.call "match-all" []) = .ok (.condition (.truth true)) := by
  rw [lower.eq_def]
  simp only [ofName?_matchAll]

/-- The first argument of `match-threads` says how and is no condition. -/
theorem lower_matchThreads {t : Term} :
    lower now (.call "match-threads" (t :: args)) = lowerAll now args >>= Logic.and.apply := by
  rw [lower.eq_def]
  simp only [ofName?_matchThreads]
  cases lowerAll now args <;> rfl

theorem lower_noThreads : lower now (.call "match-threads" []) = Logic.and.apply [] := by
  rw [lower.eq_def]
  simp only [ofName?_matchThreads]
  rfl

end Tree

end MailQuery.Sql
