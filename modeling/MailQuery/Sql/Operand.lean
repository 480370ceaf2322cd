import MailQuery.Expr.Builtin
import MailQuery.Mail.Flags
import MailQuery.Search.Arithmetic
import MailQuery.Search.Dates
import MailQuery.Sql.Expr

/-!
# Lowering one call to SQL

What a call becomes once its arguments are lowered. An operand is a condition, an expression over
columns, or a constant that is still known; constants are folded and reach the text only as
literals. Both compilers share these rules.
-/

namespace MailQuery.Sql

open Text

/-- A lowered term. -/
inductive Operand where
  | condition (e : Expr)
  /-- An expression over columns. -/
  | scalar (e : Expr)
  | string (value : String)
  | int (value : Int64)
  | bool (value : Bool)
deriving DecidableEq, Repr

/-- The condition for a completed task. -/
def completedOn : Expr :=
  .enclosed false
    (.binary .and (.hasInfix .tags "completed-on 0") (.hasInfix .tags "completed-on"))

/-- The condition for a task that is not completed. -/
def notCompletedOn : Expr :=
  .enclosed true
    (.binary .and
      (.enclosed false (.negated true (.enclosed false (.hasInfix .tags "completed-on 0"))))
      (.hasInfix .tags "completed-on"))

/-- The condition for a message without follow-up. -/
def noFollowUp : Expr := .binary .notLike (.column .tags) (.string "%follow-up%")

example : completedOn.sql =
    "(usertags LIKE '%completed-on 0%' AND usertags LIKE '%completed-on%')" := by decide +kernel

example : notCompletedOn.sql =
    "( (not (usertags LIKE '%completed-on 0%')) AND usertags LIKE '%completed-on%' )" := by
  decide +kernel

namespace Operand

/-- The name of the kind of an operand, as messages give it. -/
def kind : Operand → String
  | condition _ => "condition"
  | scalar _ => "column"
  | string _ => "string"
  | int _ => "int"
  | bool _ => "bool"

/-- The value of a string constant. -/
def text? : Operand → Option String
  | string s => some s
  | _ => none

/-- The integer of an integer constant. -/
def int? : Operand → Option Int64
  | int n => some n
  | _ => none

/-- An operand that can be compared, as an expression. -/
def comparable? : Operand → Option Expr
  | scalar e => some e
  | int n => some (.int n)
  | bool b => some (.truth b)
  | string s => some (.string s)
  | condition _ => none

/-- An operand that can be calculated with, as an expression. -/
def number? : Operand → Option Expr
  | scalar e => some e
  | int n => some (.int n)
  | _ => none

/-- The value of a constant, and false for what is none. -/
def value : Operand → Value
  | int n => .int n
  | bool b => .bool b
  | string s => .string s
  | condition _ | scalar _ => .bool false

/-- An operand as a whole condition. -/
def finish : Operand → Except SearchError Expr
  | condition e => .ok e
  | bool b => .ok (.truth b)
  | o => .error (.wrongKind "sql" (.notCondition o.kind))

/-- The condition that never holds. -/
def never : Operand := condition (.enclosed false (.int 0))

/-- The condition that always holds. -/
def always : Operand := condition (.enclosed false (.int 1))

/-- What an operand adds to a conjunction or disjunction. A condition that says nothing adds nothing
to a conjunction and makes a disjunction true. -/
def part? (isAnd : Bool) : Operand → Except SearchError (Option Expr)
  | condition e => .ok (if e.sql = "" then (if isAnd then none else some (.truth true)) else some e)
  | bool b => .ok (some (.truth b))
  | o => .error (.wrongKind (if isAnd then "and" else "or") (.expectedCondition o.kind))

/-- What operands add to a conjunction or disjunction. -/
def parts (isAnd : Bool) : List Operand → Except SearchError (List Expr)
  | [] => .ok []
  | o :: os =>
    match part? isAnd o with
    | .error e => .error e
    | .ok part =>
      match parts isAnd os with
      | .error e => .error e
      | .ok rest => .ok (part.toList ++ rest)

/-- The conjunction or disjunction of operands. -/
def join (isAnd : Bool) (operands : List Operand) : Except SearchError Operand :=
  match parts isAnd operands with
  | .error e => .error e
  | .ok [] => .ok (condition (if isAnd then .everything else .truth false))
  | .ok (e :: es) =>
    .ok (condition (.enclosed true (es.foldl (.binary (if isAnd then .and else .or)) e)))

/-- The negation of an operand; of none it is false. -/
def negate : Option Operand → Except SearchError Operand
  | none => .ok (condition (.truth false))
  | some (bool b) => .ok (condition (.truth !b))
  | some (condition e) =>
    .ok <| condition <|
      if e.sql = "" then e
      else if e.sql = (Expr.enclosed true completedOn).sql then notCompletedOn
      else .enclosed false (.negated false (.enclosed false e))
  | some o => .error (.wrongKind "not" (.cannotNegate o.kind))

/-- The operator of a comparison. -/
def operator : Comparison → Operator
  | .equal => .equal
  | .less => .less
  | .greater => .greater

/-- The text that tags are searched for. -/
def tagText (name : String) : Operand → Except SearchError String
  | string s => .ok s
  | int n => .ok (decimal n)
  | bool b => .ok (Expr.truth b).sql
  | o => .error (.wrongKind name (.cannotMatchAgainst o.kind Column.tags.name))

/-- A comparison of an expression with an operand. Tags are searched for the value, whatever the
comparison is. -/
def compareWith (c : Comparison) (left : Expr) (right : Operand) : Except SearchError Operand :=
  if left = .column .tags then
    match tagText c.name right with
    | .error e => .error e
    | .ok text => .ok (condition (.enclosed true (.hasInfix .tags text)))
  else
    match right.comparable? with
    | none => .error (.wrongKind c.name (.cannotCompareWith right.kind))
    | some r => .ok (condition (.enclosed true (.binary (operator c) left r)))

/-- A comparison. The conditions for tasks hold their comparison already. -/
def compare (c : Comparison) : List Operand → Except SearchError Operand
  | [condition e, _] =>
    if c = .equal ∧ (e.sql = completedOn.sql ∨ e.sql = noFollowUp.sql) then
      .ok (condition (.enclosed true e))
    else .error (.wrongKind c.name (.cannotCompare (condition e).kind))
  | [left, right] =>
    match left.comparable? with
    | none => .error (.wrongKind c.name (.cannotCompare left.kind))
    | some l => compareWith c l right
  | _ => .ok never

/-- The pattern of a header value. -/
def headerPattern (style : MatchStyle) (value : String) : String :=
  match style with
  | .startsWith => value ++ "%"
  | .endsWith => "%" ++ value
  | _ => "%" ++ value ++ "%"

/-- The condition that a column is there and like a pattern. -/
def presentAndLike (c : Column) (pattern : String) : Expr :=
  .enclosed false (.binary .and (.notNull true (.column c)) (.isLike c pattern))

/-- The condition that a header matches one of several values. -/
def header (style : MatchStyle) : List Operand → Except SearchError Operand
  | string name :: rest =>
    match Column.ofAlias? name with
    | none => .error (.unknownFunction ((Builtin.header style).name ++ " \"" ++ name ++ "\""))
    | some c =>
      let values := rest.filterMap text?
      if values.contains "" then .ok always
      else
        match values.map fun v => presentAndLike c (headerPattern style v) with
        | [] => .ok never
        | [e] => .ok (condition e)
        | e :: es => .ok (condition (.enclosed true (es.foldl (.binary .or) e)))
  | _ => .error (.arity (Builtin.header style).name .headerName)

/-- The condition that a message has a header. -/
def headerExists : List Operand → Except SearchError Operand
  | string name :: _ =>
    match Column.ofAlias? name with
    | none => .error (.unknownFunction ("header-exists \"" ++ name ++ "\""))
    | some c => .ok (condition (.enclosed false (.notNull false (.column c))))
  | _ => .error (.arity "header-exists" .headerName)

/-- The condition that the flag of a name is set. A flag with a column of its own is looked up
there. -/
def flagSet (name : String) : Operand :=
  match (Column.ofAlias? name).filter Column.isFlag with
  | some c => condition (.enclosed false (.binary .equal (.column c) (.int 1)))
  | none =>
    let bit := Mail.Flags.bitForName name
    if bit = 0 then never
    else
      condition <| .enclosed false <| .binary .notEqual
        (.enclosed false (.binary .bitAnd (.column .flags) (.int (Int64.ofNat bit.toNat)))) (.int 0)

/-- The condition that a system flag is set. -/
def systemFlag : List Operand → Except SearchError Operand
  | string name :: _ => .ok (flagSet name)
  | _ => .error (.arity "system-flag" .flagName)

/-- The condition that a message carries a label. -/
def userFlag : List Operand → Operand
  | [string name] => condition (.enclosed false (.hasInfix .labels name))
  | _ => never

/-- What stands for a tag: a condition for the tags of tasks, and all tags for any other. -/
def userTag : List Operand → Except SearchError Operand
  | string name :: _ =>
    .ok <|
      if name = "completed-on" then condition completedOn
      else if name = "follow-up" then condition noFollowUp
      else scalar (.column .tags)
  | _ => .error (.arity "user-tag" .tagName)

/-- The sum or difference of operands. Strings are joined. -/
def arithmetic (isSum : Bool) (args : List Operand) : Except SearchError Operand :=
  if isSum && !args.isEmpty && args.all (·.text?.isSome) then
    .ok (string (String.join (args.filterMap text?)))
  else if args.all (·.int?.isSome) then
    match args.filterMap int? with
    | [] => .ok (int 0)
    | n :: ns => .ok (int (ns.foldl (if isSum then addClamped else subClamped) n))
  else
    match args.find? (·.number?.isNone) with
    | some o => .error (.wrongKind (if isSum then "+" else "-") (.noArithmeticOn o.kind))
    | none =>
      match args.filterMap number? with
      | [] => .ok (int 0)
      | e :: es =>
        .ok (scalar (.enclosed false (es.foldl (.binary (if isSum then .add else .subtract)) e)))

/-- An operand as an integer. -/
def castInt : List Operand → Except SearchError Operand
  | [int n] => .ok (int n)
  | [bool b] => .ok (int (if b then 1 else 0))
  | [string s] => .ok (int (Search.leadingInt s))
  | [scalar e] => .ok (scalar (.cast .integer e))
  | _ => .error (.arity "cast-int" .oneScalar)

/-- An operand as a string. -/
def castString : List Operand → Except SearchError Operand
  | [int n] => .ok (string (decimal n))
  | [bool b] => .ok (string (Expr.truth b).sql)
  | [string s] => .ok (string s)
  | [scalar e] => .ok (scalar (.cast .text e))
  | _ => .error (.arity "cast-string" .oneScalar)

/-- The moment a number of months from now or from another moment. -/
def relativeMonths (now : Int64) : List Operand → Operand
  | [int months] => int (addMonths now months)
  | [int time, int months] => int (addMonths time months)
  | [scalar e, int months] => scalar (.cast .integer (.monthsLater e months))
  | _ => bool false

/-- The difference of two days, and 0 unless both operands can be calculated with. -/
def compareDate : List Operand → Except SearchError Operand
  | [a, b] =>
    match a.number?, b.number? with
    | some a, some b =>
      .ok (scalar (.enclosed false
        (.binary .subtract (.cast .integer (.packedDay a)) (.cast .integer (.packedDay b)))))
    | _, _ => .ok (int 0)
  | _ => .error (.arity "compare-date" .twoArguments)

/-- What a call becomes once its arguments are lowered. The functions that only the evaluator knows
and those that take their arguments unlowered are unknown here. -/
def call (now : Int64) (f : Builtin) (args : List Operand) : Except SearchError Operand :=
  match f with
  | .header .soundex => .error (.unknownFunction f.name)
  | .header style => header style args
  | .headerExists => headerExists args
  | .systemFlag => systemFlag args
  | .userFlag => .ok (userFlag args)
  | .userTag => userTag args
  | .sentDate => .ok (scalar (.column .sent))
  | .receivedDate => .ok (scalar (.column .received))
  | .size => .ok (scalar (.enclosed false (.binary .divide (.column .size) (.int 1024))))
  | .currentDate => .ok (int now)
  | .relativeMonths => .ok (relativeMonths now args)
  | .compare c => compare c args
  | .add => arithmetic true args
  | .subtract => arithmetic false args
  | .makeTime => .ok (int (args.head?.elim (-1) fun o => MailQuery.makeTime o.value))
  | .compareDate => compareDate args
  | .castInt => castInt args
  | .castString => castString args
  | .sqlExp => .ok (condition (.written (String.join (args.filterMap text?))))
  | _ => .error (.unknownFunction f.name)

end Operand

end MailQuery.Sql
