import MailQuery.Expr.Term
import MailQuery.Mail.Flags
import MailQuery.Search.Arithmetic
import MailQuery.Search.Dates
import MailQuery.Search.Forest
import MailQuery.Search.MessageTest

/-!
# Evaluating terms

A term has a value in two modes. With a current message a condition is a truth value, the verdict on
that message. Without one it is a set of messages. `match-all` leads from the second mode to the
first, and nothing leads back.
-/

namespace MailQuery.Search

open Mail

/-- The first of some values, required to be a string on behalf of `function`. -/
def firstText (function : String) (values : List Value) : Except SearchError String :=
  match values.head?.bind Value.text? with
  | some s => .ok s
  | none => .error (.arity function .stringArgument)

/-- A number of the current message, and the empty set without one. -/
def perMessage (current : Option Summary) (get : Summary → Int64) : Value :=
  current.elim .noUids fun m => .int (get m)

/-- A verdict on the current message, and the empty set without one. -/
def verdict (current : Option Summary) (test : Summary → Bool) : Value :=
  current.elim .noUids fun m => .bool (test m)

/-- A verdict that reads the current message, and the empty set without one. -/
def contentVerdict (current : Option Summary) (test : Message → Bool) : Reading Value :=
  match current with
  | none => pure .noUids
  | some m => do
    let hit ← contentTest test m.uid
    pure (.bool hit)

/-- The opposite of a value. In both modes a set stands for the messages in it. -/
def negation (s : Scope) (current : Option Summary) : Option Value → Except SearchError Value
  | none => .ok (.bool true)
  | some (.bool b) => .ok (.bool !b)
  | some (.uids hits) =>
    .ok <|
      match current with
      | some m => .bool (!hits.contains m.uid)
      | none => .uids (TextSet.ofList (s.working.filter (!hits.contains ·)))
  | some v => .error (.wrongKind "not" (.cannotNegate v.kind))

/-- The moment a number of months from now or from another moment. -/
def relativeMonths (now : Int64) : List Value → Value
  | [.int months] => .int (addMonths now months)
  | [time, months] =>
    match time.number?, months.number? with
    | some t, some m => .int (addMonths t m)
    | _, _ => .bool false
  | _ => .bool false

/-- The tests of a header against regular expressions. -/
def headerRegex (current : Option Summary) : List Value → Reading Value
  | .string header :: pattern :: patterns =>
    match current with
    | none => pure .noUids
    | some m =>
      match readPatterns "header-regex" false (Value.texts (pattern :: patterns)) with
      | .error e => .fail e
      | .ok p =>
        contentVerdict (some m) fun message =>
          (message.headersNamed header).any fun value => p.isFoundIn (decodeWords value)
  | _ => .fail (.arity "header-regex" .headerAndPattern)

/-- The test of the header block against regular expressions. -/
def headerFullRegex (current : Option Summary) (values : List Value) : Reading Value :=
  match current with
  | none => pure .noUids
  | some m =>
    match readPatterns "header-full-regex" true (Value.texts values) with
    | .error e => .fail e
    | .ok p => contentVerdict (some m) fun message => p.isFoundIn message.headerBlock

/-- The test of the body against regular expressions. -/
def bodyRegex (s : Scope) (current : Option Summary) (values : List Value) : Reading Value :=
  match readPatterns "body-regex" true (Value.texts values) with
  | .error e => .fail e
  | .ok p => s.judge current fun m => contentTest (fun message => p.isFoundIn message.bodyText) m.uid

/-- The test of the uid. -/
def uidTest (current : Option Summary) (uids : List String) : Value :=
  match current with
  | some m => .bool (uids.contains m.uid)
  | none => .uids (TextSet.ofList uids)

/-- The test of the location of the folder, which all its messages share. -/
def locationTest (s : Scope) (current : Option Summary) (values : List Value) : Reading Value :=
  if values = [.string s.catalog.location] then s.judge current fun _ => pure true
  else pure (verdict current fun _ => false)

/-- The value of a function of evaluated arguments. Functions that take their arguments unevaluated,
or that only the database knows, are unknown here. -/
def apply (s : Scope) (current : Option Summary) (f : Builtin) (values : List Value) :
    Reading Value :=
  let withText := fun (g : String → Reading Value) =>
    match firstText f.name values with
    | .ok text => g text
    | .error e => .fail e
  match f with
  | .not => .done (negation s current values.head?)
  | .compare c => .done (compareValues c values)
  | .add => .done (sum values)
  | .subtract => .done (difference values)
  | .castInt => .done (castInt values)
  | .castString => .done (castString values)
  | .header style =>
    withText fun header => s.judge current (headerTest style header (Value.texts (values.drop 1)))
  | .headerExists =>
    contentVerdict current fun message =>
      (Value.texts values).any fun name => (message.header? name).isSome
  | .headerRegex => headerRegex current values
  | .headerFullRegex => headerFullRegex current values
  | .bodyContains => bodyContains s current (Value.texts values)
  | .bodyRegex => bodyRegex s current values
  | .userTag => withText fun tag => pure (.string (current.elim "" fun m => m.userTag tag))
  | .userFlag => pure (verdict current fun m => (Value.texts values).any m.hasUserFlag)
  | .systemFlag => withText fun flag => pure (verdict current fun m => m.flags.isSet flag)
  | .sentDate => pure (perMessage current (·.sent))
  | .receivedDate => pure (perMessage current (·.received))
  | .size => pure (perMessage current fun m => (m.size / 1024).toInt64)
  | .currentDate => pure (.int s.now)
  | .relativeMonths => pure (relativeMonths s.now values)
  | .uid => pure (uidTest current (Value.texts values))
  | .messageLocation => locationTest s current values
  | .makeTime => pure (.time (values.head?.elim (-1) makeTime))
  | .compareDate =>
    match values with
    | [a, b] => pure (.int (MailQuery.compareDate a b))
    | _ => .fail (.arity f.name .twoArguments)
  | _ => .fail (.unknownFunction f.name)

/-- What the arguments of a conjunction or disjunction have come to so far. -/
inductive Joined where
  | nothing
  | verdicts
  | sets (hits : UidSet)

namespace Joined

/-- The value of a conjunction or disjunction that no argument has decided. -/
def value (isAnd : Bool) : Joined → Value
  | sets hits => .uids hits
  | nothing | verdicts => .bool isAnd

/-- The set after one more argument. -/
def addSet (isAnd : Bool) (hits : UidSet) : Joined → UidSet
  | sets before => if isAnd then before.filter hits.contains else before.union hits
  | nothing | verdicts => hits

/-- The name of the function. -/
def function (isAnd : Bool) : String := if isAnd then "and" else "or"

/-- The state after one more argument, or the value that it decides. Truth values and sets do not
mix. -/
def add (isAnd : Bool) (seen : Joined) (v : Value) : Except SearchError (Joined ⊕ Bool) :=
  match v, seen with
  | .bool b, sets _ =>
    .error (.wrongKind (function isAnd) (.mixedResults Value.noUids.kind (Value.bool b).kind))
  | .bool b, _ => .ok (if b = isAnd then .inl verdicts else .inr b)
  | .uids hits, verdicts =>
    .error (.wrongKind (function isAnd) (.mixedResults (Value.bool true).kind (Value.uids hits).kind))
  | .uids hits, _ => .ok (.inl (sets (seen.addSet isAnd hits)))
  | v, _ => .error (.wrongKind (function isAnd) (.invalidOperand v.kind))

end Joined

/-- A value as a verdict of `match-all`. -/
def asVerdict (function : String) (v : Value) : Reading Bool := .done (v.expectBool function)

/-- The messages that the threads of a set of messages bring in. -/
def threadSeeds (s : Scope) (how : Expansion) (last : Option Value) : Except SearchError Value :=
  match last with
  | none => .error (.wrongKind "match-threads" .expectsArray)
  | some v =>
    (v.expectUids "match-threads").map fun seeds =>
      .uids (how.expand (Forest.ofSummaries s.catalog.summaries) seeds)

mutual

/-- The value of a term. -/
def eval (s : Scope) (current : Option Summary) : Term → Reading Value
  | .bool b => pure (.bool b)
  | .int n => pure (.int n)
  | .string t => pure (.string t)
  | .call name args =>
    match Builtin.ofName? name with
    | none | some .sqlExp => .fail (.unknownFunction name)
    | some .and => evalJoined s current true .nothing args
    | some .or => evalJoined s current false .nothing args
    | some .ifThen =>
      match args with
      | [condition, yes] => do
        let v ← eval s current condition
        let holds ← asVerdict "if" v
        if holds then eval s current yes else pure (.bool false)
      | [condition, yes, no] => do
        let v ← eval s current condition
        let holds ← asVerdict "if" v
        if holds then eval s current yes else eval s current no
      | _ => .fail (.arity "if" .conditionAndBranches)
    | some .matchAll =>
      match args with
      | [] => s.judge current fun _ => pure true
      | inner :: _ =>
        s.judge current fun m => do
          let v ← eval s (some m) inner
          asVerdict "match-all" v
    | some .matchThreads =>
      match current with
      | some _ => .fail (.wrongKind "match-threads" .insideMatchAll)
      | none =>
        match args with
        | [] => .fail (.arity "match-threads" .matchType)
        | how :: rest => do
          let v ← eval s none how
          match v with
          | .string kind => do
            let values ← evalAll s none rest
            .done (threadSeeds s (.ofName kind) values.getLast?)
          | _ => .fail (.arity "match-threads" .matchType)
    | some f => do
      let values ← evalAll s current args
      apply s current f values

/-- The values of terms, from left to right. -/
def evalAll (s : Scope) (current : Option Summary) : List Term → Reading (List Value)
  | [] => pure []
  | t :: ts => do
    let v ← eval s current t
    let vs ← evalAll s current ts
    pure (v :: vs)

/-- The value of a conjunction or disjunction, of which `seen` is what has been seen. No argument is
evaluated behind one that decides. -/
def evalJoined (s : Scope) (current : Option Summary) (isAnd : Bool) (seen : Joined) :
    List Term → Reading Value
  | [] => pure (seen.value isAnd)
  | t :: ts => do
    let v ← eval s current t
    match seen.add isAnd v with
    | .error e => .fail e
    | .ok (.inr b) => pure (.bool b)
    | .ok (.inl seen) => evalJoined s current isAnd seen ts

end

/-- The value of a term for a whole folder or one message. A search that is cancelled before it
starts has none. -/
def evaluate (s : Scope) (current : Option Summary) (cancelled : Bool) (t : Term) : Reading Value :=
  if cancelled then .fail .cancelled else eval s current t

end MailQuery.Search
