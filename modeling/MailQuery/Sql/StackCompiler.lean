import MailQuery.Expr.Token
import MailQuery.Sql.Operand

/-!
# Compiling tokens to a condition

A compiler that builds no term. The tokens are grouped into moves, and each move changes a few
stacks.

The first pass reduces each call as soon as it has the operands that its function takes; sums and a
few others take all operands up to the closing parenthesis. Finished values that stand in no such
call go, together with the logical operators and the depth of both, into one flat list. `match-all`
adds nothing of its own, and `match-threads` is an `and` without its first string.

The second pass goes through that list from its end. Each operator takes the values that are deeper
than itself.
-/

namespace MailQuery.Sql.Stack

/-- When a call is reduced. -/
inductive Take where
  /-- With the given number of operands. -/
  | operands (count : Nat)
  /-- At its closing parenthesis. -/
  | untilClose
deriving DecidableEq, Repr

/-- When a call of a function is reduced. Other functions are not known to this compiler. -/
def take? : Builtin → Option Take
  | .header .soundex => none
  | .header _ | .compare _ | .compareDate => some (.operands 2)
  | .headerExists | .systemFlag | .userTag | .userFlag | .makeTime | .castInt | .castString =>
    some (.operands 1)
  | .sentDate | .receivedDate | .size | .currentDate => some (.operands 0)
  | .add | .subtract | .sqlExp | .relativeMonths => some .untilClose
  | _ => none

/-- A logical operator. -/
inductive Logic where
  | and
  | or
  | not
deriving DecidableEq, Repr

/-- The value of a logical operator on operands. -/
def Logic.apply : Logic → List Operand → Except SearchError Operand
  | and, operands => Operand.join true operands
  | or, operands => Operand.join false operands
  | not, operands => Operand.negate operands.head?

/-- One step of the first pass. -/
inductive Move where
  | openLogic (op : Logic)
  /-- Opens `match-all`, together with the truth value that may follow. -/
  | openMatchAll (literal : Option Bool)
  | openCall (function : Builtin) (take : Take)
  /-- Closes what was opened last; the offset is that of the parenthesis. -/
  | close (offset : Nat)
  | value (operand : Operand)
  | fault (error : SearchError)
deriving DecidableEq, Repr

/-- The move that opens the call of a name, without what else may belong to it. -/
def opening (name : String) : Move :=
  match Builtin.ofName? name with
  | some .and | some .matchThreads => .openLogic .and
  | some .or => .openLogic .or
  | some .not => .openLogic .not
  | some .matchAll => .openMatchAll none
  | some f => (take? f).elim (.fault (.unknownFunction name)) (.openCall f)
  | none => .fault (.unknownFunction name)

/-- The moves of a list of tokens. Nothing that follows a fault matters. -/
def moves : List Lexeme → List Move
  | [] => []
  | ⟨.openParen, _⟩ :: ⟨.symbol "match-threads", _⟩ :: ⟨.string _, _⟩ :: rest =>
    .openLogic .and :: moves rest
  | ⟨.openParen, _⟩ :: ⟨.symbol "match-all", _⟩ :: ⟨.bool b, _⟩ :: rest =>
    .openMatchAll (some b) :: moves rest
  | ⟨.openParen, _⟩ :: ⟨.symbol name, _⟩ :: rest => opening name :: moves rest
  | ⟨.openParen, offset⟩ :: _ => [.fault (.malformed offset .missingNameAfterOpen)]
  | ⟨.closeParen, offset⟩ :: rest => .close offset :: moves rest
  | ⟨.symbol name, offset⟩ :: _ => [.fault (.malformed offset (.unexpectedSymbol name))]
  | ⟨.string s, _⟩ :: rest => .value (.string s) :: moves rest
  | ⟨.int n, _⟩ :: rest => .value (.int n) :: moves rest
  | ⟨.bool b, _⟩ :: rest => .value (.bool b) :: moves rest

/-- What an open parenthesis turned out to be. -/
inductive Frame where
  | logic
  /-- The start of `match-all`; `mark` is the length of the output at that point. -/
  | matchAll (mark : Nat)
  /-- The start of a call, and whether it is reduced already. -/
  | call (id : Nat) (reduced : Bool)
deriving DecidableEq, Repr

/-- A call that waits for its operands. -/
structure Node where
  id : Nat
  function : Builtin
  take : Take
  /-- The height of the operand stack when the call was opened. -/
  base : Nat
deriving DecidableEq, Repr

/-- An entry of the flat list, with its depth in logical operators. -/
inductive Item where
  | op (op : Logic) (level : Nat)
  | operand (operand : Operand) (level : Nat)
deriving DecidableEq, Repr

/-- The stacks of the first pass but for the frames. -/
structure Work where
  /-- The calls that wait for operands, innermost first. -/
  nodes : List Node
  /-- The operands of all waiting calls, outermost first. -/
  operands : List Operand
  /-- The flat list, last entry first. -/
  output : List Item
  /-- The number of logical operators that are open. -/
  level : Nat
  nextId : Nat
deriving DecidableEq, Repr

namespace Work

/-- Before the first move. -/
def start : Work := ⟨[], [], [], 0, 0⟩

/-- Puts an operand at the end of the flat list. -/
def emit (w : Work) (o : Operand) : Work := { w with output := .operand o w.level :: w.output }

/-- Puts an operand on the operand stack. -/
def push (w : Work) (o : Operand) : Work := { w with operands := w.operands ++ [o] }

/-- Whether the innermost waiting call is the given one and has the operands that it takes. -/
def isReady (w : Work) (id : Nat) : Bool :=
  match w.nodes with
  | node :: _ =>
    node.id == id &&
      match node.take with
      | .operands count => count ≤ w.operands.length - node.base
      | .untilClose => false
  | [] => false

/-- The value of the innermost waiting call, and the stacks without the call and its operands. -/
def reduce? (now : Int64) (w : Work) : Except SearchError (Option (Operand × Work)) :=
  match w.nodes with
  | [] => .ok none
  | node :: nodes =>
    match Operand.call now node.function (w.operands.drop node.base) with
    | .error e => .error e
    | .ok value => .ok (some (value, { w with nodes, operands := w.operands.take node.base }))

end Work

/-- The state of the first pass. -/
structure State where
  /-- The open parentheses, innermost first. -/
  frames : List Frame
  work : Work
deriving DecidableEq, Repr

/-- Before the first move. -/
def State.start : State := ⟨[], .start⟩

/-- Hands a value to the innermost frame. A call may be ready with it; its value then goes to the
next frame. -/
def deliver (now : Int64) : List Frame → Work → Operand → Except SearchError State
  | .call _ true :: _, _, _ => .error (.arity "sql" .tooManyValues)
  | .call id false :: frames, w, o =>
    let w := w.push o
    if w.isReady id then
      match w.reduce? now with
      | .error e => .error e
      | .ok none => .ok ⟨.call id false :: frames, w⟩
      | .ok (some (value, w)) =>
        match deliver now frames w value with
        | .error e => .error e
        | .ok s => .ok ⟨.call id true :: s.frames, s.work⟩
    else .ok ⟨.call id false :: frames, w⟩
  | frames, w, o => .ok ⟨frames, w.emit o⟩

/-- Reduces the innermost waiting call and hands its value to the innermost frame. -/
def reduceInto (now : Int64) (frames : List Frame) (w : Work) : Except SearchError State :=
  match w.reduce? now with
  | .error e => .error e
  | .ok none => .ok ⟨frames, w⟩
  | .ok (some (value, w)) => deliver now frames w value

/-- Opens a call. One that takes no operands is reduced at once. -/
def openCall (now : Int64) (s : State) (f : Builtin) (take : Take) : Except SearchError State :=
  let w := s.work
  let node := ⟨w.nextId, f, take, w.operands.length⟩
  let w := { w with nodes := node :: w.nodes, nextId := w.nextId + 1 }
  if take = .operands 0 then
    match reduceInto now s.frames w with
    | .error e => .error e
    | .ok t => .ok ⟨.call node.id true :: t.frames, t.work⟩
  else .ok ⟨.call node.id false :: s.frames, w⟩

/-- Closes the innermost frame. -/
def close (now : Int64) (s : State) (offset : Nat) : Except SearchError State :=
  match s.frames with
  | [] => .error (.malformed offset .unbalancedClose)
  | .logic :: frames => .ok ⟨frames, { s.work with level := s.work.level - 1 }⟩
  | .matchAll mark :: frames =>
    .ok ⟨frames, if s.work.output.length = mark then s.work.emit (.condition (.truth true)) else s.work⟩
  | .call _ true :: frames => .ok ⟨frames, s.work⟩
  | .call _ false :: frames => reduceInto now frames s.work

/-- The state after a move. -/
def step (now : Int64) (s : State) : Move → Except SearchError State
  | .openLogic op =>
    let w := s.work
    .ok ⟨.logic :: s.frames, { w with output := .op op w.level :: w.output, level := w.level + 1 }⟩
  | .openMatchAll literal =>
    let frame := Frame.matchAll s.work.output.length
    .ok ⟨frame :: s.frames, literal.elim s.work fun b => s.work.emit (.condition (.truth b))⟩
  | .openCall f take => openCall now s f take
  | .close offset => close now s offset
  | .value o => deliver now s.frames s.work o
  | .fault e => .error e

/-- The first pass: the state after a list of moves. -/
def run (now : Int64) (s : State) : List Move → Except SearchError State
  | [] => .ok s
  | m :: ms =>
    match step now s m with
    | .error e => .error e
    | .ok t => run now t ms

/-- Takes one entry of the flat list into the values to its right, of which the nearest comes
first. -/
def foldItem (stack : List (Operand × Nat)) : Item → Except SearchError (List (Operand × Nat))
  | .operand o level => .ok ((o, level) :: stack)
  | .op op level =>
    match op.apply ((stack.takeWhile fun v => level < v.2).map (·.1)) with
    | .error e => .error e
    | .ok folded => .ok ((folded, level) :: stack.dropWhile fun v => level < v.2)

/-- The second pass: takes the entries of the flat list, the last one first, into the values to
their right. -/
def fold (stack : List (Operand × Nat)) : List Item → Except SearchError (List (Operand × Nat))
  | [] => .ok stack
  | item :: items =>
    match foldItem stack item with
    | .error e => .error e
    | .ok stack => fold stack items

/-- The one value that is left. -/
def single : List (Operand × Nat) → Except SearchError Operand
  | [] => .error (.malformed 0 .emptyExpression)
  | [(o, _)] => .ok o
  | _ => .error (.malformed 0 .severalExpressions)

/-- The condition of the state after the first pass. `stop` is the offset at which the text ends. -/
def conclude (stop : Nat) (s : State) : Except SearchError Expr :=
  match s.frames with
  | _ :: _ => .error (.malformed stop .unexpectedEnd)
  | [] =>
    match fold [] s.work.output with
    | .error e => .error e
    | .ok stack =>
      match single stack with
      | .error e => .error e
      | .ok o => o.finish

/-- The condition of an expression. -/
def compile (now : Int64) (text : String) : Except SearchError Expr :=
  match tokenize text with
  | .error e => .error e
  | .ok lexemes =>
    match run now .start (moves lexemes) with
    | .error e => .error e
    | .ok s => conclude (Text.byteLength text.toList) s

end MailQuery.Sql.Stack
