import MailQuery.Folder.Basic
import MailQuery.Search.Evaluator
import MailQuery.Search.Routing
import MailQuery.Sql.StackCompiler
import MailQuery.Sql.TreeCompiler

/-!
# Searches in a folder

A session answers searches, each in one of two ways: the expression is evaluated on the messages, or
it is compiled to a condition on which the store decides. The expression that was read last is
remembered with its tree. Another thread may cancel the search that runs or comes next; when a search ends
the cancellation is over.
-/

namespace MailQuery

open Search Text

/-- A way to compile expressions. -/
inductive Compiler where
  /-- By recursion over the tree of the expression. -/
  | tree
  /-- By a run over its tokens with stacks. -/
  | stack
deriving DecidableEq, Repr

/-- The condition that an expression is compiled to. -/
def Compiler.compile : Compiler → Int64 → String → Except SearchError Sql.Expr
  | tree => Sql.Tree.compile
  | stack => Sql.Stack.compile

/-- A way to answer a search. -/
inductive Route where
  | memory
  | database
deriving DecidableEq, Repr

/-- The expression that every message matches. -/
def matchEverything : String := "(match-all)"

/-- The expression that a text stands for. A blank text is matched by every message. -/
def effective (expression : String) : String :=
  if (trim expression.toList).isEmpty then matchEverything else expression

/-- The state of searches, one after another. -/
structure Session where
  compiler : Compiler
  now : Int64
  /-- Whether the search that comes next is cancelled. -/
  cancelled : Bool
  /-- The expression that was read last, with its tree. -/
  last : Option (String × Term)
deriving Repr

namespace Folder

/-- The way in which a search is answered. A subset without members counts as none. -/
def route (f : Folder) (expression : String) (subset : Option (List String)) : Route :=
  if f.memoryOnly || f.store.isNone || subset.any (!·.isEmpty) || needsMemory expression then
    .memory
  else .database

/-- The messages that a search is about: those of the subset that the folder has, or all. -/
def workingFor (f : Folder) (subset : Option (List String)) : List String :=
  let chosen := subset.getD []
  if chosen.isEmpty then f.uids else chosen.filter fun uid => (f.summary? uid).isSome

/-- What a search on some messages of the folder works on. -/
def scope (f : Folder) (working : List String) (now : Int64) : Scope := ⟨f.catalog, working, now⟩

/-- The messages that the value of an expression stands for, in the order of `working`. -/
def hits (working : List String) : Value → Except SearchError (List String)
  | .uids found => .ok (working.filter found.contains)
  | .bool true => .ok working
  | .bool false => .ok []
  | v => .error (.wrongKind "search" (.notUidArray v.kind))

/-- The value of a term on the messages of the folder, or of one message. -/
def evaluate (f : Folder) (scope : Scope) (current : Option Mail.Summary) (cancelled : Bool)
    (t : Term) : Except SearchError Value × Folder :=
  (Search.evaluate scope current cancelled t).runOn fetch f

/-- The value of an expression, which is read first. -/
def evaluateText (f : Folder) (scope : Scope) (current : Option Mail.Summary) (cancelled : Bool)
    (expression : String) : Except SearchError Value × Folder :=
  match Term.parse expression with
  | .error e => (.error e, f)
  | .ok t => f.evaluate scope current cancelled t

end Folder

namespace Session

/-- The session in which nothing was searched yet. -/
def start (compiler : Compiler) (now : Int64) : Session := ⟨compiler, now, false, none⟩

/-- The session in which the next search is cancelled. -/
def cancel (s : Session) : Session := { s with cancelled := true }

/-- The session when a search has ended. -/
def ended (s : Session) : Session := { s with cancelled := false }

/-- The tree of an expression, and the session that remembers it. The expression that was read last is not
read again; one that cannot be read is not remembered. -/
def read (s : Session) (expression : String) : Except SearchError Term × Session :=
  match s.last.filter (·.1 = expression) with
  | some (_, t) => (.ok t, s)
  | none =>
    match Term.parse expression with
    | .ok t => (.ok t, { s with last := some (expression, t) })
    | .error e => (.error e, s)

/-- The messages that an expression is true of, found by evaluation. -/
def searchMemory (s : Session) (f : Folder) (expression : String) (subset : Option (List String)) :
    Except SearchError (List String) × Session × Folder :=
  match s.read expression with
  | (.error e, s) => (.error e, s, f)
  | (.ok t, s) =>
    let working := f.workingFor subset
    match f.evaluate (f.scope working s.now) none s.cancelled t with
    | (.ok v, f) => (Folder.hits working v, s, f)
    | (.error e, f) => (.error e, s, f)

/-- The number of the messages that an expression is true of, found by evaluation. -/
def countMemory (s : Session) (f : Folder) (expression : String) :
    Except SearchError Nat × Session × Folder :=
  match s.searchMemory f expression none with
  | (found, s, f) => (found.map (·.length), s, f)

/-- What the store is asked for. -/
inductive Plan where
  /-- The expression has no condition, and has to be evaluated. -/
  | evaluate
  | ask (store : Store) (condition : Sql.Expr)
  | fail (e : SearchError)

/-- The plan for an expression, made when all changes are written to the store. -/
def plan (s : Session) (f : Folder) (expression : String) : Plan × Folder :=
  match f.saveChanges with
  | (.error e, f) => (.fail e, f)
  | (.ok (), f) =>
    match s.compiler.compile s.now expression, f.store with
    | .error (.unknownFunction _), _ => (.evaluate, f)
    | .error e, _ => (.fail e, f)
    | .ok _, none => (.evaluate, f)
    | .ok condition, some store =>
      (if s.cancelled then .fail .cancelled else .ask store condition, f)

/-- An answer of the store, where a table that was never written counts as one without rows. -/
def orIfMissing {α : Type} (default : α) : Except SearchError α → Except SearchError α
  | .error (.missingTable _) => .ok default
  | answer => answer

/-- The messages that an expression is true of, found by the store. -/
def searchDatabase (s : Session) (f : Folder) (expression : String) :
    Except SearchError (List String) × Session × Folder :=
  match s.plan f expression with
  | (.evaluate, f) => s.searchMemory f expression none
  | (.fail e, f) => (.error e, s, f)
  | (.ask store condition, f) =>
    (orIfMissing [] ((store.uidsWhere f.table condition).map fun found =>
      f.uids.filter fun uid => found.contains uid), s, f)

/-- The number of the messages that an expression is true of, counted by the store. -/
def countDatabase (s : Session) (f : Folder) (expression : String) :
    Except SearchError Nat × Session × Folder :=
  match s.plan f expression with
  | (.evaluate, f) => s.countMemory f expression
  | (.fail e, f) => (.error e, s, f)
  | (.ask store condition, f) => (orIfMissing 0 (store.count f.table condition), s, f)

/-- The messages that an expression is true of, in the order of the folder or of the subset. -/
def search (s : Session) (f : Folder) (expression : String) (subset : Option (List String)) :
    Except SearchError (List String) × Session × Folder :=
  let expression := effective expression
  let (answer, s, f) :=
    match f.route expression subset with
    | .memory => s.searchMemory f expression subset
    | .database => s.searchDatabase f expression
  (answer, s.ended, f)

/-- The number of the messages that an expression is true of. -/
def count (s : Session) (f : Folder) (expression : String) :
    Except SearchError Nat × Session × Folder :=
  let expression := effective expression
  let (answer, s, f) :=
    match f.route expression none with
    | .memory => s.countMemory f expression
    | .database => s.countDatabase f expression
  (answer, s.ended, f)

end Session

end MailQuery
