import MailQuery.Expr.Term
import MailQuery.Expr.Token

/-!
# From tokens to a term

The grammar has one rule: a term is a literal or `( symbol term* )`. The parser goes once through
the tokens and keeps the calls that are still open on a stack, innermost first. A finished term
is delivered to the innermost open call; with no call open it is the whole expression, and nothing
may follow it.
-/

namespace MailQuery

namespace Term

/-- A call that is not closed yet, with the arguments read so far in reverse. -/
structure OpenCall where
  name : String
  argsRev : List Term

/-- The call that closing makes. -/
def OpenCall.close (f : OpenCall) : Term := call f.name f.argsRev.reverse

/-- The open call with one more argument. -/
def OpenCall.push (f : OpenCall) (t : Term) : OpenCall := { f with argsRev := t :: f.argsRev }

/-- An expression that is complete: no token may be left. -/
def whole (t : Term) : List Lexeme → Except SearchError Term
  | [] => .ok t
  | extra :: _ => .error (.malformed extra.offset .trailingInput)

/-- Reads tokens with the given calls open. `stop` is the offset at which the text ends. -/
def build (stop : Nat) : List OpenCall → List Lexeme → Except SearchError Term
  | [], [] => .error (.malformed stop .unexpectedEnd)
  | f :: _, [] => .error (.malformed stop (.missingClose f.name))
  | stack, ⟨.openParen, _⟩ :: rest =>
    match rest with
    | [] => .error (.malformed stop .unexpectedEnd)
    | ⟨.symbol name, _⟩ :: rest => build stop (⟨name, []⟩ :: stack) rest
    | head :: _ => .error (.malformed head.offset .missingName)
  | [], ⟨.closeParen, offset⟩ :: _ => .error (.malformed offset .unexpectedClose)
  | [f], ⟨.closeParen, _⟩ :: rest => f.close.whole rest
  | f :: g :: stack, ⟨.closeParen, _⟩ :: rest => build stop (g.push f.close :: stack) rest
  | _, ⟨.symbol name, offset⟩ :: _ => .error (.malformed offset (.symbolOutsideList name))
  | [], ⟨.bool b, _⟩ :: rest => (bool b).whole rest
  | [], ⟨.int n, _⟩ :: rest => (int n).whole rest
  | [], ⟨.string s, _⟩ :: rest => (string s).whole rest
  | f :: stack, ⟨.bool b, _⟩ :: rest => build stop (f.push (bool b) :: stack) rest
  | f :: stack, ⟨.int n, _⟩ :: rest => build stop (f.push (int n) :: stack) rest
  | f :: stack, ⟨.string s, _⟩ :: rest => build stop (f.push (string s) :: stack) rest

end Term

/-- The term that a text stands for. -/
def Term.parse (text : String) : Except SearchError Term :=
  match tokenize text with
  | .error e => .error e
  | .ok lexemes => Term.build (Text.byteLength text.toList) [] lexemes

end MailQuery
