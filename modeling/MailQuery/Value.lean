import MailQuery.Error
import MailQuery.Data.TextSet

/-!
# Values

What a term evaluates to. For a single message a condition is a truth value; for a whole folder it
is the set of the uids that satisfy it.
-/

namespace MailQuery

/-- A set of messages, given by their uids. -/
abbrev UidSet := TextSet

/-- The value of a term. -/
inductive Value where
  | bool (value : Bool)
  | int (value : Int64)
  | string (value : String)
  /-- A moment, in seconds since the start of 1970. -/
  | time (value : Int64)
  | uids (value : UidSet)
deriving DecidableEq

namespace Value

instance : Inhabited Value := ⟨bool false⟩

/-- The name of the kind of a value, as messages give it. -/
def kind : Value → String
  | bool _ => "bool"
  | int _ => "int"
  | string _ => "string"
  | time _ => "time"
  | uids _ => "uid array"

/-- The text of a string value. -/
def text? : Value → Option String
  | string s => some s
  | _ => none

/-- The number of an integer or time value. -/
def number? : Value → Option Int64
  | int n => some n
  | time n => some n
  | _ => none

/-- The value of no uids. -/
def noUids : Value := uids ∅

/-- The truth value, required on behalf of `function`. -/
def expectBool (function : String) : Value → Except SearchError Bool
  | bool b => .ok b
  | v => .error (.wrongKind function (.expectedBool v.kind))

/-- The uid set, required on behalf of `function`. -/
def expectUids (function : String) : Value → Except SearchError UidSet
  | uids s => .ok s
  | v => .error (.wrongKind function (.expectedUids v.kind))

/-- The texts of the string values of a list. -/
def texts (values : List Value) : List String := values.filterMap text?

end Value

end MailQuery
