/-!
# Terms

An expression is a literal or the call of a named function with argument terms. `Term.write` is
the text of a term, with one space before each argument.
-/

namespace MailQuery

/-- An expression. -/
inductive Term where
  | bool (value : Bool)
  | int (value : Int64)
  | string (value : String)
  | call (name : String) (args : List Term)
deriving Repr, Inhabited

namespace Term

/-- Puts a backslash before every quote and backslash. -/
def escape : List Char → List Char
  | [] => []
  | c :: cs => if c = '\\' ∨ c = '"' then '\\' :: c :: escape cs else c :: escape cs

mutual

/-- The text of a term. -/
def write : Term → List Char
  | bool true => ['#', 't']
  | bool false => ['#', 'f']
  | int n => (toString n.toInt).toList
  | string s => '"' :: escape s.toList ++ ['"']
  | call name args => '(' :: name.toList ++ writeArgs args ++ [')']

/-- The text of the arguments of a call. -/
def writeArgs : List Term → List Char
  | [] => []
  | t :: ts => ' ' :: write t ++ writeArgs ts

end

/-- The text of a term as a string. -/
protected def toString (t : Term) : String := String.ofList t.write

instance : ToString Term := ⟨Term.toString⟩

mutual

/-- Whether two terms are the same. -/
def same : Term → Term → Bool
  | bool a, bool b => a == b
  | int a, int b => a == b
  | string a, string b => a == b
  | call f as, call g bs => f == g && sameArgs as bs
  | _, _ => false

/-- Whether two lists of arguments are the same. -/
def sameArgs : List Term → List Term → Bool
  | [], [] => true
  | a :: as, b :: bs => same a b && sameArgs as bs
  | _, _ => false

end

mutual

theorem same_iff : (a b : Term) → (same a b = true ↔ a = b)
  | bool a, b => by cases b <;> simp [same]
  | int a, b => by cases b <;> simp [same]
  | string a, b => by cases b <;> simp [same]
  | call f as, b => by cases b <;> simp [same, sameArgs_iff as]

theorem sameArgs_iff : (as bs : List Term) → (sameArgs as bs = true ↔ as = bs)
  | [], bs => by cases bs <;> simp [sameArgs]
  | a :: as, bs => by cases bs <;> simp [sameArgs, same_iff a, sameArgs_iff as]

end

instance : DecidableEq Term := fun a b => decidable_of_iff _ (same_iff a b)

end Term

end MailQuery
