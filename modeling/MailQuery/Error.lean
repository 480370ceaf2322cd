/-!
# Errors

`SearchError` lists what can go wrong in a search, each constructor with the cause as data. The
wording that a user reads is in one place, `SearchError.message`.
-/

namespace MailQuery

/-- What is wrong with the text of an expression. -/
inductive SyntaxFault where
  | unterminatedString
  | invalidBoolean (name : String)
  | invalidInteger (text : String)
  | unexpectedEnd
  | unexpectedClose
  | symbolOutsideList (name : String)
  | missingName
  | missingClose (name : String)
  | trailingInput
  | missingNameAfterOpen
  | unbalancedClose
  | unexpectedSymbol (name : String)
  | emptyExpression
  | severalExpressions
deriving DecidableEq, Repr

/-- Why the arguments of a call are too few, too many or of no use. -/
inductive ArityFault where
  | headerName
  | flagName
  | tagName
  | oneScalar
  | twoArguments
  | conditionAndBranches
  | matchType
  | stringArgument
  | headerAndPattern
  | pattern
  | tooManyValues
deriving DecidableEq, Repr

/-- Why a value is of the wrong kind. Kinds are given by the names that a user reads. -/
inductive KindFault where
  | notCondition (kind : String)
  | expectedCondition (kind : String)
  | cannotNegate (kind : String)
  | cannotCompare (kind : String)
  | cannotCompareWith (kind : String)
  | cannotMatchAgainst (kind column : String)
  | noArithmeticOn (kind : String)
  | expectedBool (kind : String)
  | expectedUids (kind : String)
  | invalidOperand (kind : String)
  | mixedResults (seen kind : String)
  | incomparable (left right : String)
  | cannotAdd (kind : String)
  | cannotSubtract (kind : String)
  | expectsArray
  | insideMatchAll
  | notUidArray (kind : String)
deriving DecidableEq, Repr

/-- All errors of a search. -/
inductive SearchError where
  /-- The text of the expression is malformed at a byte offset. -/
  | malformed (offset : Nat) (fault : SyntaxFault)
  | arity (function : String) (fault : ArityFault)
  | wrongKind (function : String) (fault : KindFault)
  /-- The expression calls a function that this way of answering does not know. -/
  | unknownFunction (name : String)
  /-- A regular expression is not well formed. -/
  | badPattern (pattern : String)
  /-- The database refused a statement, for another reason than a missing table. -/
  | store
  /-- The database has no table for the folder yet. -/
  | missingTable (name : String)
  | cancelled
  /-- A full message cannot be had: it was expunged or the folder is offline. -/
  | unavailable (uid : String)
  /-- A file cannot be read or written. -/
  | io
  /-- The persisted index is damaged or was written by another version. -/
  | badIndex
  | mime (reason : String)
deriving DecidableEq, Repr

/-- The wording of a fault of syntax. -/
def SyntaxFault.message : SyntaxFault → String
  | unterminatedString => "unterminated string"
  | invalidBoolean name => "invalid boolean '#" ++ name ++ "'"
  | invalidInteger text => "invalid integer '" ++ text ++ "'"
  | unexpectedEnd => "unexpected end of expression"
  | unexpectedClose => "unexpected ')'"
  | symbolOutsideList name => "unexpected symbol '" ++ name ++ "' outside a list"
  | missingName => "expected a function name"
  | missingClose name => "missing ')' for '" ++ name ++ "'"
  | trailingInput => "trailing input after expression"
  | missingNameAfterOpen => "expected a function name after '('"
  | unbalancedClose => "unbalanced ')'"
  | unexpectedSymbol name => "unexpected symbol '" ++ name ++ "'"
  | emptyExpression => "empty expression"
  | severalExpressions => "more than one top-level expression"

/-- The wording of a fault of arity. -/
def ArityFault.message : ArityFault → String
  | headerName => "expected a header name"
  | flagName => "expected a flag name"
  | tagName => "expected a tag name"
  | oneScalar => "expected one scalar argument"
  | twoArguments => "expected 2 arguments"
  | conditionAndBranches => "expected a condition and one or two branches"
  | matchType => "requires a match type string"
  | stringArgument => "expected a string argument"
  | headerAndPattern => "expected a header name and a pattern"
  | pattern => "expected a pattern"
  | tooManyValues => "too many values for a single-value builtin"

/-- The wording of a fault of kind. -/
def KindFault.message : KindFault → String
  | notCondition kind => "expression lowers to a " ++ kind ++ ", not a condition"
  | expectedCondition kind => "expected a condition, got a " ++ kind
  | cannotNegate kind => "cannot negate a " ++ kind
  | cannotCompare kind => "cannot compare a " ++ kind
  | cannotCompareWith kind => "cannot compare with a " ++ kind
  | cannotMatchAgainst kind column => "cannot match a " ++ kind ++ " against " ++ column
  | noArithmeticOn kind => "cannot do arithmetic on a " ++ kind
  | expectedBool kind => "expected a bool result, got " ++ kind
  | expectedUids kind => "expected a uid array, got " ++ kind
  | invalidOperand kind => "invalid operand type " ++ kind
  | mixedResults seen kind => "cannot mix " ++ seen ++ " and " ++ kind ++ " results"
  | incomparable left right => "cannot compare " ++ left ++ " with " ++ right
  | cannotAdd kind => "cannot add a " ++ kind
  | cannotSubtract kind => "cannot subtract a " ++ kind
  | expectsArray => "expects an array result"
  | insideMatchAll => "cannot be used inside match-all"
  | notUidArray kind => "expression evaluates to " ++ kind ++ ", not a uid array"

/-- The text of an error, as a user reads it. -/
def SearchError.message : SearchError → String
  | malformed offset fault => "Parse error at offset " ++ toString offset ++ ": " ++ fault.message
  | arity function fault =>
    "Wrong number of arguments to '" ++ function ++ "': " ++ fault.message
  | wrongKind function fault => "Type error in '" ++ function ++ "': " ++ fault.message
  | unknownFunction name => "Unknown function '" ++ name ++ "'"
  | badPattern pattern => "Invalid regular expression '" ++ pattern ++ "'"
  | store => "Store error"
  | missingTable name => "No such table: " ++ name
  | cancelled => "Search cancelled"
  | unavailable uid => "Message '" ++ uid ++ "' is not available"
  | io => "I/O error"
  | badIndex => "Corrupt or incompatible index"
  | mime reason => "MIME decoding error: " ++ reason

/-! ### Results -/

section

variable {ε α β : Type}

@[simp] theorem ok_bind (a : α) (f : α → Except ε β) : (Except.ok a >>= f) = f a := rfl

@[simp] theorem error_bind (e : ε) (f : α → Except ε β) : (Except.error e >>= f) = .error e := rfl

@[simp] theorem toOption_ok (a : α) : (Except.ok a : Except ε α).toOption = some a := rfl

@[simp] theorem toOption_error (e : ε) : (Except.error e : Except ε α).toOption = none := rfl

theorem eq_ok_of_toOption {x : Except ε α} {a : α} (h : x.toOption = some a) : x = .ok a := by
  cases x with
  | error e => cases h
  | ok b => exact congrArg Except.ok (Option.some.inj h)

theorem toOption_bind (x : Except ε α) (f : α → Except ε β) :
    (x >>= f).toOption = x.toOption.bind fun a => (f a).toOption := by
  cases x <;> rfl

end

end MailQuery
