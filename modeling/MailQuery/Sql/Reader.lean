import MailQuery.Clamp
import MailQuery.Sql.Expr
import MailQuery.Sql.Lexer
import MailQuery.Text.Case

/-!
# Reading expressions

Expressions of the form that the compilers write, and what is near to it, are read from their words.
Operators bind in levels; those of one level are taken from left to right. A name that is no column is
found later than a fault of grammar, so it is kept apart.
-/

namespace MailQuery.Sql

open Text

/-- An expression that has been read. -/
structure Parsed where
  expr : Expr
  /-- Whether all names in it are those of columns and functions. -/
  isNamed : Bool
deriving DecidableEq, Repr

namespace Parsed

/-- An expression made of a read one. -/
def map (f : Expr → Expr) (p : Parsed) : Parsed := { p with expr := f p.expr }

/-- An expression made of two read ones. -/
def map₂ (f : Expr → Expr → Expr) (p q : Parsed) : Parsed :=
  ⟨f p.expr q.expr, p.isNamed && q.isNamed⟩

/-- An expression without names. -/
def plain (e : Expr) : Parsed := ⟨e, true⟩

/-- An expression with an unknown name. -/
def unknown : Parsed := ⟨.null, false⟩

end Parsed

/-- Whether a word is a keyword, in any case. -/
def Word.isKeyword (keyword : String) : Word → Bool
  | name text => eqIgnoreAsciiCase keyword.toList text.toList
  | _ => false

/-- The words that are no names unless they are quoted. -/
def keywords : List String :=
  ["and", "or", "not", "like", "is", "null", "isnull", "notnull", "cast", "as", "in", "between",
   "glob", "case", "when", "then", "else", "end", "select", "from", "where", "order", "group",
   "having", "limit", "union", "exists", "collate", "distinct", "on", "join"]

/-- The operators between two expressions that are no keywords. -/
def operatorMarks : List (String × Operator) :=
  [("=", .equal), ("==", .equal), ("!=", .notEqual), ("<>", .notEqual), ("<", .less), ("<=", .atMost),
   (">", .greater), (">=", .atLeast), ("&", .bitAnd), ("+", .add), ("-", .subtract), ("*", .multiply),
   ("/", .divide), ("||", .concat)]

/-- The operator at the start of some words, and the words behind it. -/
def operator? : List Word → Option (Operator × List Word)
  | .mark m :: rest => (operatorMarks.lookup m).map fun op => (op, rest)
  | word :: rest =>
    if word.isKeyword "or" then some (.or, rest)
    else if word.isKeyword "and" then some (.and, rest)
    else if word.isKeyword "like" then some (.like, rest)
    else if word.isKeyword "not" then
      match rest with
      | next :: rest => if next.isKeyword "like" then some (.notLike, rest) else none
      | [] => none
    else none
  | [] => none

/-- The test for nothing at the start of some words, and the words behind it. -/
def nullTest? : List Word → Option ((Expr → Expr) × List Word)
  | a :: rest =>
    if a.isKeyword "notnull" then some (.notNull false, rest)
    else if a.isKeyword "isnull" then some (.isNull, rest)
    else
      match rest with
      | b :: rest =>
        if a.isKeyword "not" && b.isKeyword "null" then some (.notNull false, rest)
        else if a.isKeyword "is" then
          if b.isKeyword "null" then some (.isNull, rest)
          else
            match rest with
            | c :: rest =>
              if b.isKeyword "not" && c.isKeyword "null" then some (.notNull true, rest) else none
            | [] => none
        else none
      | [] => none
  | [] => none

/-- The expression of a name. -/
def named (text : String) : Parsed :=
  match Column.ofName? text with
  | some c => .plain (.column c)
  | none =>
    if eqIgnoreAsciiCase text.toList "true".toList then .plain (.truth true)
    else if eqIgnoreAsciiCase text.toList "false".toList then .plain (.truth false)
    else .unknown

/-- The type behind `AS`. -/
def castType? : Word → Option CastType
  | .name text =>
    if ["integer", "int"].any fun t => eqIgnoreAsciiCase t.toList text.toList then some .integer
    else if eqIgnoreAsciiCase "text".toList text.toList then some .text
    else none
  | _ => none

/-- The number of months of a modifier such as `+3 months`. -/
def months? (modifier : String) : Option Int64 :=
  let cs := modifier.toList
  let sign := cs.head?
  let digits := (cs.drop 1).takeWhile Char.isDigit
  let n : Int := Nat.ofDigitChars 10 digits 0
  if (sign = some '+' ∨ sign = some '-') ∧ !digits.isEmpty ∧
      cs.drop (digits.length + 1) = " months".toList then
    int64? (if sign = some '-' then -n else n)
  else none

/-- The value of `strftime` for its format and modifiers. -/
def dateText? (format : String) (modifiers : List String) : Option (Expr → Expr) :=
  match format, modifiers with
  | "%s", ["unixepoch", modifier] => (months? modifier).map fun months e => .monthsLater e months
  | "%Y%m%d", ["unixepoch", "localtime"] => some .packedDay
  | _, _ => none

/-- The string arguments up to the closing parenthesis of a call. -/
def readStrings : List Word → Option (List String × List Word)
  | .mark ")" :: rest => some ([], rest)
  | .mark "," :: .string s :: rest =>
    match readStrings rest with
    | some (ss, rest) => some (s :: ss, rest)
    | none => none
  | _ => none

/-- An integer literal. One that has no 64 bits is none. -/
def literal? (n : Int) : Option Parsed := (int64? n).map fun i => .plain (.int i)

/-- The end of a cast, behind the expression that is cast. -/
def endCast? : Parsed × List Word → Option (Parsed × List Word)
  | (p, as :: type :: .mark ")" :: rest) =>
    if as.isKeyword "as" then (castType? type).map fun t => (p.map (.cast t), rest) else none
  | _ => none

/-- The end of a call of `strftime`, behind the expression for the time. -/
def endStrftime? (format : String) (time : Parsed × List Word) : Option (Parsed × List Word) :=
  (readStrings time.2).bind fun (modifiers, rest) =>
    (dateText? format modifiers).map fun f => (time.1.map f, rest)

mutual

/-- Reads an expression whose operators are at least of a level. -/
def readLevel (level : Nat) : (fuel : Nat) → List Word → Option (Parsed × List Word)
  | 0, _ => none
  | fuel + 1, words =>
    match readOperand fuel words with
    | none => none
    | some (left, rest) => readTail level fuel left rest

/-- Reads the operators behind an expression that are at least of a level. -/
def readTail (level : Nat) : (fuel : Nat) → Parsed → List Word → Option (Parsed × List Word)
  | 0, _, _ => none
  | fuel + 1, left, words =>
    match operator? words with
    | some (op, rest) =>
      if level ≤ op.level then
        match readLevel (op.level + 1) fuel rest with
        | none => none
        | some (right, rest) => readTail level fuel (left.map₂ (.binary op) right) rest
      else some (left, words)
    | none =>
      match nullTest? words with
      | some (test, rest) =>
        if level ≤ 4 then readTail level fuel (left.map test) rest else some (left, words)
      | none => some (left, words)

/-- Reads an expression without operators between its parts. -/
def readOperand : (fuel : Nat) → List Word → Option (Parsed × List Word)
  | 0, _ => none
  | _, [] => none
  | fuel + 1, word :: rest =>
    match word with
    | .number n => (literal? n).map fun p => (p, rest)
    | .string s => some (.plain (.string s), rest)
    | .quoted text =>
      some ((Column.ofName? text).elim (.plain (.string text)) fun c => .plain (.column c), rest)
    | .mark "-" =>
      match rest with
      | .number n :: rest => (literal? (-n)).map fun p => (p, rest)
      | _ => (readLevel 10 fuel rest).map fun (p, rest) => (p.map .minus, rest)
    | .mark "+" => readLevel 10 fuel rest
    | .mark "(" =>
      match readLevel 1 fuel rest with
      | some (p, .mark ")" :: rest) => some (p.map (.enclosed false), rest)
      | _ => none
    | .mark _ => none
    | .name text =>
      if word.isKeyword "not" then
        (readLevel 3 fuel rest).map fun (p, rest) => (p.map (.negated (text == "not")), rest)
      else if word.isKeyword "null" then some (.plain .null, rest)
      else if word.isKeyword "cast" then
        match rest with
        | .mark "(" :: rest => (readLevel 1 fuel rest).bind endCast?
        | _ => none
      else if keywords.any fun k => word.isKeyword k then none
      else
        match rest with
        | .mark "(" :: rest =>
          match word.isKeyword "strftime", rest with
          | true, .string format :: .mark "," :: rest => (readLevel 1 fuel rest).bind (endStrftime? format)
          | _, _ => none
        | _ => some (named text, rest)

end

/-- Reads an expression of any level at the start of some words. -/
def readExpr (words : List Word) : Option (Parsed × List Word) := readLevel 1 (3 * words.length + 3) words

end MailQuery.Sql
