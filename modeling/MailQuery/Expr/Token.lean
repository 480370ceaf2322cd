import MailQuery.Clamp
import MailQuery.Error
import MailQuery.Text.Blank
import MailQuery.Text.Utf8

/-!
# Tokens of the expression language

An expression is written with parentheses, symbols, quoted strings, integers and the two booleans
`#t` and `#f`; white space separates tokens and is otherwise without meaning.

Scanning works on the list of characters. Each step splits off one lexeme, and the lexeme and what
is left over make up the input again (`Token.scanOne_eq_ok`), so that the scanner reaches the end
and byte offsets are sums of lexeme sizes.
-/

namespace MailQuery

open Text

/-- One token of an expression. -/
inductive Token where
  | openParen
  | closeParen
  | symbol (name : String)
  | string (value : String)
  | int (value : Int64)
  | bool (value : Bool)
deriving DecidableEq, Repr

/-- A token and the byte offset at which it starts. -/
structure Lexeme where
  token : Token
  offset : Nat
deriving DecidableEq, Repr

namespace Token

/-- Whether a character can stand inside a symbol. -/
def isSymbolChar (c : Char) : Bool :=
  !isBlank c && c != '(' && c != ')' && c != '"' && c != '\''

/-- Splits the text after an opening quote at the closing quote. A backslash takes the next
character with it. There is no split when the string is not closed. -/
def spanQuoted (quote : Char) : List Char → Option (List Char × List Char)
  | [] => none
  | c :: cs =>
    if c = quote then some ([], cs)
    else if c = '\\' then
      match cs with
      | [] => none
      | d :: ds => (spanQuoted quote ds).map fun (body, rest) => (c :: d :: body, rest)
    else (spanQuoted quote cs).map fun (body, rest) => (c :: body, rest)

/-- The character that a backslash and `c` stand for. -/
def escaped (c : Char) : Char :=
  if c = 'n' then '\n' else if c = 't' then '\t' else if c = 'r' then '\r' else c

/-- The text that the body of a quoted string stands for. -/
def unescape : List Char → List Char
  | [] => []
  | c :: cs =>
    if c = '\\' then
      match cs with
      | [] => []
      | d :: ds => escaped d :: unescape ds
    else c :: unescape cs

/-- The integer that decimal digits with an optional minus sign stand for, if it has 64 bits. -/
def readInt (text : List Char) : Option Int64 :=
  match text with
  | '-' :: ds => int64? (-Nat.ofDigitChars 10 ds 0)
  | ds => int64? (Nat.ofDigitChars 10 ds 0)

/-- One lexeme split off the front of a text. -/
structure Scan where
  token : Token
  lexeme : List Char
  rest : List Char

/-- The integer token with the given lexeme. -/
def scanInt (offset : Nat) (lexeme rest : List Char) : Except SearchError Scan :=
  match readInt lexeme with
  | some n => .ok ⟨int n, lexeme, rest⟩
  | none => .error (.malformed offset (.invalidInteger (String.ofList lexeme)))

/-- Splits off the lexeme that starts with `c`, which is not white space. -/
def scanOne (offset : Nat) (c : Char) (cs : List Char) : Except SearchError Scan :=
  if c = '(' then .ok ⟨openParen, [c], cs⟩
  else if c = ')' then .ok ⟨closeParen, [c], cs⟩
  else if c = '"' ∨ c = '\'' then
    match spanQuoted c cs with
    | some (body, rest) => .ok ⟨string (String.ofList (unescape body)), c :: body ++ [c], rest⟩
    | none => .error (.malformed offset .unterminatedString)
  else if c = '#' then
    let name := cs.takeWhile isSymbolChar
    let rest := cs.dropWhile isSymbolChar
    if name = ['t'] then .ok ⟨bool true, c :: name, rest⟩
    else if name = ['f'] then .ok ⟨bool false, c :: name, rest⟩
    else .error (.malformed offset (.invalidBoolean (String.ofList name)))
  else if c.isDigit || (c == '-' && cs.head?.any Char.isDigit) then
    scanInt offset (c :: cs.takeWhile Char.isDigit) (cs.dropWhile Char.isDigit)
  else
    .ok ⟨symbol (String.ofList (c :: cs.takeWhile isSymbolChar)), c :: cs.takeWhile isSymbolChar,
      cs.dropWhile isSymbolChar⟩

theorem spanQuoted_eq_some {quote : Char} {cs body rest : List Char}
    (h : spanQuoted quote cs = some (body, rest)) : cs = body ++ quote :: rest := by
  fun_induction spanQuoted quote cs generalizing body rest with
  | case1 => simp at h
  | case2 cs => simp_all
  | case3 => simp at h
  | case4 d ds hq ih =>
    obtain ⟨⟨b, r⟩, hb, he⟩ := Option.map_eq_some_iff.1 h
    simp only [Prod.mk.injEq] at he
    obtain ⟨rfl, rfl⟩ := he
    simp [ih hb]
  | case5 c cs hq hs ih =>
    obtain ⟨⟨b, r⟩, hb, he⟩ := Option.map_eq_some_iff.1 h
    simp only [Prod.mk.injEq] at he
    obtain ⟨rfl, rfl⟩ := he
    simp [ih hb]

/-- The lexeme and the rest make up the text, and the lexeme starts with its first character. -/
theorem scanOne_eq_ok {offset : Nat} {c : Char} {cs : List Char} {s : Scan}
    (h : scanOne offset c cs = .ok s) :
    s.lexeme ++ s.rest = c :: cs ∧ s.lexeme.head? = some c := by
  unfold scanOne at h
  split at h
  · cases h; simp
  split at h
  · cases h; simp
  split at h
  · split at h
    · rename_i hs
      cases h
      simp [spanQuoted_eq_some hs]
    · cases h
  split at h
  · simp only at h
    split at h
    · cases h; simp
    split at h
    · cases h; simp
    · cases h
  split at h
  · unfold scanInt at h
    split at h
    · cases h; simp
    · cases h
  · cases h; simp

theorem length_rest_of_scanOne {offset : Nat} {c : Char} {cs : List Char} {s : Scan}
    (h : scanOne offset c cs = .ok s) : s.rest.length ≤ cs.length := by
  have ⟨happ, hhead⟩ := scanOne_eq_ok h
  have hne : 1 ≤ s.lexeme.length := by
    cases hl : s.lexeme with
    | nil => simp [hl] at hhead
    | cons => simp
  have := congrArg List.length happ
  simp only [List.length_append, List.length_cons] at this
  omega

/-- The tokens of a text that starts at a byte offset. -/
def scan (offset : Nat) : List Char → Except SearchError (List Lexeme)
  | [] => .ok []
  | c :: cs =>
    if isBlank c then scan (offset + c.utf8Size) cs
    else
      match _h : scanOne offset c cs with
      | .error e => .error e
      | .ok s =>
        match scan (offset + byteLength s.lexeme) s.rest with
        | .error e => .error e
        | .ok lexemes => .ok (⟨s.token, offset⟩ :: lexemes)
termination_by cs => cs.length
decreasing_by
  · simp
  · have := length_rest_of_scanOne _h
    simp only [List.length_cons]
    omega

end Token

/-- The tokens of an expression text. -/
def tokenize (text : String) : Except SearchError (List Lexeme) := Token.scan 0 text.toList

end MailQuery
