import MailQuery.Expr.Parser

/-!
# What the parser has read

`Term.tokens` writes a term as the tokens of its flattening: a literal is one token, a call is its name and
its arguments between parentheses. The parser keeps what it has read so far in the calls that are open, so
that `opened` gives those tokens back, and each of its steps moves one token from the rest to there
(`Term.map_token_of_build`). What it returns is therefore a term whose tokens are those of the text.
-/

namespace MailQuery

namespace Term

mutual

/-- The tokens of a term. -/
def tokens : Term → List Token
  | bool b => [.bool b]
  | int n => [.int n]
  | string s => [.string s]
  | call name args => .openParen :: .symbol name :: (tokensAll args ++ [.closeParen])

/-- The tokens of terms, one after the other. -/
def tokensAll : List Term → List Token
  | [] => []
  | t :: ts => tokens t ++ tokensAll ts

end

theorem tokensAll_append (ts us : List Term) :
    tokensAll (ts ++ us) = tokensAll ts ++ tokensAll us := by
  induction ts with
  | nil => rfl
  | cons t ts ih => rw [List.cons_append, tokensAll, tokensAll, ih, List.append_assoc]

theorem mem_tokensAll_iff {token : Token} {ts : List Term} : token ∈ tokensAll ts ↔ ∃ t ∈ ts, token ∈ t.tokens := by
  induction ts with
  | nil => simp [tokensAll]
  | cons t ts ih => simp [tokensAll, ih]

/-- The tokens that opened the given calls, with those of the arguments read so far. -/
def opened : List OpenCall → List Token
  | [] => []
  | f :: stack => opened stack ++ .openParen :: .symbol f.name :: tokensAll f.argsRev.reverse

theorem opened_push (f : OpenCall) (t : Term) (stack : List OpenCall) :
    opened (f.push t :: stack) = opened (f :: stack) ++ t.tokens := by
  simp [opened, OpenCall.push, tokensAll_append, tokensAll]

theorem tokens_close (f : OpenCall) : f.close.tokens = opened [f] ++ [.closeParen] := by
  simp [OpenCall.close, tokens, opened]

theorem tokens_of_whole {t u : Term} {rest : List Lexeme} (h : whole t rest = .ok u) :
    rest = [] ∧ u = t := by
  cases rest with
  | nil => exact ⟨rfl, (Except.ok.inj h).symm⟩
  | cons => cases h

/-- What the parser has read and what is left of the tokens are the tokens of its result. -/
theorem map_token_of_build {stop : Nat} {stack : List OpenCall} {lexemes : List Lexeme} {t : Term}
    (h : build stop stack lexemes = .ok t) :
    opened stack ++ lexemes.map (·.token) = t.tokens := by
  -- Errors are left aside; the cases are an opened call, a closed one, and a literal, at the end or inside.
  fun_induction build stop stack lexemes with
  | case4 stack _ name _ rest ih =>
    rw [← ih h]
    simp [opened, tokensAll]
  | case7 f _ rest =>
    obtain ⟨rfl, rfl⟩ := tokens_of_whole h
    rw [tokens_close]
    rfl
  | case8 f g stack _ rest ih =>
    rw [← ih h, opened_push, tokens_close]
    simp [opened]
  | case10 b _ rest =>
    obtain ⟨rfl, rfl⟩ := tokens_of_whole h
    rfl
  | case11 n _ rest =>
    obtain ⟨rfl, rfl⟩ := tokens_of_whole h
    rfl
  | case12 s _ rest =>
    obtain ⟨rfl, rfl⟩ := tokens_of_whole h
    rfl
  | case13 f stack b _ rest ih => rw [← ih h, opened_push, List.append_assoc]; rfl
  | case14 f stack n _ rest ih => rw [← ih h, opened_push, List.append_assoc]; rfl
  | case15 f stack s _ rest ih => rw [← ih h, opened_push, List.append_assoc]; rfl
  | _ => cases h

/-- The lexemes of a literal. -/
theorem eq_singleton_of_map_token {lexemes : List Lexeme} {token : Token}
    (h : lexemes.map (·.token) = [token]) : ∃ offset, lexemes = [⟨token, offset⟩] := by
  obtain ⟨⟨_, offset⟩, rfl, rfl⟩ := List.map_eq_singleton_iff.1 h
  exact ⟨offset, rfl⟩

/-- The lexemes of a call. -/
theorem exists_of_map_token_call {lexemes : List Lexeme} {name : String} {args : List Term}
    (h : lexemes.map (·.token) = (call name args).tokens) :
    ∃ offset offset' inner offset'', inner.map (·.token) = tokensAll args ∧
      lexemes = ⟨.openParen, offset⟩ :: ⟨.symbol name, offset'⟩ :: (inner ++ [⟨.closeParen, offset''⟩]) := by
  obtain ⟨⟨_, offset⟩, _, rfl, rfl, hname⟩ := List.map_eq_cons_iff.1 h
  obtain ⟨⟨_, offset'⟩, _, rfl, rfl, hargs⟩ := List.map_eq_cons_iff.1 hname
  obtain ⟨inner, last, rfl, hinner, hlast⟩ := List.map_eq_append_iff.1 hargs
  obtain ⟨offset'', rfl⟩ := eq_singleton_of_map_token hlast
  exact ⟨offset, offset', inner, offset'', hinner, rfl⟩

/-- The tokens of a term start like those of a literal only if it is that literal. -/
theorem eq_bool_of_map_token {t : Term} {lexemes rest : List Lexeme} {b : Bool} {offset : Nat}
    {last : Lexeme} {after : List Lexeme} (h : lexemes.map (·.token) = t.tokens)
    (hhead : lexemes ++ last :: after = ⟨.bool b, offset⟩ :: rest) : t = bool b := by
  have htokens : (t.tokens ++ (last :: after).map (·.token)).head? = some (.bool b) := by
    rw [← h, ← List.map_append, hhead]
    rfl
  cases t with
  | bool b' => simpa [tokens] using htokens
  | _ => simp [tokens] at htokens

end Term

/-- A text that parses has the tokens of its term. -/
theorem Term.map_token_of_parse {text : String} {t : Term} (h : Term.parse text = .ok t) :
    ∃ lexemes, tokenize text = .ok lexemes ∧ lexemes.map (·.token) = t.tokens := by
  rw [Term.parse] at h
  split at h
  · cases h
  · next lexemes htokens => exact ⟨lexemes, htokens, map_token_of_build h⟩

end MailQuery
