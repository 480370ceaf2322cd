import MailQuery.Proofs.Expr.Spelling

/-!
# Printing and parsing

The text of a term has the tokens of the term (`Term.hasTokens_write`), and from these the parser makes the term
(`Term.build_of_tokens`), so that parsing a printed term gives the term again. This holds of the terms whose calls
have names that can be spelled, `Term.IsSpellable`. All terms that come from a text are such terms, since each of
their names was found by the scanner.

`Term.parse_toString` is the main statement.
-/

namespace MailQuery

open Text Token

namespace Term

/-! ### Terms that can be spelled -/

/-- The terms in which every call has the name of a symbol. -/
inductive IsSpellable : Term → Prop where
  | bool (b : Bool) : IsSpellable (.bool b)
  | int (n : Int64) : IsSpellable (.int n)
  | string (s : String) : IsSpellable (.string s)
  | call {name : String} {args : List Term} (hname : IsSymbol name) (hargs : ∀ a ∈ args, IsSpellable a) :
      IsSpellable (.call name args)

mutual

/-- A term is spellable if its symbols are. -/
theorem isSpellable_of_tokens : (t : Term) → (∀ name, Token.symbol name ∈ t.tokens → IsSymbol name) → t.IsSpellable
  | .bool b, _ => .bool b
  | .int n, _ => .int n
  | .string s, _ => .string s
  | .call name args, h => by
    refine .call (h name (by simp [tokens])) (isSpellable_of_tokensAll args fun other hother => h other ?_)
    simp [tokens, hother]

theorem isSpellable_of_tokensAll :
    (ts : List Term) → (∀ name, Token.symbol name ∈ tokensAll ts → IsSymbol name) → ∀ t ∈ ts, t.IsSpellable
  | [], _, _, hmem => by cases hmem
  | t :: ts, h, u, hmem => by
    rcases List.mem_cons.1 hmem with heq | hmem
    · rw [heq]
      exact isSpellable_of_tokens t fun name hname => h name (List.mem_append_left _ hname)
    · exact isSpellable_of_tokensAll ts (fun name hname => h name (List.mem_append_right _ hname)) u hmem

end

theorem isSpellable_of_parse {text : String} {t : Term} (h : Term.parse text = .ok t) : t.IsSpellable := by
  obtain ⟨lexemes, hscan, htokens⟩ := map_token_of_parse h
  exact isSpellable_of_tokens t fun name hname => isSymbol_of_scan hscan (htokens ▸ hname)

/-! ### The tokens of the text of a term -/

/-- The text of the arguments of a call starts with a space, if it does not end at once. -/
theorem isDelimited_writeArgs (ts : List Term) (rest : List Char) : IsDelimited (writeArgs ts ++ ')' :: rest) := by
  intro c hc
  cases ts with
  | nil =>
    obtain rfl : ')' = c := by simpa [writeArgs] using hc
    decide
  | cons t ts =>
    obtain rfl : ' ' = c := by simpa [writeArgs] using hc
    decide

mutual

/-- The text of a term in front of a text adds the tokens of the term. -/
theorem hasTokens_write : {t : Term} → t.IsSpellable → {rest : List Char} → {ts : List Token} →
    IsDelimited rest → HasTokens rest ts → HasTokens (t.write ++ rest) (t.tokens ++ ts)
  | _, .bool b, _, _, hrest, h => h.bool b hrest
  | _, .int n, _, _, hrest, h => h.int n hrest
  | _, .string s, _, _, _, h => h.string s
  | _, @IsSpellable.call name args hname hargs, rest, ts, hrest, h => by
    have hinner := hasTokens_writeArgs args hargs h.closeParen
    have hcall := (hinner.symbol hname (isDelimited_writeArgs args rest)).openParen
    simpa [write, tokens] using hcall

/-- The text of arguments in front of what closes their call adds their tokens. -/
theorem hasTokens_writeArgs : (args : List Term) → (∀ a ∈ args, a.IsSpellable) → {rest : List Char} →
    {ts : List Token} → HasTokens (')' :: rest) ts → HasTokens (writeArgs args ++ ')' :: rest) (tokensAll args ++ ts)
  | [], _, _, _, h => h
  | a :: args, hargs, rest, ts, h => by
    have hothers := hasTokens_writeArgs args (fun b hb => hargs b (List.mem_cons_of_mem _ hb)) h
    have hfirst := hasTokens_write (hargs a (List.mem_cons_self ..)) (isDelimited_writeArgs args rest) hothers
    simpa [writeArgs, tokensAll] using hfirst.blank (c := ' ') (by decide)

end

/-! ### The term of the tokens of a term -/

mutual

/-- The tokens of a term become an argument of the call that is open. -/
theorem build_of_tokens (stop : Nat) : (t : Term) → (lexemes : List Lexeme) → lexemes.map (·.token) = t.tokens →
    ∀ f stack rest, build stop (f :: stack) (lexemes ++ rest) = build stop (f.push t :: stack) rest
  | .bool b, lexemes, h, f, stack, rest => by
    obtain ⟨offset, rfl⟩ := eq_singleton_of_map_token h
    rw [List.singleton_append, build]
  | .int n, lexemes, h, f, stack, rest => by
    obtain ⟨offset, rfl⟩ := eq_singleton_of_map_token h
    rw [List.singleton_append, build]
  | .string s, lexemes, h, f, stack, rest => by
    obtain ⟨offset, rfl⟩ := eq_singleton_of_map_token h
    rw [List.singleton_append, build]
  | .call name args, lexemes, h, f, stack, rest => by
    obtain ⟨offset, offset', inner, offset'', hinner, rfl⟩ := exists_of_map_token_call h
    rw [List.cons_append, List.cons_append, build, List.append_assoc,
      build_of_tokensAll stop args inner hinner ⟨name, []⟩ (f :: stack), List.singleton_append, build]
    simp [OpenCall.close]

theorem build_of_tokensAll (stop : Nat) : (ts : List Term) → (lexemes : List Lexeme) →
    lexemes.map (·.token) = tokensAll ts → ∀ f stack rest,
    build stop (f :: stack) (lexemes ++ rest) = build stop (⟨f.name, ts.reverse ++ f.argsRev⟩ :: stack) rest
  | [], lexemes, h, f, stack, rest => by
    obtain rfl : lexemes = [] := by simpa [tokensAll] using h
    rfl
  | t :: ts, lexemes, h, f, stack, rest => by
    obtain ⟨first, others, rfl, hfirst, hothers⟩ := List.map_eq_append_iff.1 h
    rw [List.append_assoc, build_of_tokens stop t first hfirst, build_of_tokensAll stop ts others hothers]
    simp [OpenCall.push]

end

/-- From the tokens of a term the parser makes the term. -/
theorem build_of_map_token {stop : Nat} {t : Term} {lexemes : List Lexeme}
    (h : lexemes.map (·.token) = t.tokens) : build stop [] lexemes = .ok t := by
  cases t with
  | bool b =>
    obtain ⟨offset, rfl⟩ := eq_singleton_of_map_token h
    rw [build, whole]
  | int n =>
    obtain ⟨offset, rfl⟩ := eq_singleton_of_map_token h
    rw [build, whole]
  | string s =>
    obtain ⟨offset, rfl⟩ := eq_singleton_of_map_token h
    rw [build, whole]
  | call name args =>
    obtain ⟨offset, offset', inner, offset'', hinner, rfl⟩ := exists_of_map_token_call h
    rw [build, build_of_tokensAll stop args inner hinner, build, whole]
    simp [OpenCall.close]

/-! ### Whole terms -/

theorem parse_write {t : Term} (h : t.IsSpellable) : Term.parse (toString t) = .ok t := by
  have hnil : IsDelimited [] := fun c hc => by cases hc
  obtain ⟨lexemes, hscan, htokens⟩ := hasTokens_write h hnil .nil 0
  have htokenize : tokenize (toString t) = .ok lexemes := by
    show scan 0 (String.ofList t.write).toList = _
    rw [String.toList_ofList]
    simpa using hscan
  rw [Term.parse, htokenize]
  exact build_of_map_token (by simpa using htokens)

/-- **Printing and parsing are inverse.** The text of a term parses to the term if the names of its calls are symbols;
these are the names in any term that was parsed, so that printing such a term and parsing it again changes nothing. -/
theorem parse_toString :
    (∀ t : Term, t.IsSpellable → Term.parse (toString t) = .ok t) ∧
    ∀ (text : String) (t : Term), Term.parse text = .ok t → t.IsSpellable ∧ Term.parse (toString t) = .ok t :=
  ⟨fun _ h => parse_write h, fun _ _ h => ⟨isSpellable_of_parse h, parse_write (isSpellable_of_parse h)⟩⟩

theorem parse_toString_signs :
    let t := call "-" [int Int64.minValue, call "-x" [bool true], string "a\"\\\n'"]
    (t.IsSpellable ∧ toString t = "(- -9223372036854775808 (-x #t) \"a\\\"\\\\\n'\")" ∧
      Term.parse (toString t) = .ok t) ∧
    Term.parse "\n( - -5'a\\'b'(x))" = .ok (call "-" [int (-5), string "a'b", call "x" []]) ∧
    IsSpellable (call "-" [int (-5), string "a'b", call "x" []]) ∧
    Term.parse (toString (call "-" [int (-5), string "a'b", call "x" []])) =
      .ok (call "-" [int (-5), string "a'b", call "x" []]) := by
  intro t
  have hname : IsSymbol "-x" := by decide +kernel
  have ht : t.IsSpellable := by
    refine .call (by decide +kernel) fun a ha => ?_
    simp only [List.mem_cons, List.not_mem_nil, or_false] at ha
    rcases ha with rfl | rfl | rfl
    · exact .int _
    · exact .call hname (by simp [IsSpellable.bool])
    · exact .string _
  have hparse : Term.parse "\n( - -5'a\\'b'(x))" = .ok (call "-" [int (-5), string "a'b", call "x" []]) :=
    eq_ok_of_toOption (by decide +kernel)
  exact ⟨⟨ht, by decide +kernel, parse_toString.1 t ht⟩, hparse, parse_toString.2 _ _ hparse⟩

end Term

end MailQuery
