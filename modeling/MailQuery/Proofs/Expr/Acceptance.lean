import MailQuery.Proofs.Expr.Printing

/-!
# What the parser accepts

The parser makes a term of some tokens exactly if they are the tokens of the term (`Term.build_eq_ok_iff`), so that no
two terms have the same tokens. All other tokens stop being the start of an expression somewhere (`Term.Breaks`): at the
first token with which they are none, or at the end of the text, where an expression would have to go on. This is where
the parser reports its error (`Term.breaks_of_build`).

What a term starts with is told by the parser itself: it does the same after the tokens that its stack stands for as
with that stack (`Term.build_opened`), and so a token that it refuses cannot follow them in any term.

`Term.parse_accepts` is the main statement.
-/

namespace MailQuery

namespace Term

variable {stop offset : Nat} {before ts : List Token} {read rest lexemes : List Lexeme} {stack : List OpenCall}

/-! ### Terms and their tokens -/

/-- **The parser makes a term of its tokens and of no others.** -/
theorem build_eq_ok_iff {t : Term} : build stop [] lexemes = .ok t ↔ lexemes.map (·.token) = t.tokens :=
  ⟨fun h => map_token_of_build h, build_of_map_token⟩

theorem map_token_map_mk (ts : List Token) : (ts.map (Lexeme.mk · 0)).map (·.token) = ts := by
  rw [List.map_map]
  exact List.map_id ts

/-- No two terms have the same tokens. -/
theorem eq_of_tokens_eq {t u : Term} (h : t.tokens = u.tokens) : t = u := by
  have ht : build 0 [] (t.tokens.map (Lexeme.mk · 0)) = .ok t := build_eq_ok_iff.2 (map_token_map_mk _)
  have hu : build 0 [] (t.tokens.map (Lexeme.mk · 0)) = .ok u := build_eq_ok_iff.2 ((map_token_map_mk _).trans h)
  exact Except.ok.inj (ht.symm.trans hu)

/-! ### Starts of expressions -/

/-- Whether some expression starts with these tokens. -/
def IsStart (ts : List Token) : Prop := ∃ t : Term, ts <+: t.tokens

theorem isStart_nil : IsStart [] := ⟨bool true, List.nil_prefix⟩

theorem isStart_tokens (t : Term) : IsStart t.tokens := ⟨t, List.prefix_rfl⟩

theorem isStart_openParen : IsStart [.openParen] := ⟨call "and" [], [.symbol "and", .closeParen], rfl⟩

/-- Within calls that are open, an expression can start as it does on its own. -/
theorem IsStart.opened (h : IsStart ts) (stack : List OpenCall) : IsStart (opened stack ++ ts) := by
  induction stack generalizing ts with
  | nil => exact h
  | cons f stack ih =>
    obtain ⟨t, more, ht⟩ := h
    have hcall : IsStart (Term.opened [f] ++ ts) := by
      refine ⟨(f.push t).close, more ++ [.closeParen], ?_⟩
      rw [tokens_close, opened_push, ← ht]
      simp
    have happ : Term.opened (f :: stack) = Term.opened stack ++ Term.opened [f] := by
      simp [Term.opened]
    rw [happ, List.append_assoc]
    exact ih hcall

/-- After the tokens that its stack stands for the parser is where it is with that stack. -/
theorem build_opened (h : read.map (·.token) = opened stack) (rest : List Lexeme) :
    build stop [] (read ++ rest) = build stop stack rest := by
  induction stack generalizing read rest with
  | nil =>
    obtain rfl : read = [] := by simpa [opened] using h
    rfl
  | cons f stack ih =>
    obtain ⟨outer, inner, rfl, houter, hinner⟩ := List.map_eq_append_iff.1 h
    obtain ⟨⟨_, offset⟩, named, rfl, rfl, hnamed⟩ := List.map_eq_cons_iff.1 hinner
    obtain ⟨⟨_, offset'⟩, args, rfl, rfl, hargs⟩ := List.map_eq_cons_iff.1 hnamed
    rw [List.append_assoc, ih houter, List.cons_append, List.cons_append, build,
      build_of_tokensAll stop _ args hargs]
    simp

/-- If what follows the tokens of a stack makes up a term with them, the parser makes the term of it with that stack. -/
theorem build_of_opened_append {t : Term} (h : opened stack ++ ts = t.tokens) :
    build 0 stack (ts.map (Lexeme.mk · 0)) = .ok t := by
  rw [← build_opened (map_token_map_mk (opened stack)), build_eq_ok_iff, ← List.map_append, map_token_map_mk, h]

/-! ### Where tokens stop being the start of an expression -/

/-- The offset at which the tokens of a text stop being the start of an expression, `before` being what stands in front
of them: that of the first token with which they are none, or the end of the text if all of them start an expression and
none of them ends it. -/
inductive Breaks (stop : Nat) (before : List Token) (lexemes : List Lexeme) : Nat → Prop where
  | token {read rest : List Lexeme} {bad : Lexeme} (hsplit : lexemes = read ++ bad :: rest)
      (hstart : IsStart (before ++ read.map (·.token)))
      (hbad : ¬ IsStart (before ++ read.map (·.token) ++ [bad.token])) : Breaks stop before lexemes bad.offset
  | ended (hstart : IsStart (before ++ lexemes.map (·.token)))
      (hopen : ∀ t : Term, before ++ lexemes.map (·.token) ≠ t.tokens) : Breaks stop before lexemes stop

theorem Breaks.append (h : Breaks stop (before ++ read.map (·.token)) rest offset) :
    Breaks stop before (read ++ rest) offset := by
  cases h with
  | @token read' rest' bad hsplit hstart hbad =>
    rw [List.append_assoc, ← List.map_append] at hstart
    rw [List.append_assoc before, ← List.map_append] at hbad
    exact .token (by rw [hsplit, List.append_assoc]) hstart hbad
  | ended hstart hopen =>
    rw [List.append_assoc, ← List.map_append] at hstart
    refine .ended hstart fun t => ?_
    rw [List.map_append, ← List.append_assoc]
    exact hopen t

/-- What breaks behind the tokens that the parser has moved to its stack breaks the tokens with them. -/
theorem breaks_of_step {stack' : List OpenCall} {e : SearchError} (read : List Lexeme)
    (hread : opened stack' = opened stack ++ read.map (·.token))
    (h : ∃ offset fault, e = .malformed offset fault ∧ Breaks stop (opened stack') rest offset) :
    ∃ offset fault, e = .malformed offset fault ∧ Breaks stop (opened stack) (read ++ rest) offset := by
  obtain ⟨offset, fault, he, hbreaks⟩ := h
  exact ⟨offset, fault, he, .append (hread ▸ hbreaks)⟩

theorem Breaks.mem_or_eq (h : Breaks stop before lexemes offset) :
    offset ∈ lexemes.map (·.offset) ∨ offset = stop := by
  cases h with
  | token hsplit hstart hbad =>
    left
    rw [hsplit]
    simp
  | ended hstart hopen => exact .inr rfl

/-- Tokens after which the parser waits for more break at the end. -/
theorem breaks_at_end (hread : lexemes.map (·.token) = ts) (hstart : IsStart (opened stack ++ ts))
    (hopen : ∀ t, build 0 stack (ts.map (Lexeme.mk · 0)) ≠ .ok t) : Breaks stop (opened stack) lexemes stop := by
  subst hread
  exact .ended hstart fun t ht => hopen t (build_of_opened_append ht)

/-- A token after which the parser comes to no end, whatever follows, is where tokens break. -/
theorem breaks_at_token {bad : Lexeme} (read : List Lexeme) (hread : read.map (·.token) = ts)
    (hstart : IsStart (opened stack ++ ts))
    (hbad : ∀ more t, build 0 stack ((ts ++ bad.token :: more).map (Lexeme.mk · 0)) ≠ .ok t) :
    Breaks stop (opened stack) (read ++ bad :: rest) bad.offset := by
  subst hread
  refine .token rfl hstart ?_
  rintro ⟨t, more, ht⟩
  refine hbad more t (build_of_opened_append ?_)
  simpa using ht

/-- Nothing follows an expression that is whole with the token `last`. -/
theorem breaks_of_whole {t : Term} {last : Lexeme} {e : SearchError} (h : whole t rest = .error e)
    (htokens : opened stack ++ [last.token] = t.tokens)
    (hwhole : ∀ rest, build 0 stack (⟨last.token, 0⟩ :: rest) = whole t rest) :
    ∃ offset fault, e = .malformed offset fault ∧ Breaks stop (opened stack) (last :: rest) offset := by
  cases rest with
  | nil => cases h
  | cons extra rest =>
    cases h
    refine ⟨_, _, rfl, breaks_at_token [last] rfl (htokens ▸ isStart_tokens t) fun more u hu => ?_⟩
    have hextra : build 0 stack (⟨last.token, 0⟩ :: (extra.token :: more).map (Lexeme.mk · 0)) = .ok u := by
      simpa using hu
    rw [hwhole] at hextra
    cases hextra

/-- **The parser stops where the tokens stop being the start of an expression.** -/
theorem breaks_of_build {e : SearchError} (h : build stop stack lexemes = .error e) :
    ∃ offset fault, e = .malformed offset fault ∧ Breaks stop (opened stack) lexemes offset := by
  -- The cases are those of `build`: the end of the text, an opened call, a closed one, a symbol, a literal.
  fun_induction build stop stack lexemes with
  | case1 =>
    cases h
    exact ⟨_, _, rfl, breaks_at_end rfl isStart_nil (by simp [build])⟩
  | case2 f stack =>
    cases h
    exact ⟨_, _, rfl, breaks_at_end rfl (isStart_nil.opened _) (by simp [build])⟩
  | case3 stack offset =>
    cases h
    exact ⟨_, _, rfl, breaks_at_end rfl (isStart_openParen.opened stack) (by simp [build])⟩
  | case4 stack offset name offset' rest ih =>
    refine breaks_of_step [⟨.openParen, offset⟩, ⟨.symbol name, offset'⟩] ?_ (ih h)
    simp [opened, tokensAll]
  | case5 stack offset head rest hhead =>
    cases h
    refine ⟨_, _, rfl, breaks_at_token [⟨.openParen, offset⟩] rfl (isStart_openParen.opened stack) ?_⟩
    intro more t
    obtain ⟨token, place⟩ := head
    cases token with
    | symbol name => exact absurd rfl (hhead name place)
    | _ => simp [build]
  | case6 offset rest =>
    cases h
    exact ⟨_, _, rfl, breaks_at_token [] rfl isStart_nil (by simp [build])⟩
  | case7 f offset rest => exact breaks_of_whole h (tokens_close f).symm fun rest => by rw [build]
  | case8 f g stack offset rest ih =>
    refine breaks_of_step [⟨.closeParen, offset⟩] ?_ (ih h)
    rw [opened_push, tokens_close]
    simp [opened]
  | case9 stack name offset rest =>
    cases h
    exact ⟨_, _, rfl, breaks_at_token [] rfl (isStart_nil.opened stack) (by simp [build])⟩
  | case10 b offset rest => exact breaks_of_whole h rfl fun rest => by rw [build]
  | case11 n offset rest => exact breaks_of_whole h rfl fun rest => by rw [build]
  | case12 s offset rest => exact breaks_of_whole h rfl fun rest => by rw [build]
  | case13 f stack b offset rest ih =>
    exact breaks_of_step [⟨.bool b, offset⟩] (opened_push f (bool b) stack) (ih h)
  | case14 f stack n offset rest ih =>
    exact breaks_of_step [⟨.int n, offset⟩] (opened_push f (int n) stack) (ih h)
  | case15 f stack s offset rest ih =>
    exact breaks_of_step [⟨.string s, offset⟩] (opened_push f (string s) stack) (ih h)

/-! ### Whole texts -/

/-- **The parser accepts exactly its grammar.** A text with tokens parses to a term if and only if they are the tokens
of the term, of which there is one at most. Any other text is malformed at the offset where its tokens stop being the
start of an expression, which is the start of one of them or the end of the text. -/
theorem parse_accepts {text : String} {lexemes : List Lexeme} (h : tokenize text = .ok lexemes) :
    (∀ t, Term.parse text = .ok t ↔ lexemes.map (·.token) = t.tokens) ∧
    (∀ t u : Term, lexemes.map (·.token) = t.tokens → lexemes.map (·.token) = u.tokens → t = u) ∧
    ((∀ t : Term, lexemes.map (·.token) ≠ t.tokens) →
      ∃ offset fault, Term.parse text = .error (.malformed offset fault) ∧
        Breaks (Text.byteLength text.toList) [] lexemes offset ∧
        (offset ∈ lexemes.map (·.offset) ∨ offset = Text.byteLength text.toList)) := by
  have hparse : Term.parse text = build (Text.byteLength text.toList) [] lexemes := by
    rw [Term.parse, h]
  refine ⟨fun t => ?_, fun t u ht hu => eq_of_tokens_eq (ht.symm.trans hu), fun hnone => ?_⟩
  · rw [hparse, build_eq_ok_iff]
  · rw [hparse]
    cases hbuild : build (Text.byteLength text.toList) [] lexemes with
    | ok t => exact absurd (build_eq_ok_iff.1 hbuild) (hnone t)
    | error e =>
      obtain ⟨offset, fault, rfl, hbreaks⟩ := breaks_of_build hbuild
      exact ⟨offset, fault, rfl, hbreaks, hbreaks.mem_or_eq⟩

/-- An expression, one with a symbol in the place of an argument, and one that is not closed. -/
theorem parse_accepts_nested :
    let nested := call "and" [call "x" [int 1], string "é"]
    let misplaced := [⟨.openParen, 0⟩, ⟨.symbol "uid", 1⟩, ⟨.string "é", 5⟩, ⟨.symbol "b", 10⟩, ⟨.closeParen, 11⟩]
    let unclosed := [⟨.openParen, 0⟩, ⟨.symbol "not", 1⟩, ⟨.bool true, 5⟩]
    ((∃ lexemes, tokenize " (and (x 1)'é')" = .ok lexemes ∧ lexemes.map (·.token) = nested.tokens) ∧
      Term.parse " (and (x 1)'é')" = .ok nested) ∧
    (tokenize "(uid \"é\" b)" = .ok misplaced ∧ (∀ t : Term, misplaced.map (·.token) ≠ t.tokens) ∧
      Term.parse "(uid \"é\" b)" = .error (.malformed 10 (.symbolOutsideList "b")) ∧ Breaks 12 [] misplaced 10) ∧
    (tokenize "(not #t " = .ok unclosed ∧ (∀ t : Term, unclosed.map (·.token) ≠ t.tokens) ∧
      Term.parse "(not #t " = .error (.malformed 8 (.missingClose "not")) ∧ Breaks 8 [] unclosed 8) := by
  intro nested misplaced unclosed
  have hnested : ∃ lexemes, tokenize " (and (x 1)'é')" = .ok lexemes ∧ lexemes.map (·.token) = nested.tokens :=
    map_token_of_parse (eq_ok_of_toOption (by decide +kernel))
  have hmisplaced : tokenize "(uid \"é\" b)" = .ok misplaced := eq_ok_of_toOption (by decide +kernel)
  have hunclosed : tokenize "(not #t " = .ok unclosed := eq_ok_of_toOption (by decide +kernel)
  have hsymbol : Term.parse "(uid \"é\" b)" = .error (.malformed 10 (.symbolOutsideList "b")) := by
    rw [Term.parse, hmisplaced]
    rfl
  have hend : Term.parse "(not #t " = .error (.malformed 8 (.missingClose "not")) := by
    rw [Term.parse, hunclosed]
    rfl
  have hnone : ∀ t : Term, misplaced.map (·.token) ≠ t.tokens := fun t ht => by
    cases hsymbol.symm.trans (((parse_accepts hmisplaced).1 t).2 ht)
  have hnone' : ∀ t : Term, unclosed.map (·.token) ≠ t.tokens := fun t ht => by
    cases hend.symm.trans (((parse_accepts hunclosed).1 t).2 ht)
  obtain ⟨offset, fault, herror, hbreaks, -⟩ := (parse_accepts hmisplaced).2.2 hnone
  obtain ⟨offset', fault', herror', hbreaks', -⟩ := (parse_accepts hunclosed).2.2 hnone'
  refine ⟨⟨hnested, ?_⟩, ⟨hmisplaced, hnone, hsymbol, ?_⟩, hunclosed, hnone', hend, ?_⟩
  · obtain ⟨lexemes, hlexemes, htokens⟩ := hnested
    exact ((parse_accepts hlexemes).1 nested).2 htokens
  · cases hsymbol.symm.trans herror
    exact hbreaks
  · cases hend.symm.trans herror'
    exact hbreaks'

end Term

end MailQuery
