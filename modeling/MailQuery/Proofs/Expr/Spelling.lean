import MailQuery.Proofs.Expr.Parsing
import MailQuery.Proofs.Text.Ascii

/-!
# Tokens and their spelling

`HasTokens` says which tokens the scanner reads off a text, wherever the text starts. There is one rule for each
kind of token: its spelling in front of a text adds the token to those of the text. Integers, symbols and truth
values end only where a character stands that cannot be part of a symbol, so that their rules ask what comes next
(`IsDelimited`); strings and parentheses end by themselves.

Names that can be spelled as a symbol are described by `IsSymbol`, and `isSymbol_iff` says that these are the
names which the scanner finds in any text.
-/

namespace MailQuery

open Text

namespace Token

/-! ### Symbols -/

/-- A name that reads as a symbol: it is not empty, it has no white space, parenthesis or quote in it, and it does
not start like a truth value or an integer. -/
structure IsSymbol (name : String) : Prop where
  ne_empty : name ≠ ""
  chars : ∀ c ∈ name.toList, isBlank c = false ∧ c ≠ '(' ∧ c ≠ ')' ∧ c ≠ '"' ∧ c ≠ '\''
  start : ∀ c ∈ name.toList.head?, c ≠ '#' ∧ c.isDigit = false
  sign : name.toList.head? = some '-' → ∀ d ∈ (name.toList.drop 1).head?, d.isDigit = false

instance (name : String) : Decidable (IsSymbol name) :=
  decidable_of_iff (name ≠ "" ∧
      (∀ c ∈ name.toList, isBlank c = false ∧ c ≠ '(' ∧ c ≠ ')' ∧ c ≠ '"' ∧ c ≠ '\'') ∧
      (∀ c ∈ name.toList.head?, c ≠ '#' ∧ c.isDigit = false) ∧
      (name.toList.head? = some '-' → ∀ d ∈ (name.toList.drop 1).head?, d.isDigit = false))
    ⟨fun ⟨hne, hchars, hstart, hsign⟩ => ⟨hne, hchars, hstart, hsign⟩, fun h => ⟨h.ne_empty, h.chars, h.start, h.sign⟩⟩

theorem isSymbolChar_iff {c : Char} :
    isSymbolChar c = true ↔ isBlank c = false ∧ c ≠ '(' ∧ c ≠ ')' ∧ c ≠ '"' ∧ c ≠ '\'' := by
  simp only [isSymbolChar, Bool.and_eq_true, Bool.not_eq_true', bne_iff_ne, and_assoc]

theorem isSymbolChar_of_isDigit {c : Char} (h : c.isDigit = true) : isSymbolChar c = true :=
  forall_ascii (P := fun c => c.isDigit = true → isSymbolChar c = true) (by decide +kernel)
    (Nat.lt_of_le_of_lt (Char.isDigit_iff_toNat.1 h).2 (by decide)) h

/-- A symbol is split off only where no other token can start, and its name is what is split off. -/
theorem scanOne_eq_symbol {offset : Nat} {c : Char} {cs : List Char} {s : Scan} {name : String}
    (h : scanOne offset c cs = .ok s) (hs : s.token = symbol name) :
    (c ≠ '(' ∧ c ≠ ')' ∧ c ≠ '"' ∧ c ≠ '\'' ∧ c ≠ '#') ∧
      (c.isDigit = false ∧ (c = '-' → cs.head?.any Char.isDigit = false)) ∧
      name.toList = c :: cs.takeWhile isSymbolChar ∧ s.lexeme = name.toList := by
  unfold scanOne at h
  split at h
  · cases h; cases hs
  rename_i hopen
  split at h
  · cases h; cases hs
  rename_i hclose
  split at h
  · split at h
    · cases h; cases hs
    · cases h
  rename_i hquote
  split at h
  · simp only at h
    split at h
    · cases h; cases hs
    split at h
    · cases h; cases hs
    · cases h
  rename_i hhash
  split at h
  · unfold scanInt at h
    split at h
    · cases h; cases hs
    · cases h
  rename_i hint
  -- What is left is a symbol, which starts with `c` and goes on with characters of symbols.
  cases h
  obtain rfl : String.ofList (c :: cs.takeWhile isSymbolChar) = name := by
    simpa using hs
  rw [not_or] at hquote
  rw [Bool.or_eq_true, Bool.and_eq_true, not_or, beq_iff_eq] at hint
  refine ⟨⟨hopen, hclose, hquote.1, hquote.2, hhash⟩, ⟨by simpa using hint.1, fun hminus => ?_⟩, ?_, ?_⟩
  · exact Bool.eq_false_iff.2 fun hany => hint.2 ⟨hminus, hany⟩
  · rw [String.toList_ofList]
  · rw [String.toList_ofList]

/-- The name of a symbol that the scanner split off is a symbol. -/
theorem isSymbol_of_scanOne {offset : Nat} {c : Char} {cs : List Char} {s : Scan} {name : String}
    (hblank : isBlank c = false) (h : scanOne offset c cs = .ok s) (hs : s.token = symbol name) :
    IsSymbol name := by
  obtain ⟨⟨hopen, hclose, hquote, hquote', hhash⟩, ⟨hdigit, hsign⟩, hname, -⟩ := scanOne_eq_symbol h hs
  refine ⟨?_, ?_, ?_, ?_⟩
  · rintro rfl
    cases hname
  · intro d hd
    rw [hname] at hd
    rcases List.mem_cons.1 hd with rfl | hd
    · exact ⟨hblank, hopen, hclose, hquote, hquote'⟩
    · exact isSymbolChar_iff.1 (List.all_eq_true.1 List.all_takeWhile d hd)
  · intro d hd
    rw [hname] at hd
    obtain rfl : c = d := by simpa using hd
    exact ⟨hhash, hdigit⟩
  · intro hminus d hd
    rw [hname] at hminus hd
    obtain rfl : c = '-' := by simpa using hminus
    -- The second character of the name is the one that follows the minus sign in the text.
    have hhead : cs.head? = some d := by
      rw [List.drop_one, List.tail_cons, List.head?_takeWhile] at hd
      exact (Option.filter_eq_some_iff.1 hd).1
    simpa [hhead] using hsign rfl

/-- Every symbol that the scanner finds in a text has the name of a symbol. -/
theorem isSymbol_of_scan {offset : Nat} {cs : List Char} {lexemes : List Lexeme} {name : String}
    (h : scan offset cs = .ok lexemes) (hmem : symbol name ∈ lexemes.map (·.token)) : IsSymbol name := by
  fun_induction scan offset cs generalizing lexemes with
  | case1 => cases h; cases hmem
  | case2 offset c cs hblank ih => exact ih h hmem
  | case3 offset c cs hblank e hone => cases h
  | case4 offset c cs hblank s hone e hrest ih => cases h
  | case5 offset c cs hblank s hone lexemes' hrest ih =>
    cases h
    rcases List.mem_cons.1 hmem with hname | hmem
    · exact isSymbol_of_scanOne (by simpa using hblank) hone hname.symm
    · exact ih hrest hmem

/-- The name of a symbol stands in the text as it is: nothing in it is rewritten by the scanner. -/
theorem infix_of_scan {offset : Nat} {cs : List Char} {lexemes : List Lexeme} {name : String}
    (h : scan offset cs = .ok lexemes) (hmem : symbol name ∈ lexemes.map (·.token)) : name.toList <:+: cs := by
  fun_induction scan offset cs generalizing lexemes with
  | case1 => cases h; cases hmem
  | case2 offset c cs hblank ih => exact (ih h hmem).trans (List.suffix_cons c cs).isInfix
  | case3 offset c cs hblank e hone => cases h
  | case4 offset c cs hblank s hone e hrest ih => cases h
  | case5 offset c cs hblank s hone lexemes' hrest ih =>
    cases h
    -- The text is the lexeme and the rest, so that the name is found at the start or further on.
    rw [← (scanOne_eq_ok hone).1]
    rcases List.mem_cons.1 hmem with hname | hmem
    · rw [← (scanOne_eq_symbol hone hname.symm).2.2.2]
      exact (List.prefix_append _ _).isInfix
    · exact (ih hrest hmem).trans (List.suffix_append _ _).isInfix

/-! ### Steps of the scanner -/

section

variable {c : Char} {cs : List Char} {offset : Nat}

theorem scan_cons_of_blank (hc : isBlank c = true) (offset : Nat) (cs : List Char) :
    scan offset (c :: cs) = scan (offset + c.utf8Size) cs := by
  rw [scan, if_pos hc]

theorem scan_cons_of_error {e : SearchError} (hc : isBlank c = false) (h : scanOne offset c cs = .error e) :
    scan offset (c :: cs) = .error e := by
  rw [scan, if_neg (by rw [hc]; decide)]
  split
  · next e' he' =>
    rw [h] at he'
    cases he'
    rfl
  · next s hs =>
    rw [h] at hs
    cases hs

theorem scan_cons_of_ok {s : Scan} (hc : isBlank c = false) (h : scanOne offset c cs = .ok s) :
    scan offset (c :: cs) = (scan (offset + byteLength s.lexeme) s.rest).map (⟨s.token, offset⟩ :: ·) := by
  rw [scan, if_neg (by rw [hc]; decide)]
  split
  · next e he =>
    rw [h] at he
    cases he
  · next s' hs' =>
    rw [h] at hs'
    cases hs'
    cases scan (offset + byteLength s.lexeme) s.rest <;> rfl

/-- A text of white space has no tokens. -/
theorem scan_of_blank (h : ∀ c ∈ cs, isBlank c = true) (offset : Nat) : scan offset cs = .ok [] := by
  induction cs generalizing offset with
  | nil => rw [scan]
  | cons c cs ih =>
    rw [scan_cons_of_blank (h c (List.mem_cons_self ..)), ih fun d hd => h d (List.mem_cons_of_mem _ hd)]

end

/-! ### Tokens of a text -/

/-- The scanner reads these tokens off a text, wherever the text starts. -/
def HasTokens (cs : List Char) (tokens : List Token) : Prop :=
  ∀ offset, ∃ lexemes, scan offset cs = .ok lexemes ∧ lexemes.map (·.token) = tokens

/-- A text before which a symbol, an integer or a truth value ends. -/
def IsDelimited (cs : List Char) : Prop := ∀ c ∈ cs.head?, isSymbolChar c = false

theorem IsDelimited.takeWhile {cs : List Char} (h : IsDelimited cs) {p : Char → Bool}
    (hp : ∀ c, p c = true → isSymbolChar c = true) : cs.takeWhile p = [] ∧ cs.dropWhile p = cs := by
  cases cs with
  | nil => exact ⟨rfl, rfl⟩
  | cons c cs =>
    have hc : p c = false := by
      cases hpc : p c with
      | false => rfl
      | true => exact (hp c hpc).symm.trans (h c rfl)
    rw [List.takeWhile_cons, List.dropWhile_cons, hc]
    exact ⟨rfl, rfl⟩

/-- Characters of one kind are split off a text as far as they go. -/
theorem IsDelimited.span {name rest : List Char} (h : IsDelimited rest) (p : Char → Bool)
    (hp : ∀ c, p c = true → isSymbolChar c = true) (hname : ∀ c ∈ name, p c = true) :
    (name ++ rest).takeWhile p = name ∧ (name ++ rest).dropWhile p = rest := by
  rw [List.takeWhile_append_of_pos hname, List.dropWhile_append_of_pos hname, (h.takeWhile hp).1,
    (h.takeWhile hp).2, List.append_nil]
  exact ⟨rfl, rfl⟩

theorem IsDelimited.not_digit {cs : List Char} (h : IsDelimited cs) : cs.head?.any Char.isDigit = false := by
  cases cs with
  | nil => rfl
  | cons c cs =>
    cases hc : c.isDigit with
    | false => simpa using hc
    | true => exact absurd ((isSymbolChar_of_isDigit hc).symm.trans (h c rfl)) (by decide)

namespace HasTokens

variable {cs rest : List Char} {tokens : List Token}

theorem nil : HasTokens [] [] := fun offset => ⟨[], by rw [scan], rfl⟩

theorem blank {c : Char} (hc : isBlank c = true) (h : HasTokens cs tokens) : HasTokens (c :: cs) tokens := by
  intro offset
  obtain ⟨lexemes, hscan, htokens⟩ := h (offset + c.utf8Size)
  exact ⟨lexemes, by rw [scan_cons_of_blank hc, hscan], htokens⟩

/-- One lexeme in front of a text adds its token. -/
theorem scanned {c : Char} {token : Token} (lexeme : List Char) (hblank : isBlank c = false)
    (hone : ∀ offset, scanOne offset c cs = .ok ⟨token, lexeme, rest⟩) (h : HasTokens rest tokens) :
    HasTokens (c :: cs) (token :: tokens) := by
  intro offset
  obtain ⟨lexemes, hscan, htokens⟩ := h (offset + byteLength lexeme)
  refine ⟨⟨token, offset⟩ :: lexemes, ?_, by rw [List.map_cons, htokens]⟩
  rw [scan_cons_of_ok hblank (hone offset), hscan]
  rfl

theorem openParen (h : HasTokens cs tokens) : HasTokens ('(' :: cs) (.openParen :: tokens) :=
  h.scanned _ (by decide) fun _ => rfl

theorem closeParen (h : HasTokens cs tokens) : HasTokens (')' :: cs) (.closeParen :: tokens) :=
  h.scanned _ (by decide) fun _ => rfl

theorem symbol {name : String} (hname : IsSymbol name) (hrest : IsDelimited rest) (h : HasTokens rest tokens) :
    HasTokens (name.toList ++ rest) (.symbol name :: tokens) := by
  cases hlist : name.toList with
  | nil => exact absurd (String.toList_eq_nil_iff.1 hlist) hname.ne_empty
  | cons c cs =>
    have hchars := hname.chars
    rw [hlist] at hchars
    obtain ⟨hblank, hopen, hclose, hquote, hquote'⟩ := hchars c (List.mem_cons_self ..)
    obtain ⟨hhash, hdigit⟩ := hname.start c (by rw [hlist]; rfl)
    obtain ⟨htake, hdrop⟩ := hrest.span isSymbolChar (fun _ h => h)
      fun d hd => isSymbolChar_iff.2 (hchars d (List.mem_cons_of_mem _ hd))
    -- A minus sign starts an integer only if a digit follows it, in the name or behind it.
    have hsign : (c == '-' && (cs ++ rest).head?.any Char.isDigit) = false := by
      by_cases hc : c = '-'
      · subst hc
        cases cs with
        | nil => simpa using hrest.not_digit
        | cons d ds =>
          have hd := hname.sign (by rw [hlist]; rfl) d (by rw [hlist]; rfl)
          simpa using hd
      · rw [beq_false_of_ne hc, Bool.false_and]
    have hof : String.ofList (c :: cs) = name := by rw [← hlist, String.ofList_toList]
    refine h.scanned (c :: cs) hblank fun offset => ?_
    show scanOne offset c (cs ++ rest) = _
    rw [scanOne, if_neg hopen, if_neg hclose, if_neg (not_or.2 ⟨hquote, hquote'⟩), if_neg hhash, hdigit, hsign,
      if_neg (by decide), htake, hdrop, hof]

theorem bool (b : Bool) (hrest : IsDelimited rest) (h : HasTokens rest tokens) :
    HasTokens ((Term.bool b).write ++ rest) (.bool b :: tokens) := by
  cases b with
  | true =>
    obtain ⟨htake, hdrop⟩ := hrest.span isSymbolChar (fun _ h => h) (by decide : ∀ c ∈ ['t'], isSymbolChar c = true)
    refine h.scanned (['#', 't']) (by decide) fun offset => ?_
    show scanOne offset '#' (['t'] ++ rest) = _
    simp only [scanOne, htake, hdrop]
    rfl
  | false =>
    obtain ⟨htake, hdrop⟩ := hrest.span isSymbolChar (fun _ h => h) (by decide : ∀ c ∈ ['f'], isSymbolChar c = true)
    refine h.scanned (['#', 'f']) (by decide) fun offset => ?_
    show scanOne offset '#' (['f'] ++ rest) = _
    simp only [scanOne, htake, hdrop]
    rfl

end HasTokens

/-! ### Strings -/

theorem spanQuoted_escape (cs rest : List Char) :
    spanQuoted '"' (Term.escape cs ++ '"' :: rest) = some (Term.escape cs, rest) := by
  induction cs with
  | nil =>
    rw [Term.escape, List.nil_append, spanQuoted.eq_def]
    simp only [if_pos]
  | cons c cs ih =>
    rw [Term.escape]
    split
    · rw [List.cons_append, List.cons_append, spanQuoted.eq_def]
      simp only [ih, Option.map_some, if_pos, Char.reduceEq, if_false]
    · next hc =>
      rw [not_or] at hc
      rw [List.cons_append, spanQuoted.eq_def]
      simp only [if_neg hc.1, if_neg hc.2, ih, Option.map_some]

theorem unescape_escape (cs : List Char) : unescape (Term.escape cs) = cs := by
  induction cs with
  | nil => rfl
  | cons c cs ih =>
    rw [Term.escape]
    split
    · next hc =>
      have hself : escaped c = c := by
        rcases hc with rfl | rfl <;> rfl
      rw [unescape, if_pos rfl]
      simp only [hself, ih]
    · next hc =>
      rw [not_or] at hc
      rw [unescape.eq_def]
      simp only [if_neg hc.1, ih]

theorem HasTokens.string (s : String) {rest : List Char} {tokens : List Token} (h : HasTokens rest tokens) :
    HasTokens ((Term.string s).write ++ rest) (.string s :: tokens) := by
  have htext : (Term.string s).write ++ rest = '"' :: (Term.escape s.toList ++ '"' :: rest) := by
    rw [Term.write, List.cons_append, List.cons_append, List.append_assoc, List.singleton_append]
  rw [htext]
  refine h.scanned ('"' :: Term.escape s.toList ++ ['"']) (by decide) fun offset => ?_
  rw [scanOne, if_neg (by decide), if_neg (by decide), if_pos (.inl rfl), spanQuoted_escape]
  simp only [unescape_escape, String.ofList_toList]

/-! ### Integers -/

/-- The text of an integer is one or more digits, with a sign before them if it is negative, and reads as the integer. -/
theorem exists_write_int (n : Int64) : ∃ c cs, (Term.int n).write = c :: cs ∧
    (c.isDigit = true ∨ c = '-' ∧ cs ≠ []) ∧ (∀ d ∈ cs, d.isDigit = true) ∧ readInt (c :: cs) = some n := by
  have hdigits : ∀ m : Nat, ∀ d ∈ Nat.toDigits 10 m, d.isDigit = true := fun m d hd =>
    Nat.isDigit_of_mem_toDigits (by decide) (by decide) hd
  have hread := int64?_toInt n
  rw [Term.write, Int.toString_eq_repr, Int.repr_eq_if]
  split
  · next hn =>
    rw [Nat.toList_repr]
    cases hlist : Nat.toDigits 10 n.toInt.toNat with
    | nil => exact absurd hlist Nat.toDigits_ne_nil
    | cons c cs =>
      have hcs := hdigits n.toInt.toNat
      rw [hlist] at hcs
      have hc : c.isDigit = true := hcs c (List.mem_cons_self ..)
      refine ⟨c, cs, rfl, .inl hc, fun d hd => hcs d (List.mem_cons_of_mem _ hd), ?_⟩
      have hne : ¬ c = '-' := by
        rintro rfl
        cases hc
      rw [readInt]
      · rw [← hlist, Nat.ofDigitChars_ten_toDigits, Int.toNat_of_nonneg hn, hread]
      · rintro ds heq
        exact hne (List.cons.inj heq).1
  · next hn =>
    rw [String.toList_append, Nat.toList_repr]
    refine ⟨'-', Nat.toDigits 10 (-n.toInt).toNat, rfl, .inr ⟨rfl, Nat.toDigits_ne_nil⟩, hdigits _, ?_⟩
    have hneg : ((-n.toInt).toNat : Int) = -n.toInt := Int.toNat_of_nonneg (by omega)
    rw [readInt, Nat.ofDigitChars_ten_toDigits, hneg, Int.neg_neg, hread]

theorem HasTokens.int (n : Int64) {rest : List Char} {tokens : List Token} (hrest : IsDelimited rest)
    (h : HasTokens rest tokens) : HasTokens ((Term.int n).write ++ rest) (.int n :: tokens) := by
  obtain ⟨c, cs, hwrite, hstart, hcs, hread⟩ := exists_write_int n
  obtain ⟨htake, hdrop⟩ := hrest.span Char.isDigit (fun _ hd => isSymbolChar_of_isDigit hd) hcs
  -- An integer starts with a digit or with a minus sign and a digit, so that no other kind of token does.
  have hint : (c.isDigit || (c == '-' && (cs ++ rest).head?.any Char.isDigit)) = true := by
    rcases hstart with hc | ⟨rfl, hne⟩
    · rw [hc, Bool.true_or]
    · cases cs with
      | nil => exact absurd rfl hne
      | cons d ds => simpa using hcs d (List.mem_cons_self ..)
  have hother : isBlank c = false ∧ c ≠ '(' ∧ c ≠ ')' ∧ c ≠ '"' ∧ c ≠ '\'' := by
    rcases hstart with hc | ⟨rfl, -⟩
    · exact isSymbolChar_iff.1 (isSymbolChar_of_isDigit hc)
    · decide
  have hhash : c ≠ '#' := by
    rintro rfl
    rcases hstart with hc | ⟨hc, -⟩
    · cases hc
    · cases hc
  obtain ⟨hblank, hopen, hclose, hquote, hquote'⟩ := hother
  rw [hwrite]
  refine h.scanned (c :: cs) hblank fun offset => ?_
  show scanOne offset c (cs ++ rest) = _
  rw [scanOne, if_neg hopen, if_neg hclose, if_neg (not_or.2 ⟨hquote, hquote'⟩), if_neg hhash, if_pos hint,
    htake, hdrop, scanInt, hread]

/-! ### Names and symbols -/

/-- **The names of symbols are those that the scanner finds.** -/
theorem isSymbol_iff {name : String} :
    IsSymbol name ↔ ∃ text lexemes, tokenize text = .ok lexemes ∧ symbol name ∈ lexemes.map (·.token) := by
  constructor
  · intro hname
    have hnil : IsDelimited [] := fun c hc => by cases hc
    obtain ⟨lexemes, hscan, htokens⟩ := HasTokens.nil.symbol hname hnil 0
    rw [List.append_nil] at hscan
    exact ⟨name, lexemes, hscan, by rw [htokens]; exact List.mem_singleton.2 rfl⟩
  · rintro ⟨text, lexemes, hscan, hmem⟩
    exact isSymbol_of_scan hscan hmem

end Token

end MailQuery
