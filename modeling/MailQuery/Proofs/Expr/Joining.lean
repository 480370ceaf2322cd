import MailQuery.Proofs.Expr.Spelling
import MailQuery.Proofs.Text.Pieces

/-!
# Tokens of joined texts

A token ends at white space, unless it is a string that is still open. So a text that has tokens keeps them when white
space and more text follow (`scan_append`), and the tokens of what follows are those that it has by itself, at offsets that
are larger by what stands before it (`scan_add`). The same holds of the error, if there is one.

`tokenize_append_blank` is the main statement.
-/

namespace MailQuery

open Text

/-- The lexeme, as many bytes further on. -/
def Lexeme.shift (k : Nat) (l : Lexeme) : Lexeme := { l with offset := l.offset + k }

/-- The error, with its offset as many bytes further on. -/
def SearchError.shift (k : Nat) : SearchError → SearchError
  | malformed offset fault => malformed (offset + k) fault
  | e => e

namespace Token

variable {offset : Nat} {c : Char} {cs rest : List Char} {s : Scan} {lexemes : List Lexeme} {e : SearchError}

/-! ### Offsets -/

theorem scanOne_add (offset k : Nat) (c : Char) (cs : List Char) :
    scanOne (offset + k) c cs = (scanOne offset c cs).mapError (·.shift k) := by
  unfold scanOne scanInt
  dsimp only
  repeat' split
  all_goals rfl

/-- **A text that starts further on has the same tokens at larger offsets**, or the same error at a larger offset. -/
theorem scan_add (offset k : Nat) (cs : List Char) :
    scan (offset + k) cs = ((scan offset cs).mapError (·.shift k)).map (List.map (·.shift k)) := by
  fun_induction scan offset cs with
  | case1 offset => rw [scan]; rfl
  | case2 offset c cs hblank ih => rw [scan_cons_of_blank hblank, Nat.add_right_comm, ih]
  | case3 offset c cs hblank e hone =>
    have hone' : scanOne (offset + k) c cs = .error (e.shift k) := by rw [scanOne_add, hone]; rfl
    rw [scan_cons_of_error (by simpa using hblank) hone']
    rfl
  | case4 offset c cs hblank s hone e hrest ih =>
    have hone' : scanOne (offset + k) c cs = .ok s := by rw [scanOne_add, hone]; rfl
    rw [scan_cons_of_ok (by simpa using hblank) hone', Nat.add_right_comm, ih, hrest]
    rfl
  | case5 offset c cs hblank s hone lexemes hrest ih =>
    have hone' : scanOne (offset + k) c cs = .ok s := by rw [scanOne_add, hone]; rfl
    rw [scan_cons_of_ok (by simpa using hblank) hone', Nat.add_right_comm, ih, hrest]
    rfl

theorem exists_of_scanOne_error (h : scanOne offset c cs = .error e) : ∃ fault, e = .malformed offset fault := by
  unfold scanOne scanInt at h
  dsimp only at h
  repeat' split at h
  all_goals cases h
  all_goals exact ⟨_, rfl⟩

/-- Every error of the scanner has an offset. -/
theorem exists_of_scan_error (h : scan offset cs = .error e) : ∃ offset' fault, e = .malformed offset' fault := by
  fun_induction scan offset cs with
  | case1 => cases h
  | case2 offset c cs hblank ih => exact ih h
  | case3 offset c cs hblank e' hone =>
    cases h
    exact ⟨offset, exists_of_scanOne_error hone⟩
  | case4 offset c cs hblank s hone e' hrest ih =>
    cases h
    exact ih hrest
  | case5 => cases h

theorem byteLength_lexeme_pos (h : scanOne offset c cs = .ok s) : 0 < byteLength s.lexeme := by
  obtain ⟨lexeme, hlexeme⟩ := List.head?_eq_some_iff.1 (scanOne_eq_ok h).2
  rw [hlexeme, byteLength_cons]
  exact Nat.add_pos_left c.utf8Size_pos _

/-- A token stands where a character starts that is not white space. -/
theorem exists_of_mem_scan (h : scan offset cs = .ok lexemes) {l : Lexeme} (hl : l ∈ lexemes) :
    ∃ front c rest, cs = front ++ c :: rest ∧ isBlank c = false ∧ l.offset = offset + byteLength front := by
  fun_induction scan offset cs generalizing lexemes with
  | case1 =>
    cases h
    cases hl
  | case2 offset c cs hblank ih =>
    obtain ⟨front, d, rest, rfl, hd, hoffset⟩ := ih h hl
    exact ⟨c :: front, d, rest, rfl, hd, by rw [hoffset, byteLength_cons, Nat.add_assoc]⟩
  | case3 => cases h
  | case4 => cases h
  | case5 offset c cs hblank s hone lexemes' hrest ih =>
    cases h
    rcases List.mem_cons.1 hl with rfl | hl
    · exact ⟨[], c, cs, rfl, by simpa using hblank, rfl⟩
    · obtain ⟨front, d, rest, hcs, hd, hoffset⟩ := ih hrest hl
      refine ⟨s.lexeme ++ front, d, rest, ?_, hd, by rw [hoffset, byteLength_append, Nat.add_assoc]⟩
      rw [← (scanOne_eq_ok hone).1, hcs, List.append_assoc]

/-- **Offsets increase** from token to token. -/
theorem pairwise_offset_of_scan (h : scan offset cs = .ok lexemes) : (lexemes.map (·.offset)).Pairwise (· < ·) := by
  fun_induction scan offset cs generalizing lexemes with
  | case1 =>
    cases h
    exact List.Pairwise.nil
  | case2 offset c cs hblank ih => exact ih h
  | case3 => cases h
  | case4 => cases h
  | case5 offset c cs hblank s hone lexemes' hrest ih =>
    cases h
    refine List.pairwise_cons.2 ⟨fun next hnext => ?_, ih hrest⟩
    obtain ⟨l, hl, rfl⟩ := List.mem_map.1 hnext
    obtain ⟨front, -, -, -, -, hoffset⟩ := exists_of_mem_scan hrest hl
    have hpos := byteLength_lexeme_pos hone
    show offset < l.offset
    omega

/-! ### What follows a text -/

theorem spanQuoted_append {quote : Char} {body after : List Char} (h : spanQuoted quote cs = some (body, after))
    (rest : List Char) : spanQuoted quote (cs ++ rest) = some (body, after ++ rest) := by
  fun_induction spanQuoted quote cs generalizing body after with
  | case1 => cases h
  | case2 cs =>
    cases h
    rw [List.cons_append, spanQuoted.eq_def]
    simp
  | case3 => cases h
  | case4 d ds hq ih =>
    obtain ⟨⟨body', after'⟩, hspan, heq⟩ := Option.map_eq_some_iff.1 h
    cases heq
    rw [List.cons_append, List.cons_append, spanQuoted.eq_def]
    simp [hq, ih hspan]
  | case5 c cs hq hs ih =>
    obtain ⟨⟨body', after'⟩, hspan, heq⟩ := Option.map_eq_some_iff.1 h
    cases heq
    rw [List.cons_append, spanQuoted.eq_def]
    simp [hq, hs, ih hspan]

/-- Characters of one kind do not go on behind a text that something follows. -/
theorem IsDelimited.span_append (h : IsDelimited rest) (p : Char → Bool)
    (hp : ∀ c, p c = true → isSymbolChar c = true) (cs : List Char) :
    (cs ++ rest).takeWhile p = cs.takeWhile p ∧ (cs ++ rest).dropWhile p = cs.dropWhile p ++ rest := by
  induction cs with
  | nil => exact h.takeWhile hp
  | cons c cs ih =>
    rw [List.cons_append, List.takeWhile_cons, List.takeWhile_cons, List.dropWhile_cons, List.dropWhile_cons, ih.1, ih.2]
    split
    · exact ⟨rfl, rfl⟩
    · exact ⟨rfl, rfl⟩

theorem scanOne_append_of_not_quote (hquote : ¬ (c = '"' ∨ c = '\'')) (hrest : IsDelimited rest) (offset : Nat)
    (cs : List Char) :
    scanOne offset c (cs ++ rest) = (scanOne offset c cs).map fun s => { s with rest := s.rest ++ rest } := by
  obtain ⟨hname, hafter⟩ := hrest.span_append isSymbolChar (fun _ h => h) cs
  obtain ⟨hdigits, hafter'⟩ := hrest.span_append Char.isDigit (fun _ h => isSymbolChar_of_isDigit h) cs
  have hsign : (cs ++ rest).head?.any Char.isDigit = cs.head?.any Char.isDigit := by
    cases cs with
    | nil => exact hrest.not_digit
    | cons d ds => rfl
  unfold scanOne scanInt
  dsimp only
  rw [hname, hafter, hdigits, hafter', hsign, if_neg hquote, if_neg hquote]
  repeat' split
  all_goals rfl

/-- **A token does not go on behind its text** if nothing follows that can be part of a symbol. -/
theorem scanOne_append (h : scanOne offset c cs = .ok s) (hrest : IsDelimited rest) :
    scanOne offset c (cs ++ rest) = .ok { s with rest := s.rest ++ rest } := by
  by_cases hquote : c = '"' ∨ c = '\''
  · have hparens : c ≠ '(' ∧ c ≠ ')' := by
      rcases hquote with rfl | rfl
      · decide
      · decide
    unfold scanOne at h ⊢
    rw [if_neg hparens.1, if_neg hparens.2, if_pos hquote] at h ⊢
    cases hspan : spanQuoted c cs with
    | none =>
      rw [hspan] at h
      cases h
    | some parts =>
      rw [hspan] at h
      rw [spanQuoted_append hspan]
      cases h
      rfl
  · rw [scanOne_append_of_not_quote hquote hrest, h]
    rfl

/-- **The tokens of a text and of what follows it** stand one behind the other. -/
theorem scan_append (h : scan offset cs = .ok lexemes) (hrest : IsDelimited rest) :
    scan offset (cs ++ rest) = (scan (offset + byteLength cs) rest).map (lexemes ++ ·) := by
  fun_induction scan offset cs generalizing lexemes with
  | case1 offset =>
    cases h
    show scan offset rest = (scan (offset + 0) rest).map ([] ++ ·)
    cases scan offset rest <;> rfl
  | case2 offset c cs hblank ih =>
    rw [List.cons_append, scan_cons_of_blank hblank, ih h, byteLength_cons, Nat.add_assoc]
  | case3 => cases h
  | case4 => cases h
  | case5 offset c cs hblank s hone lexemes' hlexemes ih =>
    cases h
    have hcs : byteLength (c :: cs) = byteLength s.lexeme + byteLength s.rest := by
      rw [← (scanOne_eq_ok hone).1, byteLength_append]
    rw [List.cons_append, scan_cons_of_ok (by simpa using hblank) (scanOne_append hone hrest), ih hlexemes, hcs,
      Nat.add_assoc]
    cases scan (offset + (byteLength s.lexeme + byteLength s.rest)) rest <;> rfl

theorem scan_blank_append {blanks : List Char} (h : ∀ c ∈ blanks, isBlank c = true) (offset : Nat) (cs : List Char) :
    scan offset (blanks ++ cs) = scan (offset + byteLength blanks) cs := by
  induction blanks generalizing offset with
  | nil => rfl
  | cons c blanks ih =>
    obtain ⟨hc, hblanks⟩ := List.forall_mem_cons.1 h
    rw [List.cons_append, scan_cons_of_blank hc, ih hblanks, byteLength_cons, Nat.add_assoc]

theorem isDelimited_of_blank {blanks : List Char} (h : ∀ c ∈ blanks, isBlank c = true) (hne : blanks ≠ [])
    (cs : List Char) : IsDelimited (blanks ++ cs) := by
  obtain ⟨c, blanks, rfl⟩ := List.exists_cons_of_ne_nil hne
  intro d hd
  cases hd
  rw [isSymbolChar, h c (List.mem_cons_self ..)]
  rfl

end Token

open Token

/-- What follows a text behind white space is scanned by itself. -/
theorem tokenize_append {a w b : String} {lexemes : List Lexeme} (ha : tokenize a = .ok lexemes) (hne : w ≠ "")
    (hblank : ∀ c ∈ w.toList, isBlank c = true) :
    tokenize (a ++ w ++ b) =
      (((tokenize b).mapError (·.shift (byteLength (a ++ w).toList))).map
        (List.map (·.shift (byteLength (a ++ w).toList)))).map (lexemes ++ ·) := by
  have hnil : w.toList ≠ [] := mt String.toList_eq_nil_iff.1 hne
  have hrest : IsDelimited (w.toList ++ b.toList) := isDelimited_of_blank hblank hnil b.toList
  unfold tokenize at ha ⊢
  rw [String.toList_append, String.toList_append, List.append_assoc, scan_append ha hrest, scan_blank_append hblank,
    byteLength_append, Nat.add_assoc, scan_add]

/-- **Tokens can be read on both sides of white space.** If a text has tokens, then with white space and another text behind
it the tokens are those of the two texts, where the offsets in the second one are larger by the bytes before it; and if the
second text has an error, it is the error of the whole, at an offset that is larger by as much. The offsets of the tokens
increase, and a character starts at each of them. -/
theorem tokenize_append_blank {a w b : String} {lexemes : List Lexeme} (ha : tokenize a = .ok lexemes) (hne : w ≠ "")
    (hblank : ∀ c ∈ w.toList, isBlank c = true) :
    (∀ more, tokenize b = .ok more →
      tokenize (a ++ w ++ b) = .ok (lexemes ++ more.map (·.shift (byteLength (a ++ w).toList)))) ∧
    (∀ e, tokenize b = .error e → ∃ offset fault, e = .malformed offset fault ∧
      tokenize (a ++ w ++ b) = .error (.malformed (offset + byteLength (a ++ w).toList) fault)) ∧
    (lexemes.map (·.offset)).Pairwise (· < ·) ∧
    ∀ l ∈ lexemes, ∃ c rest, sliceFrom? l.offset a.toList = some (c :: rest) ∧ isBlank c = false := by
  have hall := tokenize_append (b := b) ha hne hblank
  refine ⟨fun more hb => ?_, fun e hb => ?_, pairwise_offset_of_scan ha, fun l hl => ?_⟩
  · rw [hall, hb]
    rfl
  · obtain ⟨offset, fault, rfl⟩ := exists_of_scan_error hb
    rw [hb] at hall
    exact ⟨offset, fault, rfl, hall⟩
  · obtain ⟨front, c, rest, hcs, hc, hoffset⟩ := exists_of_mem_scan ha hl
    refine ⟨c, rest, ?_, hc⟩
    rw [hoffset, Nat.zero_add, hcs, sliceFrom?_append]

/-- A truth value ends the first text, and the white space takes three bytes. The second text has a string behind a letter of
two bytes, or a truth value that is none. -/
theorem tokenize_append_blank_ideographic :
    tokenize "(é - #t" = .ok [⟨.openParen, 0⟩, ⟨.symbol "é", 1⟩, ⟨.symbol "-", 4⟩, ⟨.bool true, 6⟩] ∧
      tokenize ("(é - #t" ++ "\u3000" ++ "é'x'") = .ok [⟨.openParen, 0⟩, ⟨.symbol "é", 1⟩, ⟨.symbol "-", 4⟩,
        ⟨.bool true, 6⟩, ⟨.symbol "é", 11⟩, ⟨.string "x", 13⟩] ∧
      tokenize ("(é - #t" ++ "\u3000" ++ "é #x") = .error (.malformed 14 (.invalidBoolean "x")) := by
  have hfirst : tokenize "(é - #t" = .ok [⟨.openParen, 0⟩, ⟨.symbol "é", 1⟩, ⟨.symbol "-", 4⟩, ⟨.bool true, 6⟩] :=
    eq_ok_of_toOption (by decide +kernel)
  have hsecond : tokenize "é'x'" = .ok [⟨.symbol "é", 0⟩, ⟨.string "x", 2⟩] := eq_ok_of_toOption (by decide +kernel)
  have herror : tokenize "é #x" = .error (.malformed 3 (.invalidBoolean "x")) := by
    have hname : scanOne 0 'é' [' ', '#', 'x'] = .ok ⟨.symbol "é", ['é'], [' ', '#', 'x']⟩ := rfl
    have hbool : scanOne 3 '#' ['x'] = .error (.malformed 3 (.invalidBoolean "x")) := rfl
    show scan 0 ['é', ' ', '#', 'x'] = _
    rw [scan_cons_of_ok (by decide) hname, scan_cons_of_blank (by decide)]
    exact congrArg (Except.map _) (scan_cons_of_error (by decide) hbool)
  have hne : "\u3000" ≠ "" := by decide
  have hblank : ∀ c ∈ "\u3000".toList, isBlank c = true := by decide
  obtain ⟨offset, fault, heq, hjoined⟩ := (tokenize_append_blank hfirst hne hblank).2.1 _ herror
  cases heq
  exact ⟨hfirst, (tokenize_append_blank hfirst hne hblank).1 _ hsecond, hjoined⟩

end MailQuery
