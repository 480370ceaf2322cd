import MailQuery.Proofs.Text.Ascii
import MailQuery.Sql.Statement

/-!
# Words that a text spells

A text is cut into words from its start, and what a word is can depend on what stands behind it: a string goes on
if another quotation mark follows, and a name takes in the letters next to it. A text spells words (`Spells`) if it is
cut into them in front of every text that parts words (`Parts`). Texts that spell words can be joined
(`Spells.append`), and there is a lemma for each kind of word.
-/

namespace MailQuery.Sql

open Text

/-! ### Cutting off one word -/

namespace Word

variable {cs rest : List Char}

theorem length_skipComment_le (cs : List Char) : (skipComment cs).length ≤ cs.length := by
  fun_induction skipComment cs with
  | case1 cs => exact Nat.le_add_right _ 2
  | case2 _ cs _ ih => exact Nat.le_succ_of_le ih
  | case3 => exact Nat.le_refl _

theorem length_lt_of_skip? (h : skip? cs = some rest) : rest.length < cs.length := by
  unfold skip? at h
  split at h
  · cases h
    exact Nat.lt_succ_of_le (Nat.le_succ_of_le (List.dropWhile_suffix _).length_le)
  · cases h
    exact Nat.lt_succ_of_le (Nat.le_succ_of_le (length_skipComment_le _))
  · split at h
    · cases h
      exact Nat.lt_succ_self _
    · cases h
  · cases h

theorem length_lt_of_readQuoted {quote : Char} {text : List Char} (h : readQuoted quote cs = some (text, rest)) :
    rest.length < cs.length := by
  fun_induction readQuoted quote cs generalizing text rest with
  | case1 | case2 => cases h
  | case3 _ _ ih | case6 _ _ _ _ ih =>
    obtain ⟨⟨_, _⟩, hread, heq⟩ := Option.map_eq_some_iff.1 h
    cases heq
    have hlt := ih hread
    simp only [List.length_cons]
    omega
  | case4 | case5 =>
    cases h
    exact Nat.lt_succ_self _

theorem length_lt_of_readMark {w : Word} (h : readMark cs = some (w, rest)) : rest.length < cs.length := by
  obtain ⟨m, hfind, heq⟩ := Option.map_eq_some_iff.1 h
  cases heq
  have hprefix : m <+: cs := by simpa using List.find?_some hfind
  have hpos : ∀ m ∈ marks, 0 < m.length := by decide
  have hm := hpos m (List.mem_of_find?_eq_some hfind)
  have hle := hprefix.length_le
  rw [List.length_drop]
  omega

theorem length_lt_of_readWord {w : Word} (h : readWord cs = some (w, rest)) : rest.length < cs.length := by
  unfold readWord at h
  split at h
  · cases h
  split at h
  · obtain ⟨⟨_, _⟩, hread, heq⟩ := Option.map_eq_some_iff.1 h
    cases heq
    exact Nat.lt_succ_of_lt (length_lt_of_readQuoted hread)
  split at h
  · obtain ⟨⟨_, _⟩, hread, heq⟩ := Option.map_eq_some_iff.1 h
    cases heq
    exact Nat.lt_succ_of_lt (length_lt_of_readQuoted hread)
  split at h
  · cases h
    exact Nat.lt_succ_of_le (List.dropWhile_suffix _).length_le
  split at h
  · simp only at h
    split at h
    · cases h
    · cases h
      exact Nat.lt_succ_of_le (List.dropWhile_suffix _).length_le
  · exact length_lt_of_readMark h

/-- More fuel than there are characters changes nothing. -/
theorem readAll_eq {fuel fuel' : Nat} (h : cs.length ≤ fuel) (h' : cs.length ≤ fuel') :
    readAll fuel cs = readAll fuel' cs := by
  induction fuel generalizing fuel' cs with
  | zero =>
    obtain rfl := List.length_eq_zero_iff.1 (Nat.le_zero.1 h)
    rw [readAll, readAll]
  | succ fuel ih =>
    cases cs with
    | nil => rw [readAll, readAll]
    | cons c cs =>
      obtain ⟨fuel', rfl⟩ : ∃ n, fuel' = n + 1 := Nat.exists_eq_add_one.2 (Nat.lt_of_lt_of_le (Nat.succ_pos _) h')
      have hrest : ∀ {rest : List Char}, rest.length < (c :: cs).length → readAll fuel rest = readAll fuel' rest :=
        fun hlt => ih (Nat.le_of_lt_succ (Nat.lt_of_lt_of_le hlt h)) (Nat.le_of_lt_succ (Nat.lt_of_lt_of_le hlt h'))
      rw [readAll, readAll]
      split
      · next rest hskip => exact hrest (length_lt_of_skip? hskip)
      · split
        · rfl
        · next word rest hword => rw [hrest (length_lt_of_readWord hword)]

end Word

section

variable {cs rest : List Char}

theorem wordsOf?_eq_of_length_le {fuel : Nat} (h : cs.length ≤ fuel) : Word.readAll fuel cs = wordsOf? cs :=
  Word.readAll_eq h (Nat.le_succ _)

theorem wordsOf?_nil : wordsOf? [] = some [] := rfl

theorem wordsOf?_of_skip? (h : Word.skip? cs = some rest) : wordsOf? cs = wordsOf? rest := by
  cases cs with
  | nil => cases h
  | cons c cs =>
    rw [wordsOf?, Word.readAll, h]
    exact wordsOf?_eq_of_length_le (Nat.le_of_lt (Word.length_lt_of_skip? h))

theorem wordsOf?_of_readWord {w : Word} (hskip : Word.skip? cs = none) (h : Word.readWord cs = some (w, rest)) :
    wordsOf? cs = (wordsOf? rest).map (w :: ·) := by
  cases cs with
  | nil => cases h
  | cons c cs =>
    rw [wordsOf?, Word.readAll, hskip, h]
    exact congrArg (Option.map (w :: ·)) (wordsOf?_eq_of_length_le (Nat.le_of_lt (Word.length_lt_of_readWord h)))

theorem wordsOf?_blank (cs : List Char) : wordsOf? (' ' :: cs) = wordsOf? cs := wordsOf?_of_skip? rfl

end

/-! ### Texts that spell words -/

/-- A text that no word before it takes in: it is empty or starts with a space, a parenthesis or a comma. -/
def Parts (rest : List Char) : Prop := ∀ c ∈ rest.head?, c ∈ [' ', '(', ')', ',']

/-- A text that is cut into some words, whatever follows. -/
def Spells (cs : List Char) (ws : List Word) : Prop :=
  ∀ rest, Parts rest → wordsOf? (cs ++ rest) = (wordsOf? rest).map (ws ++ ·)

theorem Parts.nil : Parts [] := by simp [Parts]

theorem Parts.cons {c : Char} (h : c ∈ [' ', '(', ')', ',']) (cs : List Char) : Parts (c :: cs) := by
  rintro d hd
  cases hd
  exact h

theorem Parts.append {cs rest : List Char} (hcs : Parts cs) (hrest : Parts rest) : Parts (cs ++ rest) := by
  cases cs with
  | nil => exact hrest
  | cons c cs => exact .cons (hcs c rfl) _

/-- A text that parts words is empty or starts with one of four characters. -/
theorem Parts.cases {rest : List Char} (h : Parts rest) :
    rest = [] ∨ ∃ cs, rest = ' ' :: cs ∨ rest = '(' :: cs ∨ rest = ')' :: cs ∨ rest = ',' :: cs := by
  cases rest with
  | nil => exact .inl rfl
  | cons c cs =>
    have hc := h c rfl
    simp only [List.mem_cons, List.not_mem_nil, or_false] at hc
    rcases hc with rfl | rfl | rfl | rfl <;> exact .inr ⟨cs, by simp⟩

/-- A text that parts words starts with no character of a name, and with no quotation mark. -/
theorem Parts.head {rest : List Char} (h : Parts rest) {c : Char} (hc : c ∈ rest.head?) :
    Word.isNameChar c = false ∧ c.isDigit = false ∧ c ≠ '.' ∧ c ≠ '\'' ∧ c ≠ '"' := by
  have hall : ∀ c ∈ [' ', '(', ')', ','],
      Word.isNameChar c = false ∧ c.isDigit = false ∧ c ≠ '.' ∧ c ≠ '\'' ∧ c ≠ '"' := by decide
  exact hall c (h c hc)

namespace Spells

variable {as bs cs : List Char} {us vs ws : List Word}

theorem nil : Spells [] [] := fun rest _ => by simp

theorem append (has : Spells as us) (hbs : Spells bs vs) (hparts : Parts bs) : Spells (as ++ bs) (us ++ vs) := by
  intro rest hrest
  rw [List.append_assoc, has _ (hparts.append hrest), hbs rest hrest, Option.map_map]
  simp only [Function.comp_def, List.append_assoc]

/-- The words of a text that spells words are those words. -/
theorem wordsOf?_eq (h : Spells cs ws) : wordsOf? cs = some ws := by
  have hall := h [] .nil
  rwa [List.append_nil, wordsOf?_nil, Option.map_some, List.append_nil] at hall

theorem blank (h : Spells cs ws) : Spells (' ' :: cs) ws := fun rest hrest => by
  rw [List.cons_append, wordsOf?_blank, h rest hrest]

/-- A parenthesis or a comma is a word by itself. -/
theorem cons_mark {c : Char} (hc : c ∈ ['(', ')', ',', '*']) (h : Spells cs ws) :
    Spells (c :: cs) (.mark (String.singleton c) :: ws) := by
  intro rest hrest
  have hcut : Word.skip? (c :: (cs ++ rest)) = none ∧
      Word.readWord (c :: (cs ++ rest)) = some (.mark (String.singleton c), cs ++ rest) := by
    simp only [List.mem_cons, List.not_mem_nil, or_false] at hc
    rcases hc with rfl | rfl | rfl | rfl <;> exact ⟨rfl, rfl⟩
  rw [List.cons_append, wordsOf?_of_readWord hcut.1 hcut.2, h rest hrest, Option.map_map]
  rfl

/-- A text that is one word in front of every text that parts words. -/
theorem word {w : Word} (h : ∀ rest, Parts rest → Word.skip? (cs ++ rest) = none ∧ Word.readWord (cs ++ rest) = some (w, rest)) :
    Spells cs [w] := fun rest hrest => wordsOf?_of_readWord (h rest hrest).1 (h rest hrest).2

end Spells

/-! ### Names and numbers -/

theorem takeWhile_append_of_head {p : Char → Bool} {cs rest : List Char} (hcs : ∀ c ∈ cs, p c = true)
    (hrest : ∀ c ∈ rest.head?, p c = false) : (cs ++ rest).takeWhile p = cs ∧ (cs ++ rest).dropWhile p = rest := by
  have hnone : rest.takeWhile p = [] ∧ rest.dropWhile p = rest := by
    cases rest with
    | nil => exact ⟨rfl, rfl⟩
    | cons c rest =>
      have hc := hrest c rfl
      exact ⟨List.takeWhile_cons_of_neg (by simp [hc]), List.dropWhile_cons_of_neg (by simp [hc])⟩
  rw [List.takeWhile_append_of_pos hcs, List.dropWhile_append_of_pos hcs, hnone.1, hnone.2, List.append_nil]
  exact ⟨rfl, rfl⟩

/-- A character that is of a kind is none of some characters that are not. -/
theorem not_mem_of_true {p : Char → Bool} {c : Char} (hc : p c = true) {others : List Char}
    (h : ∀ d ∈ others, p d = false) : c ∉ others := by
  intro hmem
  rw [h c hmem] at hc
  cases hc

theorem Word.skip?_cons {c : Char} (hc : c ∉ ['-', '/', ' ', '\t', '\n', '\x0c', '\r']) (cs : List Char) :
    Word.skip? (c :: cs) = none := by
  simp only [List.mem_cons, List.not_mem_nil, or_false, not_or] at hc
  obtain ⟨hdash, hslash, hspace, htab, hline, hform, hreturn⟩ := hc
  have hblank : Word.isBlank c = false := by simp [Word.isBlank, *]
  unfold Word.skip?
  split
  · next heq => exact absurd (List.cons.inj heq).1 hdash
  · next heq => exact absurd (List.cons.inj heq).1 hslash
  · next d rest _ _ heq =>
    obtain ⟨rfl, rfl⟩ := List.cons.inj heq
    rw [hblank, if_neg (by decide)]
  · rfl

/-- Whether a text can be a name. -/
def isName (cs : List Char) : Bool := cs.head?.any Word.isNameStart && cs.all Word.isNameChar

namespace Spells

variable {cs : List Char} {ws : List Word}

theorem name (text : String) (h : isName text.toList = true) : Spells text.toList [.name text] := by
  cases htext : text.toList with
  | nil => rw [htext] at h; cases h
  | cons c cs =>
    rw [htext, isName, List.head?_cons, Option.any_some, List.all_cons, Bool.and_eq_true, Bool.and_eq_true,
      List.all_eq_true] at h
    obtain ⟨hstart, -, hcs⟩ := h
    have hquotes : c ∉ ['\'', '"'] := not_mem_of_true hstart (by decide)
    simp only [List.mem_cons, List.not_mem_nil, or_false, not_or] at hquotes
    refine word fun rest hrest => ⟨Word.skip?_cons (not_mem_of_true hstart (by decide)) _, ?_⟩
    obtain ⟨htake, hdrop⟩ := takeWhile_append_of_head hcs fun d hd => (hrest.head hd).1
    rw [List.cons_append, Word.readWord, if_neg hquotes.1, if_neg hquotes.2, if_pos hstart, htake, hdrop, ← htext,
      String.ofList_toList]

theorem digits (m : Nat) : Spells (Nat.toDigits 10 m) [.number m] := by
  cases hdigits : Nat.toDigits 10 m with
  | nil => exact absurd hdigits Nat.toDigits_ne_nil
  | cons c cs =>
    have hall : ∀ d ∈ c :: cs, d.isDigit = true := fun d hd =>
      Nat.isDigit_of_mem_toDigits (by decide) (by decide) (hdigits ▸ hd)
    obtain ⟨hc, hcs⟩ := List.forall_mem_cons.1 hall
    have hquotes : c ∉ ['\'', '"'] := not_mem_of_true hc (by decide)
    simp only [List.mem_cons, List.not_mem_nil, or_false, not_or] at hquotes
    have hstart : Word.isNameStart c = false :=
      forall_ascii (P := fun c => c.isDigit = true → Word.isNameStart c = false) (by decide +kernel)
        (Nat.lt_of_le_of_lt (Char.isDigit_iff_toNat.1 hc).2 (by decide)) hc
    refine word fun rest hrest => ⟨Word.skip?_cons (not_mem_of_true hc (by decide)) _, ?_⟩
    obtain ⟨htake, hdrop⟩ := takeWhile_append_of_head hcs fun d hd => (hrest.head hd).2.1
    have hend : (rest.head?.any fun d => Word.isNameChar d || d == '.') = false := by
      rw [Option.any_eq_false]
      intro d hd
      obtain ⟨hname, -, hpoint, -⟩ := hrest.head hd
      simp [hname, hpoint]
    rw [List.cons_append, Word.readWord, if_neg hquotes.1, if_neg hquotes.2, if_neg (by simp [hstart]), if_pos hc]
    simp only
    rw [htake, hdrop, hend, if_neg (by decide), ← hdigits, Nat.ofDigitChars_ten_toDigits]

/-- A sign is a word by itself, unless it starts a comment. -/
theorem minus {m : Nat} : Spells ('-' :: Nat.toDigits 10 m) [.mark "-", .number m] := by
  intro rest hrest
  cases hdigits : Nat.toDigits 10 m with
  | nil => exact absurd hdigits Nat.toDigits_ne_nil
  | cons c cs =>
    have hc : c.isDigit = true := Nat.isDigit_of_mem_toDigits (by decide) (by decide)
      (hdigits ▸ List.mem_cons_self ..)
    have hdash : c ≠ '-' := by
      rintro rfl
      cases hc
    have hskip : Word.skip? ('-' :: c :: (cs ++ rest)) = none := by
      unfold Word.skip?
      split
      · next heq => exact absurd (List.cons.inj (List.cons.inj heq).2).1 hdash
      · next heq => exact absurd (List.cons.inj heq).1 (by decide)
      · next heq =>
        obtain ⟨rfl, rfl⟩ := List.cons.inj heq
        rfl
      · rfl
    have hword : Word.readWord ('-' :: c :: (cs ++ rest)) = some (.mark "-", c :: (cs ++ rest)) := by
      rfl
    have hspells := digits m rest hrest
    rw [hdigits] at hspells
    show wordsOf? ('-' :: c :: (cs ++ rest)) = _
    rw [wordsOf?_of_readWord hskip hword, ← List.cons_append, hspells, Option.map_map]
    rfl

end Spells

/-! ### Strings and quoted names -/

/-- Reading up to the closing quotation mark undoes the doubling of quotation marks. -/
theorem Word.readQuoted_doubled {quote : Char} {cs rest : List Char} (hquote : quote ≠ '\x00') (hcs : '\x00' ∉ cs)
    (hrest : ∀ c ∈ rest.head?, c ≠ quote) :
    Word.readQuoted quote (doubled quote cs ++ quote :: rest) = some (cs, rest) := by
  induction cs with
  | nil =>
    rw [doubled, List.flatMap_nil, List.nil_append, Word.readQuoted.eq_def]
    cases rest with
    | nil => simp only [hquote, if_false, if_true]
    | cons c rest => simp only [hquote, hrest c rfl, if_false, if_true]
  | cons c cs ih =>
    rw [List.mem_cons, not_or] at hcs
    have hc : c ≠ '\x00' := Ne.symm hcs.1
    rw [doubled, List.flatMap_cons, List.append_assoc, ← doubled]
    by_cases hq : c = quote
    · subst hq
      rw [if_pos rfl, List.cons_append, List.singleton_append, Word.readQuoted.eq_def]
      simp only [hc, if_false, if_true, ih hcs.2, Option.map_some]
    · rw [if_neg hq, List.singleton_append, Word.readQuoted.eq_def]
      simp only [hc, hq, if_false, ih hcs.2, Option.map_some]

namespace Spells

theorem quote {value : String} (h : '\x00' ∉ value.toList) : Spells (Sql.quote value).toList [.string value] := by
  refine word fun rest hrest => ?_
  have htext : (Sql.quote value).toList ++ rest = '\'' :: (doubled '\'' value.toList ++ '\'' :: rest) := by
    simp [Sql.quote]
  rw [htext]
  refine ⟨Word.skip?_cons (by decide) _, ?_⟩
  rw [Word.readWord, if_pos rfl, Word.readQuoted_doubled (by decide) h fun c hc => (hrest.head hc).2.2.2.1]
  simp only [Option.map_some, String.ofList_toList]

theorem quoteName {name : String} (h : '\x00' ∉ name.toList) :
    Spells (Sql.quoteName name).toList [.quoted name] := by
  refine word fun rest hrest => ?_
  have htext : (Sql.quoteName name).toList ++ rest = '"' :: (doubled '"' name.toList ++ '"' :: rest) := by
    simp [Sql.quoteName]
  rw [htext]
  refine ⟨Word.skip?_cons (by decide) _, ?_⟩
  rw [Word.readWord, if_neg (by decide), if_pos rfl,
    Word.readQuoted_doubled (by decide) h fun c hc => (hrest.head hc).2.2.2.2]
  simp only [Option.map_some, String.ofList_toList]

/-- A text goes on with a word behind a space. -/
theorem append_blank {as bs : List Char} {us vs : List Word} (has : Spells as us) (hbs : Spells bs vs) :
    Spells (as ++ ' ' :: bs) (us ++ vs) := has.append hbs.blank (.cons (by decide) _)

theorem opening (h : Spells cs ws) : Spells ('(' :: cs) (.mark "(" :: ws) := h.cons_mark (by decide)

theorem closing (h : Spells cs ws) : Spells (')' :: cs) (.mark ")" :: ws) := h.cons_mark (by decide)

/-- Arguments stand behind a comma and a space. -/
theorem comma (h : Spells cs ws) : Spells (',' :: ' ' :: cs) (.mark "," :: ws) := h.blank.cons_mark (by decide)

end Spells

end MailQuery.Sql
