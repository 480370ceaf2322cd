import Mathlib.Algebra.Order.BigOperators.Group.List
import Mathlib.Algebra.Order.Group.Nat
import Mathlib.Data.List.Dedup
import Mathlib.Data.List.Perm.Subperm
import MailQuery.Proofs.Text.Letters
import MailQuery.Proofs.Text.Pieces
import MailQuery.Search.HeaderMatch

/-!
# The words of a header

Words are compared when spaces have taken the place of punctuation, quotes and backslashes included. So a phrase is read
character by character (`wordsFrom_of_blank`, `wordsFrom_of_not_isBreak`). From this come the two facts about the
lengths of phrases with common words:

* the words of a phrase, with a space between them, take no more bytes than the phrase (`spread_headerWords_le`);
* words of a phrase that are joined by spaces are read as the same words again (`headerWords_joinWith`).

Hence the distinct words of a phrase make up a shortest phrase that has all of them (`hasWords_distinctWords`,
`byteLength_distinctWords_le`).
-/

namespace MailQuery.Search

open Text

/-- The words of a phrase in which punctuation separates words. -/
def headerWords (cs : List Char) : List (List Char) := (splitWords (withoutPunctuation cs)).map Word.text

theorem hasWords_iff {haystack needle : List Char} :
    hasWords haystack needle = true ↔ headerWords needle ⊆ headerWords haystack := by
  unfold hasWords headerWords
  simp only [List.all_eq_true, List.contains_iff_mem]
  constructor
  · intro h text htext
    obtain ⟨w, hw, rfl⟩ := List.mem_map.1 htext
    exact h w hw
  · exact fun h w hw => h (List.mem_map_of_mem hw)

/-! ### Punctuation -/

/-- No character is punctuation when spaces have taken its place. -/
theorem isPunctuation_of_mem_withoutPunctuation {c : Char} {cs : List Char} (h : c ∈ withoutPunctuation cs) :
    isPunctuation c = false := by
  obtain ⟨d, -, rfl⟩ := List.mem_map.1 h
  split
  · decide
  · next hd => exact Bool.eq_false_iff.2 hd

theorem withoutPunctuation_eq_self {cs : List Char} (h : ∀ c ∈ cs, isPunctuation c = false) :
    withoutPunctuation cs = cs := by
  refine (List.map_congr_left fun c hc => ?_).trans (List.map_id cs)
  rw [h c hc]
  rfl

/-- The ranges of the punctuation of ASCII. -/
def punctuationRanges : List CharRange := [⟨0x21, 0x2f⟩, ⟨0x3a, 0x40⟩, ⟨0x5b, 0x60⟩, ⟨0x7b, 0x7e⟩]

theorem toNat_lt_of_isPunctuation {c : Char} (h : isPunctuation c = true) : c.toNat < 128 := by
  unfold isPunctuation at h
  rw [Bool.and_eq_true, Bool.and_eq_true, decide_eq_true_eq, decide_eq_true_eq] at h
  omega

theorem exists_of_isPunctuation {c : Char} (h : isPunctuation c = true) :
    ∃ r ∈ punctuationRanges, r.contains c = true :=
  forall_ascii (P := fun c => isPunctuation c = true → ∃ r ∈ punctuationRanges, r.contains c = true)
    (by decide +kernel) (toNat_lt_of_isPunctuation h) h

theorem utf8Size_of_isPunctuation {c : Char} (h : isPunctuation c = true) : c.utf8Size = 1 :=
  forall_ascii (P := fun c => c.utf8Size = 1) (by decide +kernel) (toNat_lt_of_isPunctuation h)

theorem byteLength_withoutPunctuation (cs : List Char) : byteLength (withoutPunctuation cs) = byteLength cs := by
  induction cs with
  | nil => rfl
  | cons c cs ih =>
    have hsize : (if isPunctuation c then ' ' else c).utf8Size = c.utf8Size := by
      split
      · next hc =>
        rw [utf8Size_of_isPunctuation hc]
        decide
      · rfl
    have hcons : withoutPunctuation (c :: cs) = (if isPunctuation c then ' ' else c) :: withoutPunctuation cs := rfl
    rw [hcons, byteLength_cons, byteLength_cons, hsize, ih]

theorem not_grows_of_mem_withoutPunctuation {cs : List Char} (h : ∀ c ∈ cs, ¬ Grows c) :
    ∀ c ∈ withoutPunctuation cs, ¬ Grows c := by
  intro c hc
  obtain ⟨d, hd, rfl⟩ := List.mem_map.1 hc
  split
  · decide +kernel
  · exact h d hd

/-! ### Reading words -/

/-- A character that parts words. -/
def IsBreak (c : Char) : Prop := isBlank c = true ∨ isPunctuation c = true

instance (c : Char) : Decidable (IsBreak c) := instDecidableOr

theorem not_isBreak {c : Char} (hblank : isBlank c ≠ true) (hmark : isPunctuation c = false) : ¬ IsBreak c := by
  rintro (hyes | hyes)
  · exact hblank hyes
  · rw [hmark] at hyes
    cases hyes

/-- A letter that parts no words does not become one that does. -/
theorem not_isBreak_of_mem_lowerChar {c d : Char} (hc : ¬ IsBreak c) (hd : d ∈ lowerChar c) : ¬ IsBreak d := by
  by_cases hascii : c.toNat < 128
  · rw [lowerChar_of_ascii hascii, List.mem_singleton] at hd
    rw [hd]
    exact forall_ascii (P := fun c => ¬ IsBreak c → ¬ IsBreak c.toLower) (by decide +kernel) hascii hc
  · have hhigh : 128 ≤ c.toNat := Nat.le_of_not_lt hascii
    rintro (hblank | hmark)
    · rw [isBlank_of_mem_lowerChar (Bool.eq_false_iff.2 fun hcblank => hc (.inl hcblank)) hd] at hblank
      cases hblank
    · have havoided : ∀ r ∈ punctuationRanges, r.IsAvoided = true ∧ r.last < 128 := by decide +kernel
      obtain ⟨r, hr, hrd⟩ := exists_of_isPunctuation hmark
      have hrc : r.contains c = false := by
        rw [Bool.eq_false_iff, Ne, CharRange.contains_iff]
        have hlast := (havoided r hr).2
        omega
      rw [CharRange.contains_of_isAvoided (havoided r hr).1 hhigh hrc hd] at hrd
      cases hrd

theorem wordsFrom_of_blank {c : Char} (h : isBlank c = true) (w : Word) (cs : List Char) :
    wordsFrom false w (c :: cs) = w.finish ++ wordsFrom false .empty cs := by
  rw [wordsFrom.eq_def]
  simp [h]

theorem wordsFrom_of_not_isBreak {c : Char} (h : ¬ IsBreak c) (w : Word) (cs : List Char) :
    wordsFrom false w (c :: cs) = wordsFrom false (w.push c) cs := by
  have hblank : isBlank c = false := by
    rw [Bool.eq_false_iff]
    exact fun hblank => h (.inl hblank)
  have hbackslash : c ≠ '\\' := by
    rintro rfl
    exact h (.inr (by decide))
  have hquote : c ≠ '"' := by
    rintro rfl
    exact h (.inr (by decide))
  rw [wordsFrom.eq_def]
  simp [hblank, hbackslash, hquote]

/-! ### The bytes of words -/

/-- The bytes of some texts, each with one more for what parts it from the next. -/
def spread (texts : List (List Char)) : Nat := (texts.map fun text => byteLength text + 1).sum

theorem spread_append (texts more : List (List Char)) : spread (texts ++ more) = spread texts + spread more := by
  rw [spread, List.map_append, List.sum_append]
  rfl

theorem spread_le_of_subset {texts more : List (List Char)} (hnodup : texts.Nodup) (h : texts ⊆ more) :
    spread texts ≤ spread more := by
  obtain ⟨arranged, hperm, hsublist⟩ := List.subperm_of_subset hnodup h
  calc spread texts
    _ = spread arranged := (hperm.map _).sum_eq.symm
    _ ≤ spread more := (hsublist.map _).sum_le_sum fun _ _ => Nat.zero_le _

theorem byteLength_joinWith_space {texts : List (List Char)} (hne : texts ≠ []) :
    byteLength (joinWith [' '] texts) + 1 = spread texts := by
  induction texts with
  | nil => exact absurd rfl hne
  | cons text rest ih =>
    have hspread : spread (text :: rest) = byteLength text + 1 + spread rest := List.sum_cons
    cases rest with
    | nil => rw [hspread]; rfl
    | cons other rest =>
      have hspace : byteLength [' '] = 1 := by decide
      have hrest := ih (List.cons_ne_nil other rest)
      rw [joinWith_cons _ _ (List.cons_ne_nil other rest), byteLength_append, byteLength_append, hspace, hspread]
      omega

theorem spread_finish_le (w : Word) : spread (w.finish.map Word.text) ≤ byteLength w.text + 1 := by
  unfold Word.finish
  split
  · exact Nat.zero_le _
  · exact Nat.le_refl _

theorem byteLength_push_le (w : Word) {c : Char} (h : ¬ Grows c) :
    byteLength (w.push c).text ≤ byteLength w.text + c.utf8Size := by
  unfold Word.push
  split
  · rw [byteLength_append]
    exact Nat.add_le_add_left (Nat.not_lt.1 h) _
  · rw [byteLength_append]
    exact Nat.le_refl _

/-- The words from here on take no more bytes than what has been read of the first one and the rest of the phrase. -/
theorem spread_wordsFrom_le {cs : List Char} (hplain : ∀ c ∈ cs, isPunctuation c = false) (hgrows : ∀ c ∈ cs, ¬ Grows c)
    (w : Word) : spread ((wordsFrom false w cs).map Word.text) ≤ byteLength w.text + byteLength cs + 1 := by
  induction cs generalizing w with
  | nil => exact spread_finish_le w
  | cons c cs ih =>
    obtain ⟨hc, hcs⟩ := List.forall_mem_cons.1 hplain
    obtain ⟨hsize, hsizes⟩ := List.forall_mem_cons.1 hgrows
    rw [byteLength_cons]
    by_cases hblank : isBlank c = true
    · -- The blank is the byte that parts the word from the next one.
      have hword := spread_finish_le w
      have hrest := ih hcs hsizes .empty
      have hempty : byteLength Word.empty.text = 0 := rfl
      have hpos := c.utf8Size_pos
      rw [wordsFrom_of_blank hblank, List.map_append, spread_append]
      omega
    · have hbreak : ¬ IsBreak c := not_isBreak hblank hc
      have hrest := ih hcs hsizes (w.push c)
      have hpush := byteLength_push_le w hsize
      rw [wordsFrom_of_not_isBreak hbreak]
      omega

/-- **The words of a phrase take no more bytes than the phrase**, spaces between them included. -/
theorem spread_headerWords_le {cs : List Char} (h : ∀ c ∈ cs, ¬ Grows c) :
    spread (headerWords cs) ≤ byteLength cs + 1 := by
  have hplain : ∀ c ∈ withoutPunctuation cs, isPunctuation c = false :=
    fun c hc => isPunctuation_of_mem_withoutPunctuation hc
  have hwords := spread_wordsFrom_le hplain (not_grows_of_mem_withoutPunctuation h) .empty
  have hempty : byteLength Word.empty.text = 0 := rfl
  rw [byteLength_withoutPunctuation, hempty, Nat.zero_add] at hwords
  exact hwords

/-! ### Reading words again -/

/-- A character that parts no words and is read as it is. -/
structure IsSettled (c : Char) : Prop where
  inside : ¬ IsBreak c
  lower : isAlphanumeric c = true → lowerChar c = [c]

theorem IsSettled.not_grows {c : Char} (h : IsSettled c) : ¬ Grows c := by
  intro hgrows
  have hletter : isAlphanumeric c = true := by
    rcases grows_iff.1 hgrows with rfl | rfl | rfl
    · decide +kernel
    · decide +kernel
    · decide +kernel
  exact not_grows_of_lowerChar (h.lower hletter) hgrows

theorem IsSettled.push {c : Char} (h : IsSettled c) (w : Word) : (w.push c).text = w.text ++ [c] := by
  unfold Word.push
  split
  · next hletter => rw [h.lower hletter]
  · rfl

/-- Words are read in settled characters. -/
theorem isSettled_push {c : Char} (h : ¬ IsBreak c) {w : Word} (hw : ∀ d ∈ w.text, IsSettled d) :
    ∀ d ∈ (w.push c).text, IsSettled d := by
  intro d hd
  unfold Word.push at hd
  split at hd
  · rcases List.mem_append.1 hd with hd | hd
    · exact hw d hd
    · exact ⟨not_isBreak_of_mem_lowerChar h hd, fun _ => lowerChar_of_mem_lowerChar hd⟩
  · next hletter =>
    rcases List.mem_append.1 hd with hd | hd
    · exact hw d hd
    · rw [List.mem_singleton.1 hd]
      exact ⟨h, fun hyes => absurd hyes hletter⟩

/-- A word that has been read to its end. -/
def IsReadWord (text : List Char) : Prop := text ≠ [] ∧ ∀ c ∈ text, IsSettled c

theorem isReadWord_of_mem_finish {w v : Word} (hw : ∀ d ∈ w.text, IsSettled d) (h : v ∈ w.finish) :
    IsReadWord v.text := by
  unfold Word.finish at h
  split at h
  · cases h
  · next hne =>
    rw [List.mem_singleton.1 h]
    exact ⟨fun hnil => hne (List.isEmpty_iff.2 hnil), hw⟩

theorem isReadWord_of_mem_wordsFrom {cs : List Char} (hplain : ∀ c ∈ cs, isPunctuation c = false) {w v : Word}
    (hw : ∀ d ∈ w.text, IsSettled d) (h : v ∈ wordsFrom false w cs) : IsReadWord v.text := by
  induction cs generalizing w with
  | nil => exact isReadWord_of_mem_finish hw h
  | cons c cs ih =>
    obtain ⟨hc, hcs⟩ := List.forall_mem_cons.1 hplain
    by_cases hblank : isBlank c = true
    · rw [wordsFrom_of_blank hblank] at h
      rcases List.mem_append.1 h with hhere | hlater
      · exact isReadWord_of_mem_finish hw hhere
      · exact ih hcs (fun d hd => absurd hd List.not_mem_nil) hlater
    · have hbreak : ¬ IsBreak c := not_isBreak hblank hc
      rw [wordsFrom_of_not_isBreak hbreak] at h
      exact ih hcs (isSettled_push hbreak hw) h

theorem isReadWord_of_mem_headerWords {cs text : List Char} (h : text ∈ headerWords cs) : IsReadWord text := by
  obtain ⟨v, hv, rfl⟩ := List.mem_map.1 h
  exact isReadWord_of_mem_wordsFrom (fun c hc => isPunctuation_of_mem_withoutPunctuation hc)
    (fun d hd => absurd hd List.not_mem_nil) hv

/-- Settled characters are read to the end of the word that they stand in. -/
theorem wordsFrom_settled {text : List Char} (h : ∀ c ∈ text, IsSettled c) (w : Word) (rest : List Char) :
    ∃ v : Word, v.text = w.text ++ text ∧ wordsFrom false w (text ++ rest) = wordsFrom false v rest := by
  induction text generalizing w with
  | nil => exact ⟨w, (List.append_nil _).symm, rfl⟩
  | cons c text ih =>
    obtain ⟨hc, htext⟩ := List.forall_mem_cons.1 h
    obtain ⟨v, hv, hread⟩ := ih htext (w.push c)
    refine ⟨v, ?_, ?_⟩
    · rw [hv, hc.push, List.append_assoc]
      rfl
    · rw [List.cons_append, wordsFrom_of_not_isBreak hc.inside, hread]

theorem finish_of_ne_nil {w : Word} (h : w.text ≠ []) : w.finish = [w] := by
  unfold Word.finish
  rw [if_neg (by simpa using h)]

/-- **Words that are joined by spaces are read as the same words again.** -/
theorem headerWords_joinWith {texts : List (List Char)} (h : ∀ text ∈ texts, IsReadWord text) :
    headerWords (joinWith [' '] texts) = texts := by
  have hplain : withoutPunctuation (joinWith [' '] texts) = joinWith [' '] texts := by
    refine withoutPunctuation_eq_self fun c hc => ?_
    rcases mem_of_mem_joinWith hc with hspace | ⟨text, htext, hc⟩
    · rw [List.mem_singleton.1 hspace]
      decide
    · exact Bool.eq_false_iff.2 fun hmark => ((h text htext).2 c hc).inside (.inr hmark)
  rw [headerWords, hplain, splitWords]
  clear hplain
  induction texts with
  | nil => rfl
  | cons text rest ih =>
    obtain ⟨htext, hrest⟩ := List.forall_mem_cons.1 h
    obtain ⟨hne, hsettled⟩ := htext
    cases rest with
    | nil =>
      obtain ⟨v, hv, hread⟩ := wordsFrom_settled hsettled .empty []
      have hvtext : v.text = text := hv
      rw [List.append_nil] at hread
      rw [joinWith, hread, wordsFrom, finish_of_ne_nil (hvtext ▸ hne), List.map_singleton, hvtext]
    | cons other rest =>
      obtain ⟨v, hv, hread⟩ := wordsFrom_settled hsettled .empty (' ' :: joinWith [' '] (other :: rest))
      have hvtext : v.text = text := hv
      have hspace : isBlank ' ' = true := by decide
      rw [joinWith_cons _ _ (List.cons_ne_nil other rest), List.append_assoc, List.singleton_append, hread,
        wordsFrom_of_blank hspace, finish_of_ne_nil (hvtext ▸ hne), List.map_append, ih hrest, List.map_singleton,
        hvtext]
      rfl

/-! ### The distinct words of a phrase -/

/-- The distinct words of a phrase, with a space between them. -/
def distinctWords (cs : List Char) : List Char := joinWith [' '] (headerWords cs).dedup

theorem isReadWord_of_mem_dedup {cs text : List Char} (h : text ∈ (headerWords cs).dedup) : IsReadWord text :=
  isReadWord_of_mem_headerWords (List.mem_dedup.1 h)

theorem not_grows_distinctWords (cs : List Char) : ∀ c ∈ distinctWords cs, ¬ Grows c := by
  intro c hc
  rcases mem_of_mem_joinWith hc with hspace | ⟨text, htext, hc⟩
  · rw [List.mem_singleton.1 hspace]
    decide +kernel
  · exact ((isReadWord_of_mem_dedup htext).2 c hc).not_grows

theorem hasWords_distinctWords (needle : List Char) : hasWords (distinctWords needle) needle = true := by
  rw [hasWords_iff, distinctWords, headerWords_joinWith fun text htext => isReadWord_of_mem_dedup htext]
  exact List.subset_dedup _

/-- **No shorter text has the words of a phrase** than its distinct words, unless letters grow in lower case. -/
theorem byteLength_distinctWords_le {haystack needle : List Char} (hgrows : ∀ c ∈ haystack, ¬ Grows c)
    (h : hasWords haystack needle = true) : byteLength (distinctWords needle) ≤ byteLength haystack := by
  by_cases hnone : (headerWords needle).dedup = []
  · rw [distinctWords, hnone]
    exact Nat.zero_le _
  · have hsubset : (headerWords needle).dedup ⊆ headerWords haystack :=
      fun text htext => hasWords_iff.1 h (List.mem_dedup.1 htext)
    have hjoined : byteLength (distinctWords needle) + 1 = spread (headerWords needle).dedup :=
      byteLength_joinWith_space hnone
    have hfewer : spread (headerWords needle).dedup ≤ spread (headerWords haystack) :=
      spread_le_of_subset (List.nodup_dedup _) hsubset
    have hphrase : spread (headerWords haystack) ≤ byteLength haystack + 1 := spread_headerWords_le hgrows
    omega

end MailQuery.Search
