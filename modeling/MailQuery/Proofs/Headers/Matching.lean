import MailQuery.Proofs.Headers.Phrases
import MailQuery.Search.HeaderMatch

/-!
# The length of a match

A header value matches if one of the texts in it does (`headerMatches_eq_any`). Before a text is compared with a
pattern, their lengths are, and a text of fewer bytes is turned down. The bytes are those of the texts as they are, but
what is compared then are lower-case forms, and sets of words.

So a text may be turned down that would match (`not_forall_headerMatches_eq_inFull`): a pattern may be longer than the
shortest text that matches it (`leastMatch`), as it has the same word twice, or letters that take fewer bytes in lower
case. For all patterns that are not (`Fits`) the test of lengths changes no answer, if the value has none of the three
letters that take more bytes in lower case, and for all others it does (`headerMatches_eq_inFull`).
-/

namespace MailQuery

open Text Mail

namespace Mail.Address

/-- The texts of a mailbox that are compared by themselves: the name, if there is one, and the address. -/
def parts (a : Address) : List (List Char) := (if a.name = "" then [] else [a.name.toList]) ++ [a.email.toList]

theorem any_parts (a : Address) (test : List Char → Bool) :
    a.parts.any test = (a.name != "" && test a.name.toList || test a.email.toList) := by
  rw [parts, List.any_append]
  by_cases hname : a.name = ""
  · simp [hname]
  · have hpresent : (a.name != "") = true := bne_iff_ne.2 hname
    simp [hname, hpresent]

end Mail.Address

namespace Search

variable {style : MatchStyle} {value pattern : String} {text : List Char}

/-! ### What is compared -/

/-- A header value in one line, without the white space at its start. -/
def unfolded (value : String) : List Char := trimStart (value.toList.filter fun c => c != '\r' && c != '\n')

/-- The texts that a header value is compared by. -/
def comparedTexts (value : String) : HeaderKind → List (List Char)
  | .plain | .mailingList => [unfolded value]
  | .encoded => [(decodeWords (String.ofList (unfolded value))).toList]
  | .addresses =>
    unfolded value :: (Address.parseList (decodeWords (String.ofList (unfolded value)))).flatMap Address.parts

/-- The pattern that the texts of a header value are compared with. -/
def patternFor (value pattern : String) : HeaderKind → List Char
  | .mailingList => mailingListPattern (unfolded value) pattern.toList
  | .plain | .encoded | .addresses => pattern.toList

/-- **A header value matches if one of its texts does.** -/
theorem headerMatches_eq_any (value pattern : String) (style : MatchStyle) (kind : HeaderKind) :
    headerMatches value pattern style kind =
      (comparedTexts value kind).any fun text => textMatches style text (patternFor value pattern kind) := by
  cases kind with
  | plain => exact (Bool.or_false _).symm
  | encoded => exact (Bool.or_false _).symm
  | mailingList => exact (Bool.or_false _).symm
  | addresses =>
    rw [comparedTexts, List.any_cons, List.any_flatMap]
    simp only [Address.any_parts]
    rfl

/-! ### Without the test of lengths -/

/-- Whether a text matches a pattern in a style, whatever their lengths are. -/
def textMatchesInFull (style : MatchStyle) (value pattern : List Char) : Bool :=
  match style with
  | .soundex => textMatches .soundex value pattern
  | .exact => lower value == lower pattern
  | .contains => isInfix (lower pattern) (lower value)
  | .startsWith => (lower pattern).isPrefixOf (lower value)
  | .endsWith => (lower pattern).isSuffixOf (lower value)
  | .words => hasWords value pattern

/-- Whether a header value matches a pattern, whatever their lengths are. -/
def headerMatchesInFull (value pattern : String) (style : MatchStyle) (kind : HeaderKind) : Bool :=
  (comparedTexts value kind).any fun text => textMatchesInFull style text (patternFor value pattern kind)

/-- The test of lengths stands before the comparison. -/
theorem textMatches_eq (hstyle : style ≠ .soundex) (text pattern : List Char) :
    textMatches style text pattern =
      (decide (byteLength pattern ≤ byteLength text) && textMatchesInFull style text pattern) := by
  have hguard : textMatches style text pattern =
      if byteLength text < byteLength pattern then false else textMatchesInFull style text pattern := by
    cases style with
    | soundex => exact absurd rfl hstyle
    | exact => rfl
    | contains => rfl
    | words => rfl
    | startsWith => rfl
    | endsWith => rfl
  rw [hguard]
  by_cases hshort : byteLength text < byteLength pattern
  · have hlong : ¬ byteLength pattern ≤ byteLength text := Nat.not_le_of_lt hshort
    rw [if_pos hshort, decide_eq_false hlong, Bool.false_and]
  · have hlong : byteLength pattern ≤ byteLength text := Nat.le_of_not_lt hshort
    rw [if_neg hshort, decide_eq_true hlong, Bool.true_and]

theorem textMatches_eq_inFull_of_le (hstyle : style ≠ .soundex) {pattern : List Char}
    (h : textMatchesInFull style text pattern = true → byteLength pattern ≤ byteLength text) :
    textMatches style text pattern = textMatchesInFull style text pattern := by
  rw [textMatches_eq hstyle]
  cases hfull : textMatchesInFull style text pattern with
  | false => exact Bool.and_false _
  | true => rw [decide_eq_true (h hfull), Bool.true_and]

/-! ### The shortest match -/

/-- A text that matches a pattern: the distinct words of the pattern, or the pattern in lower case. -/
def leastMatch : MatchStyle → List Char → List Char
  | .words, pattern => distinctWords pattern
  | _, pattern => lower pattern

/-- Whether a pattern is not longer than the shortest text that matches it. -/
def Fits (style : MatchStyle) (pattern : List Char) : Prop := byteLength pattern ≤ byteLength (leastMatch style pattern)

instance (style : MatchStyle) (pattern : List Char) : Decidable (Fits style pattern) := Nat.decLe _ _

theorem leastMatch_eq_lower (hstyle : style ≠ .words) (pattern : List Char) :
    leastMatch style pattern = lower pattern := by
  cases style with
  | words => exact absurd rfl hstyle
  | exact => rfl
  | contains => rfl
  | startsWith => rfl
  | endsWith => rfl
  | soundex => rfl

theorem textMatchesInFull_leastMatch (hstyle : style ≠ .soundex) (pattern : List Char) :
    textMatchesInFull style (leastMatch style pattern) pattern = true := by
  cases style with
  | soundex => exact absurd rfl hstyle
  | words => exact hasWords_distinctWords pattern
  | exact =>
    show (lower (lower pattern) == lower pattern) = true
    rw [lower_lower, beq_self_eq_true]
  | contains =>
    show isInfix (lower pattern) (lower (lower pattern)) = true
    rw [lower_lower]
    exact isInfix_iff.2 List.infix_rfl
  | startsWith =>
    show (lower pattern).isPrefixOf (lower (lower pattern)) = true
    rw [lower_lower]
    exact List.isPrefixOf_iff_prefix.2 List.prefix_rfl
  | endsWith =>
    show (lower pattern).isSuffixOf (lower (lower pattern)) = true
    rw [lower_lower]
    exact List.isSuffixOf_iff_suffix.2 List.suffix_rfl

theorem not_grows_leastMatch (style : MatchStyle) (pattern : List Char) :
    ∀ c ∈ leastMatch style pattern, ¬ Grows c := by
  by_cases hstyle : style = .words
  · rw [hstyle]
    exact not_grows_distinctWords pattern
  · rw [leastMatch_eq_lower hstyle]
    exact fun c hc => not_grows_of_lowerChar (isLower_lowerAfter [] pattern c hc)

/-- What stands in a text in lower case takes no more bytes than the text. -/
theorem byteLength_lower_le_of_infix {pattern : List Char} (hgrows : ∀ c ∈ text, ¬ Grows c)
    (h : lower pattern <:+: lower text) : byteLength (lower pattern) ≤ byteLength text := by
  obtain ⟨before, after, hparts⟩ := h
  have hlower : byteLength (lower text) ≤ byteLength text := byteLength_lower_le hgrows
  rw [← hparts, byteLength_append, byteLength_append] at hlower
  omega

/-- **No shorter text matches**, unless letters grow in lower case. -/
theorem byteLength_leastMatch_le (hstyle : style ≠ .soundex) {pattern : List Char} (hgrows : ∀ c ∈ text, ¬ Grows c)
    (h : textMatchesInFull style text pattern = true) : byteLength (leastMatch style pattern) ≤ byteLength text := by
  cases style with
  | soundex => exact absurd rfl hstyle
  | words => exact byteLength_distinctWords_le hgrows h
  | exact =>
    have hsame : lower text = lower pattern := beq_iff_eq.1 h
    exact byteLength_lower_le_of_infix hgrows (hsame ▸ List.infix_rfl)
  | contains => exact byteLength_lower_le_of_infix hgrows (isInfix_iff.1 h)
  | startsWith => exact byteLength_lower_le_of_infix hgrows (List.isPrefixOf_iff_prefix.1 h).isInfix
  | endsWith => exact byteLength_lower_le_of_infix hgrows (List.isSuffixOf_iff_suffix.1 h).isInfix

/-! ### When the lengths do not matter -/

/-- **The test of lengths changes no answer exactly if the pattern fits**, among texts without growing letters. -/
theorem fits_iff (hstyle : style ≠ .soundex) (pattern : List Char) :
    Fits style pattern ↔ ∀ text : List Char, (∀ c ∈ text, ¬ Grows c) →
      textMatches style text pattern = textMatchesInFull style text pattern := by
  constructor
  · intro hfits text hgrows
    exact textMatches_eq_inFull_of_le hstyle fun hfull =>
      Nat.le_trans hfits (byteLength_leastMatch_le hstyle hgrows hfull)
  · intro h
    have hfull := textMatchesInFull_leastMatch hstyle pattern
    rw [← h _ (not_grows_leastMatch style pattern), textMatches_eq hstyle, Bool.and_eq_true, decide_eq_true_eq] at hfull
    exact hfull.1

/-- **What matches in spite of the test of lengths matches in full**, for every header value, pattern, style but soundex
and kind of header. If the pattern fits and no letter of the compared texts grows in lower case, then the answers are
the same, so that words are compared just as `hasWords` compares them. If the pattern does not fit, then the test of
lengths turns down the shortest text that matches. -/
theorem headerMatches_eq_inFull (hstyle : style ≠ .soundex) (pattern : String) :
    (∀ value kind, headerMatches value pattern style kind = true →
      headerMatchesInFull value pattern style kind = true) ∧
    (∀ value kind, Fits style (patternFor value pattern kind) →
      (∀ text ∈ comparedTexts value kind, ∀ c ∈ text, ¬ Grows c) →
      headerMatches value pattern style kind = headerMatchesInFull value pattern style kind) ∧
    (∀ value, Fits .words pattern.toList → (∀ c ∈ unfolded value, ¬ Grows c) →
      headerMatches value pattern .words .plain = hasWords (unfolded value) pattern.toList) ∧
    (¬ Fits style pattern.toList →
      textMatches style (leastMatch style pattern.toList) pattern.toList = false ∧
        textMatchesInFull style (leastMatch style pattern.toList) pattern.toList = true) := by
  refine ⟨?_, ?_, ?_, ?_⟩
  · intro value kind h
    rw [headerMatches_eq_any] at h
    obtain ⟨text, htext, hmatch⟩ := List.any_eq_true.1 h
    rw [textMatches_eq hstyle, Bool.and_eq_true] at hmatch
    exact List.any_eq_true.2 ⟨text, htext, hmatch.2⟩
  · intro value kind hfits hgrows
    rw [headerMatches_eq_any, headerMatchesInFull, Bool.eq_iff_iff, List.any_eq_true, List.any_eq_true]
    refine exists_congr fun text => and_congr_right fun htext => ?_
    rw [(fits_iff hstyle _).1 hfits text (hgrows text htext)]
  · intro value hfits hgrows
    have hwords : MatchStyle.words ≠ .soundex := by decide
    have hplain : headerMatches value pattern .words .plain = textMatches .words (unfolded value) pattern.toList := rfl
    rw [hplain, (fits_iff hwords _).1 hfits _ hgrows]
    rfl
  · intro hfits
    refine ⟨?_, textMatchesInFull_leastMatch hstyle _⟩
    have hshort : ¬ byteLength pattern.toList ≤ byteLength (leastMatch style pattern.toList) := hfits
    rw [textMatches_eq hstyle, decide_eq_false hshort, Bool.false_and]

/-- Words in another order, and a word that is asked for twice. -/
theorem headerMatches_eq_inFull_words :
    MatchStyle.words ≠ .soundex ∧ Fits .words (patternFor "the Rust-Lang list" "lang rust" .plain) ∧
      (∀ text ∈ comparedTexts "the Rust-Lang list" .plain, ∀ c ∈ text, ¬ Grows c) ∧
      headerMatches "the Rust-Lang list" "lang rust" .words .plain =
        headerMatchesInFull "the Rust-Lang list" "lang rust" .words .plain ∧
      headerMatches "the Rust-Lang list" "lang rust" .words .plain = true ∧
      ¬ Fits .words "dev dev".toList ∧ textMatches .words "dev".toList "dev dev".toList = false := by
  have hstyle : MatchStyle.words ≠ .soundex := by decide
  have hfits : Fits .words (patternFor "the Rust-Lang list" "lang rust" .plain) := by decide +kernel
  have hgrows : ∀ text ∈ comparedTexts "the Rust-Lang list" .plain, ∀ c ∈ text, ¬ Grows c := by decide +kernel
  have htwice : ¬ Fits .words "dev dev".toList := by decide +kernel
  have hleast : leastMatch .words "dev dev".toList = "dev".toList := by decide +kernel
  obtain ⟨-, hsame, -, -⟩ := headerMatches_eq_inFull hstyle "lang rust"
  obtain ⟨-, -, -, hturned⟩ := headerMatches_eq_inFull hstyle "dev dev"
  rw [hleast] at hturned
  exact ⟨hstyle, hfits, hgrows, hsame _ _ hfits hgrows, by decide +kernel, htwice, (hturned htwice).1⟩

/-- The value `dev` has every word of the pattern `dev dev`. -/
theorem not_forall_headerMatches_eq_inFull :
    ¬ ∀ (value pattern : String) (style : MatchStyle) (kind : HeaderKind), style ≠ .soundex →
      headerMatches value pattern style kind = headerMatchesInFull value pattern style kind := by
  intro hall
  have hdev := hall "dev" "dev dev" .words .plain (by decide)
  have hdiffer : headerMatches "dev" "dev dev" .words .plain = false ∧
      headerMatchesInFull "dev" "dev dev" .words .plain = true := by decide +kernel
  rw [hdiffer.1, hdiffer.2] at hdev
  cases hdev

/-- A word fits, but not with punctuation behind it. The sign for Kelvin becomes a `k`. -/
example : Fits .words "lunch".toList ∧ ¬ Fits .exact ['\u212a'] ∧ ¬ Fits .words "lunch!".toList := by decide +kernel

end Search

end MailQuery
