import MailQuery.Proofs.Text.Ascii
import MailQuery.Text.Case

/-!
# Texts in lower case

A text can be put in lower case as a whole (`lower`) or character by character (`lowerEach`). Either way each character
of the result is its own lower-case form (`IsLower`), so that lowering the result changes nothing (`lower_lower`,
`lower_lowerEach`). This rests on the table of case: no run leads to a character that some run leads away from. It is decided
for two runs at a time (`isClear_of_mem_lowerRuns`), not for each character.

The two ways differ in one letter only, a capital sigma. At the end of a word it becomes `ς`, and by itself `σ`. So they
agree exactly on the texts without a final sigma (`lower_eq_lowerEach_iff`).
-/

namespace MailQuery.Text

/-! ### The table -/

namespace CaseRun

variable {r q : CaseRun} {n m : Nat}

/-- Where a run leads a code point to. -/
def image (r : CaseRun) (n : Nat) : Nat := (n + r.shift).toNat

/-- Whether the second run leaves all characters alone that the first one leads to. Two runs of every other character may
have their places in between each other. -/
def IsClear (r q : CaseRun) : Bool :=
  Nat.blt (r.image r.last) q.first || Nat.blt q.last (r.image r.first) ||
    ((Nat.beq r.step 2 || Nat.beq r.first r.last) && Nat.beq q.step 2 &&
      Nat.beq ((r.image r.first + q.first) % 2) 1)

theorem image_le_image (h : n ≤ m) : r.image n ≤ r.image m := by
  unfold image
  omega

theorem lower?_eq_some_iff : r.lower? n = some m ↔
    (r.first ≤ n ∧ n ≤ r.last ∧ (n - r.first) % r.step = 0) ∧ r.image n = m := by
  unfold lower? image
  split <;> simp_all

theorem lower?_eq_none_iff : r.lower? n = none ↔ ¬ (r.first ≤ n ∧ n ≤ r.last ∧ (n - r.first) % r.step = 0) := by
  unfold lower?
  split <;> simp_all

/-- A character that the first run leads to is not led on by the second. -/
theorem lower?_eq_none_of_isClear (hclear : r.IsClear q = true) (hletter : 97 ≤ r.image r.first)
    (h : r.lower? n = some m) : q.lower? m = none := by
  obtain ⟨⟨hfirst, hlast, hstep⟩, hm⟩ := lower?_eq_some_iff.1 h
  rw [lower?_eq_none_iff]
  rintro ⟨hqfirst, hqlast, hqstep⟩
  unfold IsClear at hclear
  simp only [Bool.or_eq_true, Bool.and_eq_true, Nat.blt_eq, Nat.beq_eq] at hclear
  unfold image at hclear hletter hm
  rcases hclear with (hbefore | hbehind) | ⟨⟨hevery, hq⟩, hodd⟩
  · omega
  · omega
  · rw [hq] at hqstep
    rcases hevery with hr | hsingle
    · rw [hr] at hstep
      omega
    · omega

end CaseRun

/-- The one character with two characters as its lower-case form, as a run. -/
def dottedRun : CaseRun := ⟨0x130, 0x130, 1, 0⟩

/-- The runs lead to letters, and from there no run leads on. -/
theorem isClear_of_mem_lowerRuns : ∀ r ∈ lowerRuns,
    97 ≤ r.image r.first ∧ ∀ q ∈ dottedRun :: lowerRuns, r.IsClear q = true := by
  have htable : (lowerRuns.all fun r => Nat.ble 97 (r.image r.first) && (dottedRun :: lowerRuns).all r.IsClear) = true := by
    decide +kernel
  simpa only [List.all_eq_true, Bool.and_eq_true, Nat.ble_eq] using htable

/-! ### Single characters -/

theorem toNat_ofNat_or (n : Nat) : (Char.ofNat n).toNat = n ∨ Char.ofNat n = '\x00' := by
  by_cases h : n.isValidChar
  · left
    rw [Char.ofNat, dif_pos h]
    rfl
  · right
    rw [Char.ofNat, dif_neg h]
    rfl

theorem toLower_of_letter {c : Char} (hletter : 97 ≤ c.toNat) (hascii : c.toNat < 128) : c.toLower = c :=
  forall_ascii (P := fun c => 97 ≤ c.toNat → c.toLower = c) (by decide +kernel) hascii hletter

/-- What the table makes of a character above ASCII: nothing, or where one run leads. -/
theorem simpleLower_cases {c : Char} (hhigh : 128 ≤ c.toNat) :
    simpleLower c = c ∨ ∃ r ∈ lowerRuns, ∃ m, r.lower? c.toNat = some m ∧ simpleLower c = Char.ofNat m := by
  have htable : simpleLower c = (lowerRuns.findSome? (·.lower? c.toNat)).elim c Char.ofNat :=
    if_neg (Nat.not_lt.2 hhigh)
  cases hfind : lowerRuns.findSome? (·.lower? c.toNat) with
  | none =>
    rw [hfind] at htable
    exact .inl htable
  | some m =>
    rw [hfind] at htable
    obtain ⟨r, hr, hm⟩ := List.exists_of_findSome?_eq_some hfind
    exact .inr ⟨r, hr, m, hm, htable⟩

/-- What a run leads to is in lower case. -/
theorem lowerChar_of_lower? {r : CaseRun} (hr : r ∈ lowerRuns) {n m : Nat} (h : r.lower? n = some m) :
    lowerChar (Char.ofNat m) = [Char.ofNat m] := by
  obtain ⟨hletter, hclear⟩ := isClear_of_mem_lowerRuns r hr
  have hfixed : ∀ q ∈ dottedRun :: lowerRuns, q.lower? m = none := by
    intro q hq
    exact CaseRun.lower?_eq_none_of_isClear (hclear q hq) hletter h
  rcases toNat_ofNat_or m with hm | hnul
  · have hplain : Char.ofNat m ≠ 'İ' := by
      intro hdotted
      have hnone := hfixed dottedRun (List.mem_cons_self ..)
      rw [← hm, hdotted] at hnone
      exact absurd hnone (by decide)
    have hleft : simpleLower (Char.ofNat m) = Char.ofNat m := by
      unfold simpleLower
      rw [hm]
      split
      · next hascii =>
        -- The lower-case letters of ASCII are not in the table.
        obtain ⟨⟨hfirst, -⟩, himage⟩ := CaseRun.lower?_eq_some_iff.1 h
        have hle : r.image r.first ≤ m := himage ▸ CaseRun.image_le_image hfirst
        exact toLower_of_letter (by omega) (by omega)
      · have hnone : lowerRuns.findSome? (·.lower? m) = none := by
          rw [List.findSome?_eq_none_iff]
          intro q hq
          exact hfixed q (List.mem_cons_of_mem _ hq)
        rw [hnone]
        rfl
    rw [lowerChar, if_neg hplain, hleft]
  · rw [hnul]
    decide +kernel

/-- **The lower-case form of a character is in lower case**, be it one character or two. -/
theorem lowerChar_of_mem_lowerChar {c d : Char} (h : d ∈ lowerChar c) : lowerChar d = [d] := by
  by_cases hdotted : c = 'İ'
  · subst hdotted
    have hboth : ∀ d ∈ lowerChar 'İ', lowerChar d = [d] := by decide +kernel
    exact hboth d h
  · rw [lowerChar, if_neg hdotted, List.mem_singleton] at h
    subst h
    by_cases hascii : c.toNat < 128
    · have hlow : simpleLower c = c.toLower := if_pos hascii
      rw [hlow, lowerChar_of_ascii (toNat_toLower_lt hascii), toLower_toLower hascii]
    · rcases simpleLower_cases (Nat.le_of_not_lt hascii) with hsame | ⟨r, hr, m, hm, hled⟩
      · rw [hsame, lowerChar, if_neg hdotted, hsame]
      · rw [hled]
        exact lowerChar_of_lower? hr hm

theorem lowerChar_ne_nil (c : Char) : lowerChar c ≠ [] := by
  unfold lowerChar
  split
  · exact List.cons_ne_nil _ _
  · exact List.cons_ne_nil _ _

/-! ### Texts -/

/-- The lower-case form of a text, character by character. -/
def lowerEach (cs : List Char) : List Char := cs.flatMap lowerChar

theorem lowerEach_ne_nil {cs : List Char} (h : cs ≠ []) : lowerEach cs ≠ [] := by
  obtain ⟨c, rest, rfl⟩ := List.exists_cons_of_ne_nil h
  rw [lowerEach, List.flatMap_cons]
  exact List.append_ne_nil_of_left_ne_nil (lowerChar_ne_nil c) _

/-- Each character of a text is its own lower-case form. -/
def IsLower (cs : List Char) : Prop := ∀ c ∈ cs, lowerChar c = [c]

theorem isLower_lowerEach (cs : List Char) : IsLower (lowerEach cs) := by
  intro d hd
  obtain ⟨c, -, hd⟩ := List.mem_flatMap.1 hd
  exact lowerChar_of_mem_lowerChar hd

theorem isLower_lowerAfter (before cs : List Char) : IsLower (lowerAfter before cs) := by
  induction cs generalizing before with
  | nil => exact fun d hd => absurd hd List.not_mem_nil
  | cons c cs ih =>
    intro d hd
    rcases List.mem_append.1 hd with hhere | hrest
    · -- A sigma in either form has no other lower-case form.
      split at hhere
      · split at hhere
        · rw [List.mem_singleton.1 hhere]
          decide +kernel
        · rw [List.mem_singleton.1 hhere]
          decide +kernel
      · exact lowerChar_of_mem_lowerChar hhere
    · exact ih (c :: before) d hrest

theorem IsLower.lowerAfter {cs : List Char} (h : IsLower cs) (before : List Char) : lowerAfter before cs = cs := by
  induction cs generalizing before with
  | nil => rfl
  | cons c cs ih =>
    obtain ⟨hc, hcs⟩ := List.forall_mem_cons.1 h
    have hsigma : c ≠ 'Σ' := by
      rintro rfl
      exact absurd hc (by decide +kernel)
    rw [Text.lowerAfter, if_neg hsigma, hc, ih hcs]
    rfl

theorem lower_lower (cs : List Char) : lower (lower cs) = lower cs := (isLower_lowerAfter [] cs).lowerAfter []

theorem lower_lowerEach (cs : List Char) : lower (lowerEach cs) = lowerEach cs := (isLower_lowerEach cs).lowerAfter []

/-! ### Final sigmas -/

/-- A capital sigma ends a word of a text: if characters that do not count are passed over, a cased one comes before it
and none behind it. -/
def HasFinalSigma (cs : List Char) : Prop :=
  ∃ before after, cs = before ++ 'Σ' :: after ∧ startsCased before.reverse = true ∧ startsCased after = false

/-- The rest of a text is lowered as its characters are if no sigma in it is a final one. -/
theorem lowerAfter_eq_lowerEach_iff {cs : List Char} (before : List Char) :
    lowerAfter before cs = lowerEach cs ↔ ∀ middle after, cs = middle ++ 'Σ' :: after →
      startsCased (middle.reverse ++ before) = true → startsCased after = true := by
  induction cs generalizing before with
  | nil => simp [lowerAfter, lowerEach]
  | cons c cs ih =>
    have heach : lowerEach (c :: cs) = lowerChar c ++ lowerEach cs := List.flatMap_cons
    have hlater : (∀ middle after, cs = middle ++ 'Σ' :: after →
          startsCased (middle.reverse ++ c :: before) = true → startsCased after = true) ↔
        ∀ middle after, c :: cs = (c :: middle) ++ 'Σ' :: after →
          startsCased ((c :: middle).reverse ++ before) = true → startsCased after = true := by
      simp
    rw [lowerAfter, heach]
    by_cases hfinal : c = 'Σ' ∧ startsCased before = true ∧ startsCased cs = false
    · obtain ⟨rfl, hbefore, hcs⟩ := hfinal
      have hform : lowerChar 'Σ' = ['σ'] := by decide +kernel
      constructor
      · intro h
        rw [if_pos rfl, hbefore, hcs, hform] at h
        exact absurd (List.head_eq_of_cons_eq h) (by decide)
      · intro h
        have hcased := h [] cs rfl hbefore
        rw [hcs] at hcased
        cases hcased
    · -- Here the first character is lowered as it is by itself, so that the rest decides.
      have hhere : (if c = 'Σ' then (if startsCased before && !startsCased cs then ['ς'] else ['σ']) else lowerChar c) =
          lowerChar c := by
        by_cases hsigma : c = 'Σ'
        · subst hsigma
          have hnot : (startsCased before && !startsCased cs) = false := by
            rw [Bool.eq_false_iff, Ne, Bool.and_eq_true, Bool.not_eq_true']
            exact fun hboth => hfinal ⟨rfl, hboth⟩
          rw [if_pos rfl, hnot]
          decide +kernel
        · rw [if_neg hsigma]
      rw [hhere, List.append_cancel_left_eq, ih, hlater]
      constructor
      · intro h middle after hcs hcased
        cases middle with
        | nil =>
          obtain ⟨rfl, rfl⟩ := List.cons.inj hcs
          exact Bool.not_eq_false _ ▸ fun hnot => hfinal ⟨rfl, hcased, hnot⟩
        | cons d middle =>
          obtain ⟨rfl, -⟩ := List.cons.inj hcs
          exact h middle after hcs hcased
      · exact fun h middle after => h (c :: middle) after

/-- **The two lower-case forms of a text agree exactly if it has no final sigma.** -/
theorem lower_eq_lowerEach_iff {cs : List Char} : lower cs = lowerEach cs ↔ ¬ HasFinalSigma cs := by
  unfold lower
  rw [lowerAfter_eq_lowerEach_iff]
  constructor
  · rintro h ⟨before, after, hcs, hbefore, hafter⟩
    have hcased := h before after hcs (by rwa [List.append_nil])
    rw [hafter] at hcased
    cases hcased
  · intro h before after hcs hbefore
    rw [List.append_nil] at hbefore
    exact Bool.not_eq_false _ ▸ fun hafter => h ⟨before, after, hcs, hbefore, hafter⟩

instance (cs : List Char) : Decidable (HasFinalSigma cs) :=
  decidable_of_iff (lower cs ≠ lowerEach cs) (by rw [Ne, lower_eq_lowerEach_iff, Classical.not_not])

/-- A sigma inside a word is none at its end, and digits behind a sigma are no letters. -/
example : lower "ΣΟΦΙΑ".toList = "σοφια".toList ∧ lower "ΟΔΟΣ5".toList = "οδος5".toList ∧
    lowerEach "ΟΔΟΣ5".toList = "οδοσ5".toList := by decide +kernel

end MailQuery.Text
