import MailQuery.Proofs.Text.LowerCase
import MailQuery.Proofs.Text.Pieces
import MailQuery.Text.Alphanumeric
import MailQuery.Text.Utf8

/-!
# Letters

White space has no letters and no numbers (`isAlphanumeric_of_isBlank`), and no letter becomes white space when it is put
in lower case (`isBlank_of_mem_lowerChar`), so that a text has as little white space at its ends as before
(`IsTrimmed.lower`). Most letters take as many bytes in lower case as before, and some
take fewer. Exactly three take more (`grows_iff`), so that a text without these never becomes longer
(`byteLength_lower_le`).

All of this is decided for the ranges and runs of the tables, not for each character.
-/

namespace MailQuery.Text

namespace CharRange

variable {r q : CharRange}

/-- Whether two ranges have no character in common. -/
def IsApart (r q : CharRange) : Bool := Nat.blt r.last q.first || Nat.blt q.last r.first

theorem contains_eq_false_of_isApart (hapart : r.IsApart q = true) {c : Char} (hc : r.contains c = true) :
    q.contains c = false := by
  rw [Bool.eq_false_iff]
  intro hq
  rw [contains_iff] at hc hq
  unfold IsApart at hapart
  rw [Bool.or_eq_true, Nat.blt_eq, Nat.blt_eq] at hapart
  omega

end CharRange

/-! ### Letters and white space -/

/-- The ranges of white space are apart from those of letters and numbers. -/
theorem isApart_of_mem_blankRanges : ∀ r ∈ blankRanges, ∀ q ∈ alphanumericRanges, r.IsApart q = true := by
  have htable : (blankRanges.all fun r => alphanumericRanges.all r.IsApart) = true := by decide +kernel
  simpa only [List.all_eq_true] using htable

/-- White space has no letters and no numbers. -/
theorem isAlphanumeric_of_isBlank {c : Char} (h : isBlank c = true) : isAlphanumeric c = false := by
  by_cases hascii : c.toNat < 128
  · exact forall_ascii (P := fun c => isBlank c = true → isAlphanumeric c = false) (by decide +kernel) hascii h
  · obtain ⟨r, hr, hc⟩ := List.any_eq_true.1 h
    rw [isAlphanumeric, if_neg hascii, List.any_eq_false]
    intro q hq
    rw [CharRange.contains_eq_false_of_isApart (isApart_of_mem_blankRanges r hr q hq) hc]
    exact Bool.false_ne_true

/-! ### Where lower case leads -/

/-- The range that a run leads into. -/
def CaseRun.target (r : CaseRun) : CharRange := ⟨r.image r.first, r.image r.last⟩

theorem CaseRun.contains_target {r : CaseRun} {n m : Nat} (h : r.lower? n = some m) :
    r.target.first ≤ m ∧ m ≤ r.target.last := by
  obtain ⟨⟨hfirst, hlast, -⟩, rfl⟩ := CaseRun.lower?_eq_some_iff.1 h
  exact ⟨CaseRun.image_le_image hfirst, CaseRun.image_le_image hlast⟩

/-- Whether no character above ASCII has its lower-case form in a range, but for those that stay where they are. -/
def CharRange.IsAvoided (range : CharRange) : Bool :=
  !range.contains '\x00' && !range.contains 'i' && !range.contains '\u0307' &&
    lowerRuns.all fun r => r.target.IsApart range

theorem CharRange.contains_of_isAvoided {range : CharRange} (h : range.IsAvoided = true) {c d : Char}
    (hhigh : 128 ≤ c.toNat) (hc : range.contains c = false) (hd : d ∈ lowerChar c) : range.contains d = false := by
  unfold CharRange.IsAvoided at h
  simp only [Bool.and_eq_true, Bool.not_eq_true', List.all_eq_true] at h
  obtain ⟨⟨⟨hnul, hplain⟩, hdot⟩, hruns⟩ := h
  unfold lowerChar at hd
  split at hd
  · rcases List.mem_cons.1 hd with rfl | hd
    · exact hplain
    · rw [List.mem_singleton.1 hd]
      exact hdot
  · rw [List.mem_singleton] at hd
    rcases simpleLower_cases hhigh with hsame | ⟨r, hr, m, hm, hled⟩
    · rw [hd, hsame]
      exact hc
    · rw [hd, hled]
      rcases toNat_ofNat_or m with hvalid | hinvalid
      · have htarget : r.target.contains (Char.ofNat m) = true := by
          rw [CharRange.contains_iff, hvalid]
          exact CaseRun.contains_target hm
        exact CharRange.contains_eq_false_of_isApart (hruns r hr) htarget
      · rw [hinvalid]
        exact hnul

/-! ### White space in lower case -/

/-- No letter becomes white space in lower case. -/
theorem isBlank_of_mem_lowerChar {c d : Char} (hc : isBlank c = false) (hd : d ∈ lowerChar c) : isBlank d = false := by
  by_cases hascii : c.toNat < 128
  · rw [lowerChar_of_ascii hascii, List.mem_singleton] at hd
    rw [hd]
    exact forall_ascii (P := fun c => isBlank c = false → isBlank c.toLower = false) (by decide +kernel) hascii hc
  · have havoided : ∀ r ∈ blankRanges, r.IsAvoided = true := by decide +kernel
    unfold isBlank at hc ⊢
    rw [List.any_eq_false] at hc ⊢
    intro r hr
    rw [Bool.not_eq_true]
    exact CharRange.contains_of_isAvoided (havoided r hr) (Nat.le_of_not_lt hascii) (Bool.eq_false_iff.2 (hc r hr)) hd

/-- The lower-case form of a text is made up of one piece for each character. -/
theorem exists_lowerAfter_cons (before : List Char) (c : Char) (cs : List Char) :
    ∃ here, lowerAfter before (c :: cs) = here ++ lowerAfter (c :: before) cs ∧ here ≠ [] ∧
      (isBlank c = false → ∀ d ∈ here, isBlank d = false) := by
  refine ⟨_, by rw [lowerAfter], ?_, fun hc => ?_⟩
  · split
    · split
      · exact List.cons_ne_nil _ _
      · exact List.cons_ne_nil _ _
    · exact lowerChar_ne_nil c
  · split
    · split
      · decide
      · decide
    · exact fun d hd => isBlank_of_mem_lowerChar hc hd

theorem isBlank_of_getLast_lowerAfter {cs : List Char} (h : ∀ c ∈ cs.getLast?, isBlank c = false) (before : List Char) :
    ∀ d ∈ (lowerAfter before cs).getLast?, isBlank d = false := by
  induction cs generalizing before with
  | nil => exact fun d hd => nomatch hd
  | cons c cs ih =>
    obtain ⟨here, heq, -, hplain⟩ := exists_lowerAfter_cons before c cs
    intro d hd
    rw [heq, List.getLast?_append] at hd
    cases cs with
    | nil =>
      refine hplain (h c rfl) d (List.mem_of_getLast? ?_)
      simpa [lowerAfter] using hd
    | cons e cs =>
      -- The last character comes from the piece of the last one.
      obtain ⟨next, heq', hne, -⟩ := exists_lowerAfter_cons (c :: before) e cs
      have hrest : lowerAfter (c :: before) (e :: cs) ≠ [] := heq' ▸ List.append_ne_nil_of_left_ne_nil hne _
      have hlast := List.getLast?_eq_some_getLast hrest
      rw [hlast, Option.some_or, ← hlast] at hd
      rw [List.getLast?_cons_cons] at h
      exact ih h (c :: before) d hd

/-- A text without white space at its ends has none there in lower case. -/
theorem IsTrimmed.lower {cs : List Char} (h : IsTrimmed cs) : IsTrimmed (lower cs) := by
  refine ⟨?_, isBlank_of_getLast_lowerAfter h.last []⟩
  cases cs with
  | nil => exact fun d hd => nomatch hd
  | cons c cs =>
    obtain ⟨here, heq, hne, hplain⟩ := exists_lowerAfter_cons [] c cs
    obtain ⟨e, here, rfl⟩ := List.exists_cons_of_ne_nil hne
    intro d hd
    rw [Text.lower, heq] at hd
    cases hd
    exact hplain (h.head c rfl) e (List.mem_cons_self ..)

/-! ### How many bytes a letter takes -/

/-- The lower-case form of a character takes more bytes than the character. -/
def Grows (c : Char) : Prop := c.utf8Size < byteLength (lowerChar c)

instance (c : Char) : Decidable (Grows c) := Nat.decLt _ _

/-- The number of bytes of a code point. -/
def sizeOfPoint (n : Nat) : Nat := if n ≤ 0x7f then 1 else if n ≤ 0x7ff then 2 else if n ≤ 0xffff then 3 else 4

theorem utf8Size_eq (c : Char) : c.utf8Size = sizeOfPoint c.toNat := rfl

theorem sizeOfPoint_le {n m : Nat} (h : n ≤ m) : sizeOfPoint n ≤ sizeOfPoint m := by
  unfold sizeOfPoint
  repeat' split
  all_goals omega

/-- The last character that a run leads to takes no more bytes than the first one that it leads away from, but for
two runs of one character each. -/
theorem size_of_mem_lowerRuns : ∀ r ∈ lowerRuns,
    sizeOfPoint r.target.last ≤ sizeOfPoint r.first ∨ r.first = r.last ∧ (r.first = 0x23a ∨ r.first = 0x23e) := by
  have htable : (lowerRuns.all fun r => Nat.ble (sizeOfPoint r.target.last) (sizeOfPoint r.first) ||
      (Nat.beq r.first r.last && (Nat.beq r.first 0x23a || Nat.beq r.first 0x23e))) = true := by
    decide +kernel
  simpa only [List.all_eq_true, Bool.or_eq_true, Bool.and_eq_true, Nat.ble_eq, Nat.beq_eq] using htable

/-- **Three letters take more bytes in lower case**: the `I` with a dot, and the `A` and the `T` with a stroke. -/
theorem grows_iff {c : Char} : Grows c ↔ c = 'İ' ∨ c = 'Ⱥ' ∨ c = 'Ⱦ' := by
  constructor
  · intro hgrows
    by_cases hdotted : c = 'İ'
    · exact .inl hdotted
    · have hform : lowerChar c = [simpleLower c] := if_neg hdotted
      have hsize : c.utf8Size < (simpleLower c).utf8Size := by
        unfold Grows at hgrows
        rwa [hform, byteLength_cons, byteLength_nil, Nat.add_zero] at hgrows
      by_cases hascii : c.toNat < 128
      · have hsmall : simpleLower c = c.toLower := if_pos hascii
        have hbytes : c.toLower.utf8Size = c.utf8Size :=
          forall_ascii (P := fun c => c.toLower.utf8Size = c.utf8Size) (by decide +kernel) hascii
        rw [hsmall, hbytes] at hsize
        exact absurd hsize (Nat.lt_irrefl _)
      · rcases simpleLower_cases (Nat.le_of_not_lt hascii) with hsame | ⟨r, hr, m, hm, hled⟩
        · rw [hsame] at hsize
          exact absurd hsize (Nat.lt_irrefl _)
        · obtain ⟨⟨hfirst, hlast, -⟩, -⟩ := CaseRun.lower?_eq_some_iff.1 hm
          rcases size_of_mem_lowerRuns r hr with hbytes | ⟨hsingle, hstroke⟩
          · have htarget : sizeOfPoint m ≤ sizeOfPoint r.target.last :=
              sizeOfPoint_le (CaseRun.contains_target hm).2
            have hsource : sizeOfPoint r.first ≤ sizeOfPoint c.toNat := sizeOfPoint_le hfirst
            have hpos : 1 ≤ sizeOfPoint c.toNat := c.utf8Size_pos
            rw [hled, utf8Size_eq, utf8Size_eq] at hsize
            rcases toNat_ofNat_or m with hvalid | hinvalid
            · rw [hvalid] at hsize
              omega
            · rw [hinvalid] at hsize
              have hnul : sizeOfPoint '\x00'.toNat = 1 := rfl
              omega
          · have hpoint : c.toNat = r.first := by omega
            rw [← hpoint] at hstroke
            rcases hstroke with hA | hT
            · exact .inr (.inl (Char.toNat_inj.1 hA))
            · exact .inr (.inr (Char.toNat_inj.1 hT))
  · rintro (rfl | rfl | rfl)
    · decide +kernel
    · decide +kernel
    · decide +kernel

/-- What stays in lower case takes the same bytes. -/
theorem not_grows_of_lowerChar {c : Char} (h : lowerChar c = [c]) : ¬ Grows c := by
  unfold Grows
  rw [h]
  exact Nat.lt_irrefl _

theorem byteLength_lowerAfter_le {cs : List Char} (h : ∀ c ∈ cs, ¬ Grows c) (before : List Char) :
    byteLength (lowerAfter before cs) ≤ byteLength cs := by
  induction cs generalizing before with
  | nil => exact Nat.le_refl _
  | cons c cs ih =>
    obtain ⟨hc, hcs⟩ := List.forall_mem_cons.1 h
    have hrest : byteLength (lowerAfter (c :: before) cs) ≤ byteLength cs := ih hcs (c :: before)
    have hhere : byteLength (if c = 'Σ' then (if startsCased before && !startsCased cs then ['ς'] else ['σ'])
        else lowerChar c) ≤ c.utf8Size := by
      split
      · next hsigma =>
        -- The three forms of a sigma take two bytes each.
        subst hsigma
        split
        · decide
        · decide
      · exact Nat.not_lt.1 hc
    rw [lowerAfter, byteLength_append, byteLength_cons]
    omega

/-- **A text without growing letters does not become longer in lower case.** -/
theorem byteLength_lower_le {cs : List Char} (h : ∀ c ∈ cs, ¬ Grows c) : byteLength (lower cs) ≤ byteLength cs :=
  byteLength_lowerAfter_le h []

/-- A letter may become shorter: the sign for Kelvin takes three bytes, and the `k` one. -/
example : lower ['3', '\u212a'] = ['3', 'k'] ∧ byteLength ['3', '\u212a'] = 4 := by decide +kernel

end MailQuery.Text
