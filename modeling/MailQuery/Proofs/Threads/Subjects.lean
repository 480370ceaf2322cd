import Mathlib.Data.List.Find
import MailQuery.Proofs.Text.Letters
import MailQuery.Proofs.Text.Pieces
import MailQuery.Search.Subject

/-!
# Subjects without the marks of replies

A mark is sought in the lower-case form of a subject and cut off the subject itself, by the number of its bytes. This is
right since no other characters have the letters of marks as their lower-case forms: a mark is found exactly where it stands
in letters of ASCII (`isPrefix_lowerAfter_iff`). So each cut is between characters and leaves less of the text
(`exists_of_replyMark?`).

What is left in the end has no mark and no white space at its ends, and neither has its lower-case form
(`toList_baseSubject`). Marks in front of a subject make no difference, as far as letters and white space go
(`Marks.dropReplyMarks_trim`).
-/

namespace MailQuery.Search

open Text

variable {cs mark front : List Char} {c d : Char}

/-! ### Letters of marks -/

/-- The characters that marks are made of. -/
def markChars : List Char := ['r', 'e', 'f', 'w', 'd', ':']

theorem mem_markChars_of_mem (hmark : mark ∈ replyMarks) : ∀ d ∈ mark, d ∈ markChars := by
  revert mark
  decide

/-- A character of a mark is the lower-case form of letters of ASCII only. -/
theorem toLower_of_mem_lowerChar (hd : d ∈ markChars) (hmem : d ∈ lowerChar c) : c.toLower = d := by
  by_cases hascii : c.toNat < 128
  · rw [lowerChar_of_ascii hascii, List.mem_singleton] at hmem
    exact hmem.symm
  · have havoided : ∀ d ∈ markChars, (CharRange.single d).IsAvoided = true ∧ d.toNat < 128 := by decide +kernel
    obtain ⟨hsingle, hlow⟩ := havoided d hd
    have hother : (CharRange.single d).contains c = false := by
      rw [Bool.eq_false_iff, Ne, CharRange.contains_single]
      rintro rfl
      exact hascii hlow
    have hsame := CharRange.contains_of_isAvoided hsingle (Nat.le_of_not_lt hascii) hother hmem
    rw [CharRange.contains_single.2 rfl] at hsame
    cases hsame

theorem lowerAfter_cons_eq_cons_iff {before more : List Char} (hd : d ∈ markChars) :
    lowerAfter before (c :: cs) = d :: more ↔ c.toLower = d ∧ lowerAfter (c :: before) cs = more := by
  have hplain : ∀ d ∈ markChars, d.toNat < 128 ∧ d ≠ 'ς' ∧ d ≠ 'σ' ∧ d ≠ 'i' := by decide
  obtain ⟨hlow, hfinal, hsigma, hdotless⟩ := hplain d hd
  rw [lowerAfter]
  constructor
  · intro h
    by_cases hc : c = 'Σ'
    · rw [if_pos hc] at h
      split at h
      · exact absurd (List.cons.inj h).1.symm hfinal
      · exact absurd (List.cons.inj h).1.symm hsigma
    · rw [if_neg hc] at h
      have hmem : d ∈ lowerChar c := by
        unfold lowerChar at h ⊢
        split at h
        · exact absurd (List.cons.inj h).1.symm hdotless
        · next hdotted =>
          rw [if_neg hdotted, (List.cons.inj h).1]
          exact List.mem_singleton_self d
      have hlower : c.toLower = d := toLower_of_mem_lowerChar hd hmem
      rw [lowerChar_of_ascii (toNat_lt_of_toLower (hlower ▸ hlow))] at h
      exact ⟨hlower, (List.cons.inj h).2⟩
  · rintro ⟨rfl, rfl⟩
    have hascii : c.toNat < 128 := toNat_lt_of_toLower hlow
    have hc : c ≠ 'Σ' := by
      rintro rfl
      exact absurd hascii (by decide)
    rw [if_neg hc, lowerChar_of_ascii hascii]
    rfl

/-- **A mark is found in the lower-case form of a text exactly if it stands in the text**, in letters of ASCII. -/
theorem isPrefix_lowerAfter_iff (hmark : ∀ d ∈ mark, d ∈ markChars) (before cs : List Char) :
    mark <+: lowerAfter before cs ↔ mark <+: cs.map Char.toLower := by
  induction mark generalizing before cs with
  | nil => exact ⟨fun _ => List.nil_prefix, fun _ => List.nil_prefix⟩
  | cons d mark ih =>
    obtain ⟨hd, hmark⟩ := List.forall_mem_cons.1 hmark
    cases cs with
    | nil => exact Iff.rfl
    | cons c cs =>
      rw [List.map_cons, List.cons_prefix_cons]
      constructor
      · rintro ⟨more, hmore⟩
        obtain ⟨hc, hrest⟩ := (lowerAfter_cons_eq_cons_iff hd).1 hmore.symm
        exact ⟨hc.symm, (ih hmark (c :: before) cs).1 (hrest ▸ List.prefix_append mark more)⟩
      · rintro ⟨hc, hrest⟩
        obtain ⟨more, hmore⟩ := (ih hmark (c :: before) cs).2 hrest
        exact ⟨more, ((lowerAfter_cons_eq_cons_iff hd).2 ⟨hc.symm, hmore.symm⟩).symm⟩

/-! ### One mark -/

/-- A mark in letters of any case. -/
def IsMark (front : List Char) : Prop := front.map Char.toLower ∈ replyMarks

instance (front : List Char) : Decidable (IsMark front) := inferInstanceAs (Decidable (_ ∈ _))

namespace IsMark

theorem toNat_lt (h : IsMark front) (hc : c ∈ front) : c.toNat < 128 := by
  have hlow : ∀ d ∈ markChars, d.toNat < 128 := by decide
  exact toNat_lt_of_toLower (hlow _ (mem_markChars_of_mem h _ (List.mem_map_of_mem hc)))

theorem isBlank_eq_false (h : IsMark front) (hc : c ∈ front) : isBlank c = false :=
  forall_ascii (P := fun c => c.toLower ∈ markChars → isBlank c = false) (by decide +kernel) (h.toNat_lt hc)
    (mem_markChars_of_mem h _ (List.mem_map_of_mem hc))

theorem ne_nil (h : IsMark front) : front ≠ [] := by
  rintro rfl
  revert h
  decide

theorem byteLength_map_toLower (h : IsMark front) : byteLength (front.map Char.toLower) = byteLength front := by
  have hascii : IsAscii front := fun c hc => h.toNat_lt hc
  have hlower : IsAscii (front.map Char.toLower) := lower_of_ascii hascii ▸ hascii.lower
  rw [byteLength_of_ascii hlower, byteLength_of_ascii hascii, List.length_map]

end IsMark

theorem replyMark?_eq (cs : List Char) :
    replyMark? cs = replyMarks.find? fun mark => mark.isPrefixOf (cs.map Char.toLower) := by
  refine List.find?_congr fun mark hmark => ?_
  rw [Bool.eq_iff_iff, List.isPrefixOf_iff_prefix, List.isPrefixOf_iff_prefix]
  exact isPrefix_lowerAfter_iff (mem_markChars_of_mem hmark) [] cs

/-- A mark in front of a text is found, since no mark is the start of another one. -/
theorem replyMark?_append (h : IsMark front) (cs : List Char) : replyMark? (front ++ cs) = some (front.map Char.toLower) := by
  rw [replyMark?_eq, List.map_append]
  simp only [IsMark, replyMarks, List.mem_cons, List.not_mem_nil, or_false] at h
  rcases h with h | h | h
  · rw [h]; rfl
  · rw [h]; rfl
  · rw [h]; rfl

theorem dropReplyMarks_of_some (h : replyMark? cs = some mark) :
    dropReplyMarks cs = dropReplyMarks (trimStart (cs.drop mark.length)) := by
  rw [dropReplyMarks]
  split
  · next found hfound =>
    rw [h] at hfound
    cases hfound
    rfl
  · next hnone =>
    rw [h] at hnone
    cases hnone

theorem dropReplyMarks_of_none (h : replyMark? cs = none) : dropReplyMarks cs = cs := by
  rw [dropReplyMarks]
  split
  · next found hfound =>
    rw [h] at hfound
    cases hfound
  · rfl

theorem dropReplyMarks_append (h : IsMark front) (cs : List Char) :
    dropReplyMarks (front ++ cs) = dropReplyMarks (trimStart cs) := by
  rw [dropReplyMarks_of_some (replyMark?_append h cs), List.length_map, List.drop_left]

/-- **Each cut is between characters**, although the number of bytes is that of a mark in the lower-case form. -/
theorem exists_of_replyMark? (h : replyMark? cs = some mark) :
    ∃ rest, sliceFrom? (byteLength mark) cs = some rest ∧ byteLength (trimStart rest) < byteLength cs ∧
      dropReplyMarks cs = dropReplyMarks (trimStart rest) := by
  have hfound := h
  rw [replyMark?_eq] at hfound
  have hmark : mark ∈ replyMarks := List.mem_of_find?_eq_some hfound
  have hstart : mark.isPrefixOf (cs.map Char.toLower) = true := by simpa using List.find?_some hfound
  obtain ⟨more, hmore⟩ := List.isPrefixOf_iff_prefix.1 hstart
  obtain ⟨front, rest, rfl, rfl, -⟩ := List.map_eq_append_iff.1 hmore.symm
  have hfront : IsMark front := hmark
  refine ⟨rest, ?_, ?_, dropReplyMarks_append hfront rest⟩
  · rw [hfront.byteLength_map_toLower, sliceFrom?_append]
  · obtain ⟨blanks, -, hrest⟩ := exists_trimStart rest
    have hsum : byteLength rest = byteLength blanks + byteLength (trimStart rest) := by
      rw [← byteLength_append, ← hrest]
    obtain ⟨c, front, rfl⟩ := List.exists_cons_of_ne_nil hfront.ne_nil
    have hpos := c.utf8Size_pos
    rw [byteLength_append, byteLength_cons]
    omega

/-! ### All marks -/

/-- Marks in letters of any case, with any white space around them. -/
inductive Marks : List Char → Prop where
  | nil : Marks []
  | blank {c : Char} {cs : List Char} (hblank : isBlank c = true) (h : Marks cs) : Marks (c :: cs)
  | mark (front : List Char) {cs : List Char} (hmark : IsMark front) (h : Marks cs) : Marks (front ++ cs)

/-- **Marks in front of a text are dropped with the white space around them.** -/
theorem Marks.dropReplyMarks_trim (h : Marks front) (cs : List Char) :
    dropReplyMarks (trim (front ++ cs)) = dropReplyMarks (trim cs) := by
  induction h with
  | nil => rfl
  | blank hblank _ ih => rw [List.cons_append, trim_cons_of_blank hblank, ih]
  | mark front hmark _ ih =>
    have hplain := fun c hc => hmark.isBlank_eq_false (c := c) hc
    rw [List.append_assoc, trim_append_of_forall hmark.ne_nil hplain, dropReplyMarks_append hmark,
      ← trim_eq_trimStart_trimEnd, ih]

theorem replyMark?_dropReplyMarks (cs : List Char) : replyMark? (dropReplyMarks cs) = none := by
  fun_induction dropReplyMarks cs with
  | case1 cs mark h ih => exact ih
  | case2 cs h => exact h

theorem isTrimmed_dropReplyMarks (h : IsTrimmed cs) : IsTrimmed (dropReplyMarks cs) := by
  fun_induction dropReplyMarks cs with
  | case1 cs mark hmark ih => exact ih (h.trimStart_of_suffix (List.drop_suffix _ _))
  | case2 cs hmark => exact h

theorem replyMark?_lower (cs : List Char) : replyMark? (lower cs) = replyMark? cs := by
  unfold replyMark?
  rw [lower_lower]

/-! ### Subjects -/

/-- What a subject comes to is the lower-case form of a text without marks and without white space at its ends. -/
theorem toList_baseSubject (s : String) :
    ∃ cs, (baseSubject s).toList = lower cs ∧ trim (lower cs) = lower cs ∧ replyMark? (lower cs) = none := by
  have htrimmed : IsTrimmed (dropReplyMarks (trim s.toList)) := isTrimmed_dropReplyMarks (isTrimmed_trim _)
  refine ⟨dropReplyMarks (trim s.toList), String.toList_ofList, htrimmed.lower.trim_eq, ?_⟩
  rw [replyMark?_lower, replyMark?_dropReplyMarks]

/-- **Marks of replies make no difference to a subject.** They are cut off between characters, each cut leaves less of the
text, and what is left has no marks, so that it stays as it is when it is taken for a subject again. -/
theorem baseSubject_append_of_marks :
    (∀ marks s : String, Marks marks.toList → baseSubject (marks ++ s) = baseSubject s) ∧
    (∀ cs mark, replyMark? cs = some mark → ∃ rest, sliceFrom? (byteLength mark) cs = some rest ∧
      byteLength (trimStart rest) < byteLength cs ∧ dropReplyMarks cs = dropReplyMarks (trimStart rest)) ∧
    (∀ s, isReplySubject (baseSubject s) = false) ∧
    ∀ s, baseSubject (baseSubject s) = baseSubject s := by
  refine ⟨fun marks s hmarks => ?_, fun cs mark h => exists_of_replyMark? h, fun s => ?_, fun s => ?_⟩
  · rw [baseSubject, String.toList_append, hmarks.dropReplyMarks_trim, baseSubject]
  · obtain ⟨cs, hlist, htrim, hnone⟩ := toList_baseSubject s
    rw [isReplySubject, hlist, htrim, hnone]
    rfl
  · obtain ⟨cs, hlist, htrim, hnone⟩ := toList_baseSubject s
    rw [← String.toList_inj, hlist, baseSubject, hlist, String.toList_ofList, htrim, dropReplyMarks_of_none hnone,
      lower_lower]

/-- Marks around a space of three bytes, in front of a letter that takes more bytes in lower case and
one that has two lower-case forms. -/
theorem baseSubject_append_of_marks_mixed :
    Marks " rE:\u2003FWD:fw: ".toList ∧
      baseSubject (" rE:\u2003FWD:fw: " ++ "Ⱥ ΟΔΟΣ ") = baseSubject "Ⱥ ΟΔΟΣ " ∧
      replyMark? "Fw: Ⱥ".toList = some "fw:".toList ∧
      ∃ rest, sliceFrom? (byteLength "fw:".toList) "Fw: Ⱥ".toList = some rest ∧
        byteLength (trimStart rest) < byteLength "Fw: Ⱥ".toList ∧
        dropReplyMarks "Fw: Ⱥ".toList = dropReplyMarks (trimStart rest) := by
  have hmarks : Marks " rE:\u2003FWD:fw: ".toList :=
    .blank (by decide) (.mark ['r', 'E', ':'] (by decide) (.blank (by decide)
      (.mark ['F', 'W', 'D', ':'] (by decide) (.mark ['f', 'w', ':'] (by decide)
        (.blank (by decide) .nil)))))
  have hfound : replyMark? "Fw: Ⱥ".toList = some "fw:".toList := by decide +kernel
  exact ⟨hmarks, baseSubject_append_of_marks.1 _ _ hmarks, hfound, baseSubject_append_of_marks.2.1 _ _ hfound⟩

end MailQuery.Search
