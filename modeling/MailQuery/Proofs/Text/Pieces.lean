import Mathlib.Algebra.GroupWithZero.Nat
import Mathlib.Data.List.TakeWhile
import MailQuery.Text.Blank
import MailQuery.Text.Find
import MailQuery.Text.Utf8

/-!
# What trimming, cutting and joining leave

Trimming takes white space off the two ends of a text and nothing else (`exists_trim`), so that a text without white
space at its ends (`IsTrimmed`) stays as it is. A cut gives the texts around the first or the last character of a kind
(`exists_of_cutWhere?`, `exists_of_cutWhereLast?`). A text can be cut at a number of bytes if that is the length of a text
that it starts with (`sliceFrom?_append`). Texts that are joined by the same mark are the same if they have as
many characters of some kind that the mark is of (`eq_of_joinWith_eq`).
-/

namespace MailQuery.Text

/-! ### Trimming -/

/-- A text without white space at its ends. -/
structure IsTrimmed (cs : List Char) : Prop where
  head : ∀ c ∈ cs.head?, isBlank c = false
  last : ∀ c ∈ cs.getLast?, isBlank c = false

theorem exists_trimStart (cs : List Char) :
    ∃ before, (∀ c ∈ before, isBlank c = true) ∧ cs = before ++ trimStart cs :=
  ⟨cs.takeWhile isBlank, fun c hc => by simpa using List.all_eq_true.1 List.all_takeWhile c hc,
    List.takeWhile_append_dropWhile.symm⟩

theorem exists_trimEnd (cs : List Char) : ∃ after, (∀ c ∈ after, isBlank c = true) ∧ cs = trimEnd cs ++ after := by
  obtain ⟨before, hblank, hcs⟩ := exists_trimStart cs.reverse
  refine ⟨before.reverse, fun c hc => hblank c (List.mem_reverse.1 hc), ?_⟩
  rw [trimEnd, ← List.reverse_append]
  exact List.reverse_eq_iff.1 hcs

/-- **Trimming takes white space off the two ends of a text.** -/
theorem exists_trim (cs : List Char) : ∃ before after, (∀ c ∈ before, isBlank c = true) ∧
    (∀ c ∈ after, isBlank c = true) ∧ cs = before ++ (trim cs ++ after) := by
  obtain ⟨before, hbefore, hstart⟩ := exists_trimStart cs
  obtain ⟨after, hafter, hend⟩ := exists_trimEnd (trimStart cs)
  exact ⟨before, after, hbefore, hafter, by rw [trim, ← hend, ← hstart]⟩

theorem mem_of_mem_trim {c : Char} {cs : List Char} (h : c ∈ trim cs) : c ∈ cs := by
  obtain ⟨before, after, -, -, hcs⟩ := exists_trim cs
  rw [hcs]
  exact List.mem_append_right before (List.mem_append_left after h)

theorem head_trimStart (cs : List Char) : ∀ c ∈ (trimStart cs).head?, isBlank c = false := by
  intro c hc
  have h := List.head?_dropWhile_not isBlank cs
  have hhead : (cs.dropWhile isBlank).head? = some c := hc
  rw [hhead] at h
  simpa using h

theorem trimStart_eq_self {cs : List Char} (h : ∀ c ∈ cs.head?, isBlank c = false) : trimStart cs = cs := by
  cases cs with
  | nil => rfl
  | cons c cs => exact trimStart_cons_of_not_blank cs (h c rfl)

theorem trimEnd_eq_self {cs : List Char} (h : ∀ c ∈ cs.getLast?, isBlank c = false) : trimEnd cs = cs := by
  have hreverse : trimStart cs.reverse = cs.reverse := trimStart_eq_self (by rwa [List.head?_reverse])
  rw [trimEnd]
  exact (congrArg List.reverse hreverse).trans (List.reverse_reverse cs)

theorem IsTrimmed.trim_eq {cs : List Char} (h : IsTrimmed cs) : trim cs = cs := by
  rw [trim, trimStart_eq_self h.head, trimEnd_eq_self h.last]

theorem isTrimmed_trim (cs : List Char) : IsTrimmed (trim cs) := by
  constructor
  · intro c hc
    obtain ⟨after, -, hend⟩ := exists_trimEnd (trimStart cs)
    refine head_trimStart cs c ?_
    rw [hend, List.head?_append]
    rw [trim] at hc
    simp [Option.mem_def.1 hc]
  · intro c hc
    refine head_trimStart (trimStart cs).reverse c ?_
    rw [trim, trimEnd, List.getLast?_reverse] at hc
    exact hc

@[simp] theorem trim_trim (cs : List Char) : trim (trim cs) = trim cs := (isTrimmed_trim cs).trim_eq

theorem trim_cons_of_blank {c : Char} (h : isBlank c = true) (cs : List Char) : trim (c :: cs) = trim cs := by
  rw [trim, trim, trimStart_cons_of_blank cs h]

theorem trim_append_blank {cs : List Char} (h : IsTrimmed cs) (hne : cs ≠ []) {c : Char} (hc : isBlank c = true) :
    trim (cs ++ [c]) = cs := by
  obtain ⟨d, ds, rfl⟩ := List.exists_cons_of_ne_nil hne
  have hstart : trimStart (d :: ds ++ [c]) = d :: ds ++ [c] :=
    trimStart_eq_self fun e he => h.head e (by simpa using he)
  have hend : trimEnd (d :: ds ++ [c]) = trimEnd (d :: ds) := by
    rw [trimEnd, trimEnd, List.reverse_append]
    simp [hc]
  rw [trim, hstart, hend, trimEnd_eq_self h.last]

/-- A character in front of a text is white space at its end only if all of the text is. -/
theorem trimEnd_cons (c : Char) (cs : List Char) :
    trimEnd (c :: cs) = if isBlank c = true ∧ trimEnd cs = [] then [] else c :: trimEnd cs := by
  have hcons : trimEnd (c :: cs) =
      if (cs.reverse.dropWhile isBlank).isEmpty then trimEnd [c] else c :: trimEnd cs := by
    rw [trimEnd, List.reverse_cons, List.dropWhile_append]
    split
    · rfl
    · rw [List.reverse_append]
      rfl
  have hnil : (cs.reverse.dropWhile isBlank).isEmpty = true ↔ trimEnd cs = [] := by
    rw [trimEnd, List.reverse_eq_nil_iff, List.isEmpty_iff]
  rw [hcons]
  by_cases hend : trimEnd cs = []
  · rw [if_pos (hnil.2 hend), hend]
    cases hc : isBlank c with
    | true => simp [trimEnd, hc]
    | false => simp [trimEnd, hc]
  · rw [if_neg (mt hnil.1 hend), if_neg fun h => hend h.2]

/-- It does not matter at which end a text is trimmed first. -/
theorem trim_eq_trimStart_trimEnd (cs : List Char) : trim cs = trimStart (trimEnd cs) := by
  rw [trim]
  induction cs with
  | nil => rfl
  | cons c cs ih =>
    rw [trimEnd_cons]
    cases hc : isBlank c with
    | true =>
      rw [trimStart_cons_of_blank cs hc, ih]
      split
      · next hend => rw [hend.2]
      · rw [trimStart_cons_of_blank _ hc]
    | false =>
      rw [trimStart_cons_of_not_blank cs hc, trimEnd_cons, hc, if_neg (by simp), trimStart_cons_of_not_blank _ hc]

/-- What starts without white space is trimmed behind its start. -/
theorem trim_append_of_forall {front : List Char} (hne : front ≠ []) (h : ∀ c ∈ front, isBlank c = false)
    (cs : List Char) : trim (front ++ cs) = front ++ trimEnd cs := by
  have hend : trimEnd (front ++ cs) = front ++ trimEnd cs := by
    clear hne
    induction front with
    | nil => rfl
    | cons c front ih =>
      obtain ⟨hc, hfront⟩ := List.forall_mem_cons.1 h
      rw [List.cons_append, trimEnd_cons, hc, if_neg (by simp), ih hfront]
      rfl
  obtain ⟨c, front, rfl⟩ := List.exists_cons_of_ne_nil hne
  rw [trim_eq_trimStart_trimEnd, hend, List.cons_append, trimStart_cons_of_not_blank _ (h c (List.mem_cons_self ..))]

theorem IsTrimmed.trimStart_of_suffix {cs rest : List Char} (h : IsTrimmed cs) (hrest : rest <:+ cs) :
    IsTrimmed (trimStart rest) := by
  refine ⟨head_trimStart rest, fun c hc => h.last c ?_⟩
  obtain ⟨front, rfl⟩ := (List.dropWhile_suffix isBlank).trans hrest
  have hlast : (rest.dropWhile isBlank).getLast? = some c := hc
  rw [List.getLast?_append, hlast]
  rfl

/-- Trimming takes away no character of a kind to which white space does not belong. -/
theorem countP_trim {p : Char → Bool} (hp : ∀ c, isBlank c = true → p c = false) (cs : List Char) :
    (trim cs).countP p = cs.countP p := by
  obtain ⟨before, after, hbefore, hafter, hcs⟩ := exists_trim cs
  have hnone : ∀ blanks : List Char, (∀ c ∈ blanks, isBlank c = true) → blanks.countP p = 0 := by
    intro blanks hblanks
    rw [List.countP_eq_zero]
    exact fun c hc => by simpa using hp c (hblanks c hc)
  calc (trim cs).countP p
    _ = (before ++ (trim cs ++ after)).countP p := by
      rw [List.countP_append, List.countP_append, hnone before hbefore, hnone after hafter]
      omega
    _ = cs.countP p := by rw [← hcs]

/-! ### Cutting -/

section

variable {α : Type} {p : α → Bool} {cs before after : List α}

theorem cutWhere?_append {c : α} (hc : p c = true) (hbefore : ∀ d ∈ before, p d = false) :
    cutWhere? p (before ++ c :: after) = some (before, after) := by
  have hnot : ∀ d ∈ before, (!p d) = true := fun d hd => by rw [hbefore d hd]; rfl
  rw [cutWhere?, List.dropWhile_append_of_pos hnot, List.takeWhile_append_of_pos hnot,
    List.dropWhile_cons_of_neg (by simp [hc]), List.takeWhile_cons_of_neg (by simp [hc]), List.append_nil]

theorem exists_of_cutWhere? (h : cutWhere? p cs = some (before, after)) :
    ∃ c, cs = before ++ c :: after ∧ p c = true ∧ ∀ d ∈ before, p d = false := by
  rw [cutWhere?] at h
  split at h
  · cases h
  · next c rest hrest =>
    cases h
    have hc : p c = true := by
      have hhead := List.head?_dropWhile_not (!p ·) cs
      rw [hrest] at hhead
      simpa using hhead
    refine ⟨c, ?_, hc, fun d hd => by simpa using List.all_eq_true.1 List.all_takeWhile d hd⟩
    rw [← hrest, List.takeWhile_append_dropWhile]

theorem cutWhere?_eq_none_iff : cutWhere? p cs = none ↔ ∀ c ∈ cs, p c = false := by
  have hnil : cutWhere? p cs = none ↔ cs.dropWhile (!p ·) = [] := by
    rw [cutWhere?]
    split
    · next h => simp [h]
    · next h => simp [h]
  rw [hnil, List.dropWhile_eq_nil_iff]
  simp

theorem cutWhereLast?_append {c : α} (hc : p c = true) (hafter : ∀ d ∈ after, p d = false) :
    cutWhereLast? p (before ++ c :: after) = some (before, after) := by
  have hreverse : (before ++ c :: after).reverse = after.reverse ++ c :: before.reverse := by simp
  rw [cutWhereLast?, hreverse, cutWhere?_append hc fun d hd => hafter d (List.mem_reverse.1 hd)]
  simp

theorem exists_of_cutWhereLast? (h : cutWhereLast? p cs = some (before, after)) :
    ∃ c, cs = before ++ c :: after ∧ p c = true ∧ ∀ d ∈ after, p d = false := by
  obtain ⟨⟨after', before'⟩, hcut, heq⟩ := Option.map_eq_some_iff.1 h
  cases heq
  obtain ⟨c, hcs, hc, hnone⟩ := exists_of_cutWhere? hcut
  refine ⟨c, ?_, hc, fun d hd => hnone d (List.mem_reverse.1 hd)⟩
  rw [← List.reverse_eq_iff.2 hcs.symm]
  simp

theorem cutWhereLast?_eq_none_iff : cutWhereLast? p cs = none ↔ ∀ c ∈ cs, p c = false := by
  rw [cutWhereLast?, Option.map_eq_none_iff, cutWhere?_eq_none_iff]
  simp

end

/-! ### Byte offsets -/

/-- The text from a byte offset on, if a character starts or the text ends there. -/
def sliceFrom? (offset : Nat) : List Char → Option (List Char)
  | [] => if offset = 0 then some [] else none
  | c :: cs =>
    if offset = 0 then some (c :: cs)
    else if c.utf8Size ≤ offset then sliceFrom? (offset - c.utf8Size) cs
    else none

theorem sliceFrom?_zero (cs : List Char) : sliceFrom? 0 cs = some cs := by
  cases cs with
  | nil => rfl
  | cons c cs => rfl

theorem sliceFrom?_append (front rest : List Char) : sliceFrom? (byteLength front) (front ++ rest) = some rest := by
  induction front with
  | nil => exact sliceFrom?_zero rest
  | cons c front ih =>
    have hpos : c.utf8Size + byteLength front ≠ 0 := Nat.ne_of_gt (Nat.add_pos_left c.utf8Size_pos _)
    rw [byteLength_cons, List.cons_append, sliceFrom?, if_neg hpos, if_pos (Nat.le_add_right ..),
      Nat.add_sub_cancel_left, ih]

/-- There is no boundary inside a character. -/
example : sliceFrom? 1 "éa".toList = none ∧ sliceFrom? 2 "éa".toList = some ['a'] := by decide

/-! ### Joining -/

section

variable {α : Type} {p : α → Bool} {glue xs ys : List α}

theorem joinWith_cons (glue xs : List α) {rest : List (List α)} (hrest : rest ≠ []) :
    joinWith glue (xs :: rest) = xs ++ glue ++ joinWith glue rest := by
  obtain ⟨ys, rest, rfl⟩ := List.exists_cons_of_ne_nil hrest
  rw [joinWith]

theorem mem_of_mem_joinWith {x : α} {pieces : List (List α)} (h : x ∈ joinWith glue pieces) :
    x ∈ glue ∨ ∃ piece ∈ pieces, x ∈ piece := by
  induction pieces with
  | nil => cases h
  | cons xs rest ih =>
    cases rest with
    | nil => exact .inr ⟨xs, List.mem_singleton_self xs, h⟩
    | cons ys rest =>
      rw [joinWith_cons _ _ (List.cons_ne_nil ys rest), List.mem_append, List.mem_append] at h
      rcases h with (hfirst | hglue) | hlater
      · exact .inr ⟨xs, List.mem_cons_self .., hfirst⟩
      · exact .inl hglue
      · rcases ih hlater with hglue | ⟨piece, hpiece, hx⟩
        · exact .inl hglue
        · exact .inr ⟨piece, List.mem_cons_of_mem _ hpiece, hx⟩

theorem joinWith_ne_nil {pieces : List (List α)} (hne : pieces ≠ []) (h : ∀ piece ∈ pieces, piece ≠ []) :
    joinWith glue pieces ≠ [] := by
  cases pieces with
  | nil => exact absurd rfl hne
  | cons xs rest =>
    have hxs : xs ≠ [] := h xs (List.mem_cons_self ..)
    cases rest with
    | nil => exact hxs
    | cons ys rest =>
      rw [joinWith_cons _ _ (List.cons_ne_nil ys rest), List.append_assoc]
      exact List.append_ne_nil_of_left_ne_nil hxs _

/-- Pieces without white space at their ends make up a text without. -/
theorem isTrimmed_joinWith {glue : List Char} {pieces : List (List Char)} (hne : ∀ piece ∈ pieces, piece ≠ [])
    (h : ∀ piece ∈ pieces, IsTrimmed piece) : IsTrimmed (joinWith glue pieces) := by
  induction pieces with
  | nil =>
    show IsTrimmed []
    exact ⟨by simp, by simp⟩
  | cons xs rest ih =>
    obtain ⟨hxs, hrest⟩ := List.forall_mem_cons.1 h
    obtain ⟨hxsne, hrestne⟩ := List.forall_mem_cons.1 hne
    cases rest with
    | nil => exact hxs
    | cons ys rest =>
      have hjoined : joinWith glue (ys :: rest) ≠ [] := joinWith_ne_nil (List.cons_ne_nil ys rest) hrestne
      obtain ⟨c, cs, rfl⟩ := List.exists_cons_of_ne_nil hxsne
      rw [joinWith_cons _ _ (List.cons_ne_nil ys rest)]
      constructor
      · intro d hd
        exact hxs.head d hd
      · intro d hd
        rw [List.getLast?_append, List.getLast?_eq_some_getLast hjoined, Option.some_or,
          ← List.getLast?_eq_some_getLast hjoined] at hd
        exact (ih hrestne hrest).last d hd

theorem countP_joinWith (p : α → Bool) (glue : List α) (pieces : List (List α)) :
    (joinWith glue pieces).countP p =
      (pieces.map (List.countP p)).sum + (pieces.length - 1) * glue.countP p := by
  induction pieces with
  | nil => simp [joinWith]
  | cons xs rest ih =>
    cases rest with
    | nil => simp [joinWith]
    | cons ys rest =>
      rw [joinWith_cons _ _ (List.cons_ne_nil ys rest), List.countP_append, List.countP_append, ih]
      simp [Nat.add_mul]
      omega

/-- What stands before a mark is told by the number of characters in it that are of the kind of the mark. -/
theorem eq_of_append_mark {mark : α} (hmark : p mark = true) {us vs : List α}
    (h : xs ++ mark :: us = ys ++ mark :: vs) (hcount : xs.countP p = ys.countP p) : xs = ys ∧ us = vs := by
  -- If one of the two were longer, then the mark behind the other would be in it.
  have hshort : ∀ {as bs w cs ds : List α}, bs = as ++ w → mark :: cs = w ++ mark :: ds →
      as.countP p = bs.countP p → w = [] := by
    rintro as _ (_ | ⟨c, w⟩) cs ds rfl hw hcount
    · rfl
    · obtain ⟨rfl, -⟩ := List.cons.inj hw
      rw [List.countP_append, List.countP_cons_of_pos hmark] at hcount
      omega
  rcases List.append_eq_append_iff.1 h with ⟨w, hys, hrest⟩ | ⟨w, hxs, hrest⟩
  · obtain rfl := hshort hys hrest hcount
    rw [List.append_nil] at hys
    exact ⟨hys.symm, (List.cons.inj hrest).2⟩
  · obtain rfl := hshort hxs hrest hcount.symm
    rw [List.append_nil] at hxs
    exact ⟨hxs, (List.cons.inj hrest).2.symm⟩

/-- **The pieces of a joined text are told by their numbers of characters of the kind of the mark.** -/
theorem eq_of_joinWith_eq {mark : α} (hmark : p mark = true) {pieces others : List (List α)}
    (h : joinWith [mark] pieces = joinWith [mark] others)
    (hcount : pieces.map (List.countP p) = others.map (List.countP p)) : pieces = others := by
  induction pieces generalizing others with
  | nil => exact (List.map_eq_nil_iff.1 hcount.symm).symm
  | cons xs rest ih =>
    obtain ⟨ys, others, rfl, hys, hothers⟩ := List.map_eq_cons_iff.1 hcount.symm
    cases rest with
    | nil =>
      obtain rfl : others = [] := List.map_eq_nil_iff.1 hothers
      simpa [joinWith] using h
    | cons zs rest =>
      obtain ⟨ws, others, rfl⟩ := List.exists_cons_of_ne_nil (l := others) (by rintro rfl; cases hothers)
      rw [joinWith_cons _ _ (List.cons_ne_nil zs rest), joinWith_cons _ _ (List.cons_ne_nil ws others),
        List.append_assoc, List.append_assoc] at h
      obtain ⟨rfl, hjoined⟩ := eq_of_append_mark hmark h hys.symm
      rw [ih hjoined hothers.symm]

end

end MailQuery.Text
