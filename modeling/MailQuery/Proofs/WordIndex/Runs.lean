import MailQuery.Proofs.Text.Ascii
import MailQuery.Search.WordIndex
import MailQuery.Text.Find

/-!
# Words and runs

A body is indexed by its runs of letters and numbers, and a phrase is searched for word by word. Both are put
in lower case. For ASCII text the two fit together: a word of letters and numbers stands in the lower-case
body exactly if it stands in one of its lower-case runs (`exists_bodyWords_iff`), since such a word cannot
reach over the end of a run.

`Word.Plain` is what is known of the words of an ASCII phrase (`plain_splitWords`).
-/

namespace MailQuery

open Text

namespace Text

/-! ### Runs -/

variable {p : Char → Bool} {cs q : List Char}

theorem head?_splitOn (p : Char → Bool) (cs : List Char) :
    (splitOn p cs).head? = some (cs.takeWhile (!p ·)) := by
  induction cs with
  | nil => rfl
  | cons c cs ih =>
    rw [splitOn]
    split
    · next hnil => exact absurd hnil (splitOn_ne_nil p cs)
    · next piece pieces hsplit =>
      rw [hsplit, List.head?_cons] at ih
      rw [List.takeWhile_cons]
      cases hc : p c with
      | true => simp
      | false => simpa using ih

/-- A text without marked characters is one piece. -/
theorem splitOn_eq_singleton (h : ∀ c ∈ cs, p c = false) : splitOn p cs = [cs] := by
  induction cs with
  | nil => rfl
  | cons c cs ih =>
    rw [splitOn, ih fun d hd => h d (List.mem_cons_of_mem _ hd), h c (List.mem_cons_self ..)]
    rfl

/-- The pieces of a text end and begin at each marked character. -/
theorem splitOn_append_cons {c : Char} (hc : p c = true) (before after : List Char) :
    splitOn p (before ++ c :: after) = splitOn p before ++ splitOn p after := by
  have hstart : ∀ cs, ∃ piece pieces, splitOn p cs = piece :: pieces := fun cs =>
    List.exists_cons_of_ne_nil (splitOn_ne_nil p cs)
  induction before with
  | nil =>
    obtain ⟨piece, pieces, hsplit⟩ := hstart after
    show splitOn p (c :: after) = [] :: splitOn p after
    simp [splitOn, hsplit, hc]
  | cons d before ih =>
    obtain ⟨piece, pieces, hsplit⟩ := hstart before
    rw [List.cons_append, splitOn, splitOn, ih, hsplit]
    by_cases hd : p d = true
    · simp [hd]
    · simp [hd]

/-- A text has no marked character, or there is a first one. -/
theorem exists_first_marked (p : Char → Bool) (cs : List Char) : (∀ c ∈ cs, p c = false) ∨
    ∃ before c after, cs = before ++ c :: after ∧ p c = true ∧ ∀ d ∈ before, p d = false := by
  induction cs with
  | nil => exact .inl (by simp)
  | cons c cs ih =>
    by_cases hc : p c = true
    · exact .inr ⟨[], c, cs, rfl, hc, by simp⟩
    · have hc : p c = false := Bool.eq_false_iff.2 hc
      rcases ih with hall | ⟨before, d, after, rfl, hd, hbefore⟩
      · exact .inl (List.forall_mem_cons.2 ⟨hc, hall⟩)
      · exact .inr ⟨c :: before, d, after, rfl, hd, List.forall_mem_cons.2 ⟨hc, hbefore⟩⟩

/-- **The pieces of a text** are its parts without marked characters that reach from one marked character, or from one end
of the text, to the next. -/
theorem mem_splitOn_iff {run : List Char} :
    run ∈ splitOn p cs ↔ (∀ c ∈ run, p c = false) ∧ ∃ before after, cs = before ++ run ++ after ∧
      (∀ c ∈ before.getLast?, p c = true) ∧ ∀ c ∈ after.head?, p c = true := by
  constructor
  · -- The induction goes on behind the first marked character.
    induction hlength : cs.length using Nat.strongRecOn generalizing cs with
    | ind n ih =>
      intro h
      rcases exists_first_marked p cs with hall | ⟨start, c, rest, rfl, hc, hstart⟩
      · rw [splitOn_eq_singleton hall, List.mem_singleton] at h
        subst h
        exact ⟨hall, [], [], by simp, by simp, by simp⟩
      · rw [splitOn_append_cons hc, splitOn_eq_singleton hstart, List.singleton_append, List.mem_cons] at h
        rcases h with rfl | h
        · exact ⟨hstart, [], c :: rest, rfl, by simp, by simpa using hc⟩
        · rw [List.length_append, List.length_cons] at hlength
          obtain ⟨hrun, before, after, rfl, hbefore, hafter⟩ := ih rest.length (by omega) rfl h
          refine ⟨hrun, start ++ c :: before, after, by simp, ?_, hafter⟩
          cases before with
          | nil => simpa using hc
          | cons d before => simpa using hbefore
  · rintro ⟨hrun, before, after, rfl, hbefore, hafter⟩
    have hfirst : run ∈ splitOn p (run ++ after) := by
      cases after with
      | nil =>
        rw [List.append_nil, splitOn_eq_singleton hrun]
        exact List.mem_singleton.2 rfl
      | cons d after =>
        rw [splitOn_append_cons (hafter d rfl), splitOn_eq_singleton hrun]
        exact List.mem_cons_self ..
    rw [List.append_assoc]
    rcases List.eq_nil_or_concat before with rfl | ⟨before, c, rfl⟩
    · exact hfirst
    · rw [List.concat_eq_append, List.append_assoc, List.singleton_append,
        splitOn_append_cons (hbefore c (by simp))]
      exact List.mem_append_right _ hfirst
theorem infix_of_mem_splitOn {run : List Char} (h : run ∈ splitOn p cs) : run <:+: cs := by
  obtain ⟨-, before, after, rfl, -, -⟩ := mem_splitOn_iff.1 h
  exact ⟨before, after, rfl⟩

theorem not_marked_of_mem_splitOn {run : List Char} (h : run ∈ splitOn p cs) :
    ∀ c ∈ run, p c = false := (mem_splitOn_iff.1 h).1

theorem infix_of_mem_runsWithout {run : List Char} (h : run ∈ runsWithout p cs) : run <:+: cs :=
  infix_of_mem_splitOn (List.mem_filter.1 h).1

/-- A text without marked characters lies in one piece. -/
theorem exists_splitOn_of_infix (hq : ∀ c ∈ q, p c = false) (h : q <:+: cs) :
    ∃ run ∈ splitOn p cs, q <:+: run := by
  induction cs with
  | nil => exact ⟨[], List.mem_singleton.2 rfl, h⟩
  | cons c cs ih =>
    have hhead := head?_splitOn p (c :: cs)
    -- Either the text starts here, and the first piece is at least as long, or it stands further behind.
    rcases List.infix_cons_iff.1 h with hstart | hstands
    · refine ⟨(c :: cs).takeWhile (!p ·), List.mem_of_head? hhead, ?_⟩
      obtain ⟨rest, hrest⟩ := hstart
      rw [← hrest, List.takeWhile_append_of_pos fun d hd => by simp [hq d hd]]
      exact (List.prefix_append ..).isInfix
    · obtain ⟨run, hrun, hstands⟩ := ih hstands
      rw [splitOn]
      split
      · next hnil => exact absurd hnil (splitOn_ne_nil p cs)
      · next piece pieces hsplit =>
        rw [hsplit] at hrun
        split
        · exact ⟨run, List.mem_cons_of_mem _ hrun, hstands⟩
        · rcases List.mem_cons.1 hrun with rfl | hrun
          · exact ⟨c :: run, List.mem_cons_self .., hstands.trans (List.suffix_cons ..).isInfix⟩
          · exact ⟨run, List.mem_cons_of_mem _ hrun, hstands⟩

theorem exists_runsWithout_of_infix (hne : q ≠ []) (hq : ∀ c ∈ q, p c = false) (h : q <:+: cs) :
    ∃ run ∈ runsWithout p cs, q <:+: run := by
  obtain ⟨run, hrun, hstands⟩ := exists_splitOn_of_infix hq h
  refine ⟨run, List.mem_filter.2 ⟨hrun, ?_⟩, hstands⟩
  cases run with
  | nil => exact absurd (List.infix_nil.1 hstands) hne
  | cons => rfl

end Text

namespace Search

/-! ### Words of a body -/

/-- A word as it is looked for: not empty, and of letters and numbers of ASCII in lower case. -/
def IsKey (q : List Char) : Prop :=
  q ≠ [] ∧ ∀ c ∈ q, c.toNat < 128 ∧ isAlphanumeric c = true ∧ c.toLower = c

theorem IsKey.isAscii {q : List Char} (h : IsKey q) : IsAscii q := fun c hc => (h.2 c hc).1

theorem IsKey.lower {q : List Char} (h : IsKey q) : Text.lower q = q := by
  rw [lower_of_ascii h.isAscii]
  exact (List.map_congr_left fun c hc => (h.2 c hc).2.2).trans (List.map_id q)

/-- A word stands in a text in lower case exactly if it is the lower-case form of a part of the text. -/
theorem infix_map_iff {f : Char → Char} {q cs : List Char} :
    q <:+: cs.map f ↔ ∃ part, part <:+: cs ∧ part.map f = q := by
  constructor
  · rintro ⟨before, after, h⟩
    obtain ⟨left, right, rfl, hleft, rfl⟩ := List.map_eq_append_iff.1 h.symm
    obtain ⟨first, part, rfl, rfl, rfl⟩ := List.map_eq_append_iff.1 hleft
    exact ⟨part, ⟨first, right, rfl⟩, rfl⟩
  · rintro ⟨part, hpart, rfl⟩
    exact hpart.map f

theorem containsFolded_lower {run q : List Char} (hrun : IsAscii run) (hq : IsKey q) :
    containsFolded (lower run) q = true ↔ q <:+: run.map Char.toLower := by
  have hempty : q.isEmpty = false := by simpa using hq.1
  have htwice : (run.map Char.toLower).map Char.toLower = run.map Char.toLower := by
    rw [List.map_map]
    exact List.map_congr_left fun c hc => toLower_toLower (hrun c hc)
  rw [containsFolded, hempty, Bool.false_or, isInfix_iff, hq.lower, lower_of_ascii hrun.lower,
    lower_of_ascii hrun, htwice]

/-- **Looking for a word in the runs of a body finds it exactly if it stands in the body.** -/
theorem exists_bodyWords_iff {body : String} {q : List Char} (hbody : IsAscii body.toList)
    (hq : IsKey q) :
    (∃ entry ∈ WordIndex.bodyWords body, containsFolded entry.toList q = true) ↔
      q <:+: lower body.toList := by
  rw [lower_of_ascii hbody]
  constructor
  · rintro ⟨entry, hentry, hcontains⟩
    obtain ⟨run, hrun, rfl⟩ := List.mem_map.1 hentry
    have hstands := infix_of_mem_runsWithout hrun
    rw [String.toList_ofList, containsFolded_lower (hbody.of_infix hstands) hq] at hcontains
    exact hcontains.trans (hstands.map _)
  · intro h
    obtain ⟨part, hpart, hlower⟩ := infix_map_iff.1 h
    have hne : part ≠ [] := by
      rintro rfl
      exact hq.1 hlower.symm
    -- The part consists of letters and numbers, as its lower-case form does.
    have halnum : ∀ c ∈ part, (!isAlphanumeric c) = false := by
      intro c hc
      have hmem : c.toLower ∈ q := by
        rw [← hlower]
        exact List.mem_map_of_mem hc
      rw [← isAlphanumeric_toLower (hbody c (hpart.subset hc)), (hq.2 _ hmem).2.1]
      rfl
    obtain ⟨run, hrun, hstands⟩ := exists_runsWithout_of_infix hne halnum hpart
    refine ⟨_, List.mem_map_of_mem hrun, ?_⟩
    rw [String.toList_ofList,
      containsFolded_lower (hbody.of_infix (infix_of_mem_runsWithout hrun)) hq, ← hlower]
    exact hstands.map _

/-! ### Words of a phrase -/

/-- What is known of the words of an ASCII phrase. -/
structure Word.Plain (w : Word) : Prop where
  ascii : IsAscii w.text
  lower : ∀ c ∈ w.text, isAlphanumeric c = true → c.toLower = c
  simple : w.complex = false → ∀ c ∈ w.text, isAlphanumeric c = true

theorem Word.plain_empty : Word.empty.Plain := ⟨by simp [empty, IsAscii], by simp [empty], by simp [empty]⟩

theorem Word.Plain.push {w : Word} (h : w.Plain) {c : Char} (hc : c.toNat < 128) : (w.push c).Plain := by
  rw [Word.push]
  split
  -- Letters and numbers are put in lower case; any other character makes the word a complex one.
  · next halnum =>
    rw [lowerChar_of_ascii hc]
    refine ⟨fun d hd => ?_, fun d hd => ?_, fun hsimple d hd => ?_⟩ <;>
      rcases List.mem_append.1 hd with hd | hd
    · exact h.ascii d hd
    · rw [List.mem_singleton.1 hd]
      exact toNat_toLower_lt hc
    · exact h.lower d hd
    · rw [List.mem_singleton.1 hd]
      exact fun _ => toLower_toLower hc
    · exact h.simple hsimple d hd
    · rw [List.mem_singleton.1 hd, isAlphanumeric_toLower hc]
      exact halnum
  · next halnum =>
    refine ⟨fun d hd => ?_, fun d hd => ?_, fun hsimple => ?_⟩
    · rcases List.mem_append.1 hd with hd | hd
      · exact h.ascii d hd
      · rwa [List.mem_singleton.1 hd]
    · rcases List.mem_append.1 hd with hd | hd
      · exact h.lower d hd
      · rw [List.mem_singleton.1 hd]
        exact fun hd => absurd hd halnum
    · cases hsimple

theorem mem_finish {w v : Word} (h : v ∈ w.finish) : v = w ∧ w.text ≠ [] := by
  rw [Word.finish] at h
  split at h
  · cases h
  · next hne => exact ⟨List.mem_singleton.1 h, by simpa using hne⟩

theorem plain_wordsFrom {inQuote : Bool} {w : Word} {cs : List Char} (hw : w.Plain) (hcs : IsAscii cs) :
    ∀ v ∈ wordsFrom inQuote w cs, v.Plain ∧ v.text ≠ [] := by
  have hfinish : ∀ {u : Word}, u.Plain → ∀ v ∈ u.finish, v.Plain ∧ v.text ≠ [] := by
    intro u hu v hv
    obtain ⟨rfl, hne⟩ := mem_finish hv
    exact ⟨hu, hne⟩
  fun_induction wordsFrom inQuote w cs with
  | case1 => exact hfinish hw
  | case2 inQuote w c cs _ ih =>
    intro v hv
    rcases List.mem_append.1 hv with hv | hv
    · exact hfinish hw v hv
    · exact ih Word.plain_empty (fun d hd => hcs d (List.mem_cons_of_mem _ hd)) v hv
  | case3 => exact hfinish hw
  | case4 inQuote w d ds _ ih =>
    refine ih (hw.push (hcs d (by simp))) fun e he => hcs e ?_
    exact List.mem_cons_of_mem _ (List.mem_cons_of_mem _ he)
  | case5 inQuote w cs _ _ ih => exact ih hw fun d hd => hcs d (List.mem_cons_of_mem _ hd)
  | case6 inQuote w c cs _ _ _ ih =>
    exact ih (hw.push (hcs c (List.mem_cons_self ..))) fun d hd => hcs d (List.mem_cons_of_mem _ hd)

theorem plain_splitWords {phrase : List Char} (h : IsAscii phrase) :
    ∀ w ∈ splitWords phrase, w.Plain ∧ w.text ≠ [] := plain_wordsFrom Word.plain_empty h

namespace Word.Plain

variable {w : Word}

theorem isKey (h : w.Plain) (hne : w.text ≠ []) (hsimple : w.complex = false) : IsKey w.text :=
  ⟨hne, fun c hc => ⟨h.ascii c hc, h.simple hsimple c hc, h.lower c hc (h.simple hsimple c hc)⟩⟩

/-- The runs of a complex word can be looked for in its place. -/
theorem isKey_of_mem_runs (h : w.Plain) {run : List Char}
    (hrun : run ∈ runsWithout (!isAlphanumeric ·) w.text) : IsKey run := by
  have hstands := infix_of_mem_runsWithout hrun
  obtain ⟨hsplit, hne⟩ := List.mem_filter.1 hrun
  refine ⟨by simpa using hne, fun c hc => ?_⟩
  have halnum : isAlphanumeric c = true := by simpa using not_marked_of_mem_splitOn hsplit c hc
  exact ⟨h.ascii c (hstands.subset hc), halnum, h.lower c (hstands.subset hc) halnum⟩

/-- Where a word stands, each of its runs stands. -/
theorem run_infix (h : w.Plain) {run cs : List Char}
    (hrun : run ∈ runsWithout (!isAlphanumeric ·) w.text) (hw : Text.lower w.text <:+: cs) :
    run <:+: cs := by
  have hkey := h.isKey_of_mem_runs hrun
  refine List.IsInfix.trans ?_ hw
  rw [← hkey.lower, lower_of_ascii hkey.isAscii, lower_of_ascii h.ascii]
  exact (infix_of_mem_runsWithout hrun).map _

end Word.Plain

end Search

end MailQuery
