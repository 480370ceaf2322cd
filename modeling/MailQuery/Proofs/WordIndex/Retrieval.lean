import Mathlib.Data.List.Nodup
import MailQuery.Proofs.Text.Letters
import MailQuery.Proofs.WordIndex.Vocabulary

/-!
# Finding the words of a message again

Each word of a message is looked for as the phrase that it is in the text. Such a phrase has one word, as no letter and no
number is white space, a quote or a backslash (`splitWords_of_alphanumeric`).

The word of the index was put in lower case as a whole, and that of the phrase character by character. So the message
is found again (`lookup_longestRun`) unless the word has a final sigma. With one it is found only if another word of the
same message happens to contain it.
-/

namespace MailQuery

open Text

namespace Text

instance (p : Char → Bool) (cs run : List Char) : Decidable (IsLongestRun p cs run) :=
  decidable_of_iff _ mem_runsWithout_iff

end Text

namespace Search

/-! ### The phrase of a word -/

/-- Letters and numbers are read to the end of the phrase as one word. -/
theorem wordsFrom_of_alphanumeric {cs : List Char} (h : ∀ c ∈ cs, isAlphanumeric c = true) (w : Word) :
    wordsFrom false w cs = (⟨w.text ++ lowerEach cs, w.complex⟩ : Word).finish := by
  induction cs generalizing w with
  | nil =>
    rw [wordsFrom, lowerEach, List.flatMap_nil, List.append_nil]
  | cons c cs ih =>
    obtain ⟨hc, hcs⟩ := List.forall_mem_cons.1 h
    have hblank : isBlank c = false := by
      rw [Bool.eq_false_iff]
      intro hblank
      rw [isAlphanumeric_of_isBlank hblank] at hc
      cases hc
    have hbackslash : c ≠ '\\' := by
      rintro rfl
      exact absurd hc (by decide +kernel)
    have hquote : c ≠ '"' := by
      rintro rfl
      exact absurd hc (by decide +kernel)
    have hpush : w.push c = ⟨w.text ++ lowerChar c, w.complex⟩ := by
      unfold Word.push
      rw [if_pos hc]
    have hlower : lowerEach (c :: cs) = lowerChar c ++ lowerEach cs := List.flatMap_cons
    have hstep : wordsFrom false w (c :: cs) = wordsFrom false (w.push c) cs := by
      rw [wordsFrom.eq_def]
      simp [hblank, hbackslash, hquote]
    rw [hstep, ih hcs, hpush, hlower, List.append_assoc]

theorem splitWords_of_alphanumeric {cs : List Char} (hne : cs ≠ []) (h : ∀ c ∈ cs, isAlphanumeric c = true) :
    splitWords cs = [⟨lowerEach cs, false⟩] := by
  have htext : (lowerEach cs).isEmpty = false := by
    rw [List.isEmpty_eq_false_iff]
    exact lowerEach_ne_nil hne
  have hword : splitWords cs = (⟨lowerEach cs, false⟩ : Word).finish := wordsFrom_of_alphanumeric h .empty
  rw [hword, Word.finish, if_neg (by simp [htext])]

namespace WordIndex

/-! ### The words of a message -/

/-- A message is mentioned with what stands in one of its words. -/
theorem mentions_ofMessages {messages : List (String × String)} (hnodup : (messages.map (·.1)).Nodup) {uid text : String}
    (hmessage : (uid, text) ∈ messages) {q : List Char} :
    (ofMessages messages).mentions uid q = true ↔ ∃ word, HasWord text word ∧ containsFolded word.toList q = true := by
  rw [mentions_iff]
  constructor
  · rintro ⟨word, hcontains, huid⟩
    rw [postings_ofMessages hnodup, List.mem_map] at huid
    obtain ⟨m, hm, hsame⟩ := huid
    obtain ⟨hm, hword⟩ := List.mem_filter.1 hm
    -- There is no other message with this uid.
    obtain rfl : m = (uid, text) := List.inj_on_of_nodup_map hnodup hm hmessage hsame
    exact ⟨word, of_decide_eq_true hword, hcontains⟩
  · rintro ⟨word, hword, hcontains⟩
    refine ⟨word, hcontains, ?_⟩
    rw [postings_ofMessages hnodup]
    exact List.mem_map_of_mem (List.mem_filter.2 ⟨hmessage, decide_eq_true hword⟩)

/-- A word of the index and a word of a phrase are compared as they are, since both are in lower case. -/
theorem containsFolded_lower_lowerEach {run other : List Char} (hne : run ≠ []) :
    containsFolded (lower other) (lowerEach run) = true ↔ lowerEach run <:+: lower other := by
  have htext : (lowerEach run).isEmpty = false := by
    rw [List.isEmpty_eq_false_iff]
    exact lowerEach_ne_nil hne
  rw [containsFolded, htext, Bool.false_or, lower_lower, lower_lowerEach, isInfix_iff]

/-- **A message is found again by its words**, by each one without a final sigma. By any word it is found exactly if the
lower-case form of the characters stands in the lower-case form of some word of the message. -/
theorem lookup_longestRun {messages : List (String × String)} (hnodup : (messages.map (·.1)).Nodup) {uid text : String}
    (hmessage : (uid, text) ∈ messages) {run : List Char} (hrun : IsLongestRun isAlphanumeric text.toList run) :
    ∃ found, (ofMessages messages).lookup (splitWords run) false = .ok found ∧
      (¬ HasFinalSigma run → uid ∈ found) ∧
      (uid ∈ found ↔ ∃ other, IsLongestRun isAlphanumeric text.toList other ∧ lowerEach run <:+: lower other) := by
  obtain ⟨found, hlookup, hfound⟩ := exists_lookup (ofMessages messages) (splitWords run)
  have hwords : splitWords run = [⟨lowerEach run, false⟩] := splitWords_of_alphanumeric hrun.ne_nil hrun.passes
  have hiff : uid ∈ found ↔
      ∃ other, IsLongestRun isAlphanumeric text.toList other ∧ lowerEach run <:+: lower other := by
    have hmentioned : uid ∈ found ↔ (ofMessages messages).mentions uid (lowerEach run) = true := by
      rw [hfound uid, hwords]
      simp [maxQueryWords]
    rw [hmentioned, mentions_ofMessages hnodup hmessage]
    constructor
    · rintro ⟨word, ⟨other, hother, rfl⟩, hcontains⟩
      rw [String.toList_ofList, containsFolded_lower_lowerEach hrun.ne_nil] at hcontains
      exact ⟨other, hother, hcontains⟩
    · rintro ⟨other, hother, hstands⟩
      refine ⟨String.ofList (lower other), ⟨other, hother, rfl⟩, ?_⟩
      rw [String.toList_ofList, containsFolded_lower_lowerEach hrun.ne_nil]
      exact hstands
  refine ⟨found, hlookup, ?_, hiff⟩
  intro hsigma
  have hsame : lower run = lowerEach run := lower_eq_lowerEach_iff.2 hsigma
  exact hiff.2 ⟨run, hrun, hsame ▸ List.infix_rfl⟩

/-- A word whose lower-case form is longer, and one with a sigma inside. -/
theorem lookup_longestRun_dotted :
    let messages := [("2", "Ο ΔΡΟΜΟΣ"), ("1", "ΣΟΦΙΑ, İstanbul")]
    (messages.map (·.1)).Nodup ∧ ("1", "ΣΟΦΙΑ, İstanbul") ∈ messages ∧
      (IsLongestRun isAlphanumeric "ΣΟΦΙΑ, İstanbul".toList "İstanbul".toList ∧ ¬ HasFinalSigma "İstanbul".toList ∧
        ∃ found, (ofMessages messages).lookup (splitWords "İstanbul".toList) false = .ok found ∧ "1" ∈ found) ∧
      IsLongestRun isAlphanumeric "ΣΟΦΙΑ, İstanbul".toList "ΣΟΦΙΑ".toList ∧ ¬ HasFinalSigma "ΣΟΦΙΑ".toList ∧
        ∃ found, (ofMessages messages).lookup (splitWords "ΣΟΦΙΑ".toList) false = .ok found ∧ "1" ∈ found := by
  intro messages
  have hnodup : (messages.map (·.1)).Nodup := by decide
  have hmessage : ("1", "ΣΟΦΙΑ, İstanbul") ∈ messages := by decide
  have hcity : IsLongestRun isAlphanumeric "ΣΟΦΙΑ, İstanbul".toList "İstanbul".toList := by decide +kernel
  have hname : IsLongestRun isAlphanumeric "ΣΟΦΙΑ, İstanbul".toList "ΣΟΦΙΑ".toList := by decide +kernel
  have hcitySigma : ¬ HasFinalSigma "İstanbul".toList := by decide +kernel
  have hnameSigma : ¬ HasFinalSigma "ΣΟΦΙΑ".toList := by decide +kernel
  obtain ⟨cities, hcities, hcityFound, -⟩ := lookup_longestRun hnodup hmessage hcity
  obtain ⟨names, hnames, hnameFound, -⟩ := lookup_longestRun hnodup hmessage hname
  exact ⟨hnodup, hmessage, ⟨hcity, hcitySigma, cities, hcities, hcityFound hcitySigma⟩,
    hname, hnameSigma, names, hnames, hnameFound hnameSigma⟩

/-- The word `ΟΔΟΣ` is listed as `οδος` and looked for as `οδοσ`. -/
theorem not_forall_lookup_longestRun :
    ¬ ∀ messages : List (String × String), (messages.map (·.1)).Nodup → ∀ uid text, (uid, text) ∈ messages →
      ∀ run, IsLongestRun isAlphanumeric text.toList run →
        ∃ found, (ofMessages messages).lookup (splitWords run) false = .ok found ∧ uid ∈ found := by
  intro hall
  obtain ⟨found, hlookup, huid⟩ :=
    hall [("1", "ΟΔΟΣ")] (by decide) "1" "ΟΔΟΣ" (by decide) "ΟΔΟΣ".toList (by decide +kernel)
  obtain ⟨others, hothers, hfound⟩ := exists_lookup (ofMessages [("1", "ΟΔΟΣ")]) (splitWords "ΟΔΟΣ".toList)
  rw [hlookup] at hothers
  obtain rfl : found = others := Except.ok.inj hothers
  obtain ⟨-, hmentioned⟩ := (hfound "1").1 huid
  have hmissing : ¬ ∀ w ∈ (splitWords "ΟΔΟΣ".toList).take maxQueryWords,
      (ofMessages [("1", "ΟΔΟΣ")]).mentions "1" w.text = true := by decide +kernel
  exact hmissing hmentioned

end WordIndex

end Search

end MailQuery
