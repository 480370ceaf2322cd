import Mathlib.Data.List.Induction
import MailQuery.Proofs.WordIndex.Lookup
import MailQuery.Proofs.WordIndex.Runs

/-!
# What is in a word index

An index is built message by message, and a word that stands in a message more than once is listed with it once. Whether
it is listed already is seen from the last message of the word alone. This is enough, since a message that comes next was
not listed before (`postings_addMessage_of_new`).

- `IsLongestRun`: a run of letters and numbers that cannot be made longer. A text has a word if the word is the lower-case
  form of such a run (`HasWord`, `mem_bodyWords_iff`).
- `records_ofMessages`: the words of an index are those of its messages, and each word lists the messages that have
  it, once and in their order.
-/

namespace MailQuery

open Text

namespace Text

/-- A part of a text whose characters pass a test. It is not empty, and the characters right before and behind it do
not pass. -/
structure IsLongestRun (p : Char → Bool) (cs run : List Char) : Prop where
  ne_nil : run ≠ []
  passes : ∀ c ∈ run, p c = true
  longest : ∃ before after, cs = before ++ run ++ after ∧ (∀ c ∈ before.getLast?, p c = false) ∧
    ∀ c ∈ after.head?, p c = false

theorem mem_runsWithout_iff {p : Char → Bool} {cs run : List Char} :
    run ∈ runsWithout (!p ·) cs ↔ IsLongestRun p cs run := by
  simp only [runsWithout, List.mem_filter, mem_splitOn_iff, Bool.not_eq_false', Bool.not_eq_true',
    List.isEmpty_eq_false_iff]
  constructor
  · rintro ⟨⟨hpasses, hlongest⟩, hne⟩
    exact ⟨hne, hpasses, hlongest⟩
  · rintro ⟨hne, hpasses, hlongest⟩
    exact ⟨⟨hpasses, hlongest⟩, hne⟩

end Text

theorem SortedMap.mem_keys_iff {β : Type} {m : SortedMap β} {key : String} :
    key ∈ m.keys ↔ (m.get? key).isSome = true := by
  rw [keys, List.mem_map, Option.isSome_iff_exists]
  constructor
  · rintro ⟨⟨k, value⟩, hentry, rfl⟩
    exact ⟨value, mem_entries_iff.1 hentry⟩
  · rintro ⟨value, hvalue⟩
    exact ⟨(key, value), mem_entries_iff.2 hvalue, rfl⟩

namespace Search

namespace WordIndex

/-- A word stands in a text: it is the lower-case form of a longest run of letters and numbers. -/
def HasWord (text word : String) : Prop :=
  ∃ run, IsLongestRun isAlphanumeric text.toList run ∧ String.ofList (lower run) = word

theorem mem_bodyWords_iff {text word : String} : word ∈ bodyWords text ↔ HasWord text word := by
  simp only [bodyWords, List.mem_map, mem_runsWithout_iff, HasWord]

instance (text word : String) : Decidable (HasWord text word) := decidable_of_iff _ mem_bodyWords_iff

/-- The index of a list of messages, given by uid and text. -/
def ofMessages (messages : List (String × String)) : WordIndex :=
  messages.foldl (fun index m => index.addMessage m.1 m.2) .empty

theorem ofMessages_concat (messages : List (String × String)) (uid text : String) :
    ofMessages (messages ++ [(uid, text)]) = (ofMessages messages).addMessage uid text := by
  rw [ofMessages, List.foldl_append]
  rfl

/-! ### One more message -/

theorem mem_keys_addWord {index : WordIndex} {uid word w : String} :
    w ∈ (index.addWord uid word).vocabulary.keys ↔ w = word ∨ w ∈ index.vocabulary.keys := by
  rw [SortedMap.mem_keys_iff, SortedMap.mem_keys_iff, addWord, SortedMap.get?_alter]
  by_cases h : w = word
  · simp [h]
  · simp [h]

theorem mem_keys_addMessage {index : WordIndex} {uid text w : String} :
    w ∈ (index.addMessage uid text).vocabulary.keys ↔ w ∈ bodyWords text ∨ w ∈ index.vocabulary.keys := by
  rw [addMessage]
  induction bodyWords text generalizing index with
  | nil => simp
  | cons word words ih =>
    rw [List.foldl_cons, ih, mem_keys_addWord, List.mem_cons, or_left_comm, or_assoc]

/-- A message that was not listed before is listed last under its words, and once. -/
theorem postings_addMessage_of_new {index : WordIndex} {uid : String} (hnew : ∀ w, uid ∉ index.postings w)
    (text w : String) :
    (index.addMessage uid text).postings w =
      index.postings w ++ if w ∈ bodyWords text then [uid] else [] := by
  rw [addMessage]
  -- The induction is on the words that have been added: the message is the last one of each of them, and of no other.
  induction bodyWords text using List.reverseRecOn with
  | nil => simp
  | append_singleton words word ih =>
    rw [List.foldl_append, List.foldl_cons, List.foldl_nil, postings_addWord]
    by_cases hw : w = word
    · subst hw
      rw [if_pos rfl, ih, if_pos (List.mem_append_right _ (List.mem_singleton.2 rfl)), post]
      by_cases hword : w ∈ words
      · rw [if_pos hword, if_pos List.getLast?_concat]
      · rw [if_neg hword, List.append_nil, if_neg fun hlast => hnew w (List.mem_of_getLast? hlast)]
    · rw [if_neg hw, ih]
      simp [hw]

/-! ### All messages -/

theorem mem_keys_ofMessages {messages : List (String × String)} {w : String} :
    w ∈ (ofMessages messages).vocabulary.keys ↔ ∃ m ∈ messages, HasWord m.2 w := by
  induction messages using List.reverseRecOn with
  | nil => simp [ofMessages, empty, SortedMap.keys, EmptyCollection.emptyCollection, SortedMap.empty]
  | append_singleton messages m ih =>
    obtain ⟨uid, text⟩ := m
    rw [ofMessages_concat, mem_keys_addMessage, ih, mem_bodyWords_iff]
    simp only [List.mem_append, List.mem_singleton, or_and_right, exists_or, exists_eq_left]
    exact or_comm

/-- Each word lists the messages that have it, once and in their order. -/
theorem postings_ofMessages {messages : List (String × String)} (hnodup : (messages.map (·.1)).Nodup) (w : String) :
    (ofMessages messages).postings w = (messages.filter fun m => HasWord m.2 w).map (·.1) := by
  induction messages using List.reverseRecOn generalizing w with
  | nil => rfl
  | append_singleton messages m ih =>
    obtain ⟨uid, text⟩ := m
    rw [List.map_append, List.nodup_append] at hnodup
    obtain ⟨hmessages, -, hdisjoint⟩ := hnodup
    have hpostings := ih hmessages
    -- A word lists uids of the messages so far only, and the uid of the next message is none of them.
    have hnew : ∀ v, uid ∉ (ofMessages messages).postings v := by
      intro v hv
      rw [hpostings] at hv
      obtain ⟨m, hm, hsame⟩ := List.mem_map.1 hv
      exact hdisjoint m.1 (List.mem_map_of_mem (List.mem_filter.1 hm).1) uid (List.mem_singleton.2 rfl) hsame
    rw [ofMessages_concat, postings_addMessage_of_new hnew, hpostings, List.filter_append, List.map_append]
    by_cases hword : HasWord text w
    · simp [mem_bodyWords_iff, hword]
    · simp [mem_bodyWords_iff, hword]

/-- **An index records the words of its messages.** A word is in the vocabulary if some message has it. It lists the
messages that have it, in their order and each of them once. -/
theorem records_ofMessages {messages : List (String × String)} (hnodup : (messages.map (·.1)).Nodup) (w : String) :
    (w ∈ (ofMessages messages).vocabulary.keys ↔ ∃ m ∈ messages, HasWord m.2 w) ∧
      (ofMessages messages).postings w = (messages.filter fun m => HasWord m.2 w).map (·.1) ∧
      ((ofMessages messages).postings w).Nodup := by
  have hpostings := postings_ofMessages hnodup w
  refine ⟨mem_keys_ofMessages, hpostings, ?_⟩
  rw [hpostings]
  exact hnodup.sublist (List.filter_sublist.map _)

/-- A word that stands in two messages, in one of them twice and in another case, and a sign that is no word. -/
theorem records_ofMessages_repeated :
    let messages := [("2", "Ärger, ÄRGER: 42!"), ("1", "no 42nd"), ("3", "ärger?")]
    (messages.map (·.1)).Nodup ∧
      ("ärger" ∈ (ofMessages messages).vocabulary.keys ∧ "!" ∉ (ofMessages messages).vocabulary.keys) ∧
      (ofMessages messages).postings "ärger" = ["2", "3"] ∧ (ofMessages messages).postings "42" = ["2"] := by
  intro messages
  have hnodup : (messages.map (·.1)).Nodup := by decide
  have hrecords := records_ofMessages hnodup
  refine ⟨hnodup, ⟨?_, ?_⟩, ?_, ?_⟩
  · rw [(hrecords _).1]
    decide +kernel
  · rw [(hrecords _).1]
    decide +kernel
  · rw [(hrecords _).2.1]
    decide +kernel
  · rw [(hrecords _).2.1]
    decide +kernel

end WordIndex

end Search

end MailQuery
