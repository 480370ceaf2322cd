import Mathlib.Algebra.Group.Nat.Defs
import MailQuery.Search.WordIndex

/-!
# What a word index holds and finds

`WordIndex.postings` is the whole of what an index holds; `mem_postings_addMessage` says how one more message
changes it. A message is mentioned with a word if it is listed under some word that contains it
(`mentions_iff`).

A look-up marks messages with one bit for each word of the query. `marked_foldl_markWord` says what the bits mean at any
time of the pass through the vocabulary, and `marked_marks` what they mean after it. From this `exists_lookup` follows: a
message is found exactly if it is mentioned with each of the words that count. `lookup_conjunction` adds that no mask
overflows on the way.
-/

namespace MailQuery.Search

namespace WordIndex

/-! ### Postings -/

theorem mem_post {uid u : String} {uids : List String} : u ∈ post uid uids ↔ u = uid ∨ u ∈ uids := by
  rw [post]
  split
  · next hlast =>
    have hmem : uid ∈ uids := List.mem_of_getLast? hlast
    constructor
    · exact .inr
    · rintro (rfl | h)
      · exact hmem
      · exact h
  · rw [List.mem_append, List.mem_singleton, or_comm]

@[simp] theorem postings_empty (w : String) : empty.postings w = [] := rfl

theorem postings_addWord (index : WordIndex) (uid word w : String) :
    (index.addWord uid word).postings w =
      if w = word then post uid (index.postings word) else index.postings w := by
  rw [postings, addWord, SortedMap.get?_alter]
  split <;> rfl

theorem mem_postings_addWord {index : WordIndex} {uid word w u : String} :
    u ∈ (index.addWord uid word).postings w ↔ (u = uid ∧ w = word) ∨ u ∈ index.postings w := by
  rw [postings_addWord]
  by_cases h : w = word
  · subst h
    rw [if_pos rfl, mem_post]
    simp
  · simp [h]

/-- The message is listed under its words, and everything else stays. -/
theorem mem_postings_addMessage {index : WordIndex} {uid text w u : String} :
    u ∈ (index.addMessage uid text).postings w ↔
      (u = uid ∧ w ∈ bodyWords text) ∨ u ∈ index.postings w := by
  rw [addMessage]
  induction bodyWords text generalizing index with
  | nil => simp
  | cons word words ih =>
    rw [List.foldl_cons, ih, mem_postings_addWord, List.mem_cons]
    constructor
    · rintro (⟨rfl, h⟩ | ⟨rfl, rfl⟩ | h)
      · exact .inl ⟨rfl, .inr h⟩
      · exact .inl ⟨rfl, .inl rfl⟩
      · exact .inr h
    · rintro (⟨rfl, rfl | h⟩ | h)
      · exact .inr (.inl ⟨rfl, rfl⟩)
      · exact .inl ⟨rfl, h⟩
      · exact .inr (.inr h)

/-- Each message that is listed stands in an entry of the vocabulary. -/
theorem mem_postings_iff {index : WordIndex} {w u : String} :
    u ∈ index.postings w ↔ ∃ uids, (w, uids) ∈ index.vocabulary.entries ∧ u ∈ uids := by
  rw [postings]
  constructor
  · intro h
    cases hget : index.vocabulary.get? w with
    | none => simp [hget] at h
    | some uids =>
      rw [hget] at h
      exact ⟨uids, SortedMap.mem_entries_iff.2 hget, h⟩
  · rintro ⟨uids, hmem, h⟩
    rwa [SortedMap.mem_entries_iff.1 hmem]

theorem mentions_iff {index : WordIndex} {uid : String} {q : List Char} :
    index.mentions uid q = true ↔
      ∃ entry, containsFolded entry.toList q = true ∧ uid ∈ index.postings entry := by
  rw [mentions, List.any_eq_true]
  constructor
  · rintro ⟨⟨entry, uids⟩, hmem, h⟩
    obtain ⟨hcontains, huid⟩ := Bool.and_eq_true_iff.1 h
    exact ⟨entry, hcontains, mem_postings_iff.2 ⟨uids, hmem, by simpa using huid⟩⟩
  · rintro ⟨entry, hcontains, huid⟩
    obtain ⟨uids, hmem, huid⟩ := mem_postings_iff.1 huid
    exact ⟨(entry, uids), hmem, by simp [hcontains, huid]⟩

/-! ### Marks -/

/-- Whether a message is marked with the word at a place of the query. -/
def Marked (marks : Marks) (uid : String) (place : Nat) : Prop :=
  ((marks.get? uid).getD 0).toNat.testBit place = true

theorem toNat_wordBit {place : Nat} (h : place < 64) : (wordBit place).toNat = Nat.pow 2 place := by
  have hplace : place.toUInt64.toNat = place := by
    rw [Nat.toUInt64_eq, UInt64.toNat_ofNat']
    omega
  -- A shift of a word counts places modulo 64, which changes nothing here.
  rw [wordBit, UInt64.toNat_shiftLeft, hplace, Nat.mod_eq_of_lt h, UInt64.toNat_one,
    Nat.one_shiftLeft]
  exact Nat.mod_eq_of_lt (Nat.pow_lt_pow_right (by omega) h)

theorem marked_empty {uid : String} {place : Nat} : ¬ Marked ∅ uid place := by
  simp [Marked]

theorem marked_mark {bit place : Nat} (hbit : bit < 64) {marks : Marks} {u uid : String} :
    Marked (mark (wordBit bit) marks u) uid place ↔ Marked marks uid place ∨ (uid = u ∧ place = bit) := by
  rw [Marked, mark, SortedMap.get?_alter]
  by_cases h : uid = u
  · subst h
    rw [if_pos rfl, Option.getD_some, UInt64.toNat_or, Nat.testBit_or, toNat_wordBit hbit,
      show Nat.pow 2 bit = 2 ^ bit from rfl, Nat.testBit_two_pow, Bool.or_eq_true, decide_eq_true_iff]
    exact or_congr Iff.rfl ⟨fun h => ⟨rfl, h.symm⟩, fun h => h.2.symm⟩
  · rw [if_neg h]
    simp [Marked, h]

theorem marked_foldl_mark {bit place : Nat} (hbit : bit < 64) {marks : Marks} {uids : List String}
    {uid : String} :
    Marked (uids.foldl (mark (wordBit bit)) marks) uid place ↔
      Marked marks uid place ∨ (uid ∈ uids ∧ place = bit) := by
  induction uids generalizing marks with
  | nil => simp
  | cons u uids ih =>
    rw [List.foldl_cons, ih, marked_mark hbit, List.mem_cons]
    constructor
    · rintro ((h | ⟨rfl, rfl⟩) | ⟨h, rfl⟩)
      · exact .inl h
      · exact .inr ⟨.inl rfl, rfl⟩
      · exact .inr ⟨.inr h, rfl⟩
    · rintro (h | ⟨rfl | h, rfl⟩)
      · exact .inl (.inl h)
      · exact .inl (.inr ⟨rfl, rfl⟩)
      · exact .inr ⟨h, rfl⟩

theorem marked_markWord {query : List (List Char × Nat)} (hquery : ∀ q ∈ query, q.2 < 64) {marks : Marks}
    {entry : String × List String} {uid : String} {place : Nat} :
    Marked (markWord query marks entry) uid place ↔ Marked marks uid place ∨
      ∃ q, (q, place) ∈ query ∧ containsFolded entry.1.toList q = true ∧ uid ∈ entry.2 := by
  rw [markWord]
  induction query generalizing marks with
  | nil => simp
  | cons q query ih =>
    obtain ⟨word, bit⟩ := q
    have hbit : bit < 64 := hquery _ (List.mem_cons_self ..)
    -- One word of the query marks the messages of the entry with its own bit, or none of them.
    have hstep : ∀ uid place, Marked (if containsFolded entry.1.toList word = true then
        entry.2.foldl (mark (wordBit bit)) marks else marks) uid place ↔ Marked marks uid place ∨
          (containsFolded entry.1.toList word = true ∧ uid ∈ entry.2 ∧ place = bit) := by
      intro uid place
      split
      · next h => rw [marked_foldl_mark hbit]; simp [h]
      · next h => simp [h]
    rw [List.foldl_cons, ih (fun q hq => hquery q (List.mem_cons_of_mem _ hq)), hstep]
    constructor
    · rintro ((h | ⟨hcontains, huid, rfl⟩) | ⟨q, hq, h⟩)
      · exact .inl h
      · exact .inr ⟨word, List.mem_cons_self .., hcontains, huid⟩
      · exact .inr ⟨q, List.mem_cons_of_mem _ hq, h⟩
    · rintro (h | ⟨q, hq, hcontains, huid⟩)
      · exact .inl (.inl h)
      · rcases List.mem_cons.1 hq with hq | hq
        · cases hq
          exact .inl (.inr ⟨hcontains, huid, rfl⟩)
        · exact .inr ⟨q, hq, hcontains, huid⟩

/-- At any time of the pass a message is marked with the words that stand in an entry so far under which it is listed. -/
theorem marked_foldl_markWord {words : List (List Char)} (hwords : words.length ≤ 64)
    {entries : List (String × List String)} {marks : Marks} {uid : String} {place : Nat} :
    Marked (entries.foldl (markWord words.zipIdx) marks) uid place ↔ Marked marks uid place ∨
      ∃ entry ∈ entries, ∃ q, words[place]? = some q ∧ containsFolded entry.1.toList q = true ∧ uid ∈ entry.2 := by
  have hplaces : ∀ q ∈ words.zipIdx, q.2 < 64 := fun q hq =>
    Nat.lt_of_lt_of_le (List.snd_lt_of_mem_zipIdx hq) (by simpa using hwords)
  induction entries generalizing marks with
  | nil => simp
  | cons entry entries ih =>
    rw [List.foldl_cons]
    refine ih.trans ?_
    rw [marked_markWord hplaces]
    simp only [List.mem_cons, exists_eq_or_imp, or_assoc, List.mem_zipIdx_iff_getElem?]

/-- After the pass through the vocabulary a message is marked with the words that it is mentioned with. -/
theorem marked_marks {index : WordIndex} {words : List (List Char)} (hwords : words.length ≤ 64)
    {uid : String} {place : Nat} :
    Marked (index.marks words) uid place ↔
      ∃ q, words[place]? = some q ∧ index.mentions uid q = true := by
  rw [marks, marked_foldl_markWord hwords]
  constructor
  · rintro (h | ⟨entry, hentry, q, hq, hcontains, huid⟩)
    · exact absurd h marked_empty
    · exact ⟨q, hq, mentions_iff.2 ⟨entry.1, hcontains, mem_postings_iff.2 ⟨entry.2, hentry, huid⟩⟩⟩
  · rintro ⟨q, hq, hmentions⟩
    obtain ⟨entry, hcontains, huid⟩ := mentions_iff.1 hmentions
    obtain ⟨uids, hentry, huid⟩ := mem_postings_iff.1 huid
    exact .inr ⟨(entry, uids), hentry, q, hq, hcontains, huid⟩

/-! ### Looking up -/

theorem testBit_allBits {count place : Nat} (h : count ≤ maxQueryWords) :
    (allBits count).toNat.testBit place = decide (place < count) := by
  have hcount : count < 64 := Nat.lt_of_le_of_lt h (by decide)
  have hone : (1 : UInt64) ≤ wordBit count := by
    rw [UInt64.le_iff_toNat_le, toNat_wordBit hcount]
    exact Nat.two_pow_pos count
  rw [allBits, UInt64.toNat_sub_of_le _ _ hone, toNat_wordBit hcount]
  exact Nat.testBit_two_pow_sub_one ..

/-- All bits are set exactly when the message is mentioned with all words. -/
theorem bits_eq_allBits_iff {index : WordIndex} {words : List (List Char)}
    (hwords : words.length ≤ maxQueryWords) {uid : String} :
    ((index.marks words).get? uid).getD 0 = allBits words.length ↔
      ∀ q ∈ words, index.mentions uid q = true := by
  have hmarked : ∀ place, (((index.marks words).get? uid).getD 0).toNat.testBit place = true ↔
      ∃ q, words[place]? = some q ∧ index.mentions uid q = true := fun place =>
    marked_marks (Nat.le_trans hwords (by decide))
  constructor
  · intro h q hq
    obtain ⟨place, hplace, rfl⟩ := List.mem_iff_getElem.1 hq
    have hbit := (hmarked place).1 (by rw [h, testBit_allBits hwords]; exact decide_eq_true hplace)
    obtain ⟨q, hq, hmentions⟩ := hbit
    rw [List.getElem?_eq_getElem hplace] at hq
    rwa [Option.some.inj hq]
  · intro h
    -- Two words are equal if they have the same bits, also at places behind the last word of the query.
    refine UInt64.toNat_inj.1 (Nat.eq_of_testBit_eq fun place => ?_)
    rw [testBit_allBits hwords, Bool.eq_iff_iff, hmarked, decide_eq_true_iff]
    constructor
    · rintro ⟨q, hq, -⟩
      exact (List.getElem?_eq_some_iff.1 hq).1
    · intro hplace
      exact ⟨words[place], List.getElem?_eq_getElem hplace, h _ (List.getElem_mem hplace)⟩

theorem allBits_ne_zero {count : Nat} (hpos : 0 < count) (h : count ≤ maxQueryWords) :
    allBits count ≠ 0 := by
  intro hzero
  have hbit : (allBits count).toNat.testBit 0 = decide (0 < count) := testBit_allBits h
  rw [hzero, decide_eq_true hpos] at hbit
  cases hbit

/-- **A look-up finds the messages that are mentioned with each word that counts.** -/
theorem exists_lookup (index : WordIndex) (query : Query) :
    ∃ found, index.lookup query false = .ok found ∧ ∀ uid, uid ∈ found ↔
      query ≠ [] ∧ ∀ w ∈ query.take maxQueryWords, index.mentions uid w.text = true := by
  let words := (query.map Word.text).take maxQueryWords
  have hwords : words.length ≤ maxQueryWords := List.length_take_le ..
  have hmap : words = (query.take maxQueryWords).map Word.text := (List.map_take ..).symm
  cases hempty : words.isEmpty with
  | true =>
    have hnil : query = [] := by
      rw [List.isEmpty_iff, List.take_eq_nil_iff, List.map_eq_nil_iff] at hempty
      exact hempty.resolve_left (by decide)
    exact ⟨∅, by rw [lookup]; exact if_pos hempty, by simp [hnil]⟩
  | false =>
    have hpos : 0 < words.length := by
      rw [List.length_pos_iff]
      rintro hnil
      rw [hnil] at hempty
      cases hempty
    refine ⟨_, by rw [lookup]; exact (if_neg (by rw [hempty]; decide)).trans (if_neg (by simp)), fun uid => ?_⟩
    -- A message without any bit has no entry. It is not found either, since there is a word to be found.
    have hbits : (uid ∈ ((index.marks words).entries.filter (·.2 == allBits words.length)).map (·.1)) ↔
        ((index.marks words).get? uid).getD 0 = allBits words.length := by
      simp only [List.mem_map, List.mem_filter, beq_iff_eq, Prod.exists, exists_and_right,
        exists_eq_right, SortedMap.mem_entries_iff, exists_eq_right]
      cases (index.marks words).get? uid with
      | none => simp [Ne.symm (allBits_ne_zero hpos hwords)]
      | some bits => simp
    have hne : query ≠ [] := by
      rintro rfl
      cases hempty
    have hall : (∀ q ∈ words, index.mentions uid q = true) ↔
        ∀ w ∈ query.take maxQueryWords, index.mentions uid w.text = true := by
      rw [hmap]
      exact List.forall_mem_map
    rw [TextSet.mem_ofList, hbits, bits_eq_allBits_iff hwords, hall]
    exact (and_iff_right hne).symm

/-! ### Masks -/

/-- The masks of a query are numbers of as many bits as it has words that count, so that none of the operations on them
overflows. -/
structure MasksFit (index : WordIndex) (words : List (List Char)) : Prop where
  /-- A shift does not lose its bit. -/
  shift : ∀ place ≤ words.length, (wordBit place).toNat = 2 ^ place
  /-- The subtraction does not go below zero. -/
  full : (allBits words.length).toNat = 2 ^ words.length - 1
  /-- After any number of words of the vocabulary, no mask has a bit that stands for no word. -/
  mask : ∀ count uid bits, ((index.vocabulary.entries.take count).foldl (markWord words.zipIdx) ∅).get? uid = some bits →
    bits.toNat < 2 ^ words.length

theorem masksFit (index : WordIndex) {words : List (List Char)} (hwords : words.length ≤ maxQueryWords) :
    index.MasksFit words where
  shift place hplace := by
    have hlt : place < 64 := Nat.lt_of_le_of_lt (Nat.le_trans hplace hwords) (by decide)
    exact toNat_wordBit hlt
  full := by
    refine Nat.eq_of_testBit_eq fun place => ?_
    rw [testBit_allBits hwords, Nat.testBit_two_pow_sub_one]
  mask count uid bits hbits := by
    refine Nat.lt_pow_two_of_testBit _ fun place hplace => Bool.eq_false_iff.2 fun hbit => ?_
    have hmarked : Marked ((index.vocabulary.entries.take count).foldl (markWord words.zipIdx) ∅) uid place := by
      rw [Marked, hbits, Option.getD_some]
      exact hbit
    -- A bit is set for a word at its place only, and there is no word at this one.
    rcases (marked_foldl_markWord (Nat.le_trans hwords (by decide))).1 hmarked with hempty | ⟨_, _, q, hq, _⟩
    · exact marked_empty hempty
    · rw [List.getElem?_eq_none hplace] at hq
      cases hq

/-- **A look-up is a conjunction.** Without a word nothing is found. Otherwise a message is found if it is mentioned with
each of the first words of the query, as many as count, and the masks that find it do not overflow. -/
theorem lookup_conjunction (index : WordIndex) (query : Query) :
    ∃ found, index.lookup query false = .ok found ∧ (query = [] → found = ∅) ∧
      (query ≠ [] → ∀ uid, uid ∈ found ↔
        ∀ w ∈ query.take (min maxQueryWords query.length), index.mentions uid w.text = true) ∧
      index.MasksFit ((query.map Word.text).take maxQueryWords) := by
  obtain ⟨found, hlookup, hfound⟩ := exists_lookup index query
  refine ⟨found, hlookup, ?_, ?_, index.masksFit (List.length_take_le ..)⟩
  · intro hnil
    refine TextSet.ext fun uid => ?_
    rw [hfound uid]
    simp [hnil]
  · intro hne uid
    have htake : query.take (min maxQueryWords query.length) = query.take maxQueryWords := by
      rw [List.take_eq_take_iff]
      omega
    rw [hfound uid, htake]
    exact and_iff_right hne

end WordIndex

end MailQuery.Search
