import Mathlib.Data.List.Basic
import MailQuery.Proofs.Routes.Subsets
import MailQuery.Proofs.Threads.Expansions
import MailQuery.Proofs.WordIndex.Accelerator

/-!
# Threads of a subset, with an index and without

Without a word index the bodies of the subset are gone through for a phrase. With one, a phrase of simple words is looked up
in the whole index, whatever the search is about (`run_findQuery_on`). For the phrase by itself this makes no difference, as
the result is cut down to the subset in the end. The threads are expanded before that, so that a message outside of the
subset can bring messages into it.

The index therefore finds at least what is found without it, and nothing else exactly if the subset is self-contained
(`Session.search_threads_subset`): what is brought into it from outside is brought in from inside as well.
-/

namespace MailQuery

open Mail Search Text

namespace Search

/-! ### Phrases -/

/-- A phrase that is looked up in a word index and not looked for in the bodies: it has words, and no complex ones. -/
def IsLookedUp (phrase : String) : Prop := splitWords phrase.toList ≠ [] ∧ (splitWords phrase.toList).complex = false

instance (phrase : String) : Decidable (IsLookedUp phrase) := instDecidableAnd

/-- The simple words of a phrase are no more than can be looked up. -/
def FewSimpleWords (phrase : String) : Prop :=
  ((splitWords phrase.toList).filter (!·.complex)).length ≤ WordIndex.maxQueryWords

theorem FewSimpleWords.length_le {phrase : String} (h : FewSimpleWords phrase)
    (hsimple : (splitWords phrase.toList).complex = false) :
    (splitWords phrase.toList).length ≤ WordIndex.maxQueryWords := by
  have hall : (splitWords phrase.toList).filter (!·.complex) = splitWords phrase.toList := by
    rw [List.filter_eq_self]
    intro w hw
    have hw : w.complex = false := by simpa using List.any_eq_false.1 hsimple w hw
    rw [hw]
    rfl
  unfold FewSimpleWords at h
  rwa [hall] at h

section

variable {s : Scope} {index : WordIndex} {content : String → Except SearchError Message} {phrase : String}

/-- **A simple query is found in the whole folder**, and any other one among the messages that the search is about. -/
theorem run_findQuery_on (h : s.Indexed index content) {query : Query} (hne : query ≠ [])
    (hwords : ∀ w ∈ query, w.Plain ∧ w.text ≠ [])
    (hlength : query.complex = false → query.length ≤ WordIndex.maxQueryWords) (among : List String) :
    ∃ hits, (findQuery (s.on among) query).run content = .ok hits ∧ ∀ uid, uid ∈ hits ↔
      (query.complex = true → uid ∈ among) ∧ (content uid).toOption.any (bodyHasWords query) = true := by
  cases hcomplex : query.complex with
  | false =>
    have hquery : query.Plain := ⟨hne, hwords, hlength hcomplex⟩
    obtain ⟨hits, hrun, hhits⟩ := run_findQuery h hquery
    have hsame : findQuery (s.on among) query = findQuery s query := by
      have hindex : indexFor? (s.on among) query = some index := by
        rw [indexFor?, hcomplex, if_neg Bool.false_ne_true]
        exact h.words
      have hindex' : indexFor? s query = some index := hindex
      rw [findQuery, findQuery, hindex, hindex']
    refine ⟨hits, by rw [hsame, hrun], fun uid => ?_⟩
    rw [hhits]
    constructor
    · rintro ⟨-, hbody⟩
      exact ⟨fun hcontra => (by cases hcontra), hbody⟩
    · rintro ⟨-, hbody⟩
      exact ⟨h.mem_working hbody, hbody⟩
  | true =>
    obtain ⟨uids, hcandidates, hkept⟩ := exists_candidates h hwords
    obtain ⟨e, herror⟩ | ⟨keep, hkeep⟩ := exists_candidates_on s query
    · rw [herror] at hcandidates
      cases hcandidates
    · -- The index leaves over the same messages, of those that the search is about.
      obtain rfl : uids = s.working.filter keep := Except.ok.inj (hcandidates.symm.trans (hkeep s.working))
      obtain ⟨hits, hrun, hhits⟩ := run_scanBodies h.optional query (among.filter keep)
      have hscan : findQuery (s.on among) query = scanBodies query (among.filter keep) := by
        rw [findQuery, indexFor?, hcomplex, if_pos rfl]
        dsimp only
        rw [hkeep among]
      refine ⟨hits, by rw [hscan, hrun], fun uid => ?_⟩
      rw [hhits, List.mem_filter]
      constructor
      · rintro ⟨⟨huid, -⟩, hbody⟩
        exact ⟨fun _ => huid, hbody⟩
      · rintro ⟨huid, hbody⟩
        have hkeeps : uid ∈ s.working.filter keep := (hkept uid hbody).2 (h.mem_working hbody)
        exact ⟨⟨huid rfl, (List.mem_filter.1 hkeeps).2⟩, hbody⟩

/-- The test of bodies for one phrase that has words is one query. -/
theorem run_bodyContains_singleton (hne : splitWords phrase.toList ≠ []) {hits : UidSet}
    (hrun : (findQuery s (splitWords phrase.toList)).run content = .ok hits) :
    (bodyContains s none [phrase]).run content = .ok (.uids hits) := by
  have hphrase : [phrase] ≠ [""] := by
    intro hempty
    obtain rfl : phrase = "" := List.head_eq_of_cons_eq hempty
    exact hne rfl
  have hqueries : ([phrase].map fun p => splitWords p.toList).filter (!·.isEmpty) = [splitWords phrase.toList] := by
    simp [hne]
  have hunion : hits.union ∅ = hits := by
    refine TextSet.ext fun uid => ?_
    simp [TextSet.mem_union]
  rw [bodyContains, if_neg hphrase, hqueries]
  dsimp only
  rw [Reading.run_bind, findAnyQuery, Reading.run_bind, hrun, ok_bind, findAnyQuery, Reading.pure_bind, hunion]
  rfl

/-- The messages of a subset that a phrase is found in, by going through the bodies and with the index. -/
theorem exists_bodyContains_on (h : s.Indexed index content) (hascii : IsAscii phrase.toList) (hfew : FewSimpleWords phrase)
    (among : List String) : ∃ scanned looked : UidSet,
      (bodyContains (s.on among).withoutIndex none [phrase]).run content = .ok (.uids scanned) ∧
      (bodyContains (s.on among) none [phrase]).run content = .ok (.uids looked) ∧
      (¬ IsLookedUp phrase → scanned = looked) ∧
      (IsLookedUp phrase → ∀ uid,
        (uid ∈ looked ↔ (content uid).toOption.any (bodyHasWords (splitWords phrase.toList)) = true) ∧
        (uid ∈ scanned ↔ uid ∈ among ∧ uid ∈ looked)) := by
  by_cases hnil : splitWords phrase.toList = []
  · -- A phrase without words is in all bodies if it is empty, and in none if it is blank.
    have hnot : ¬ IsLookedUp phrase := fun hlooked => hlooked.1 hnil
    by_cases hempty : phrase = ""
    · subst hempty
      have hsame : ((s.on among).withoutIndex.judge none fun _ => pure true).run content =
          ((s.on among).judge none fun _ => pure true).run content := judge_withoutIndex (fun _ => rfl) none
      obtain ⟨hits, hselect, -⟩ := (s.on among).exists_selectFrom (fun _ => true) among
      have hlooked : ((s.on among).judge none fun _ => pure true).run content = .ok (.uids hits) := by
        rw [Scope.judge, Scope.select]
        show ((s.on among).selectFrom (fun _ => pure true) among >>= fun hits => pure (Value.uids hits)).run content = _
        rw [hselect]
        rfl
      exact ⟨hits, hits, hsame.trans hlooked, hlooked, fun _ => rfl, fun hlooked => absurd hlooked hnot⟩
    · have hphrase : [phrase] ≠ [""] := fun hcontra => hempty (List.head_eq_of_cons_eq hcontra)
      have hnone : ∀ s' : Scope, (bodyContains s' none [phrase]).run content = .ok (.uids (∅ : UidSet)) := by
        intro s'
        have hqueries : ([phrase].map fun p => splitWords p.toList).filter (!·.isEmpty) = [] := by simp [hnil]
        rw [bodyContains, if_neg hphrase, hqueries]
        rfl
      exact ⟨∅, ∅, hnone _, hnone _, fun _ => rfl, fun hlooked => absurd hlooked hnot⟩
  · have hwords : ∀ w ∈ splitWords phrase.toList, w.Plain ∧ w.text ≠ [] := plain_splitWords hascii
    obtain ⟨scanned, hscan, hscanned⟩ := run_findQuery_withoutIndex h.optional (s.on among) (splitWords phrase.toList)
    obtain ⟨looked, hlook, hlooked⟩ := run_findQuery_on h hnil hwords hfew.length_le among
    refine ⟨scanned, looked, run_bodyContains_singleton hnil hscan, run_bodyContains_singleton hnil hlook, ?_, ?_⟩
    · intro hnot
      have hcomplex : (splitWords phrase.toList).complex = true := by
        rw [← Bool.not_eq_false]
        exact fun hsimple => hnot ⟨hnil, hsimple⟩
      refine TextSet.ext fun uid => ?_
      rw [hscanned, hlooked]
      constructor
      · rintro ⟨huid, hbody⟩
        exact ⟨fun _ => huid, hbody⟩
      · rintro ⟨huid, hbody⟩
        exact ⟨huid hcomplex, hbody⟩
    · rintro ⟨-, hsimple⟩ uid
      have hfound : uid ∈ looked ↔ (content uid).toOption.any (bodyHasWords (splitWords phrase.toList)) = true := by
        rw [hlooked, hsimple]
        simp
      refine ⟨hfound, ?_⟩
      rw [hscanned, hfound]
      rfl

/-- The threads of the messages that a phrase is found in. -/
theorem run_eval_threads {how : String} {seeds : UidSet}
    (hrun : (bodyContains s none [phrase]).run content = .ok (.uids seeds)) :
    (eval s none (.call "match-threads" [.string how, .call "body-contains" [.string phrase]])).run content =
      .ok (.uids ((Expansion.ofName how).expand (Forest.ofSummaries s.catalog.summaries) seeds)) := by
  have hbody : (eval s none (.call "body-contains" [.string phrase])).run content = .ok (.uids seeds) := by
    rw [eval_strict (f := .bodyContains) (by decide +kernel) trivial, evalAll_cons, eval, Reading.pure_bind, evalAll]
    exact hrun
  rw [eval_matchThreads_cons (by decide +kernel), eval, Reading.pure_bind]
  dsimp only
  rw [evalAll_cons, Reading.run_bind, Reading.run_bind, hbody]
  rfl

end

/-! ### Threads -/

namespace Expansion

/-- A message of a seed in an expanded set: the seed itself, unless the solitary ones are sought, or a relative. -/
def Brings (e : Expansion) (f : Forest) (seed uid : String) : Prop := (e ≠ single ∧ uid = seed) ∨ uid ∈ e.relatedUids f seed

theorem mem_expand_iff_brings {e : Expansion} {f : Forest} {seeds : UidSet} {uid : String} :
    uid ∈ e.expand f seeds ↔ ∃ seed ∈ seeds, e.Brings f seed uid := by
  rw [mem_expand]
  constructor
  · rintro (⟨hsingle, huid⟩ | ⟨seed, hseed, huid⟩)
    · exact ⟨uid, huid, .inl ⟨hsingle, rfl⟩⟩
    · exact ⟨seed, hseed, .inr huid⟩
  · rintro ⟨seed, hseed, ⟨hsingle, rfl⟩ | huid⟩
    · exact .inl ⟨hsingle, hseed⟩
    · exact .inr ⟨seed, hseed, huid⟩

theorem uid?_of_find? {f : Forest} {uid : String} {i : Nat} (h : f.find? uid = some i) : f.uid? i = some uid := by
  obtain ⟨hi, huid, -⟩ := List.findIdx?_eq_some_iff_getElem.1 h
  rw [Forest.uid?, List.getElem?_eq_getElem hi]
  simpa using huid

/-- What a seed brings in from the threads of some messages is one of them. -/
theorem mem_of_mem_relatedUids {e : Expansion} {summaries : List Summary} {seed uid : String}
    (h : uid ∈ e.relatedUids (Forest.ofSummaries summaries) seed) : uid ∈ summaries.map (·.uid) := by
  obtain ⟨-, huids⟩ := Forest.grounded_ofSummaries summaries
  unfold relatedUids at h
  split at h
  · obtain ⟨j, -, hj⟩ := List.mem_filterMap.1 h
    obtain ⟨node, hnode, rfl⟩ := Option.map_eq_some_iff.1 hj
    rw [← huids]
    exact List.mem_map_of_mem (List.mem_of_getElem? hnode)
  · exact absurd h List.not_mem_nil

/-- Without relatives a seed brings in nothing but itself. -/
theorem eq_of_brings {e : Expansion} {f : Forest} {seed uid : String} (he : e = none ∨ e = single)
    (h : e.Brings f seed uid) : uid = seed := by
  obtain ⟨-, rfl⟩ | h := h
  · rfl
  · unfold relatedUids at h
    split at h
    · next i hi =>
      obtain rfl | rfl := he
      · exact absurd h List.not_mem_nil
      · obtain ⟨j, hj, hju⟩ := List.mem_filterMap.1 h
        unfold related at hj
        dsimp only at hj
        split at hj
        · rw [List.mem_singleton.1 hj, uid?_of_find? hi] at hju
          exact (Option.some.inj hju).symm
        · exact absurd hj List.not_mem_nil
    · exact absurd h List.not_mem_nil

end Expansion

end Search

namespace Folder

variable {f : Folder} {e : Expansion} {phrase : String} {subset : List String}

/-- The threads of the messages of a folder. -/
def forest (f : Folder) : Forest := Forest.ofSummaries f.catalog.summaries

/-- The body of a message has all words of a phrase. -/
def HasPhrase (f : Folder) (phrase uid : String) : Prop :=
  ∃ m, (f.fetch uid).1 = .ok m ∧ bodyHasWords (splitWords phrase.toList) m = true

/-- What a message with the phrase brings into a subset from outside, another one brings in from inside. -/
def SelfContained (f : Folder) (e : Expansion) (phrase : String) (subset : List String) : Prop :=
  ∀ seed, f.HasPhrase phrase seed → seed ∉ subset →
    ∀ uid ∈ subset, e.Brings f.forest seed uid → ∃ inner ∈ subset, f.HasPhrase phrase inner ∧ e.Brings f.forest inner uid

theorem hasPhrase_iff (hf : f.Faithful) {uid : String} : f.HasPhrase phrase uid ↔
    (f.content uid).toOption.any (bodyHasWords (splitWords phrase.toList)) = true := by
  unfold HasPhrase
  rw [(fetch_eq_content hf uid).1]
  cases f.content uid with
  | error e => simp
  | ok m => simp

theorem selfContained_of_ofName {how : String} (hhow : how ∉ ["all", "replies", "replies_parents"]) :
    f.SelfContained (.ofName how) phrase subset := by
  have hkind : Expansion.ofName how = .none ∨ Expansion.ofName how = .single := by
    simp only [List.mem_cons, List.not_mem_nil, or_false, not_or] at hhow
    obtain ⟨hall, hreplies, hparents⟩ := hhow
    rw [Expansion.ofName, if_neg hall, if_neg hreplies, if_neg hparents]
    split
    · exact .inr rfl
    · exact .inl rfl
  intro seed _ houtside uid huid hbrings
  obtain rfl := Expansion.eq_of_brings hkind hbrings
  exact absurd huid houtside

theorem catalog_buildWordIndex (f : Folder) :
    ∃ words, f.buildWordIndex.catalog = { f.catalog with words := some words } := by
  have hcatalog : (indexBodies .empty f f.uids).2.catalog = f.catalog := by
    refine indexBodies_induction (P := fun g => g.catalog = f.catalog) ?_ .empty f.uids rfl
    intro g uid hg
    obtain ⟨cache, hcache⟩ := exists_cache_of_fetch g uid
    rw [hcache]
    exact hg
  refine ⟨(indexBodies .empty f f.uids).1, ?_⟩
  show { (indexBodies .empty f f.uids).2.catalog with words := some (indexBodies .empty f f.uids).1 } = _
  rw [hcatalog]

theorem HasPhrase.mem_uids (hf : f.Faithful) {uid : String} (h : f.HasPhrase phrase uid) : uid ∈ f.uids := by
  obtain ⟨m, hm, -⟩ := h
  rw [(fetch_eq_content hf uid).1] at hm
  exact mem_uids_of_content hm

/-- The seeds of the whole folder and those in a subset expand to the same messages of the subset exactly if the subset is
self-contained. -/
theorem filter_expand_eq_iff (hf : f.Faithful) {scanned looked : UidSet}
    (hlooked : ∀ uid, uid ∈ looked ↔ f.HasPhrase phrase uid)
    (hscanned : ∀ uid, uid ∈ scanned ↔ uid ∈ subset.filter f.uids.contains ∧ uid ∈ looked) :
    (subset.filter f.uids.contains).filter (e.expand f.forest scanned).contains =
      (subset.filter f.uids.contains).filter (e.expand f.forest looked).contains ↔ f.SelfContained e phrase subset := by
  have hinside : ∀ uid, uid ∈ scanned ↔ uid ∈ subset ∧ f.HasPhrase phrase uid := by
    intro uid
    rw [hscanned, hlooked, List.mem_filter, List.contains_iff_mem]
    constructor
    · rintro ⟨⟨huid, -⟩, hphrase⟩
      exact ⟨huid, hphrase⟩
    · rintro ⟨huid, hphrase⟩
      exact ⟨⟨huid, hphrase.mem_uids hf⟩, hphrase⟩
  constructor
  · intro hsame seed hseed houtside uid huid hbrings
    have hknown : uid ∈ f.uids := by
      obtain ⟨-, rfl⟩ | hrelated := hbrings
      · exact absurd huid houtside
      · exact Expansion.mem_of_mem_relatedUids hrelated
    have hmember : uid ∈ (subset.filter f.uids.contains).filter (e.expand f.forest looked).contains := by
      have hexpanded : uid ∈ e.expand f.forest looked :=
        Expansion.mem_expand_iff_brings.2 ⟨seed, (hlooked seed).2 hseed, hbrings⟩
      exact List.mem_filter.2 ⟨List.mem_filter.2 ⟨huid, List.contains_iff_mem.2 hknown⟩, TextSet.contains_iff.2 hexpanded⟩
    rw [← hsame] at hmember
    have hexpanded : uid ∈ e.expand f.forest scanned := TextSet.contains_iff.1 (List.mem_filter.1 hmember).2
    obtain ⟨inner, hinner, hbrings⟩ := Expansion.mem_expand_iff_brings.1 hexpanded
    obtain ⟨hsubset, hphrase⟩ := (hinside inner).1 hinner
    exact ⟨inner, hsubset, hphrase, hbrings⟩
  · intro hcontained
    refine List.filter_congr fun uid huid => ?_
    have huid : uid ∈ subset := List.mem_of_mem_filter huid
    rw [Bool.eq_iff_iff, TextSet.contains_iff, TextSet.contains_iff, Expansion.mem_expand_iff_brings,
      Expansion.mem_expand_iff_brings]
    constructor
    · rintro ⟨seed, hseed, hbrings⟩
      exact ⟨seed, ((hscanned seed).1 hseed).2, hbrings⟩
    · rintro ⟨seed, hseed, hbrings⟩
      have hphrase : f.HasPhrase phrase seed := (hlooked seed).1 hseed
      by_cases hsubset : seed ∈ subset
      · exact ⟨seed, (hinside seed).2 ⟨hsubset, hphrase⟩, hbrings⟩
      · obtain ⟨inner, hinner, hphrase, hbrings⟩ := hcontained seed hphrase hsubset uid huid hbrings
        exact ⟨inner, (hinside inner).2 ⟨hinner, hphrase⟩, hbrings⟩

theorem exists_read_of_content {uid : String} {m : Message} (h : f.content uid = .ok m) :
    ∃ summary raw, f.source.read summary = .ok raw ∧ m = Message.ofRaw raw := by
  unfold content at h
  split at h
  · cases h
  · split at h
    · cases h
    · next summary _ =>
      split at h
      · cases h
      · next raw hraw => exact ⟨summary, raw, hraw, (Except.ok.inj h).symm⟩

theorem mem_of_read_memory {raws : List (String × Bytes)} {summary : Summary} {raw : Bytes}
    (h : (Source.memory raws).read summary = .ok raw) : (summary.uid, raw) ∈ raws := by
  rw [Source.read] at h
  split at h
  · next found hlookup =>
    obtain rfl : found = raw := Except.ok.inj h
    obtain ⟨before, after, hsplit, -⟩ := List.lookup_eq_some_iff.1 hlookup
    refine List.mem_reverse.1 ?_
    rw [hsplit]
    exact List.mem_append_right _ (List.mem_cons_self ..)
  · cases h

/-- The bodies of a folder of raw messages are in ASCII if all that the messages are decoded to are. -/
theorem isAscii_of_fetch_ofMessages {location : String} {raws : List (String × Bytes)}
    (hraws : ∀ r ∈ raws, IsAscii (Message.ofRaw r.2).bodyText.toList) (uid : String) (m : Message)
    (h : ((ofMessages location raws).fetch uid).1 = .ok m) : IsAscii m.bodyText.toList := by
  rw [(fetch_eq_content (InMemory.ofMessages location raws).sound.faithful uid).1] at h
  obtain ⟨summary, raw, hread, rfl⟩ := exists_read_of_content h
  exact hraws (summary.uid, raw) (mem_of_read_memory hread)

/-- The messages of a subset that a phrase is found in, before an index is built and after. -/
theorem exists_phraseSeeds (hf : f.InMemory) (hwords : f.catalog.words = none)
    (hbodies : ∀ uid m, (f.fetch uid).1 = .ok m → IsAscii m.bodyText.toList) (hphrase : IsAscii phrase.toList)
    (hfew : FewSimpleWords phrase) (among : List String) (now : Int64) : ∃ scanned looked : UidSet,
      (bodyContains (f.scope among now) none [phrase]).run f.content = .ok (.uids scanned) ∧
      (bodyContains (f.buildWordIndex.scope among now) none [phrase]).run f.buildWordIndex.content = .ok (.uids looked) ∧
      (¬ IsLookedUp phrase → scanned = looked) ∧
      (IsLookedUp phrase →
        ∀ uid, (uid ∈ looked ↔ f.HasPhrase phrase uid) ∧ (uid ∈ scanned ↔ uid ∈ among ∧ uid ∈ looked)) := by
  have hindexed := indexed_buildWordIndex hf.sound hbodies
  obtain ⟨index, hindex, hlists⟩ := hindexed.lists
  have hscope : (f.buildWordIndex.scope f.buildWordIndex.uids now).Indexed index f.buildWordIndex.content :=
    ⟨hindex, hlists, hindexed.sound.optional_content, hindexed.ascii, mem_uids_of_content⟩
  obtain ⟨scanned, looked, hscan, hlook, hsame, hmem⟩ := exists_bodyContains_on hscope hphrase hfew among
  have hcontent : f.buildWordIndex.content = f.content := content_buildWordIndex hf.sound.faithful
  have hbare : (f.buildWordIndex.scope among now).withoutIndex = f.scope among now := by
    obtain ⟨words, hcatalog⟩ := f.catalog_buildWordIndex
    have hnone : { f.catalog with words := none } = f.catalog := by rw [← hwords]
    rw [scope, Scope.withoutIndex, hcatalog]
    exact congrArg (Scope.mk · among now) hnone
  refine ⟨scanned, looked, ?_, hlook, hsame, fun hlooked uid => ?_⟩
  · rw [← hbare, ← hcontent]
    exact hscan
  · rw [hasPhrase_iff hf.sound.faithful, ← hcontent]
    exact hmem hlooked uid

end Folder

/-! ### Searches -/

namespace Session

variable {f : Folder} {expression how phrase : String} {subset : List String}

/-- The answer to a search of a subset. -/
theorem search_some_eq (hf : f.Faithful) {s : Session} {t : Term} (hread : (s.read (effective expression)).1 = .ok t)
    (hne : subset ≠ []) : (s.search f expression (some subset)).1 =
      (evaluate (f.scope (subset.filter f.uids.contains) s.now) none s.cancelled t).run f.content >>=
        Folder.hits (subset.filter f.uids.contains) := by
  have hroute : f.route (effective expression) (some subset) = .memory := by
    have hmember : (!subset.isEmpty) = true := by simpa using hne
    rw [Folder.route, Option.any_some, hmember, Bool.or_true, Bool.true_or, if_pos rfl]
  rw [search]
  dsimp only
  rw [hroute]
  dsimp only
  rw [searchMemory_eq hf, hread, ok_bind, Folder.workingFor_some hne]

/-- The answer to a search of a subset for the threads of a phrase. -/
theorem search_threads_eq (hf : f.Faithful) {s : Session} (hcancelled : s.cancelled = false)
    (hread : (s.read (effective expression)).1 =
      .ok (.call "match-threads" [.string how, .call "body-contains" [.string phrase]]))
    (hne : subset ≠ []) {seeds : UidSet}
    (hseeds : (bodyContains (f.scope (subset.filter f.uids.contains) s.now) none [phrase]).run f.content =
      .ok (.uids seeds)) :
    (s.search f expression (some subset)).1 = .ok ((subset.filter f.uids.contains).filter
      ((Expansion.ofName how).expand f.forest seeds).contains) := by
  rw [search_some_eq hf hread hne, evaluate, hcancelled, if_neg Bool.false_ne_true, run_eval_threads hseeds]
  rfl

/-- **An index finds more threads in a subset unless the subset is self-contained.** In a folder of raw messages with ASCII
bodies the search of a subset for the threads of a phrase succeeds without an index and with one, and finds with the index
all that it finds without. It finds the same exactly if the phrase is not looked up, or if no message with the phrase that is
outside of the subset brings into it what none inside brings in. So it does if no relatives are sought. -/
theorem search_threads_subset (hf : f.InMemory) (hwords : f.catalog.words = none)
    (hbodies : ∀ uid m, (f.fetch uid).1 = .ok m → IsAscii m.bodyText.toList) (s : Session)
    (hread : (s.read (effective expression)).1 =
      .ok (.call "match-threads" [.string how, .call "body-contains" [.string phrase]]))
    (hphrase : IsAscii phrase.toList) (hfew : FewSimpleWords phrase) (hne : subset ≠ []) :
    (s.cancelled = true →
      (s.search f expression (some subset)).1 = (s.search f.buildWordIndex expression (some subset)).1) ∧
    (s.cancelled = false → ∃ scanned looked, (s.search f expression (some subset)).1 = .ok scanned ∧
      (s.search f.buildWordIndex expression (some subset)).1 = .ok looked ∧ scanned.Sublist looked ∧
      (scanned = looked ↔ ¬ IsLookedUp phrase ∨ f.SelfContained (.ofName how) phrase subset) ∧
      (how ∉ ["all", "replies", "replies_parents"] → scanned = looked)) := by
  have hfaithful := hf.sound.faithful
  have hfaithful' : f.buildWordIndex.Faithful := hfaithful.buildWordIndex
  refine ⟨fun hcancelled => ?_, fun hcancelled => ?_⟩
  · rw [search_some_eq hfaithful hread hne, search_some_eq hfaithful' hread hne, evaluate, evaluate,
      if_pos hcancelled, if_pos hcancelled]
    rfl
  · obtain ⟨words, hcatalog⟩ := f.catalog_buildWordIndex
    have huids : f.buildWordIndex.uids = f.uids := by rw [Folder.uids, hcatalog]; rfl
    have hforest : f.buildWordIndex.forest = f.forest := by rw [Folder.forest, hcatalog]; rfl
    obtain ⟨scanned, looked, hscan, hlook, hsame, hmem⟩ := Folder.exists_phraseSeeds hf hwords hbodies hphrase hfew
      (subset.filter f.uids.contains) s.now
    have hscanned := search_threads_eq hfaithful hcancelled hread hne hscan
    have hlooked := search_threads_eq hfaithful' hcancelled hread hne (huids ▸ hlook)
    rw [huids, hforest] at hlooked
    -- What the index finds is found without it in the subset.
    have hfewer : ∀ uid ∈ scanned, uid ∈ looked := by
      intro uid huid
      by_cases hphrase : IsLookedUp phrase
      · exact ((hmem hphrase uid).2.1 huid).2
      · rwa [← hsame hphrase]
    have hexpand : ∀ uid, uid ∈ (Expansion.ofName how).expand f.forest scanned →
        uid ∈ (Expansion.ofName how).expand f.forest looked := by
      intro uid huid
      obtain ⟨seed, hseed, hbrings⟩ := Expansion.mem_expand_iff_brings.1 huid
      exact Expansion.mem_expand_iff_brings.2 ⟨seed, hfewer seed hseed, hbrings⟩
    have hiff : (subset.filter f.uids.contains).filter
          ((Expansion.ofName how).expand f.forest scanned).contains =
        (subset.filter f.uids.contains).filter
          ((Expansion.ofName how).expand f.forest looked).contains ↔
        ¬ IsLookedUp phrase ∨ f.SelfContained (.ofName how) phrase subset := by
      by_cases hphrase : IsLookedUp phrase
      · rw [Folder.filter_expand_eq_iff hfaithful (fun uid => (hmem hphrase uid).1) fun uid => (hmem hphrase uid).2]
        constructor
        · exact .inr
        · rintro (hnot | hcontained)
          · exact absurd hphrase hnot
          · exact hcontained
      · rw [hsame hphrase]
        exact ⟨fun _ => .inl hphrase, fun _ => rfl⟩
    refine ⟨_, _, hscanned, hlooked, ?_, hiff, fun hhow => hiff.2 (.inr (Folder.selfContained_of_ofName hhow))⟩
    refine List.monotone_filter_right _ fun uid huid => ?_
    exact TextSet.contains_iff.2 (hexpand uid (TextSet.contains_iff.1 huid))

/-- A reply whose body has not the word is brought into the subset by the message that it replies to. -/
theorem search_threads_subset_reply :
    let raws := [("1", Ascii.bytes "Message-ID: <a@x>\nSubject: Plan\n\nPizza?"),
      ("2", Ascii.bytes "Message-ID: <b@x>\nIn-Reply-To: <a@x>\nSubject: Re: Plan\n\nyes")]
    let f := Folder.ofMessages "in" raws
    let s := Session.start .tree 0
    let text := "(match-threads \"all\" (body-contains \"pizza\"))"
    (f.InMemory ∧ f.catalog.words = none ∧ FewSimpleWords "pizza" ∧ IsLookedUp "pizza") ∧
      (s.search f text (some ["2"])).1 = .ok [] ∧ (s.search f.buildWordIndex text (some ["2"])).1 = .ok ["2"] ∧
      ¬ f.SelfContained (.ofName "all") "pizza" ["2"] := by
  intro raws f s text
  have hraws : ∀ r ∈ raws, IsAscii (Message.ofRaw r.2).bodyText.toList := by decide +kernel
  have hread : (s.read (effective text)).1 =
      .ok (.call "match-threads" [.string "all", .call "body-contains" [.string "pizza"]]) :=
    eq_ok_of_toOption (by decide +kernel)
  have hfew : FewSimpleWords "pizza" := by
    unfold FewSimpleWords
    decide +kernel
  have hlookedUp : IsLookedUp "pizza" := by decide +kernel
  have hscan : (s.search f text (some ["2"])).1 = .ok [] := eq_ok_of_toOption (by decide +kernel)
  have hlook : (s.search f.buildWordIndex text (some ["2"])).1 = .ok ["2"] := eq_ok_of_toOption (by decide +kernel)
  obtain ⟨-, hanswers⟩ := search_threads_subset (.ofMessages "in" raws) rfl (Folder.isAscii_of_fetch_ofMessages hraws) s
    hread (by decide +kernel) hfew (List.cons_ne_nil "2" [])
  obtain ⟨scanned, looked, hscanned, hlooked, -, hiff, -⟩ := hanswers rfl
  refine ⟨⟨.ofMessages "in" raws, rfl, hfew, hlookedUp⟩, hscan, hlook, fun hcontained => ?_⟩
  obtain rfl : [] = scanned := Except.ok.inj (hscan.symm.trans hscanned)
  obtain rfl : ["2"] = looked := Except.ok.inj (hlook.symm.trans hlooked)
  exact absurd (hiff.2 (.inr hcontained)) (by decide)

/-- The index finds the reply to a message outside of the subset. -/
theorem not_forall_search_threads_subset :
    ¬ ∀ f : Folder, f.InMemory → f.catalog.words = none →
      (∀ uid m, (f.fetch uid).1 = .ok m → IsAscii m.bodyText.toList) → ∀ (s : Session) (expression how phrase : String),
      (s.read (effective expression)).1 =
        .ok (.call "match-threads" [.string how, .call "body-contains" [.string phrase]]) →
      IsAscii phrase.toList → FewSimpleWords phrase → ∀ subset : List String, subset ≠ [] → (∀ uid ∈ subset, uid ∈ f.uids) →
      (s.search f expression (some subset)).1 = (s.search f.buildWordIndex expression (some subset)).1 := by
  intro hall
  let raws := [("1", Ascii.bytes "Message-ID: <a@x>\nSubject: Plan\n\nPizza?"),
    ("2", Ascii.bytes "Message-ID: <b@x>\nIn-Reply-To: <a@x>\nSubject: Re: Plan\n\nyes")]
  let f := Folder.ofMessages "in" raws
  let s := Session.start .tree 0
  let text := "(match-threads \"all\" (body-contains \"pizza\"))"
  have hraws : ∀ r ∈ raws, IsAscii (Message.ofRaw r.2).bodyText.toList := by decide +kernel
  have hfew : FewSimpleWords "pizza" := by
    unfold FewSimpleWords
    decide +kernel
  have hscan : (s.search f text (some ["2"])).1 = .ok [] := eq_ok_of_toOption (by decide +kernel)
  have hlook : (s.search f.buildWordIndex text (some ["2"])).1 = .ok ["2"] := eq_ok_of_toOption (by decide +kernel)
  have hsame := hall f (.ofMessages "in" raws) rfl (Folder.isAscii_of_fetch_ofMessages hraws) s text "all" "pizza"
    (eq_ok_of_toOption (by decide +kernel)) (by decide +kernel) hfew ["2"] (List.cons_ne_nil _ _) (by decide +kernel)
  rw [hscan, hlook] at hsame
  cases hsame

end Session

end MailQuery
