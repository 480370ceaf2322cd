import MailQuery.Proofs.Evaluation.Equations
import MailQuery.Proofs.Folders.InMemory
import MailQuery.Proofs.WordIndex.Runs

/-!
# A word index changes no answer

A test of bodies can be answered in four ways: by the postings of one message, by a look-up in the whole index,
by a scan of all bodies, and by a scan of those that the index leaves over. `Scope.Indexed` says what all of them
rest on, that the index lists the words of ASCII contents. Then `hasQuery` and `findQuery` have the same result
with the index and without it, and so has every term whose phrases are plain (`sameWithoutIndex_of_plainPhrases`).

`Session.search_withoutIndex` is the main statement, about a folder whose index has just been built. It covers
both ways of answering a search, since the store knows nothing of the index.
-/

namespace MailQuery

open Mail Text

namespace Search

/-- The scope without its word index. -/
def Scope.withoutIndex (s : Scope) : Scope := { s with catalog := { s.catalog with words := none } }

/-- The index of a scope lists the words of the contents, which are in ASCII. -/
structure Scope.Indexed (s : Scope) (index : WordIndex)
    (content : String → Except SearchError Message) : Prop where
  words : s.catalog.words = some index
  lists : index.Lists content
  optional : ∀ uid, Reading.optional (content uid) = .ok (content uid).toOption
  ascii : ∀ {uid m}, content uid = .ok m → IsAscii m.bodyText.toList
  working : ∀ {uid m}, content uid = .ok m → uid ∈ s.working

/-- A message whose body can be tested is one that the search is about. -/
theorem Scope.Indexed.mem_working {s : Scope} {index : WordIndex} {content : String → Except SearchError Message}
    (h : s.Indexed index content) {test : Message → Bool} {uid : String}
    (hbody : (content uid).toOption.any test = true) : uid ∈ s.working := by
  cases hm : content uid with
  | error e => rw [hm] at hbody; cases hbody
  | ok m => exact h.working hm

/-- What is known of the query that an ASCII phrase makes, if it is not empty. -/
structure Query.Plain (query : Query) : Prop where
  ne_nil : query ≠ []
  words : ∀ w ∈ query, w.Plain ∧ w.text ≠ []
  length_le : query.length ≤ WordIndex.maxQueryWords

/-- A phrase of ASCII characters and of no more words than can be looked up. -/
def PlainPhrase (phrase : String) : Prop :=
  IsAscii phrase.toList ∧ (splitWords phrase.toList).length ≤ WordIndex.maxQueryWords

theorem PlainPhrase.query {phrase : String} (h : PlainPhrase phrase)
    (hne : splitWords phrase.toList ≠ []) : (splitWords phrase.toList).Plain :=
  ⟨hne, plain_splitWords h.1, h.2⟩

section

variable {s : Scope} {index : WordIndex} {content : String → Except SearchError Message}

/-! ### One message -/

theorem bodyHasWords_iff {query : Query} {m : Message} :
    bodyHasWords query m = true ↔ ∀ w ∈ query, lower w.text <:+: lower m.bodyText.toList := by
  simp only [bodyHasWords, List.all_eq_true, isInfix_iff]

theorem run_contentTest (hoptional : ∀ uid, Reading.optional (content uid) = .ok (content uid).toOption)
    (test : Message → Bool) (uid : String) :
    (contentTest test uid).run content = .ok ((content uid).toOption.any test) := by
  rw [contentTest, Reading.run_bind, Reading.message?, Reading.run, hoptional]
  rfl

/-- A message is mentioned with a word that can be looked for exactly if the word stands in its body. -/
theorem mentions_iff_content (h : s.Indexed index content) {q : List Char} (hq : IsKey q) {uid : String} :
    index.mentions uid q = true ↔ ∃ m, content uid = .ok m ∧ q <:+: lower m.bodyText.toList := by
  rw [WordIndex.mentions_iff]
  constructor
  · rintro ⟨entry, hcontains, hlisted⟩
    obtain ⟨m, hm, hentry⟩ := (h.lists entry uid).1 hlisted
    exact ⟨m, hm, (exists_bodyWords_iff (h.ascii hm) hq).1 ⟨entry, hentry, hcontains⟩⟩
  · rintro ⟨m, hm, hstands⟩
    obtain ⟨entry, hentry, hcontains⟩ := (exists_bodyWords_iff (h.ascii hm) hq).2 hstands
    exact ⟨entry, hcontains, (h.lists entry uid).2 ⟨m, hm, hentry⟩⟩

/-- The postings of a message answer a simple query as its body does. -/
theorem mentions_all_iff (h : s.Indexed index content) {query : Query} (hquery : query.Plain)
    (hsimple : query.complex = false) {uid : String} :
    (∀ w ∈ query, index.mentions uid w.text = true) ↔
      (content uid).toOption.any (bodyHasWords query) = true := by
  have hkey : ∀ w ∈ query, IsKey w.text := fun w hw =>
    (hquery.words w hw).1.isKey (hquery.words w hw).2 (by simpa using List.any_eq_false.1 hsimple w hw)
  constructor
  · intro hall
    -- There is a message at all because the query has a word, and all words stand in the same message.
    obtain ⟨w, hw⟩ := List.exists_mem_of_ne_nil query hquery.ne_nil
    obtain ⟨m, hm, -⟩ := (mentions_iff_content h (hkey w hw)).1 (hall w hw)
    rw [hm, toOption_ok, Option.any_some, bodyHasWords_iff]
    intro v hv
    obtain ⟨m', hm', hstands⟩ := (mentions_iff_content h (hkey v hv)).1 (hall v hv)
    obtain rfl : m = m' := Except.ok.inj (hm.symm.trans hm')
    rwa [(hkey v hv).lower]
  · intro hbody w hw
    rw [mentions_iff_content h (hkey w hw)]
    cases hm : content uid with
    | error e => rw [hm] at hbody; cases hbody
    | ok m =>
      rw [hm, toOption_ok, Option.any_some, bodyHasWords_iff] at hbody
      refine ⟨m, rfl, ?_⟩
      rw [← (hkey w hw).lower]
      exact hbody w hw

theorem hasQuery_withoutIndex (h : s.Indexed index content) {query : Query} (hquery : query.Plain)
    (m : Summary) : (hasQuery s.withoutIndex query m).run content = (hasQuery s query m).run content := by
  rw [hasQuery, hasQuery, indexFor?, indexFor?, h.words]
  cases hcomplex : query.complex with
  | true => rfl
  | false =>
    show (contentTest (bodyHasWords query) m.uid).run content = _
    rw [run_contentTest h.optional, if_neg (by decide), Reading.run_pure, Except.ok.injEq,
      Bool.eq_iff_iff, ← mentions_all_iff h hquery hcomplex, List.all_eq_true]

theorem hasAnyQuery_withoutIndex (h : s.Indexed index content) {queries : List Query}
    (hqueries : ∀ query ∈ queries, query.Plain) (m : Summary) :
    (hasAnyQuery s.withoutIndex m queries).run content = (hasAnyQuery s m queries).run content := by
  induction queries with
  | nil => rfl
  | cons query queries ih =>
    rw [hasAnyQuery, hasAnyQuery, Reading.run_bind, Reading.run_bind,
      hasQuery_withoutIndex h (hqueries query (List.mem_cons_self ..))]
    cases (hasQuery s query m).run content with
    | error e => rfl
    | ok hit =>
      cases hit with
      | true => rfl
      | false => exact ih fun q hq => hqueries q (List.mem_cons_of_mem _ hq)

/-! ### All messages -/

theorem run_scanBodies (hoptional : ∀ uid, Reading.optional (content uid) = .ok (content uid).toOption)
    (query : Query) (uids : List String) :
    ∃ hits, (scanBodies query uids).run content = .ok hits ∧ ∀ uid, uid ∈ hits ↔
      uid ∈ uids ∧ (content uid).toOption.any (bodyHasWords query) = true := by
  induction uids with
  | nil => exact ⟨∅, rfl, by simp⟩
  | cons u uids ih =>
    obtain ⟨hits, hrun, hmem⟩ := ih
    refine ⟨if (content u).toOption.any (bodyHasWords query) then hits.insert u else hits, ?_, fun uid => ?_⟩
    · rw [scanBodies, Reading.run_bind, run_contentTest hoptional, ok_bind, Reading.run_bind, hrun]
      rfl
    · cases hu : (content u).toOption.any (bodyHasWords query) with
      | true =>
        rw [if_pos rfl, TextSet.mem_insert, hmem, List.mem_cons]
        constructor
        · rintro (rfl | ⟨huid, hhas⟩)
          · exact ⟨.inl rfl, hu⟩
          · exact ⟨.inr huid, hhas⟩
        · rintro ⟨rfl | huid, hhas⟩
          · exact .inl rfl
          · exact .inr ⟨huid, hhas⟩
      | false =>
        rw [if_neg (by decide), hmem, List.mem_cons]
        constructor
        · rintro ⟨huid, hhas⟩
          exact ⟨.inr huid, hhas⟩
        · rintro ⟨rfl | huid, hhas⟩
          · rw [hu] at hhas
            cases hhas
          · exact ⟨huid, hhas⟩

/-- The simple words of a query stand wherever the query stands. -/
theorem simpleWords_spec {query : Query} (hquery : ∀ w ∈ query, w.Plain ∧ w.text ≠ []) {w : Word}
    (hw : w ∈ simpleWords query) :
    IsKey w.text ∧ ∀ {m}, bodyHasWords query m = true → w.text <:+: lower m.bodyText.toList := by
  obtain ⟨v, hv, hwv⟩ := List.mem_flatMap.1 hw
  obtain ⟨hplain, hne⟩ := hquery v hv
  -- A complex word is looked up by its runs, a simple one as it is.
  cases hcomplex : v.complex with
  | true =>
    rw [hcomplex, if_pos rfl] at hwv
    obtain ⟨run, hrun, rfl⟩ := List.mem_map.1 hwv
    refine ⟨hplain.isKey_of_mem_runs hrun, fun hbody => ?_⟩
    exact hplain.run_infix hrun (bodyHasWords_iff.1 hbody v hv)
  | false =>
    rw [hcomplex, if_neg (by decide), List.mem_singleton] at hwv
    subst hwv
    have hkey := hplain.isKey hne hcomplex
    refine ⟨hkey, fun hbody => ?_⟩
    have hstands := bodyHasWords_iff.1 hbody w hv
    rwa [hkey.lower] at hstands

/-- The index leaves over all messages in which the query stands. -/
theorem exists_candidates (h : s.Indexed index content) {query : Query}
    (hquery : ∀ w ∈ query, w.Plain ∧ w.text ≠ []) :
    ∃ uids, candidates s query = .ok uids ∧ ∀ uid,
      (content uid).toOption.any (bodyHasWords query) = true → (uid ∈ uids ↔ uid ∈ s.working) := by
  rw [candidates, h.words]
  dsimp only
  -- Without simple words there is nothing to look up, and all messages are left over.
  cases hsimple : (simpleWords query).isEmpty with
  | true => exact ⟨s.working, rfl, fun uid _ => Iff.rfl⟩
  | false =>
    obtain ⟨found, hlookup, hmem⟩ := index.exists_lookup (simpleWords query)
    refine ⟨s.working.filter found.contains, by rw [if_neg (by decide), hlookup]; rfl, fun uid hbody => ?_⟩
    have hfound : uid ∈ found := by
      refine (hmem uid).2 ⟨fun hnil => (by rw [hnil] at hsimple; cases hsimple), fun w hw => ?_⟩
      obtain ⟨hkey, hstands⟩ := simpleWords_spec hquery (List.mem_of_mem_take hw)
      cases hm : content uid with
      | error e => rw [hm] at hbody; cases hbody
      | ok m =>
        rw [hm, toOption_ok, Option.any_some] at hbody
        exact (mentions_iff_content h hkey).2 ⟨m, hm, hstands hbody⟩
    rw [List.mem_filter, TextSet.contains_iff]
    exact and_iff_left hfound

/-- **A query is found in the messages whose bodies have its words**, with an index. -/
theorem run_findQuery (h : s.Indexed index content) {query : Query} (hquery : query.Plain) :
    ∃ hits, (findQuery s query).run content = .ok hits ∧ ∀ uid, uid ∈ hits ↔
      uid ∈ s.working ∧ (content uid).toOption.any (bodyHasWords query) = true := by
  rw [findQuery, indexFor?]
  -- A complex query is scanned for in what the index leaves over; a simple one is only looked up.
  cases hcomplex : query.complex with
  | true =>
    obtain ⟨uids, hcandidates, hmem⟩ := exists_candidates h hquery.words
    obtain ⟨hits, hrun, hhits⟩ := run_scanBodies h.optional query uids
    refine ⟨hits, by rw [if_pos rfl, hcandidates]; exact hrun, fun uid => ?_⟩
    rw [hhits]
    exact ⟨fun ⟨huid, hbody⟩ => ⟨(hmem uid hbody).1 huid, hbody⟩,
      fun ⟨huid, hbody⟩ => ⟨(hmem uid hbody).2 huid, hbody⟩⟩
  | false =>
    obtain ⟨found, hlookup, hmem⟩ := index.exists_lookup query
    refine ⟨found, by rw [if_neg (by decide), h.words]; exact hlookup, fun uid => ?_⟩
    rw [hmem, List.take_of_length_le hquery.length_le, mentions_all_iff h hquery hcomplex]
    constructor
    · rintro ⟨-, hbody⟩
      exact ⟨h.mem_working hbody, hbody⟩
    · rintro ⟨-, hbody⟩
      exact ⟨hquery.ne_nil, hbody⟩

theorem run_findQuery_withoutIndex
    (hoptional : ∀ uid, Reading.optional (content uid) = .ok (content uid).toOption) (s : Scope)
    (query : Query) : ∃ hits, (findQuery s.withoutIndex query).run content = .ok hits ∧
      ∀ uid, uid ∈ hits ↔ uid ∈ s.working ∧ (content uid).toOption.any (bodyHasWords query) = true := by
  have hnone : indexFor? s.withoutIndex query = none := by
    rw [indexFor?]
    split <;> rfl
  obtain ⟨hits, hrun, hhits⟩ := run_scanBodies hoptional query s.working
  exact ⟨hits, by rw [findQuery, hnone]; exact hrun, hhits⟩

theorem findAnyQuery_withoutIndex (h : s.Indexed index content) {queries : List Query}
    (hqueries : ∀ query ∈ queries, query.Plain) :
    (findAnyQuery s.withoutIndex queries).run content = (findAnyQuery s queries).run content := by
  induction queries with
  | nil => rfl
  | cons query queries ih =>
    obtain ⟨hits, hrun, hmem⟩ := run_findQuery h (hqueries query (List.mem_cons_self ..))
    obtain ⟨hits', hrun', hmem'⟩ := run_findQuery_withoutIndex h.optional s query
    have hsame : hits' = hits := TextSet.ext fun uid => (hmem' uid).trans (hmem uid).symm
    rw [findAnyQuery, findAnyQuery, Reading.run_bind, Reading.run_bind, hrun, hrun', hsame, ok_bind, ok_bind,
      Reading.run_bind, Reading.run_bind, ih fun q hq => hqueries q (List.mem_cons_of_mem _ hq)]

/-! ### Terms -/

theorem select_withoutIndex {test test' : Summary → Reading Bool}
    (htest : ∀ m, (test m).run content = (test' m).run content) (uids : List String) :
    (s.withoutIndex.selectFrom test uids).run content = (s.selectFrom test' uids).run content := by
  induction uids with
  | nil => rfl
  | cons uid uids ih =>
    have hfind : s.withoutIndex.catalog.find? uid = s.catalog.find? uid := rfl
    rw [Scope.selectFrom, Scope.selectFrom, hfind]
    cases s.catalog.find? uid with
    | none => exact ih
    | some m =>
      simp only [Reading.run_bind, htest, ih]

theorem judge_withoutIndex {test test' : Summary → Reading Bool}
    (htest : ∀ m, (test m).run content = (test' m).run content) (current : Option Summary) :
    (s.withoutIndex.judge current test).run content = (s.judge current test').run content := by
  cases current with
  | none =>
    have hworking : s.withoutIndex.working = s.working := rfl
    simp only [Scope.judge, Scope.select, Reading.run_bind, hworking, select_withoutIndex htest]
  | some m => simp only [Scope.judge, Reading.run_bind, htest]

theorem bodyContains_withoutIndex (h : s.Indexed index content) {phrases : List String}
    (hphrases : ∀ p ∈ phrases, PlainPhrase p) (current : Option Summary) :
    (bodyContains s.withoutIndex current phrases).run content =
      (bodyContains s current phrases).run content := by
  rw [bodyContains, bodyContains]
  split
  · exact judge_withoutIndex (fun _ => rfl) current
  · have hqueries : ∀ query ∈ (phrases.map fun p => splitWords p.toList).filter (!·.isEmpty),
        Query.Plain query := by
      intro query hquery
      obtain ⟨hmem, hne⟩ := List.mem_filter.1 hquery
      obtain ⟨p, hp, rfl⟩ := List.mem_map.1 hmem
      exact (hphrases p hp).query (by simpa using hne)
    cases current with
    | none =>
      dsimp only
      rw [Reading.run_bind, Reading.run_bind, findAnyQuery_withoutIndex h hqueries]
    | some m =>
      dsimp only
      rw [Reading.run_bind, Reading.run_bind, hasAnyQuery_withoutIndex h hqueries]

/-- A function of arguments that are no phrases for bodies, or plain ones. -/
theorem apply_withoutIndex (h : s.Indexed index content) (current : Option Summary) {f : Builtin}
    {values : List Value} (hphrases : f = .bodyContains → ∀ p ∈ Value.texts values, PlainPhrase p) :
    (apply s.withoutIndex current f values).run content = (apply s current f values).run content := by
  cases f with
  | bodyContains => exact bodyContains_withoutIndex h (hphrases rfl) current
  | header style =>
    simp only [apply]
    cases firstText (Builtin.header style).name values with
    | error e => rfl
    | ok header => exact judge_withoutIndex (fun _ => rfl) current
  | bodyRegex =>
    simp only [apply, bodyRegex]
    cases readPatterns "body-regex" true (Value.texts values) with
    | error e => rfl
    | ok p => exact judge_withoutIndex (fun _ => rfl) current
  | messageLocation =>
    have hlocation : s.withoutIndex.catalog.location = s.catalog.location := rfl
    simp only [apply, locationTest, hlocation]
    split
    · exact judge_withoutIndex (fun _ => rfl) current
    · rfl
  | _ => rfl

/-- In all calls of `body-contains` in a term the arguments are plain phrases. -/
inductive PlainPhrases : Term → Prop where
  | bool (b : Bool) : PlainPhrases (.bool b)
  | int (n : Int64) : PlainPhrases (.int n)
  | string (t : String) : PlainPhrases (.string t)
  | call {name : String} {args : List Term} (hargs : ∀ a ∈ args, PlainPhrases a)
      (hphrases : name = "body-contains" → ∀ a ∈ args, ∃ p, a = .string p ∧ PlainPhrase p) :
      PlainPhrases (.call name args)

/-- A term has the same value without the index, for the whole folder and for each message. -/
def SameWithoutIndex (s : Scope) (content : String → Except SearchError Message) (t : Term) : Prop :=
  ∀ current, (eval s.withoutIndex current t).run content = (eval s current t).run content

theorem evalAll_withoutIndex {args : List Term} (hargs : ∀ a ∈ args, SameWithoutIndex s content a)
    (current : Option Summary) :
    (evalAll s.withoutIndex current args).run content = (evalAll s current args).run content := by
  induction args with
  | nil => rfl
  | cons a args ih =>
    simp only [evalAll_cons, Reading.run_bind, hargs a (List.mem_cons_self ..) current,
      ih fun b hb => hargs b (List.mem_cons_of_mem _ hb)]

theorem evalJoined_withoutIndex {args : List Term} (hargs : ∀ a ∈ args, SameWithoutIndex s content a)
    (current : Option Summary) (isAnd : Bool) (seen : Joined) :
    (evalJoined s.withoutIndex current isAnd seen args).run content =
      (evalJoined s current isAnd seen args).run content := by
  induction args generalizing seen with
  | nil => rfl
  | cons a args ih =>
    rw [evalJoined_cons, evalJoined_cons, Reading.run_bind, Reading.run_bind,
      hargs a (List.mem_cons_self ..) current]
    refine congrArg _ (funext fun v => ?_)
    cases seen.add isAnd v with
    | error e => rfl
    | ok step =>
      cases step with
      | inl seen => exact ih (fun b hb => hargs b (List.mem_cons_of_mem _ hb)) seen
      | inr b => rfl

/-- The values of phrases are their texts. -/
theorem texts_of_evalAll {args : List Term} {values : List Value} {current : Option Summary}
    {P : String → Prop} (hargs : ∀ a ∈ args, ∃ p, a = .string p ∧ P p)
    (hrun : (evalAll s current args).run content = .ok values) : ∀ p ∈ Value.texts values, P p := by
  induction args generalizing values with
  | nil =>
    obtain rfl : values = [] := (Except.ok.inj hrun).symm
    exact fun p hp => absurd hp List.not_mem_nil
  | cons a args ih =>
    obtain ⟨p, rfl, hp⟩ := hargs a (List.mem_cons_self ..)
    rw [evalAll_cons, Reading.run_bind, eval, Reading.run_pure, ok_bind, Reading.run_bind] at hrun
    cases hrest : (evalAll s current args).run content with
    | error e => rw [hrest] at hrun; cases hrun
    | ok rest =>
      rw [hrest] at hrun
      obtain rfl : values = .string p :: rest := (Except.ok.inj hrun).symm
      intro q hq
      have hq : q ∈ p :: Value.texts rest := hq
      rcases List.mem_cons.1 hq with rfl | hq
      · exact hp
      · exact ih (fun b hb => hargs b (List.mem_cons_of_mem _ hb)) hrest q hq

/-- **Terms with plain phrases have the same value without the index.** -/
theorem sameWithoutIndex_of_plainPhrases (h : s.Indexed index content) {t : Term}
    (ht : PlainPhrases t) : SameWithoutIndex s content t := by
  induction ht with
  | bool b => exact fun _ => rfl
  | int n => exact fun _ => rfl
  | string p => exact fun _ => rfl
  | @call name args _ hphrases ih =>
    intro current
    have hall := fun current => evalAll_withoutIndex ih current
    cases hname : Builtin.ofName? name with
    | none => rw [eval_unknown hname, eval_unknown hname]
    | some f =>
      -- The index is met in strict functions only. The others pass on what their arguments come to.
      by_cases hstrict : f.IsStrict
      · rw [eval_strict hname hstrict, eval_strict hname hstrict, Reading.run_bind, Reading.run_bind, hall]
        cases hvalues : (evalAll s current args).run content with
        | error e => rfl
        | ok values =>
          refine apply_withoutIndex h current fun hf => ?_
          have hbody : name = "body-contains" := by
            rw [← Builtin.name_of_ofName? hname, hf]
            rfl
          exact texts_of_evalAll (hphrases hbody) hvalues
      · cases f with
        | and =>
          rw [eval_and hname, eval_and hname]
          exact evalJoined_withoutIndex ih current true .nothing
        | or =>
          rw [eval_or hname, eval_or hname]
          exact evalJoined_withoutIndex ih current false .nothing
        | sqlExp => rw [eval_sqlExp hname, eval_sqlExp hname]
        | ifThen =>
          rcases args with _ | ⟨condition, _ | ⟨yes, _ | ⟨no, _ | ⟨last, rest⟩⟩⟩⟩
          · rw [eval_ifThen_arity hname (by simp) (by simp), eval_ifThen_arity hname (by simp) (by simp)]
          · rw [eval_ifThen_arity hname (by simp) (by simp), eval_ifThen_arity hname (by simp) (by simp)]
          · rw [eval_ifThen_two hname, eval_ifThen_two hname]
            exact run_choice_congr (ih condition (by simp) current) (ih yes (by simp) current) rfl
          · rw [eval_ifThen_three hname, eval_ifThen_three hname]
            exact run_choice_congr (ih condition (by simp) current) (ih yes (by simp) current)
              (ih no (by simp) current)
          · rw [eval_ifThen_arity hname (by simp) (by simp), eval_ifThen_arity hname (by simp) (by simp)]
        | matchAll =>
          cases args with
          | nil =>
            rw [eval_matchAll_nil hname, eval_matchAll_nil hname]
            exact judge_withoutIndex (fun _ => rfl) current
          | cons inner rest =>
            rw [eval_matchAll_cons hname, eval_matchAll_cons hname]
            refine judge_withoutIndex (fun m => ?_) current
            rw [Reading.run_bind, Reading.run_bind, ih inner (List.mem_cons_self ..) (some m)]
        | matchThreads =>
          cases current with
          | some m => rw [eval_matchThreads_inside hname, eval_matchThreads_inside hname]
          | none =>
            cases args with
            | nil => rw [eval_matchThreads_nil hname, eval_matchThreads_nil hname]
            | cons how rest =>
              rw [eval_matchThreads_cons hname, eval_matchThreads_cons hname, Reading.run_bind,
                Reading.run_bind, ih how (List.mem_cons_self ..) none]
              refine congrArg _ (funext fun v => ?_)
              cases v with
              | string kind =>
                have hrest := evalAll_withoutIndex (fun a ha => ih a (List.mem_cons_of_mem _ ha)) none
                dsimp only
                rw [Reading.run_bind, Reading.run_bind, hrest]
                rfl
              | _ => rfl
        | _ => exact absurd trivial hstrict

end

end Search

/-! ### Searches -/

open Search

namespace Folder

/-- The folder without its word index. -/
def withoutIndex (f : Folder) : Folder := { f with catalog := { f.catalog with words := none } }

/-- The index of a folder lists the words of the contents, which are in ASCII. -/
structure Indexed (f : Folder) : Prop where
  sound : f.Sound
  lists : ∃ index, f.catalog.words = some index ∧ index.Lists f.content
  ascii : ∀ {uid m}, f.content uid = .ok m → IsAscii m.bodyText.toList

theorem indexed_buildWordIndex {f : Folder} (h : f.Sound)
    (hascii : ∀ uid m, (f.fetch uid).1 = .ok m → IsAscii m.bodyText.toList) : f.buildWordIndex.Indexed := by
  refine ⟨h.buildWordIndex, lists_buildWordIndex h.faithful, fun {uid m} hm => ?_⟩
  rw [content_buildWordIndex h.faithful] at hm
  exact hascii uid m ((fetch_eq_content h.faithful uid).1.trans hm)

theorem Indexed.syncStore {f : Folder} (h : f.Indexed) : f.syncStore.2.Indexed := by
  refine ⟨h.sound.syncStore, ?_, ?_⟩ <;> rw [Folder.syncStore] <;> split
  · exact h.lists
  · split <;> exact h.lists
  · exact h.ascii
  · split <;> exact h.ascii

theorem saveChanges_withoutIndex (f : Folder) :
    f.withoutIndex.saveChanges = (f.saveChanges.1, f.saveChanges.2.withoutIndex) := by
  have hsync : f.withoutIndex.syncStore = (f.syncStore.1, f.syncStore.2.withoutIndex) := by
    have hstore : f.withoutIndex.store = f.store := rfl
    have hwrite : ∀ store : Store, f.withoutIndex.writeTo store = f.writeTo store := fun _ => rfl
    rw [syncStore, syncStore, hstore]
    cases f.store with
    | none => rfl
    | some store =>
      simp only [hwrite]
      cases f.writeTo store with
      | mk answer store => cases answer <;> rfl
  have hdirty : (f.withoutIndex.dirty && f.withoutIndex.store.isSome) = (f.dirty && f.store.isSome) := rfl
  rw [saveChanges, saveChanges, hdirty, hsync]
  split
  · cases f.syncStore with
    | mk answer g => cases answer <;> rfl
  · rfl

end Folder

namespace Session

variable {f : Folder}

theorem searchMemory_withoutIndex (h : f.Indexed) (s : Session) {expression : String}
    (hphrases : ∀ t, (s.read expression).1 = .ok t → PlainPhrases t) :
    (s.searchMemory f.withoutIndex expression none).1 = (s.searchMemory f expression none).1 := by
  have hfaithful : f.withoutIndex.Faithful := h.sound.faithful
  rw [searchMemory_eq h.sound.faithful, searchMemory_eq hfaithful]
  cases hread : (s.read expression).1 with
  | error e => rfl
  | ok t =>
    obtain ⟨index, hwords, hlists⟩ := h.lists
    have hindexed : (f.scope (f.workingFor none) s.now).Indexed index f.content :=
      ⟨hwords, hlists, h.sound.optional_content, h.ascii, Folder.mem_uids_of_content⟩
    have hsame := sameWithoutIndex_of_plainPhrases hindexed (hphrases t hread) none
    rw [ok_bind, ok_bind]
    show _ >>= Folder.hits (f.workingFor none) = _ >>= Folder.hits (f.workingFor none)
    refine congrArg (· >>= Folder.hits (f.workingFor none)) ?_
    rw [evaluate, evaluate]
    split
    · rfl
    · exact hsame

theorem plan_withoutIndex (s : Session) (f : Folder) (expression : String) :
    s.plan f.withoutIndex expression = ((s.plan f expression).1, (s.plan f expression).2.withoutIndex) := by
  rw [plan, plan, Folder.saveChanges_withoutIndex]
  cases f.saveChanges with
  | mk saved g =>
    have hstore : g.withoutIndex.store = g.store := rfl
    cases saved with
    | error e => rfl
    | ok _ =>
      simp only [hstore]
      cases s.compiler.compile s.now expression with
      | error e => cases e <;> rfl
      | ok condition => cases g.store <;> rfl

theorem searchDatabase_withoutIndex (h : f.Indexed) (s : Session) {expression : String}
    (hphrases : ∀ t, (s.read expression).1 = .ok t → PlainPhrases t) :
    (s.searchDatabase f.withoutIndex expression).1 = (s.searchDatabase f expression).1 := by
  have hindexed : (s.plan f expression).2.Indexed := by
    rw [plan_snd]
    exact Folder.saveChanges_induction (fun _ => Folder.Indexed.syncStore) h
  rw [searchDatabase, searchDatabase, plan_withoutIndex]
  cases hplan : s.plan f expression with
  | mk plan g =>
    rw [hplan] at hindexed
    cases plan with
    | evaluate => exact searchMemory_withoutIndex hindexed s hphrases
    | ask store condition => rfl
    | fail e => rfl

/-- **The word index is only an accelerator.** A search of a folder of raw messages with ASCII bodies, whose word
index has just been built, has the answer that it has without the index. -/
theorem search_withoutIndex (hf : f.InMemory)
    (hascii : ∀ uid m, (f.fetch uid).1 = .ok m → IsAscii m.bodyText.toList) (s : Session)
    (expression : String)
    (hphrases : ∀ t, (s.read (effective expression)).1 = .ok t → PlainPhrases t) :
    (s.search f.buildWordIndex expression none).1 =
      (s.search f.buildWordIndex.withoutIndex expression none).1 := by
  have hindexed := Folder.indexed_buildWordIndex hf.sound hascii
  -- The route depends on the expression and the store, but not on the index.
  have hroute : f.buildWordIndex.withoutIndex.route (effective expression) none =
      f.buildWordIndex.route (effective expression) none := rfl
  rw [search, search]
  dsimp only
  rw [hroute]
  cases f.buildWordIndex.route (effective expression) none with
  | memory => exact (searchMemory_withoutIndex hindexed s hphrases).symm
  | database => exact (searchDatabase_withoutIndex hindexed s hphrases).symm

theorem search_withoutIndex_greeting :
    let f := Folder.ofMessages "in" [("1", Ascii.bytes "Subject: a\n\nHello, World")]
    let s := Session.start .tree 0
    (s.search f.buildWordIndex "(match-all (body-contains \"hello wor\"))" none).1 =
        (s.search f.buildWordIndex.withoutIndex "(match-all (body-contains \"hello wor\"))" none).1 ∧
      (s.search f.buildWordIndex "(match-all (body-contains \"hello wor\"))" none).1 = .ok ["1"] := by
  refine ⟨search_withoutIndex (.ofMessages ..) ?_ _ _ ?_, eq_ok_of_toOption (by decide +kernel)⟩
  · intro uid m hm
    rw [(Folder.fetch_eq_content (Folder.InMemory.ofMessages ..).sound.faithful uid).1] at hm
    have huid : uid ∈ ["1"] := Folder.mem_uids_of_content hm
    obtain rfl := List.mem_singleton.1 huid
    obtain rfl : Message.ofRaw (Ascii.bytes "Subject: a\n\nHello, World") = m := Except.ok.inj hm
    have hascii : (Message.ofRaw (Ascii.bytes "Subject: a\n\nHello, World")).bodyText.toList.all
        (·.toNat < 128) = true := by decide +kernel
    exact fun c hc => by simpa using List.all_eq_true.1 hascii c hc
  · have hread : ((Session.start .tree 0).read
        (effective "(match-all (body-contains \"hello wor\"))")).1 =
          .ok (.call "match-all" [.call "body-contains" [.string "hello wor"]]) :=
      eq_ok_of_toOption (by decide +kernel)
    have hphrase : PlainPhrase "hello wor" := by
      have hascii : "hello wor".toList.all (·.toNat < 128) = true := by decide +kernel
      exact ⟨fun c hc => by simpa using List.all_eq_true.1 hascii c hc, by decide +kernel⟩
    intro t ht
    obtain rfl := Except.ok.inj (hread.symm.trans ht)
    refine .call (fun a ha => ?_) (fun hname => absurd hname (by decide))
    obtain rfl := List.mem_singleton.1 ha
    refine .call (fun a ha => ?_) fun _ a ha => ⟨"hello wor", List.mem_singleton.1 ha, hphrase⟩
    rw [List.mem_singleton.1 ha]
    exact .string _

end Session

end MailQuery
