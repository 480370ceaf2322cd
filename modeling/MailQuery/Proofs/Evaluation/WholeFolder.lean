import MailQuery.Proofs.Evaluation.Modes
import MailQuery.Proofs.Evaluation.Reaching
import MailQuery.Proofs.Folders.Shortened
import MailQuery.Proofs.WordIndex.Accelerator

/-!
# The same test for a whole folder and message by message

A test of headers, bodies, uids or the location can be asked of the whole folder, which gives a set, and of one message,
which gives a truth value. `match-all` makes a set of the truth values. It is the same set, as far as the messages go that the
search is about (`Folder.valueOn_matchAll`).

Most tests go through the messages in either case, so that the two evaluations are the same (`eval_matchAll_of_judges`). The
test of bodies goes through all messages once for each phrase, or through all phrases for each message. Where it succeeds in
the first way it does so in the second, since the bodies are read in the same order for the first time
(`exists_runOn_selectFrom_of_scan`); and if both succeed they have seen the same bodies, even where messages can be read no
more.
-/

namespace MailQuery

open Mail

/-- The functions whose truth value for a message is that of being in the set for the folder, whether there is a word index
or not. -/
def Builtin.IsFolderTest : Builtin → Prop
  | .header _ | .bodyRegex | .uid | .messageLocation => True
  | _ => False

namespace Search

open Reading

variable {s : Scope} {current : Option Summary} {name : String} {t : Term}

/-! ### Calls with literals -/

theorem evalAll_literals (texts : List String) :
    evalAll s current (texts.map .string) = pure (texts.map .string) := by
  induction texts with
  | nil => rfl
  | cons text texts ih =>
    rw [List.map_cons, evalAll_cons, eval, pure_bind, ih, pure_bind]
    rfl

theorem texts_literals (texts : List String) : Value.texts (texts.map .string) = texts := by
  rw [Value.texts, List.filterMap_map]
  exact List.filterMap_some

theorem eval_literals {b : Builtin} (hname : Builtin.ofName? name = some b) (hstrict : b.IsStrict) (texts : List String) :
    eval s current (.call name (texts.map .string)) = apply s current b (texts.map .string) := by
  rw [eval_strict hname hstrict, evalAll_literals, pure_bind]

/-! ### Tests message by message -/

/-- A verdict that is taken for the value of a body is the verdict. -/
theorem bind_verdict (x : Reading Bool) : (do
    let v ← (do
      let b ← x
      pure (Value.bool b))
    asVerdict "match-all" v : Reading Bool) = x := by
  show (x.bind fun b => pure (Value.bool b)).bind (asVerdict "match-all") = x
  induction x with
  | done r => cases r <;> rfl
  | read uid next ih => exact congrArg (Reading.read uid) (funext ih)

/-- `match-all` does what a test does that goes through the messages itself. -/
theorem eval_matchAll_of_verdicts {test : Summary → Reading Bool} (h : ∀ m, eval s (some m) t = do
      let b ← test m
      pure (.bool b)) : eval s none (.call "match-all" [t]) = s.judge none test := by
  rw [eval_matchAll_cons (by decide +kernel)]
  refine congrArg (s.judge none) (funext fun m => ?_)
  rw [h m, bind_verdict]

theorem eval_matchAll_of_judges {test : Summary → Reading Bool} (h : ∀ current, eval s current t = s.judge current test) :
    eval s none (.call "match-all" [t]) = eval s none t := by
  rw [h none]
  exact eval_matchAll_of_verdicts fun m => h (some m)

theorem yields_selectFrom (test : Summary → Reading Bool) (uids : List String) :
    (s.selectFrom test uids).Yields fun hits => ∀ uid ∈ hits, uid ∈ uids := by
  induction uids with
  | nil => exact .pure fun uid huid => absurd huid (TextSet.not_mem_empty uid)
  | cons u uids ih =>
    rw [Scope.selectFrom]
    cases s.catalog.find? u with
    | none => exact ih.mono fun hits hhits uid huid => List.mem_cons_of_mem _ (hhits uid huid)
    | some m =>
      refine .bind_any fun hit => ih.bind fun hits hhits => .pure fun uid huid => ?_
      split at huid
      · rcases TextSet.mem_insert.1 huid with rfl | huid
        · exact List.mem_cons_self ..
        · exact List.mem_cons_of_mem _ (hhits uid huid)
      · exact List.mem_cons_of_mem _ (hhits uid huid)

/-! ### Tests of the summary or the location, and other tests that go through the messages -/

/-- What a test of the folder comes to: it fails, it goes through the messages, or it is known without reading any. -/
inductive TestsFolder (s : Scope) (value : Option Summary → Reading Value) : Prop where
  | fails (e : SearchError) (h : value none = .fail e)
  | judges (test : Summary → Reading Bool) (h : ∀ current, value current = s.judge current test)
  | knows (test : Summary → Bool) (found : UidSet) (hnone : value none = pure (.uids found))
      (hsome : ∀ m, value (some m) = pure (.bool (test m))) (hsame : ∀ m, test m = true ↔ m.uid ∈ found)

theorem testsFolder_apply {b : Builtin} (hb : b.IsFolderTest) (texts : List String) :
    TestsFolder s fun current => apply s current b (texts.map .string) := by
  cases b with
  | header style =>
    cases hheader : firstText (Builtin.header style).name (texts.map .string) with
    | error e =>
      refine .fails e ?_
      simp only [apply, hheader]
    | ok header =>
      refine .judges (headerTest style header (Value.texts ((texts.map Value.string).drop 1))) fun current => ?_
      simp only [apply, hheader]
  | bodyRegex =>
    cases hpattern : readPatterns "body-regex" true (Value.texts (texts.map .string)) with
    | error e =>
      refine .fails e ?_
      simp only [apply, bodyRegex, hpattern]
    | ok p =>
      refine .judges (fun m => contentTest (fun message => p.isFoundIn message.bodyText) m.uid) fun current => ?_
      simp only [apply, bodyRegex, hpattern]
  | uid =>
    refine .knows (fun m => (Value.texts (texts.map .string)).contains m.uid) (TextSet.ofList texts) ?_ (fun m => rfl)
      fun m => ?_
    · simp only [apply, uidTest, texts_literals]
    · rw [texts_literals, List.contains_iff_mem, TextSet.mem_ofList]
  | messageLocation =>
    by_cases hlocation : texts.map Value.string = [.string s.catalog.location]
    · refine .judges (fun _ => pure true) fun current => ?_
      simp only [apply, locationTest, if_pos hlocation]
    · refine .knows (fun _ => false) ∅ ?_ (fun m => ?_) fun m => ?_
      · simp only [apply, locationTest, if_neg hlocation]
        rfl
      · simp only [apply, locationTest, if_neg hlocation]
        rfl
      · simp
  | _ => exact hb.elim

/-- **Where the test succeeds for the folder `match-all` finds what of it the search is about.** -/
theorem TestsFolder.matchAll (hs : s.Complete) (h : TestsFolder s fun current => eval s current t) {σ : Type}
    {fetch : String → σ → Except SearchError Message × σ} {st : σ} {hits : UidSet}
    (hrun : ((eval s none t).runOn fetch st).1 = .ok (.uids hits)) :
    ((eval s none (.call "match-all" [t])).runOn fetch st).1 = .ok (.uids (hits.filter s.working.contains)) := by
  cases h with
  | fails e h =>
    rw [h] at hrun
    cases hrun
  | judges test h =>
    -- The set has no other messages than those that the search is about.
    have hyields : (eval s none t).Yields fun v => ∀ hits, v = .uids hits → ∀ uid ∈ hits, uid ∈ s.working := by
      rw [h none]
      refine (yields_selectFrom test s.working).bind fun found hfound => .pure ?_
      rintro hits heq
      obtain rfl : found = hits := Value.uids.inj heq
      exact hfound
    have hworking : hits.filter s.working.contains = hits := by
      refine TextSet.ext fun uid => ?_
      rw [TextSet.mem_filter, List.contains_iff_mem]
      exact and_iff_left_of_imp (hyields.of_runOn hrun hits rfl uid)
    rw [eval_matchAll_of_judges h, hrun, hworking]
  | knows test found hnone hsome hsame =>
    rw [hnone] at hrun
    obtain rfl : found = hits := Value.uids.inj (Except.ok.inj hrun)
    obtain ⟨hits', hjudge, hselects⟩ := s.exists_judge test
    have hsets : hits' = found.filter s.working.contains := by
      refine TextSet.ext fun uid => ?_
      rw [hselects, TextSet.mem_filter, List.contains_iff_mem]
      constructor
      · rintro ⟨huid, htest⟩
        obtain ⟨m, hm⟩ := Option.isSome_iff_exists.1 (hs uid huid)
        rw [hm, Option.any_some, hsame, show m.uid = uid by simpa using List.find?_some hm] at htest
        exact ⟨htest, huid⟩
      · rintro ⟨hmem, huid⟩
        obtain ⟨m, hm⟩ := Option.isSome_iff_exists.1 (hs uid huid)
        refine ⟨huid, ?_⟩
        rwa [hm, Option.any_some, hsame, show m.uid = uid by simpa using List.find?_some hm]
    have hmatch : eval s none (.call "match-all" [t]) = s.judge none fun m => pure (test m) :=
      eval_matchAll_of_verdicts hsome
    rw [hmatch, hjudge, hsets]
    rfl

/-! ### Tests of bodies -/

section

variable {answers : String → Except SearchError Message} {queries : List Query} {query : Query}

/-- One of some queries is found in what is answered for a uid. -/
def HasAny (answers : String → Except SearchError Message) (queries : List Query) (uid : String) : Bool :=
  queries.any fun query => (answers uid).toOption.any (bodyHasWords query)

variable (hwords : s.catalog.words = none)

include hwords

theorem indexFor?_eq_none : indexFor? s query = none := by
  unfold indexFor?
  split
  · rfl
  · exact hwords

/-- Without a word index a phrase is looked for in the body itself. -/
theorem hasQuery_eq_contentTest (query : Query) (m : Summary) :
    hasQuery s query m = contentTest (bodyHasWords query) m.uid := by
  rw [hasQuery, indexFor?_eq_none hwords]

theorem run_hasAnyQuery (hoptional : ∀ uid, Reading.optional (answers uid) = .ok (answers uid).toOption) (m : Summary) :
    (hasAnyQuery s m queries).run answers = .ok (HasAny answers queries m.uid) := by
  unfold HasAny
  induction queries with
  | nil => rfl
  | cons query queries ih =>
    rw [hasAnyQuery, hasQuery_eq_contentTest hwords, run_bind, run_contentTest hoptional, ok_bind, List.any_cons]
    cases (answers m.uid).toOption.any (bodyHasWords query) with
    | true => rfl
    | false => exact ih

theorem exists_run_findAnyQuery (hoptional : ∀ uid, Reading.optional (answers uid) = .ok (answers uid).toOption)
    (queries : List Query) : ∃ hits, (findAnyQuery s queries).run answers = .ok hits ∧
      ∀ uid, uid ∈ hits ↔ uid ∈ s.working ∧ HasAny answers queries uid = true := by
  unfold HasAny
  have hbare : s.withoutIndex = s := by
    unfold Scope.withoutIndex
    rw [← hwords]
  induction queries with
  | nil => exact ⟨∅, rfl, by simp⟩
  | cons query queries ih =>
    obtain ⟨rest, hrest, hmem⟩ := ih
    obtain ⟨first, hfirst, hmem'⟩ := run_findQuery_withoutIndex hoptional s query
    rw [hbare] at hfirst
    refine ⟨first.union rest, ?_, fun uid => ?_⟩
    · rw [findAnyQuery, run_bind, hfirst, ok_bind, run_bind, hrest]
      rfl
    · rw [TextSet.mem_union, hmem, hmem', List.any_cons, Bool.or_eq_true, and_or_left]

/-- What `match-all` finds if it succeeds. -/
theorem exists_run_selectFrom_hasAny (hoptional : ∀ uid, Reading.optional (answers uid) = .ok (answers uid).toOption)
    (hs : s.Complete) (queries : List Query) :
    ∃ hits, (s.selectFrom (hasAnyQuery s · queries) s.working).run answers = .ok hits ∧
      ∀ uid, uid ∈ hits ↔ uid ∈ s.working ∧ HasAny answers queries uid = true := by
  obtain ⟨hits, hselect, hmem⟩ := s.exists_selectFrom (fun m => HasAny answers queries m.uid) s.working
  refine ⟨hits, ?_, fun uid => ?_⟩
  · rw [Scope.run_selectFrom fun uid _ m _ => run_hasAnyQuery hwords hoptional m, hselect]
    rfl
  · rw [hmem]
    refine and_congr_right fun huid => ?_
    obtain ⟨m, hm⟩ := Option.isSome_iff_exists.1 (hs uid huid)
    rw [hm, Option.any_some, show m.uid = uid by simpa using List.find?_some hm]

/-! ### The order of reading -/

omit hwords in
theorem runOn_contentTest (test : Message → Bool) (f : Folder) (uid : String) :
    (contentTest test uid).runOn Folder.fetch f =
      ((Reading.optional (f.fetch uid).1).map (·.any test), (f.fetch uid).2) := by
  rw [contentTest, Reading.message?]
  show ((Reading.read uid pure).bind fun m? => pure (m?.any test)).runOn Folder.fetch f = _
  cases hfetch : f.fetch uid with
  | mk answer g =>
    rw [Reading.bind, runOn, hfetch]
    dsimp only
    cases Reading.optional answer with
    | error e => rfl
    | ok m? => rfl

/-- Phrases are looked for in a body that was just read, without any change. -/
theorem exists_runOn_hasAnyQuery {f : Folder} {m : Summary} {m? : Option Message}
    (hanswer : Reading.optional (f.fetch m.uid).1 = .ok m?) (hagain : (f.fetch m.uid).2 = f) :
    ∃ hit, (hasAnyQuery s m queries).runOn Folder.fetch f = (.ok hit, f) := by
  induction queries with
  | nil => exact ⟨false, rfl⟩
  | cons query queries ih =>
    have htest : (contentTest (bodyHasWords query) m.uid).runOn Folder.fetch f =
        (.ok (m?.any (bodyHasWords query)), f) := by
      rw [runOn_contentTest, hanswer, hagain]
      rfl
    rw [hasAnyQuery, hasQuery_eq_contentTest hwords, runOn_bind_of_ok htest]
    cases m?.any (bodyHasWords query) with
    | true => exact ⟨true, rfl⟩
    | false => exact ih

/-- **If the bodies can be gone through for the first phrase, `match-all` can go through them for all phrases.** It reads them
in the same order, each of them once or several times in succession. -/
theorem exists_runOn_selectFrom_of_scan {f g : Folder} (hf : f.Coherent) {uids : List String}
    (hknown : ∀ uid ∈ uids, (s.catalog.find? uid).isSome = true) (queries : List Query) {hits : UidSet}
    (hscan : (scanBodies query uids).runOn Folder.fetch f = (.ok hits, g)) :
    ∃ hits', (s.selectFrom (hasAnyQuery s · (query :: queries)) uids).runOn Folder.fetch f = (.ok hits', g) := by
  induction uids generalizing f hits with
  | nil =>
    have hsame : f = g := congrArg Prod.snd hscan
    exact ⟨∅, by rw [Scope.selectFrom, runOn_pure, hsame]⟩
  | cons uid uids ih =>
    obtain ⟨hfirst, hothers⟩ := List.forall_mem_cons.1 hknown
    obtain ⟨m, hm⟩ := Option.isSome_iff_exists.1 hfirst
    obtain rfl : m.uid = uid := by simpa using List.find?_some hm
    rw [scanBodies] at hscan
    obtain ⟨hit, mid, htest, hrest⟩ := exists_of_runOn_bind hscan
    obtain ⟨_, mid', hscan, hpure⟩ := exists_of_runOn_bind hrest
    rw [runOn_pure] at hpure
    obtain rfl : mid' = g := congrArg Prod.snd hpure
    obtain rfl : (f.fetch m.uid).2 = mid := congrArg Prod.snd ((runOn_contentTest _ f m.uid).symm.trans htest)
    obtain ⟨m?, hanswer⟩ : ∃ m?, Reading.optional (f.fetch m.uid).1 = .ok m? := by
      rw [runOn_contentTest] at htest
      cases hanswer : Reading.optional (f.fetch m.uid).1 with
      | ok m? => exact ⟨m?, rfl⟩
      | error e =>
        rw [hanswer] at htest
        cases htest
    -- In the folder that this leaves, the body is at hand for the other phrases.
    have htwice := Folder.fetch_fetch hf.fits m.uid
    obtain ⟨found, hfound⟩ : ∃ found, (hasAnyQuery s m (query :: queries)).runOn Folder.fetch f =
        (.ok found, (f.fetch m.uid).2) := by
      rw [hasAnyQuery, hasQuery_eq_contentTest hwords, runOn_bind_of_ok htest]
      cases hit with
      | true => exact ⟨true, rfl⟩
      | false =>
        have hagain : ((f.fetch m.uid).2.fetch m.uid).2 = (f.fetch m.uid).2 := by rw [htwice]
        have hanswer' : Reading.optional ((f.fetch m.uid).2.fetch m.uid).1 = .ok m? := by rwa [htwice]
        exact exists_runOn_hasAnyQuery hwords hanswer' hagain
    obtain ⟨hits', hhits'⟩ := ih (hf.fetch m.uid) hothers hscan
    refine ⟨if found then hits'.insert m.uid else hits', ?_⟩
    rw [Scope.selectFrom, hm]
    dsimp only
    rw [runOn_bind_of_ok hfound, runOn_bind_of_ok hhits', runOn_pure]

/-- **Where all bodies can be tested at once they can be tested message by message, with the same result.** -/
theorem matchAll_of_bodyContains {f : Folder} (hf : f.Coherent) (hs : s.Complete)
    (hname : Builtin.ofName? name = some .bodyContains) {texts : List String} {hits : UidSet}
    (hrun : ((eval s none (.call name (texts.map .string))).runOn Folder.fetch f).1 = .ok (.uids hits)) :
    ((eval s none (.call "match-all" [.call name (texts.map .string)])).runOn Folder.fetch f).1 =
      .ok (.uids (hits.filter s.working.contains)) := by
  have heval : ∀ current, eval s current (.call name (texts.map .string)) = bodyContains s current texts := by
    intro current
    rw [eval_literals hname trivial]
    simp only [apply, texts_literals]
  by_cases hempty : texts = [""]
  · have htests : TestsFolder s fun current => eval s current (.call name (texts.map .string)) := by
      refine .judges (fun _ => pure true) fun current => ?_
      rw [heval, bodyContains, if_pos hempty]
    exact htests.matchAll hs hrun
  · generalize hqueries : (texts.map fun p => splitWords p.toList).filter (!·.isEmpty) = queries
    have hnone : eval s none (.call name (texts.map .string)) =
        findAnyQuery s queries >>= fun hits => pure (.uids hits) := by
      rw [heval, bodyContains, if_neg hempty, ← hqueries]
    have hsome : ∀ m, eval s (some m) (.call name (texts.map .string)) =
        hasAnyQuery s m queries >>= fun b => pure (.bool b) := by
      intro m
      rw [heval, bodyContains, if_neg hempty, ← hqueries]
    have hmatch : eval s none (.call "match-all" [.call name (texts.map .string)]) =
        s.judge none (hasAnyQuery s · queries) := eval_matchAll_of_verdicts hsome
    have hexplains := hf.explains_answer
    have hoptional := f.optional_answer
    -- Going through the folder at once succeeds with the answers of now.
    rw [hnone] at hrun
    obtain ⟨found, g, hfind, hpure⟩ := exists_of_runOn_bind (Prod.ext hrun rfl)
    obtain rfl : found = hits := Value.uids.inj (Except.ok.inj (congrArg Prod.fst hpure))
    obtain ⟨found', hfind', hmem⟩ := exists_run_findAnyQuery hwords hoptional queries
    obtain rfl : found = found' :=
      Except.ok.inj ((Folder.run_of_explains hexplains (congrArg Prod.fst hfind)).symm.trans hfind')
    -- So does `match-all`, which reads the bodies in the order of the first phrase.
    obtain ⟨hits', g', hselect⟩ : ∃ hits' g', (s.selectFrom (hasAnyQuery s · queries) s.working).runOn Folder.fetch f =
        (.ok hits', g') := by
      cases queries with
      | nil =>
        obtain ⟨hits', hselect, -⟩ := s.exists_selectFrom (fun _ => false) s.working
        exact ⟨hits', f, congrArg (·.runOn Folder.fetch f) hselect⟩
      | cons query queries =>
        rw [findAnyQuery, findQuery, indexFor?_eq_none hwords, candidates, hwords] at hfind
        obtain ⟨first, mid, hscan, -⟩ := exists_of_runOn_bind hfind
        obtain ⟨hits', hselect⟩ := exists_runOn_selectFrom_of_scan hwords hf hs queries hscan
        exact ⟨hits', mid, hselect⟩
    obtain ⟨hits'', hselect', hmem'⟩ := exists_run_selectFrom_hasAny hwords hoptional hs queries
    obtain rfl : hits' = hits'' :=
      Except.ok.inj ((Folder.run_of_explains hexplains (congrArg Prod.fst hselect)).symm.trans hselect')
    have hsets : hits' = found.filter s.working.contains := by
      refine TextSet.ext fun uid => ?_
      rw [hmem', TextSet.mem_filter, hmem, List.contains_iff_mem]
      constructor
      · rintro ⟨huid, hany⟩
        exact ⟨⟨huid, hany⟩, huid⟩
      · exact And.left
    rw [hmatch, Scope.judge, Scope.select, runOn_bind_of_ok hselect, hsets]
    rfl

end

end Search

/-! ### Values -/

namespace Folder

open Search

/-- **Whole-folder answers equal per-message answers.** Where a test of headers, bodies, uids or the location with literal
arguments succeeds for the folder, `match-all` of it succeeds, and finds the messages of the set that the search is about.
Phrases are looked for in the bodies if there is no word index. This holds in every state of a folder, also if messages can
be read no more. -/
theorem valueOn_matchAll {f : Folder} (hf : f.Surviving) {working : List String}
    (hknown : ∀ uid ∈ working, (f.summary? uid).isSome = true) (now : Int64) {name : String} {b : Builtin}
    (hname : Builtin.ofName? name = some b) (hb : b.IsFolderTest ∨ b = .bodyContains ∧ f.catalog.words = none)
    {texts : List String} {hits : UidSet}
    (hvalue : f.valueOn working now none (.call name (texts.map .string)) = .ok (.uids hits)) :
    f.valueOn working now none (.call "match-all" [.call name (texts.map .string)]) =
      .ok (.uids (hits.filter working.contains)) := by
  have hcomplete : (f.scope working now).Complete := hknown
  obtain hb | ⟨rfl, hwords⟩ := hb
  · have hstrict : b.IsStrict := by
      cases b with
      | header _ | bodyRegex | uid | messageLocation => trivial
      | _ => exact hb.elim
    have htests : TestsFolder (f.scope working now) fun current =>
        eval (f.scope working now) current (.call name (texts.map .string)) := by
      simp only [eval_literals hname hstrict]
      exact testsFolder_apply hb texts
    exact htests.matchAll hcomplete hvalue
  · exact matchAll_of_bodyContains hwords hf.coherent hcomplete hname hvalue

/-- A header and uids, of which the search is not about all, and phrases in a body that is only in the cache any more. -/
theorem valueOn_matchAll_cut :
    let raw := Ascii.bytes "Subject: plan\n\nHello"
    let f := ofMessages "in" [("1", raw), ("2", Ascii.bytes "Subject: Re: plan\n\n"), ("3", Ascii.bytes "Subject: b\n\n")]
    let working := ["3", "2", "1"]
    let summary := Summary.ofRaw "1" raw (some ⟨0, raw.length.toUInt64⟩)
    let opened := ofCatalog ⟨"in", [summary], none⟩ "in" (.mailbox raw) 1
    let cut := (opened.perform (.fetch "1")).shorten 10
    f.valueOn working 0 none (.call "match-all" [.call "header-starts-with" [.string "subject", .string "Plan"]]) =
        .ok (.uids ((TextSet.ofList ["1"]).filter working.contains)) ∧
      f.valueOn working 0 none (.call "match-all" [.call "uid" [.string "2", .string "9"]]) =
        .ok (.uids ((TextSet.ofList ["2", "9"]).filter working.contains)) ∧
      cut.valueOn ["1"] 0 none (.call "match-all" [.call "body-contains" [.string "bye", .string "hello"]]) =
        .ok (.uids ((TextSet.ofList ["1"]).filter ["1"].contains)) := by
  intro raw f working summary opened cut
  have hf : f.Surviving := .start rfl
  have hopened : (opened.perform (.fetch "1")).Opened := .perform _ (.start rfl)
  have hcut : cut.Surviving := .shorten 10 hopened.surviving
  have hknown : ∀ uid ∈ working, (f.summary? uid).isSome = true := by decide +kernel
  have hwords : cut.catalog.words = none := by
    obtain ⟨cache, hcache⟩ := exists_cache_of_fetch opened "1"
    exact congrArg (fun g : Folder => g.catalog.words) hcache
  have hheader : f.valueOn working 0 none (.call "header-starts-with" (["subject", "Plan"].map .string)) =
      .ok (.uids (TextSet.ofList ["1"])) := eq_ok_of_toOption (by decide +kernel)
  have huids : f.valueOn working 0 none (.call "uid" (["2", "9"].map .string)) =
      .ok (.uids (TextSet.ofList ["2", "9"])) := eq_ok_of_toOption (by decide +kernel)
  have hbody : cut.valueOn ["1"] 0 none (.call "body-contains" (["bye", "hello"].map .string)) =
      .ok (.uids (TextSet.ofList ["1"])) := eq_ok_of_toOption (by decide +kernel)
  have hcutKnown : ∀ uid ∈ ["1"], (cut.summary? uid).isSome = true := by decide +kernel
  have hsubjects := valueOn_matchAll (b := .header .startsWith) hf hknown 0 (by decide +kernel) (.inl trivial) hheader
  have hlisted := valueOn_matchAll (b := .uid) hf hknown 0 (by decide +kernel) (.inl trivial) huids
  have hphrases := valueOn_matchAll (b := .bodyContains) hcut hcutKnown 0 (by decide +kernel) (.inr ⟨rfl, hwords⟩) hbody
  exact ⟨hsubjects, hlisted, hphrases⟩

end Folder

end MailQuery
