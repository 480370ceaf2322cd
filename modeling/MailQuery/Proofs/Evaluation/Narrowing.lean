import MailQuery.Proofs.Evaluation.Agreeing
import MailQuery.Proofs.Evaluation.Modes

/-!
# Evaluations about fewer messages

Two evaluations of one term, one about some messages of a folder and one about fewer of them. For a single message there is
no difference (`eval_on`). For a whole folder the sets that are found by going through the messages are smaller
(`simulates_selectFrom`), while those that come from the word index or from a list of uids are the same. Both agree on
the fewer messages, which is all that negation and the logical operators depend on.

`simulates_eval` is the main statement: the second evaluation follows the first. It needs a message for each uid, since
bodies are asked for by their uids, and a term without `match-threads`, which expands a set by threads that may leave the
fewer messages.
-/

namespace MailQuery

open Mail

/-- A term in which a function is not called. -/
inductive Term.Avoids (function : String) : Term → Prop where
  | bool (b : Bool) : Avoids function (.bool b)
  | int (n : Int64) : Avoids function (.int n)
  | string (t : String) : Avoids function (.string t)
  | call {name : String} {args : List Term} (hname : name ≠ function) (hargs : ∀ a ∈ args, Avoids function a) :
      Avoids function (.call name args)

namespace Search

open Reading

/-- What a search about other messages of the same folder works on. -/
def Scope.on (s : Scope) (working : List String) : Scope := { s with working }

variable {s : Scope} {fetch : String → Except SearchError Message} {among : List String} {v v' : Value}
  {values values' : List Value}

/-! ### Single messages -/

theorem hasAnyQuery_on (m : Summary) (queries : List Query) :
    hasAnyQuery (s.on among) m queries = hasAnyQuery s m queries := by
  induction queries with
  | nil => rfl
  | cons q queries ih =>
    rw [hasAnyQuery, hasAnyQuery, ih]
    rfl

theorem apply_on (m : Summary) (f : Builtin) (values : List Value) :
    apply (s.on among) (some m) f values = apply s (some m) f values := by
  cases f with
  | bodyContains =>
    simp only [apply, bodyContains, hasAnyQuery_on]
    rfl
  | _ => rfl

theorem evalAll_on {m : Summary} {args : List Term}
    (hargs : ∀ a ∈ args, eval (s.on among) (some m) a = eval s (some m) a) :
    evalAll (s.on among) (some m) args = evalAll s (some m) args := by
  induction args with
  | nil => rw [evalAll, evalAll]
  | cons a args ih =>
    obtain ⟨ha, hargs⟩ := List.forall_mem_cons.1 hargs
    rw [evalAll_cons, evalAll_cons, ha, ih hargs]

theorem evalJoined_on {m : Summary} {args : List Term}
    (hargs : ∀ a ∈ args, eval (s.on among) (some m) a = eval s (some m) a) (isAnd : Bool) (seen : Joined) :
    evalJoined (s.on among) (some m) isAnd seen args = evalJoined s (some m) isAnd seen args := by
  induction args generalizing seen with
  | nil => rw [evalJoined_nil, evalJoined_nil]
  | cons a args ih =>
    obtain ⟨ha, hargs⟩ := List.forall_mem_cons.1 hargs
    rw [evalJoined_cons, evalJoined_cons, ha]
    simp only [ih hargs]

/-- **A verdict on one message does not depend on what else the search is about.** -/
theorem eval_on {t : Term} (ht : t.Avoids "match-threads") (m : Summary) :
    eval (s.on among) (some m) t = eval s (some m) t := by
  induction ht with
  | bool b => rw [eval, eval]
  | int n => rw [eval, eval]
  | string t => rw [eval, eval]
  | @call name args _ _ ih =>
    have hall := evalAll_on ih
    cases hname : Builtin.ofName? name with
    | none => rw [eval_unknown hname, eval_unknown hname]
    | some f =>
      by_cases hstrict : f.IsStrict
      · rw [eval_strict hname hstrict, eval_strict hname hstrict, hall]
        simp only [apply_on]
      · cases f with
        | and => rw [eval_and hname, eval_and hname, evalJoined_on ih]
        | or => rw [eval_or hname, eval_or hname, evalJoined_on ih]
        | sqlExp => rw [eval_sqlExp hname, eval_sqlExp hname]
        | ifThen =>
          rcases args with _ | ⟨condition, _ | ⟨yes, _ | ⟨no, _ | ⟨last, rest⟩⟩⟩⟩
          · rw [eval_ifThen_arity hname (by simp) (by simp), eval_ifThen_arity hname (by simp) (by simp)]
          · rw [eval_ifThen_arity hname (by simp) (by simp), eval_ifThen_arity hname (by simp) (by simp)]
          · rw [eval_ifThen_two hname, eval_ifThen_two hname, ih condition (by simp), ih yes (by simp)]
          · rw [eval_ifThen_three hname, eval_ifThen_three hname, ih condition (by simp), ih yes (by simp),
              ih no (by simp)]
          · rw [eval_ifThen_arity hname (by simp) (by simp), eval_ifThen_arity hname (by simp) (by simp)]
        | matchAll =>
          cases args with
          | nil =>
            rw [eval_matchAll_nil hname, eval_matchAll_nil hname]
            rfl
          | cons inner rest =>
            rw [eval_matchAll_cons hname, eval_matchAll_cons hname, Scope.judge, Scope.judge,
              ih inner (List.mem_cons_self ..)]
        | matchThreads => rw [eval_matchThreads_inside hname, eval_matchThreads_inside hname]
        | _ => exact absurd trivial hstrict
/-! ### Going through the messages -/

/-- Whether a test of a message is true. -/
def passes (fetch : String → Except SearchError Message) (read : Summary → Reading Bool) (m : Summary) : Bool :=
  match (read m).run fetch with
  | .ok b => b
  | .error _ => false

/-- Going through messages succeeds only if the test of each of them does. -/
theorem run_eq_passes {read : Summary → Reading Bool} {uids : List String} {hits : UidSet}
    (h : (s.selectFrom read uids).run fetch = .ok hits) :
    ∀ uid ∈ uids, ∀ m, s.catalog.find? uid = some m → (read m).run fetch = .ok (passes fetch read m) := by
  induction uids generalizing hits with
  | nil => exact fun uid huid => absurd huid List.not_mem_nil
  | cons uid uids ih =>
    rw [Scope.selectFrom] at h
    refine List.forall_mem_cons.2 ?_
    cases hfind : s.catalog.find? uid with
    | none =>
      rw [hfind] at h
      exact ⟨fun m hm => (by cases hm), ih h⟩
    | some m =>
      simp only [hfind, run_bind] at h
      cases hm : (read m).run fetch with
      | error e =>
        rw [hm] at h
        cases h
      | ok hit =>
        rw [hm, ok_bind] at h
        cases hrest : (s.selectFrom read uids).run fetch with
        | error e =>
          rw [hrest] at h
          cases h
        | ok found =>
          refine ⟨?_, ih hrest⟩
          rintro m' hm'
          obtain rfl : m = m' := Option.some.inj hm'
          rw [passes, hm]

/-- Where all tests succeed, the messages are found whose test is true. -/
theorem exists_run_selectFrom {read : Summary → Reading Bool} {uids : List String}
    (h : ∀ uid ∈ uids, ∀ m, s.catalog.find? uid = some m → (read m).run fetch = .ok (passes fetch read m)) :
    ∃ hits, (s.selectFrom read uids).run fetch = .ok hits ∧
      ∀ uid, uid ∈ hits ↔ uid ∈ uids ∧ (s.catalog.find? uid).any (passes fetch read) = true := by
  obtain ⟨hits, hselect, hmem⟩ := s.exists_selectFrom (passes fetch read) uids
  refine ⟨hits, ?_, hmem⟩
  rw [s.run_selectFrom h, hselect, run_pure]

/-- Going through fewer messages finds the same among them. -/
theorem simulates_selectFrom (read : Summary → Reading Bool) {uids uids' : List String}
    (hsub : ∀ uid ∈ uids', uid ∈ uids) (hamong : ∀ uid ∈ among, uid ∈ uids → uid ∈ uids') :
    Simulates fetch (UidSet.SameAmong among) (s.selectFrom read uids) ((s.on among).selectFrom read uids') := by
  intro hits hrun
  have hread := run_eq_passes hrun
  obtain ⟨found, hfound, hmem⟩ := exists_run_selectFrom hread
  obtain rfl : hits = found := Except.ok.inj (hrun.symm.trans hfound)
  have hread' : ∀ uid ∈ uids', ∀ m, (s.on among).catalog.find? uid = some m →
      (read m).run fetch = .ok (passes fetch read m) := fun uid huid => hread uid (hsub uid huid)
  obtain ⟨hits', hrun', hmem'⟩ := exists_run_selectFrom hread'
  refine ⟨hits', hrun', fun uid huid => ?_⟩
  rw [hmem, hmem']
  exact and_congr_left fun _ => ⟨hamong uid huid, hsub uid⟩

theorem simulates_judge (read : Summary → Reading Bool) (hsub : ∀ uid ∈ among, uid ∈ s.working) :
    Simulates fetch (Value.Agrees among) (s.judge none read) ((s.on among).judge none read) :=
  (simulates_selectFrom read hsub fun _ huid _ => huid).bind fun _ _ h => .pure (.uids h)

/-- Bodies are gone through like the messages that they belong to. -/
theorem scanBodies_eq_selectFrom (query : Query) {uids : List String}
    (h : ∀ uid ∈ uids, (s.catalog.find? uid).isSome = true) :
    scanBodies query uids = s.selectFrom (fun m => contentTest (bodyHasWords query) m.uid) uids := by
  induction uids with
  | nil => rfl
  | cons uid uids ih =>
    obtain ⟨hfirst, hrest⟩ := List.forall_mem_cons.1 h
    obtain ⟨m, hm⟩ := Option.isSome_iff_exists.1 hfirst
    have huid : m.uid = uid := by simpa using List.find?_some hm
    rw [scanBodies, Scope.selectFrom, hm, ih hrest]
    simp only [huid]

/-- What an index leaves to be gone through depends on what the search is about only at the end. -/
theorem exists_candidates_on (s : Scope) (query : Query) :
    (∃ e, candidates s query = .error e) ∨
      ∃ keep, ∀ working, candidates (s.on working) query = .ok (working.filter keep) := by
  cases hwords : s.catalog.words with
  | none =>
    refine .inr ⟨fun _ => true, fun working => ?_⟩
    simp only [candidates, Scope.on, hwords, List.filter_true]
  | some index =>
    by_cases hsimple : (simpleWords query).isEmpty = true
    · refine .inr ⟨fun _ => true, fun working => ?_⟩
      simp only [candidates, Scope.on, hwords, hsimple, if_true, List.filter_true]
    · cases hlookup : index.lookup (simpleWords query) false with
      | error e =>
        refine .inl ⟨e, ?_⟩
        simp only [candidates, hwords, hsimple, Bool.false_eq_true, if_false, hlookup]
        rfl
      | ok uids =>
        refine .inr ⟨uids.contains, fun working => ?_⟩
        simp only [candidates, Scope.on, hwords, hsimple, Bool.false_eq_true, if_false, hlookup]
        rfl

theorem simulates_findQuery (hs : s.Complete) (hsub : ∀ uid ∈ among, uid ∈ s.working) (query : Query) :
    Simulates fetch (UidSet.SameAmong among) (findQuery s query) (findQuery (s.on among) query) := by
  have hindex : indexFor? (s.on among) query = indexFor? s query := rfl
  rw [findQuery, findQuery, hindex]
  cases indexFor? s query with
  | some index => exact .refl UidSet.SameAmong.refl _
  | none =>
    obtain ⟨e, he⟩ | ⟨keep, hkeep⟩ := exists_candidates_on s query
    · dsimp only
      rw [he]
      exact .fail
    · have hcandidates : candidates s query = .ok (s.working.filter keep) := hkeep s.working
      dsimp only
      rw [hcandidates, hkeep among]
      have hknown : ∀ uid ∈ s.working.filter keep, (s.catalog.find? uid).isSome = true :=
        fun uid huid => hs uid (List.mem_of_mem_filter huid)
      have hfewer : ∀ uid ∈ among.filter keep, uid ∈ s.working.filter keep := by
        intro uid huid
        obtain ⟨huid, hkept⟩ := List.mem_filter.1 huid
        exact List.mem_filter.2 ⟨hsub uid huid, hkept⟩
      dsimp only
      rw [scanBodies_eq_selectFrom query hknown,
        scanBodies_eq_selectFrom (s := s.on among) query fun uid huid => hknown uid (hfewer uid huid)]
      exact simulates_selectFrom _ hfewer fun uid huid hmem =>
        List.mem_filter.2 ⟨huid, (List.mem_filter.1 hmem).2⟩

theorem simulates_findAnyQuery (hs : s.Complete) (hsub : ∀ uid ∈ among, uid ∈ s.working) (queries : List Query) :
    Simulates fetch (UidSet.SameAmong among) (findAnyQuery s queries) (findAnyQuery (s.on among) queries) := by
  induction queries with
  | nil => exact .pure (UidSet.SameAmong.refl ∅)
  | cons query queries ih =>
    rw [findAnyQuery, findAnyQuery]
    refine (simulates_findQuery hs hsub query).bind fun hits hits' hfirst => ?_
    refine ih.bind fun rest rest' hrest => .pure fun uid huid => ?_
    rw [TextSet.mem_union, TextSet.mem_union, hfirst uid huid, hrest uid huid]

theorem simulates_bodyContains (hs : s.Complete) (hsub : ∀ uid ∈ among, uid ∈ s.working) (phrases : List String) :
    Simulates fetch (Value.Agrees among) (bodyContains s none phrases) (bodyContains (s.on among) none phrases) := by
  by_cases hempty : phrases = [""]
  · rw [bodyContains, bodyContains, if_pos hempty, if_pos hempty]
    exact simulates_judge _ hsub
  · rw [bodyContains, bodyContains, if_neg hempty, if_neg hempty]
    exact (simulates_findAnyQuery hs hsub _).bind fun _ _ h => .pure (.uids h)
/-! ### Functions -/

/-- The complements within what the searches are about. -/
theorem simulates_negation (hsub : ∀ uid ∈ among, uid ∈ s.working)
    (h : List.Forall₂ (Value.Agrees among) values values') :
    Simulates fetch (Value.Agrees among) (.done (negation s none values.head?))
      (.done (negation (s.on among) none values'.head?)) := by
  cases h with
  | nil => exact .refl .same _
  | @cons v v' values values' hv _ =>
    cases hv with
    | same =>
      cases v with
      | uids hits =>
        refine .pure (.uids fun uid huid => ?_)
        rw [TextSet.mem_ofList, TextSet.mem_ofList, List.mem_filter, List.mem_filter]
        exact and_congr_left fun _ => ⟨fun _ => huid, fun _ => hsub uid huid⟩
      | _ => exact .refl .same _
    | @uids hits hits' hsame =>
      refine .pure (.uids fun uid huid => ?_)
      rw [TextSet.mem_ofList, TextSet.mem_ofList, List.mem_filter, List.mem_filter, Bool.not_eq_true',
        Bool.not_eq_true', ← Bool.not_eq_true, ← Bool.not_eq_true, TextSet.contains_iff, TextSet.contains_iff,
        hsame uid huid]
      exact and_congr_left fun _ => ⟨fun _ => huid, fun _ => hsub uid huid⟩

theorem simulates_headerRegex (h : List.Forall₂ (Value.Agrees among) values values') :
    Simulates fetch (Value.Agrees among) (headerRegex none values) (headerRegex none values') := by
  cases h with
  | nil => exact .fail
  | @cons v v' values values' hv hrest =>
    cases hv with
    | uids => exact .fail
    | same =>
      cases v with
      | string header =>
        cases hrest with
        | nil => exact .fail
        | cons => exact .refl .same _
      | _ => exact .fail

theorem simulates_locationTest (hsub : ∀ uid ∈ among, uid ∈ s.working)
    (h : List.Forall₂ (Value.Agrees among) values values') :
    Simulates fetch (Value.Agrees among) (locationTest s none values) (locationTest (s.on among) none values') := by
  have hiff : values' = [.string s.catalog.location] ↔ values = [.string s.catalog.location] := by
    constructor
    · rintro rfl
      cases h with
      | cons hv hrest =>
        cases hrest
        cases hv
        rfl
    · rintro rfl
      cases h with
      | cons hv hrest =>
        cases hrest
        cases hv
        rfl
  rw [locationTest, locationTest]
  show Simulates _ _ _ (if values' = [.string s.catalog.location] then _ else _)
  by_cases hlocation : values = [.string s.catalog.location]
  · rw [if_pos hlocation, if_pos (hiff.2 hlocation)]
    exact simulates_judge _ hsub
  · rw [if_neg hlocation, if_neg (mt hiff.1 hlocation)]
    exact .refl .same _

theorem simulates_compareDate (h : List.Forall₂ (Value.Agrees among) values values') :
    Simulates fetch (Value.Agrees among) (apply s none .compareDate values)
      (apply (s.on among) none .compareDate values') := by
  cases h with
  | nil => exact .fail
  | cons ha hrest =>
    cases hrest with
    | nil => exact .fail
    | cons hb hrest =>
      cases hrest with
      | nil =>
        simp only [apply, MailQuery.compareDate, number?_of_agrees ha, number?_of_agrees hb]
        exact .refl .same _
      | cons => exact .fail

theorem head?_elim_makeTime_of_agrees (h : List.Forall₂ (Value.Agrees among) values values') :
    values'.head?.elim (-1) makeTime = values.head?.elim (-1) makeTime := by
  cases h with
  | nil => rfl
  | cons hv _ =>
    cases hv with
    | same => rfl
    | uids => rfl

/-- A function of evaluated arguments. -/
theorem simulates_apply (hs : s.Complete) (hsub : ∀ uid ∈ among, uid ∈ s.working) (f : Builtin)
    (h : List.Forall₂ (Value.Agrees among) values values') :
    Simulates fetch (Value.Agrees among) (apply s none f values) (apply (s.on among) none f values') := by
  have htexts := texts_of_agrees h
  have hdrop := texts_of_agrees (List.forall₂_drop 1 h)
  have hfirst := firstText_of_agrees f.name h
  cases f with
  | not => exact simulates_negation hsub h
  | compare c => exact simulates_done_of_plain plain_of_compareValues h
  | add => exact simulates_done_of_plain plain_of_sum h
  | subtract => exact simulates_done_of_plain plain_of_difference h
  | castInt => exact simulates_done_of_plain plain_of_castInt h
  | castString => exact simulates_done_of_plain plain_of_castString h
  | header style =>
    simp only [apply, hfirst, hdrop]
    cases firstText (Builtin.header style).name values with
    | error e => exact .fail
    | ok header => exact simulates_judge _ hsub
  | headerRegex => exact simulates_headerRegex h
  | bodyContains =>
    simp only [apply, htexts]
    exact simulates_bodyContains hs hsub _
  | bodyRegex =>
    simp only [apply, bodyRegex, htexts]
    cases readPatterns "body-regex" true (Value.texts values) with
    | error e => exact .fail
    | ok p => exact simulates_judge _ hsub
  | userTag =>
    simp only [apply, hfirst]
    exact .refl .same _
  | systemFlag =>
    simp only [apply, hfirst]
    exact .refl .same _
  | relativeMonths =>
    simp only [apply, relativeMonths_of_agrees _ h]
    exact .refl .same _
  | uid =>
    simp only [apply, htexts]
    exact .refl .same _
  | messageLocation => exact simulates_locationTest hsub h
  | makeTime =>
    simp only [apply, head?_elim_makeTime_of_agrees h]
    exact .refl .same _
  | compareDate => exact simulates_compareDate h
  | _ => exact .refl .same _
/-! ### Terms -/

theorem simulates_evalAll {args : List Term}
    (hargs : ∀ a ∈ args, Simulates fetch (Value.Agrees among) (eval s none a) (eval (s.on among) none a)) :
    Simulates fetch (List.Forall₂ (Value.Agrees among)) (evalAll s none args) (evalAll (s.on among) none args) := by
  induction args with
  | nil =>
    rw [evalAll, evalAll]
    exact .pure .nil
  | cons a args ih =>
    obtain ⟨ha, hargs⟩ := List.forall_mem_cons.1 hargs
    rw [evalAll_cons, evalAll_cons]
    exact ha.bind fun _ _ hv => (ih hargs).bind fun _ _ hvs => .pure (.cons hv hvs)

theorem simulates_evalJoined {args : List Term}
    (hargs : ∀ a ∈ args, Simulates fetch (Value.Agrees among) (eval s none a) (eval (s.on among) none a))
    (isAnd : Bool) {seen seen' : Joined} (hseen : Joined.Agrees among seen seen') :
    Simulates fetch (Value.Agrees among) (evalJoined s none isAnd seen args)
      (evalJoined (s.on among) none isAnd seen' args) := by
  induction args generalizing seen seen' with
  | nil =>
    rw [evalJoined_nil, evalJoined_nil]
    exact .pure (hseen.value isAnd)
  | cons a args ih =>
    obtain ⟨ha, hargs⟩ := List.forall_mem_cons.1 hargs
    rw [evalJoined_cons, evalJoined_cons]
    refine ha.bind fun v v' hv => ?_
    cases hadd : seen.add isAnd v with
    | error e => exact .fail
    | ok next =>
      obtain ⟨next', hadd', hnext⟩ := hseen.add isAnd hv hadd
      rw [hadd']
      cases hnext with
      | inl h => exact ih hargs h
      | inr h =>
        subst h
        exact .refl .same _

/-- A choice is made by a truth value, on which both evaluations agree. -/
theorem simulates_choice {condition condition' yes yes' no no' : Reading Value}
    (hcondition : Simulates fetch (Value.Agrees among) condition condition')
    (hyes : Simulates fetch (Value.Agrees among) yes yes') (hno : Simulates fetch (Value.Agrees among) no no') :
    Simulates fetch (Value.Agrees among)
      (do
        let v ← condition
        let holds ← asVerdict "if" v
        if holds then yes else no)
      (do
        let v ← condition'
        let holds ← asVerdict "if" v
        if holds then yes' else no') := by
  refine hcondition.bind fun v v' hv => ?_
  have hverdict : Simulates fetch Eq (asVerdict "if" v) (asVerdict "if" v') := by
    cases hv with
    | same => exact .refl (fun _ => rfl) _
    | uids => exact .fail
  refine hverdict.bind fun holds holds' h => ?_
  subst h
  cases holds with
  | true => exact hyes
  | false => exact hno

/-- **An evaluation about fewer messages follows the one about all of them**: it succeeds where that does, with a value
which is the same as far as these messages go. -/
theorem simulates_eval (hs : s.Complete) (hsub : ∀ uid ∈ among, uid ∈ s.working) {t : Term}
    (ht : t.Avoids "match-threads") :
    Simulates fetch (Value.Agrees among) (eval s none t) (eval (s.on among) none t) := by
  induction ht with
  | bool b =>
    rw [eval, eval]
    exact .refl .same _
  | int n =>
    rw [eval, eval]
    exact .refl .same _
  | string t =>
    rw [eval, eval]
    exact .refl .same _
  | @call name args hthreads hargs ih =>
    cases hname : Builtin.ofName? name with
    | none =>
      rw [eval_unknown hname]
      exact .fail
    | some f =>
      by_cases hstrict : f.IsStrict
      · rw [eval_strict hname hstrict, eval_strict hname hstrict]
        exact (simulates_evalAll ih).bind fun _ _ h => simulates_apply hs hsub f h
      · cases f with
        | and =>
          rw [eval_and hname, eval_and hname]
          exact simulates_evalJoined ih true (.same .nothing)
        | or =>
          rw [eval_or hname, eval_or hname]
          exact simulates_evalJoined ih false (.same .nothing)
        | sqlExp =>
          rw [eval_sqlExp hname]
          exact .fail
        | ifThen =>
          rcases args with _ | ⟨condition, _ | ⟨yes, _ | ⟨no, _ | ⟨last, rest⟩⟩⟩⟩
          · rw [eval_ifThen_arity hname (by simp) (by simp)]
            exact .fail
          · rw [eval_ifThen_arity hname (by simp) (by simp)]
            exact .fail
          · rw [eval_ifThen_two hname, eval_ifThen_two hname]
            exact simulates_choice (ih condition (by simp)) (ih yes (by simp)) (.refl .same _)
          · rw [eval_ifThen_three hname, eval_ifThen_three hname]
            exact simulates_choice (ih condition (by simp)) (ih yes (by simp)) (ih no (by simp))
          · rw [eval_ifThen_arity hname (by simp) (by simp)]
            exact .fail
        | matchAll =>
          cases args with
          | nil =>
            rw [eval_matchAll_nil hname, eval_matchAll_nil hname]
            exact simulates_judge _ hsub
          | cons inner rest =>
            -- The verdicts on the messages are the same, so that only the messages are fewer.
            simp only [eval_matchAll_cons hname, eval_on (hargs inner (List.mem_cons_self ..))]
            exact simulates_judge _ hsub
        | matchThreads => exact absurd (Builtin.name_of_ofName? hname).symm hthreads
        | _ => exact absurd trivial hstrict

end Search

end MailQuery
