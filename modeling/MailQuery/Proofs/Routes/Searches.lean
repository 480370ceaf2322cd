import MailQuery.Proofs.Routes.Conditions

/-!
# Searches that are evaluated and lowered alike

`IsSearch` are the terms about a whole folder that both sides answer: `match-all` of a condition, and what is built
from it with logical operators. Evaluation counts with sets of uids where the database goes through the rows one by
one. `Scope.Chosen` are the messages that a test is true of. Complements, intersections and unions of such sets are
chosen by the tests that the database decides (`exists_search`), as long as there is a message for each uid.
-/

namespace MailQuery

open Mail Sql Search

/-- Searches of a whole folder. -/
inductive Term.IsSearch : Term → Prop where
  | everyMessage : IsSearch (.call "match-all" [])
  | matchAll {t : Term} (h : IsTest t) : IsSearch (.call "match-all" [t])
  | not {t : Term} (h : IsSearch t) : IsSearch (.call "not" [t])
  | and {args : List Term} (hargs : ∀ a ∈ args, IsSearch a) (hne : args ≠ []) : IsSearch (.call "and" args)
  | or {args : List Term} (hargs : ∀ a ∈ args, IsSearch a) (hne : args ≠ []) : IsSearch (.call "or" args)

theorem Term.IsSearch.writesNone {t : Term} (h : t.IsSearch) : t.WritesNone := by
  induction h with
  | everyMessage => exact writesNone_strings (by decide) []
  | matchAll h => exact writesNone_call_iff.2 ⟨by decide, List.forall_mem_singleton.2 h.writesNone⟩
  | not _ ih => exact writesNone_call_iff.2 ⟨by decide, List.forall_mem_singleton.2 ih⟩
  | and _ _ ih => exact writesNone_call_iff.2 ⟨by decide, ih⟩
  | or _ _ ih => exact writesNone_call_iff.2 ⟨by decide, ih⟩

namespace Search

variable {s : Scope} {test test' : Summary → Bool} {uid : String}

/-- Whether a search is about a message and a test is true of it. -/
def Scope.Chosen (s : Scope) (test : Summary → Bool) (uid : String) : Prop :=
  uid ∈ s.working ∧ (s.catalog.find? uid).any test = true

/-- Whether there is a message for each uid that a search is about. -/
def Scope.Complete (s : Scope) : Prop := ∀ uid ∈ s.working, (s.catalog.find? uid).isSome = true

/-- A set that holds the messages which a test is true of. -/
def Scope.Selects (s : Scope) (test : Summary → Bool) (hits : UidSet) : Prop := ∀ uid, uid ∈ hits ↔ s.Chosen test uid

/-! ### Sets of messages -/

theorem Scope.exists_selectFrom (s : Scope) (test : Summary → Bool) (uids : List String) :
    ∃ hits : UidSet, s.selectFrom (fun m => pure (test m)) uids = pure hits ∧
      ∀ uid, uid ∈ hits ↔ uid ∈ uids ∧ (s.catalog.find? uid).any test = true := by
  induction uids with
  | nil =>
    refine ⟨∅, rfl, fun uid => ?_⟩
    simp
  | cons u uids ih =>
    obtain ⟨hits, hselect, hmem⟩ := ih
    rw [selectFrom]
    cases hfind : s.catalog.find? u with
    | none =>
      refine ⟨hits, hselect, fun uid => ?_⟩
      rw [hmem, List.mem_cons]
      constructor
      · rintro ⟨huid, hany⟩
        exact ⟨.inr huid, hany⟩
      · rintro ⟨rfl | huid, hany⟩
        · rw [hfind] at hany
          cases hany
        · exact ⟨huid, hany⟩
    | some m =>
      refine ⟨if test m then hits.insert u else hits, ?_, fun uid => ?_⟩
      · show (s.selectFrom (fun m => pure (test m)) uids >>= fun hits =>
          pure (if test m then hits.insert u else hits)) = _
        rw [hselect]
        rfl
      · cases htest : test m with
        | true =>
          rw [if_pos rfl, TextSet.mem_insert, hmem, List.mem_cons]
          constructor
          · rintro (rfl | ⟨huid, hany⟩)
            · exact ⟨.inl rfl, by rw [hfind]; exact htest⟩
            · exact ⟨.inr huid, hany⟩
          · rintro ⟨rfl | huid, hany⟩
            · exact .inl rfl
            · exact .inr ⟨huid, hany⟩
        | false =>
          rw [if_neg (by decide), hmem, List.mem_cons]
          constructor
          · rintro ⟨huid, hany⟩
            exact ⟨.inr huid, hany⟩
          · rintro ⟨rfl | huid, hany⟩
            · rw [hfind] at hany
              exact absurd hany (by rw [Option.any_some, htest]; decide)
            · exact ⟨huid, hany⟩

/-- The messages that pass a test which reads none of them. -/
theorem Scope.exists_judge (s : Scope) (test : Summary → Bool) :
    ∃ hits, s.judge none (fun m => pure (test m)) = pure (.uids hits) ∧ s.Selects test hits := by
  obtain ⟨hits, hselect, hmem⟩ := s.exists_selectFrom test s.working
  refine ⟨hits, ?_, hmem⟩
  show (s.selectFrom (fun m => pure (test m)) s.working >>= fun hits => pure (Value.uids hits)) = _
  rw [hselect]
  rfl

theorem Scope.Selects.not (hs : s.Complete) {hits : UidSet} (h : s.Selects test hits) :
    s.Selects (fun m => !test m) (TextSet.ofList (s.working.filter (!hits.contains ·))) := by
  intro uid
  rw [TextSet.mem_ofList, List.mem_filter, Bool.not_eq_true', ← Bool.not_eq_true, TextSet.contains_iff, h]
  show _ ∧ ¬ (_ ∧ _) ↔ _ ∧ _
  -- A uid without a message would be in neither set, which is why the scope has to be complete.
  constructor
  · rintro ⟨hworking, hnot⟩
    refine ⟨hworking, ?_⟩
    obtain ⟨m, hm⟩ := Option.isSome_iff_exists.1 (hs uid hworking)
    rw [hm] at hnot ⊢
    rw [Option.any_some, Bool.not_eq_true']
    exact Bool.eq_false_iff.2 fun htest => hnot ⟨hworking, htest⟩
  · rintro ⟨hworking, hany⟩
    refine ⟨hworking, ?_⟩
    rintro ⟨-, htest⟩
    obtain ⟨m, hm⟩ := Option.isSome_iff_exists.1 (hs uid hworking)
    rw [hm] at hany htest
    rw [Option.any_some] at hany htest
    rw [htest] at hany
    cases hany

theorem Joined.mem_addSet {isAnd : Bool} {hits hits' : UidSet} :
    uid ∈ Joined.addSet isAnd hits' (.sets hits) ↔
      if isAnd then uid ∈ hits ∧ uid ∈ hits' else uid ∈ hits ∨ uid ∈ hits' := by
  cases isAnd with
  | true =>
    show uid ∈ hits.filter hits'.contains ↔ _
    rw [TextSet.mem_filter, TextSet.contains_iff, if_pos rfl]
  | false =>
    show uid ∈ hits.union hits' ↔ _
    rw [TextSet.mem_union, if_neg (by decide)]

/-- The intersection or union of two sets is chosen by both tests together. -/
theorem Scope.Selects.join (isAnd : Bool) {hits hits' : UidSet} (h : s.Selects test hits)
    (h' : s.Selects test' hits') :
    s.Selects (fun m => joinTruths isAnd [test m, test' m]) (Joined.addSet isAnd hits' (.sets hits)) := by
  intro uid
  rw [Joined.mem_addSet, h uid, h' uid, Scope.Chosen, Scope.Chosen, Scope.Chosen]
  -- The two sets are about the same messages, so that only the tests of one message are left.
  by_cases hworking : uid ∈ s.working
  · cases s.catalog.find? uid with
    | none => cases isAnd <;> simp
    | some m => cases isAnd <;> cases htest : test m <;> simp [hworking, joinTruths, htest]
  · cases isAnd <;> simp [hworking]

/-- The intersection or union of a set and of some more. -/
def Joined.addSets (isAnd : Bool) (before : UidSet) (sets : List UidSet) : UidSet :=
  sets.foldl (fun seen hits => addSet isAnd hits (.sets seen)) before

/-- The intersection or union of some sets is chosen by all tests together. -/
theorem Scope.Selects.joinAll (isAnd : Bool) {tests : List (Summary → Bool)} {sets : List UidSet}
    (h : List.Forall₂ s.Selects tests sets) {before : UidSet} (hbefore : s.Selects test before) :
    s.Selects (fun m => joinTruths isAnd (test m :: tests.map (· m))) (Joined.addSets isAnd before sets) := by
  induction h generalizing test before with
  | nil => simpa only [List.map_nil, joinTruths_singleton, Joined.addSets, List.foldl_nil] using hbefore
  | cons hselects _ ih =>
    simpa only [List.map_cons, joinTruths_cons_cons, Joined.addSets, List.foldl_cons] using
      ih (hbefore.join isAnd hselects)

/-- The sets that arguments evaluate to are joined from left to right, with one that is there already. -/
theorem evalJoined_sets (isAnd : Bool) {args : List Term} {sets : List UidSet}
    (h : List.Forall₂ (fun a hits => eval s none a = pure (.uids hits)) args sets) {before : UidSet} :
    evalJoined s none isAnd (.sets before) args = pure (.uids (Joined.addSets isAnd before sets)) := by
  induction h generalizing before with
  | nil => exact evalJoined_nil
  | cons ha _ ih =>
    rw [evalJoined_cons, ha]
    exact ih

theorem exists_evalJoined (isAnd : Bool) {args : List Term} {tests : List (Summary → Bool)}
    (h : List.Forall₂ (fun a test => ∃ hits, eval s none a = pure (.uids hits) ∧ s.Selects test hits) args tests)
    (hne : args ≠ []) :
    ∃ hits, evalJoined s none isAnd .nothing args = pure (.uids hits) ∧
      s.Selects (fun m => joinTruths isAnd (tests.map (· m))) hits := by
  obtain ⟨sets, hevals, hselects⟩ := exists_forall₂_and h
  cases hselects with
  | nil => exact absurd (List.forall₂_nil_right_iff.1 hevals) hne
  | cons hfirst hrest =>
    cases hevals with
    | cons ha hargs =>
      refine ⟨_, ?_, hfirst.joinAll isAnd hrest⟩
      rw [evalJoined_cons, ha]
      exact evalJoined_sets isAnd hargs

end Search

/-! ### Both sides -/

namespace Term

variable {now : Int64} {t : Term}

/-- A search is lowered to what decides a test, and evaluated to the set of the messages which pass it. -/
structure HasSearch (now : Int64) (t : Term) (test : Summary → Bool) : Prop where
  lower : LowersTo now t test
  eval : ∀ {s : Scope}, s.now = now → s.Complete →
    ∃ hits, Search.eval s none t = pure (.uids hits) ∧ s.Selects test hits

theorem HasSearch.join (isAnd : Bool) {args : List Term} {tests : List (Summary → Bool)}
    (h : List.Forall₂ (HasSearch now) args tests) (hne : args ≠ []) :
    HasSearch now (.call (if isAnd then "and" else "or") args) fun m => joinTruths isAnd (tests.map (· m)) := by
  refine ⟨LowersTo.join isAnd (h.imp fun _ _ ha => ha.lower) hne, fun {s} hnow hs => ?_⟩
  obtain ⟨hits, heval, hselects⟩ := exists_evalJoined isAnd (h.imp fun _ _ ha => ha.eval hnow hs) hne
  refine ⟨hits, ?_, hselects⟩
  cases isAnd with
  | true =>
    show Search.eval s none (.call "and" args) = _
    rw [eval_and (by decide +kernel), heval]
  | false =>
    show Search.eval s none (.call "or" args) = _
    rw [eval_or (by decide +kernel), heval]

theorem HasSearch.not {test : Summary → Bool} (h : HasSearch now t test) :
    HasSearch now (.call "not" [t]) fun m => !test m := by
  have hname : Builtin.ofName? "not" = some .not := by decide +kernel
  refine ⟨h.lower.not, fun {s} hnow hs => ?_⟩
  obtain ⟨hits, heval, hselects⟩ := h.eval hnow hs
  refine ⟨_, ?_, hselects.not hs⟩
  rw [eval_call_eq hname trivial (.cons heval .nil)]
  rfl

/-- A test that is evaluated to a verdict on each message selects the messages that pass it. -/
theorem exists_eval_matchAll {s : Scope} {test : Summary → Bool}
    (h : ∀ m, Search.eval s (some m) t = pure (.bool (test m))) :
    ∃ hits, Search.eval s none (.call "match-all" [t]) = pure (.uids hits) ∧ s.Selects test hits := by
  obtain ⟨hits, hjudge, hselects⟩ := s.exists_judge test
  refine ⟨hits, ?_, hselects⟩
  have hverdict : (fun m => (do
      let v ← Search.eval s (some m) t
      asVerdict "match-all" v)) = fun m => pure (test m) := by
    funext m
    rw [h]
    rfl
  rw [eval_matchAll_cons ofName?_matchAll, hverdict, hjudge]

theorem HasSearch.matchAll {test : Summary → Bool} (h : HasTest now t test) :
    HasSearch now (.call "match-all" [t]) test := by
  constructor
  · obtain ⟨o, hlower, hdecides⟩ := h.lower
    -- A literal is no condition by itself, but becomes one under `match-all`.
    by_cases hbool : ∃ b, t = .bool b
    · obtain ⟨b, rfl⟩ := hbool
      have ho : o = .bool b := by
        rw [Tree.lower] at hlower
        exact (Except.ok.inj hlower).symm
      rw [ho] at hdecides
      refine ⟨_, Tree.lower_matchAll_bool b, .truth b, fun hm => ?_⟩
      rw [hdecides hm]
      exact Cell.truth?_ofBool b
    · refine ⟨o, ?_, hdecides⟩
      rw [Tree.lower_matchAll fun b hb => hbool ⟨b, hb⟩, hlower]
  · exact fun {s} hnow _ => exists_eval_matchAll fun m => h.eval hnow

theorem HasSearch.everyMessage : HasSearch now (.call "match-all" []) fun _ => true := by
  refine ⟨⟨_, Tree.lower_everyMessage, Expr.Decides.ofTruth true⟩, fun {s} _ _ => ?_⟩
  obtain ⟨hits, hjudge, hselects⟩ := s.exists_judge fun _ => true
  exact ⟨hits, by rw [eval_matchAll_nil ofName?_matchAll, hjudge], hselects⟩

/-- Every search has a test that evaluation and lowering agree on. -/
theorem exists_search (now : Int64) (h : t.IsSearch) : ∃ test, HasSearch now t test := by
  induction h with
  | everyMessage => exact ⟨_, HasSearch.everyMessage⟩
  | matchAll h =>
    obtain ⟨test, htest⟩ := exists_test now h
    exact ⟨test, HasSearch.matchAll htest⟩
  | not _ ih =>
    obtain ⟨test, htest⟩ := ih
    exact ⟨_, htest.not⟩
  | and _ hne ih =>
    obtain ⟨tests, htests⟩ := exists_forall₂ ih
    exact ⟨_, HasSearch.join true htests hne⟩
  | or _ hne ih =>
    obtain ⟨tests, htests⟩ := exists_forall₂ ih
    exact ⟨_, HasSearch.join false htests hne⟩

end Term

end MailQuery
