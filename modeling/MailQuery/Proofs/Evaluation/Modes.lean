import MailQuery.Proofs.Folders.Operations
import MailQuery.Proofs.Routes.Searches

/-!
# The two modes of evaluation

A condition is a truth value for one message and a set of uids for a whole folder, and logical operators work on both:
they join truth values up to the first that decides, and they join sets. `match-all` leads from truth values to sets.
It does not matter on which side of it an operator stands.

`Scope.Judges` says what a term is for the single messages, by a test, and `Scope.Finds` what it is for all of them. Each
operator does the same to the tests on either side, and a test has one set of hits (`Scope.Selects.unique`). Sets are
joined one after another (`run_joined_sets`).

`evaluate_modes_agree` is the main statement. It also has the laws of the complement, which hold of any sets, not only of
those that a test finds.
-/

namespace MailQuery

open Mail Sql

namespace Search

variable {s : Scope} {current : Option Summary} {fetch : String → Except SearchError Message} {t : Term} {args : List Term}

/-- A term is a truth value for each message that a search is about, the one that a test gives. -/
def Scope.Judges (s : Scope) (fetch : String → Except SearchError Message) (t : Term) (test : Summary → Bool) : Prop :=
  ∀ uid ∈ s.working, ∀ m, s.catalog.find? uid = some m → (eval s (some m) t).run fetch = .ok (.bool (test m))

/-- A term is a set for the whole folder, that of the messages which pass a test. -/
def Scope.Finds (s : Scope) (fetch : String → Except SearchError Message) (t : Term) (test : Summary → Bool) : Prop :=
  ∃ hits, (eval s none t).run fetch = .ok (.uids hits) ∧ s.Selects test hits

theorem Scope.Selects.unique {test : Summary → Bool} {hits hits' : UidSet} (h : s.Selects test hits)
    (h' : s.Selects test hits') : hits = hits' :=
  TextSet.ext fun uid => (h uid).trans (h' uid).symm

theorem Scope.Finds.exists_common {t t' : Term} {test : Summary → Bool} (h : s.Finds fetch t test)
    (h' : s.Finds fetch t' test) :
    ∃ hits, (eval s none t).run fetch = .ok (.uids hits) ∧ (eval s none t').run fetch = .ok (.uids hits) := by
  obtain ⟨hits, heval, hselects⟩ := h
  obtain ⟨hits', heval', hselects'⟩ := h'
  rw [hselects'.unique hselects] at heval'
  exact ⟨hits, heval, heval'⟩

/-! ### Single messages -/

/-- The truth value of a term for a message, where it has one. -/
def verdictOf (s : Scope) (fetch : String → Except SearchError Message) (t : Term) (m : Summary) : Bool :=
  match (eval s (some m) t).run fetch with
  | .ok (.bool b) => b
  | _ => false

theorem judges_verdictOf
    (h : ∀ uid ∈ s.working, ∀ m, s.catalog.find? uid = some m → ∃ b, (eval s (some m) t).run fetch = .ok (.bool b)) :
    s.Judges fetch t (verdictOf s fetch t) := by
  intro uid huid m hm
  obtain ⟨b, hb⟩ := h uid huid m hm
  rw [verdictOf, hb]

theorem run_evalAll_singleton {v : Value} (h : (eval s current t).run fetch = .ok v) :
    (evalAll s current [t]).run fetch = .ok [v] := by
  rw [evalAll_cons, Reading.run_bind, h, ok_bind, evalAll]
  rfl

theorem run_not {v : Value} (h : (eval s current t).run fetch = .ok v) :
    (eval s current (.call "not" [t])).run fetch = negation s current (some v) := by
  have hname : Builtin.ofName? "not" = some .not := by decide +kernel
  rw [eval_strict hname trivial, Reading.run_bind, run_evalAll_singleton h, ok_bind]
  rfl

/-- The evaluation of a conjunction or disjunction by its name. -/
theorem eval_joined (isAnd : Bool) :
    eval s current (.call (Joined.function isAnd) args) = evalJoined s current isAnd .nothing args := by
  cases isAnd with
  | true => exact eval_and (by decide +kernel)
  | false => exact eval_or (by decide +kernel)

/-- Truth values are joined up to the first that decides. -/
theorem run_evalJoined_bools (isAnd : Bool) {bs : List Bool}
    (h : List.Forall₂ (fun a b => (eval s current a).run fetch = .ok (.bool b)) args bs) {seen : Joined}
    (hseen : ∀ hits, seen ≠ .sets hits) :
    (evalJoined s current isAnd seen args).run fetch = .ok (.bool (joinTruths isAnd bs)) := by
  induction h generalizing seen with
  | nil =>
    rw [evalJoined_nil, Reading.run_pure]
    cases seen with
    | sets hits => exact absurd rfl (hseen hits)
    | nothing | verdicts => rfl
  | @cons a b args bs ha _ ih =>
    have hadd : seen.add isAnd (.bool b) = .ok (if b = isAnd then .inl .verdicts else .inr b) := by
      cases seen with
      | sets hits => exact absurd rfl (hseen hits)
      | nothing | verdicts => rfl
    rw [evalJoined_cons, Reading.run_bind, ha, ok_bind, hadd, joinTruths]
    -- A truth value decides the result at once unless it is the one that no arguments have.
    by_cases hb : b = isAnd
    · rw [if_pos hb, if_pos hb]
      exact ih fun hits => Joined.noConfusion
    · rw [if_neg hb, if_neg hb, Reading.run_pure]

namespace Scope.Judges

variable {test : Summary → Bool}

theorem not (h : s.Judges fetch t test) : s.Judges fetch (.call "not" [t]) fun m => !test m := by
  intro uid huid m hm
  rw [run_not (h uid huid m hm)]
  rfl

theorem join (isAnd : Bool) {tests : List (Summary → Bool)} (h : List.Forall₂ (s.Judges fetch) args tests) :
    s.Judges fetch (.call (Joined.function isAnd) args) fun m => joinTruths isAnd (tests.map (· m)) := by
  intro uid huid m hm
  have hbools : List.Forall₂ (fun a b => (eval s (some m) a).run fetch = .ok (.bool b)) args (tests.map (· m)) :=
    List.forall₂_map_right_iff.2 (h.imp fun _ _ ha => ha uid huid m hm)
  rw [eval_joined]
  exact run_evalJoined_bools isAnd hbools fun _ => Joined.noConfusion

end Scope.Judges

/-! ### Sets of messages -/

/-- Messages are selected by what is read of them and by a test of the same results alike. -/
theorem Scope.run_selectFrom {read : Summary → Reading Bool} {test : Summary → Bool} {uids : List String}
    (h : ∀ uid ∈ uids, ∀ m, s.catalog.find? uid = some m → (read m).run fetch = .ok (test m)) :
    (s.selectFrom read uids).run fetch = (s.selectFrom (fun m => pure (test m)) uids).run fetch := by
  induction uids with
  | nil => rfl
  | cons uid uids ih =>
    obtain ⟨hfirst, hrest⟩ := List.forall_mem_cons.1 h
    rw [selectFrom, selectFrom]
    cases hfind : s.catalog.find? uid with
    | none => exact ih hrest
    | some m =>
      dsimp only
      rw [Reading.run_bind, Reading.run_bind, hfirst m hfind, Reading.run_pure, ok_bind, ok_bind, Reading.run_bind,
        Reading.run_bind, ih hrest]

/-- **`match-all` finds the messages that its argument judges to be true.** -/
theorem Scope.Judges.matchAll {test : Summary → Bool} (h : s.Judges fetch t test) :
    s.Finds fetch (.call "match-all" [t]) test := by
  obtain ⟨hits, hjudge, hselects⟩ := s.exists_judge test
  refine ⟨hits, ?_, hselects⟩
  have hverdict : ∀ uid ∈ s.working, ∀ m, s.catalog.find? uid = some m →
      (do let v ← eval s (some m) t; asVerdict "match-all" v : Reading Bool).run fetch = .ok (test m) := by
    intro uid huid m hm
    rw [Reading.run_bind, h uid huid m hm]
    rfl
  -- A selection by a test that reads nothing has the hits already.
  have hpure := congrArg (Reading.run fetch) hjudge
  rw [eval_matchAll_cons ofName?_matchAll]
  rw [Scope.judge, Scope.select, Reading.run_bind] at hpure ⊢
  rw [s.run_selectFrom hverdict]
  exact hpure

theorem Scope.Finds.not {test : Summary → Bool} (hs : s.Complete) (h : s.Finds fetch t test) :
    s.Finds fetch (.call "not" [t]) fun m => !test m := by
  obtain ⟨hits, heval, hselects⟩ := h
  exact ⟨_, run_not heval, hselects.not hs⟩

/-- Sets are joined from left to right. -/
theorem run_evalJoined_sets (isAnd : Bool) {sets : List UidSet}
    (h : List.Forall₂ (fun a hits => (eval s current a).run fetch = .ok (.uids hits)) args sets) {before : UidSet} :
    (evalJoined s current isAnd (.sets before) args).run fetch = .ok (.uids (Joined.addSets isAnd before sets)) := by
  induction h generalizing before with
  | nil =>
    rw [evalJoined_nil]
    rfl
  | @cons a hits args sets ha _ ih =>
    rw [evalJoined_cons, Reading.run_bind, ha]
    exact ih

theorem run_joined_sets (isAnd : Bool) {first : UidSet} {sets : List UidSet}
    (h : List.Forall₂ (fun a hits => (eval s current a).run fetch = .ok (.uids hits)) args (first :: sets)) :
    (eval s current (.call (Joined.function isAnd) args)).run fetch =
      .ok (.uids (Joined.addSets isAnd first sets)) := by
  cases h with
  | cons ha hargs =>
    rw [eval_joined, evalJoined_cons, Reading.run_bind, ha]
    exact run_evalJoined_sets isAnd hargs

theorem Scope.Finds.join (isAnd : Bool) {tests : List (Summary → Bool)} (h : List.Forall₂ (s.Finds fetch) args tests)
    (hne : args ≠ []) :
    s.Finds fetch (.call (Joined.function isAnd) args) fun m => joinTruths isAnd (tests.map (· m)) := by
  obtain ⟨sets, hevals, hselects⟩ := exists_forall₂_and h
  cases hselects with
  | nil => exact absurd (List.forall₂_nil_right_iff.1 h) hne
  | cons hfirst hrest => exact ⟨_, run_joined_sets isAnd hevals, hfirst.joinAll isAnd hrest⟩

/-! ### Complements -/

/-- The messages that a search is about and that are not in a set. -/
def Scope.complement (s : Scope) (hits : UidSet) : UidSet := TextSet.ofList (s.working.filter (!hits.contains ·))

theorem Scope.mem_complement {hits : UidSet} {uid : String} : uid ∈ s.complement hits ↔ uid ∈ s.working ∧ uid ∉ hits := by
  rw [complement, TextSet.mem_ofList, List.mem_filter, Bool.not_eq_true', ← Bool.not_eq_true, TextSet.contains_iff]

/-- The complement of the complement is what the search is about of a set. -/
theorem Scope.complement_complement (hits : UidSet) :
    s.complement (s.complement hits) = hits.filter s.working.contains := by
  refine TextSet.ext fun uid => ?_
  rw [mem_complement, mem_complement, TextSet.mem_filter, List.contains_iff_mem]
  constructor
  · rintro ⟨hworking, hnot⟩
    exact ⟨Classical.byContradiction fun hhits => hnot ⟨hworking, hhits⟩, hworking⟩
  · rintro ⟨hhits, hworking⟩
    exact ⟨hworking, fun hnot => hnot.2 hhits⟩

/-- The complement of an intersection is the union of the complements, and the other way round. -/
theorem Scope.complement_addSet (isAnd : Bool) (hits hits' : UidSet) :
    s.complement (Joined.addSet isAnd hits' (.sets hits)) =
      Joined.addSet (!isAnd) (s.complement hits') (.sets (s.complement hits)) := by
  refine TextSet.ext fun uid => ?_
  rw [mem_complement, Joined.mem_addSet, Joined.mem_addSet, mem_complement, mem_complement]
  -- Complements hold only what the search is about, so that the law is that of the truth values there.
  by_cases hworking : uid ∈ s.working
  · by_cases hhits : uid ∈ hits
    · cases isAnd <;> simp [hworking, hhits]
    · cases isAnd <;> simp [hworking, hhits]
  · cases isAnd <;> simp [hworking]

theorem Scope.complement_addSets (isAnd : Bool) (before : UidSet) (sets : List UidSet) :
    s.complement (Joined.addSets isAnd before sets) =
      Joined.addSets (!isAnd) (s.complement before) (sets.map s.complement) := by
  induction sets generalizing before with
  | nil => rfl
  | cons hits sets ih =>
    show s.complement (Joined.addSets isAnd (Joined.addSet isAnd hits (.sets before)) sets) = _
    rw [ih, complement_addSet]
    rfl

theorem run_not_uids {hits : UidSet} (h : (eval s none t).run fetch = .ok (.uids hits)) :
    (eval s none (.call "not" [t])).run fetch = .ok (.uids (s.complement hits)) := run_not h

theorem forall₂_run_not {sets : List UidSet}
    (h : List.Forall₂ (fun a hits => (eval s none a).run fetch = .ok (.uids hits)) args sets) :
    List.Forall₂ (fun a hits => (eval s none a).run fetch = .ok (.uids hits)) (args.map fun a => .call "not" [a])
      (sets.map s.complement) :=
  List.forall₂_map_left_iff.2 (List.forall₂_map_right_iff.2 (h.imp fun _ _ ha => run_not_uids ha))

end Search

namespace Folder

open Search

variable {f : Folder} {working : List String} {now : Int64}

/-- The value of a term on some messages of the folder, or of one message. -/
def valueOn (f : Folder) (working : List String) (now : Int64) (current : Option Summary) (t : Term) :
    Except SearchError Value :=
  (f.evaluate (f.scope working now) current false t).1

/-- A term is true or false for each of some messages of the folder. -/
def IsVerdictOn (f : Folder) (working : List String) (now : Int64) (t : Term) : Prop :=
  ∀ uid ∈ working, ∀ m, f.summary? uid = some m → ∃ b, f.valueOn working now (some m) t = .ok (.bool b)

instance {t : Term} : Decidable (f.IsVerdictOn working now t) :=
  inferInstanceAs <| Decidable <|
    ∀ uid ∈ working, ∀ m ∈ f.summary? uid, ∃ b, f.valueOn working now (some m) t = .ok (.bool b)

/-- Two terms find the same among some messages of the folder. -/
def FindsAlike (f : Folder) (working : List String) (now : Int64) (t t' : Term) : Prop :=
  ∃ hits, f.valueOn working now none t = .ok (.uids hits) ∧ f.valueOn working now none t' = .ok (.uids hits)

theorem valueOn_eq_run (hf : f.Faithful) (current : Option Summary) (t : Term) :
    f.valueOn working now current t = (eval (f.scope working now) current t).run f.content :=
  runOn_eq_run _ hf

theorem findsAlike_of_finds (hf : f.Faithful) {t t' : Term} {test : Summary → Bool}
    (h : (f.scope working now).Finds f.content t test) (h' : (f.scope working now).Finds f.content t' test) :
    f.FindsAlike working now t t' := by
  obtain ⟨hits, heval, heval'⟩ := h.exists_common h'
  exact ⟨hits, (valueOn_eq_run hf none t).trans heval, (valueOn_eq_run hf none t').trans heval'⟩

theorem IsVerdictOn.exists_judges (hf : f.Faithful) {t : Term} (h : f.IsVerdictOn working now t) :
    ∃ test, (f.scope working now).Judges f.content t test := by
  refine ⟨_, judges_verdictOf fun uid huid m hm => ?_⟩
  obtain ⟨b, hb⟩ := h uid huid m hm
  exact ⟨b, (valueOn_eq_run hf (some m) t).symm.trans hb⟩

theorem findsAlike_join (hf : f.Faithful) (isAnd : Bool) {args : List Term} (hne : args ≠ [])
    (hargs : ∀ a ∈ args, f.IsVerdictOn working now a) :
    f.FindsAlike working now (.call "match-all" [.call (Joined.function isAnd) args])
      (.call (Joined.function isAnd) (args.map fun a => .call "match-all" [a])) := by
  obtain ⟨tests, hjudges⟩ := exists_forall₂ fun a ha => (hargs a ha).exists_judges hf
  have hfinds : List.Forall₂ ((f.scope working now).Finds f.content) (args.map fun a => .call "match-all" [a]) tests :=
    List.forall₂_map_left_iff.2 (hjudges.imp fun _ _ ha => ha.matchAll)
  exact findsAlike_of_finds hf (Scope.Judges.join isAnd hjudges).matchAll
    (Scope.Finds.join isAnd hfinds (by simpa using hne))

theorem findsAlike_not (hf : f.Faithful) (hknown : ∀ uid ∈ working, (f.summary? uid).isSome = true) {a : Term}
    (ha : f.IsVerdictOn working now a) :
    f.FindsAlike working now (.call "match-all" [.call "not" [a]]) (.call "not" [.call "match-all" [a]]) := by
  obtain ⟨test, hjudges⟩ := ha.exists_judges hf
  exact findsAlike_of_finds hf hjudges.not.matchAll (hjudges.matchAll.not hknown)

theorem valueOn_not_not (hf : f.Faithful) {x : Term} {xs : UidSet} (hx : f.valueOn working now none x = .ok (.uids xs)) :
    f.valueOn working now none (.call "not" [.call "not" [x]]) = .ok (.uids (xs.filter working.contains)) := by
  rw [valueOn_eq_run hf] at hx ⊢
  rw [run_not_uids (run_not_uids hx), Scope.complement_complement]
  rfl

theorem findsAlike_not_join (hf : f.Faithful) (isAnd : Bool) {args : List Term} (hne : args ≠ [])
    (hargs : ∀ a ∈ args, ∃ hits, f.valueOn working now none a = .ok (.uids hits)) :
    f.FindsAlike working now (.call "not" [.call (Joined.function isAnd) args])
      (.call (Joined.function !isAnd) (args.map fun a => .call "not" [a])) := by
  obtain ⟨sets, hsets⟩ := exists_forall₂ hargs
  have hevals := hsets.imp fun a _ ha => (valueOn_eq_run hf none a).symm.trans ha
  cases sets with
  | nil => exact absurd (List.forall₂_nil_right_iff.1 hsets) hne
  | cons first sets =>
    refine ⟨_, (valueOn_eq_run hf none _).trans (run_not_uids (run_joined_sets isAnd hevals)), ?_⟩
    rw [valueOn_eq_run hf, Scope.complement_addSets]
    exact run_joined_sets (!isAnd) (forall₂_run_not hevals)

/-- **The two modes of evaluation agree.** On the known messages of an opened folder it does not matter on which side of
`match-all` a logical operator stands, as long as its arguments are truth values for all of them. The laws of the
complement hold of whatever finds a set: two complements leave what the search is about, and a complement exchanges
`and` with `or`. -/
theorem evaluate_modes_agree (hf : f.Opened) (hknown : ∀ uid ∈ working, (f.summary? uid).isSome = true) (now : Int64) :
    (∀ isAnd args, args ≠ [] → (∀ a ∈ args, f.IsVerdictOn working now a) →
      f.FindsAlike working now (.call "match-all" [.call (Joined.function isAnd) args])
        (.call (Joined.function isAnd) (args.map fun a => .call "match-all" [a]))) ∧
    (∀ a, f.IsVerdictOn working now a →
      f.FindsAlike working now (.call "match-all" [.call "not" [a]]) (.call "not" [.call "match-all" [a]])) ∧
    (∀ x xs, f.valueOn working now none x = .ok (.uids xs) →
      f.valueOn working now none (.call "not" [.call "not" [x]]) = .ok (.uids (xs.filter working.contains))) ∧
    ∀ isAnd args, args ≠ [] → (∀ a ∈ args, ∃ hits, f.valueOn working now none a = .ok (.uids hits)) →
      f.FindsAlike working now (.call "not" [.call (Joined.function isAnd) args])
        (.call (Joined.function !isAnd) (args.map fun a => .call "not" [a])) :=
  ⟨fun isAnd _ hne hargs => findsAlike_join hf.faithful isAnd hne hargs,
    fun _ ha => findsAlike_not hf.faithful hknown ha,
    fun _ _ hx => valueOn_not_not hf.faithful hx,
    fun isAnd _ hne hargs => findsAlike_not_join hf.faithful isAnd hne hargs⟩

/-- A test of a flag and a test that reads the messages. -/
theorem evaluate_modes_agree_tests :
    let f := (ofMessages "in" [("1", Ascii.bytes "From: a\n\n"), ("2", Ascii.bytes "To: b\n\n")]).perform
      (.setFlag "2" Flags.seen true)
    let tests := [Term.call "system-flag" [.string "seen"], .call "header-exists" [.string "from"]]
    let search := Term.call "match-all" [.call "or" tests]
    (f.Opened ∧ ∀ uid ∈ ["2", "1"], (f.summary? uid).isSome = true) ∧ (∀ a ∈ tests, f.IsVerdictOn ["2", "1"] 0 a) ∧
      f.FindsAlike ["2", "1"] 0 search (.call "or" (tests.map fun a => .call "match-all" [a])) ∧
      f.valueOn ["1"] 0 none (.call "not" [.call "not" [.call "uid" [.string "1", .string "2"]]]) =
        .ok (.uids (TextSet.ofList ["1"])) := by
  intro f tests search
  have hopened : f.Opened := .perform _ (.start rfl)
  have hknown : ∀ uid ∈ ["2", "1"], (f.summary? uid).isSome = true := by decide +kernel
  have htests : ∀ a ∈ tests, f.IsVerdictOn ["2", "1"] 0 a := by decide +kernel
  have huids : f.valueOn ["1"] 0 none (.call "uid" [.string "1", .string "2"]) =
      .ok (.uids (TextSet.ofList ["1", "2"])) := by decide +kernel
  refine ⟨⟨hopened, hknown⟩, htests, ?_, ?_⟩
  · exact (evaluate_modes_agree hopened hknown 0).1 false tests (List.cons_ne_nil _ _) htests
  · refine ((evaluate_modes_agree hopened (by decide +kernel) 0).2.2.1 _ _ huids).trans ?_
    decide +kernel

end Folder

end MailQuery
