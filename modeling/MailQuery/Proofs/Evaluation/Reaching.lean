import Mathlib.Logic.Relation
import MailQuery.Folder.Session
import MailQuery.Proofs.Evaluation.Settling
import MailQuery.Proofs.Evaluation.SingleMessage

/-!
# Evaluations inside an evaluation

The evaluation of a call comes to those of its arguments, of some of them or of all, for the same message or, in `match-all`,
for others, and each in the state in which the one before has left the source of messages. `Asks` lists these steps. An
evaluation is reached from another one if there is a chain of them.

No function recovers from an error of an argument (`run_of_asks`), so that an error which is reached is the result of the
whole (`run_of_reaches`). This says what becomes of a body of `match-all` that has no truth value for a message, and of
`match-threads` with a current message (`Folder.evaluate_single`).
-/

namespace MailQuery

open Mail

namespace Search

/-! ### Running -/

namespace Reading

variable {α β σ : Type} {fetch : String → σ → Except SearchError Message × σ} {x : Reading α} {next : α → Reading β}
  {st st' : σ}

theorem runOn_bind : (x >>= next).runOn fetch st =
    match x.runOn fetch st with
    | (.ok a, st') => (next a).runOn fetch st'
    | (.error e, st') => (.error e, st') := by
  show (x.bind next).runOn fetch st = _
  induction x generalizing st with
  | done r => cases r <;> rfl
  | read uid rest ih =>
    rw [bind, runOn, runOn]
    cases fetch uid st with
    | mk answer st' =>
      dsimp only
      cases optional answer with
      | error e => rfl
      | ok m? => exact ih m?

theorem runOn_bind_of_ok {a : α} (h : x.runOn fetch st = (.ok a, st')) :
    (x >>= next).runOn fetch st = (next a).runOn fetch st' := by
  rw [runOn_bind, h]

theorem runOn_bind_of_error {e : SearchError} (h : x.runOn fetch st = (.error e, st')) :
    (x >>= next).runOn fetch st = (.error e, st') := by
  rw [runOn_bind, h]

/-- A computation of two parts succeeds if both do. -/
theorem exists_of_runOn_bind {b : β} (h : (x >>= next).runOn fetch st = (.ok b, st')) :
    ∃ a mid, x.runOn fetch st = (.ok a, mid) ∧ (next a).runOn fetch mid = (.ok b, st') := by
  rw [runOn_bind] at h
  split at h
  · next a mid hx => exact ⟨a, mid, hx, h⟩
  · cases h

theorem runOn_pure (a : α) : (pure a : Reading α).runOn fetch st = (.ok a, st) := rfl

end Reading

open Reading

variable {σ : Type} {fetch : String → σ → Except SearchError Message × σ} {s : Scope} {current : Option Summary}
  {name : String} {st st' mid : σ} {e : SearchError}

/-! ### Parts of an evaluation -/

/-- `match-all` comes to its body for a message: for the current one, or for each one that the search is about, after those
before it. -/
inductive RunsBody (fetch : String → σ → Except SearchError Message × σ) (s : Scope) (inner : Term) :
    Option Summary → σ → Summary → σ → Prop where
  | current {m : Summary} {st : σ} : RunsBody fetch s inner (some m) st m st
  | working {m : Summary} {st mid : σ} {before after : List String} {uid : String} {hits : UidSet}
      (hworking : s.working = before ++ uid :: after) (hm : s.catalog.find? uid = some m)
      (hbefore : (s.selectFrom (fun m => do
        let v ← eval s (some m) inner
        asVerdict "match-all" v) before).runOn fetch st = (.ok hits, mid)) :
      RunsBody fetch s inner none st m mid

/-- An evaluation: of a term, for a message or for a whole folder, in a state of the source of messages. -/
structure Evaluation (σ : Type) where
  current : Option Summary
  term : Term
  state : σ

/-- The result of an evaluation, and the state of the source afterwards. -/
def Evaluation.run (fetch : String → σ → Except SearchError Message × σ) (s : Scope) (x : Evaluation σ) :
    Except SearchError Value × σ :=
  (eval s x.current x.term).runOn fetch x.state

/-- An evaluation of a call comes to that of an argument. -/
inductive Asks (fetch : String → σ → Except SearchError Message × σ) (s : Scope) : Evaluation σ → Evaluation σ → Prop where
  /-- A strict function evaluates all arguments from left to right. -/
  | strict {name : String} {f : Builtin} {current : Option Summary} {before after : List Term} {a : Term}
      {values : List Value} {st mid : σ} (hname : Builtin.ofName? name = some f) (hstrict : f.IsStrict)
      (hbefore : (evalAll s current before).runOn fetch st = (.ok values, mid)) :
      Asks fetch s ⟨current, .call name (before ++ a :: after), st⟩ ⟨current, a, mid⟩
  /-- A conjunction or disjunction goes on while no argument has decided. -/
  | joined {name : String} {isAnd : Bool} {current : Option Summary} {before after : List Term} {a : Term} {v : Value}
      {st mid : σ} (hname : Builtin.ofName? name = some (if isAnd then .and else .or))
      (hbefore : (evalJoined s current isAnd .nothing before).runOn fetch st = (.ok v, mid)) (hopen : v ≠ .bool !isAnd) :
      Asks fetch s ⟨current, .call name (before ++ a :: after), st⟩ ⟨current, a, mid⟩
  | condition {name : String} {current : Option Summary} {condition yes : Term} {no : List Term} {st : σ}
      (hname : Builtin.ofName? name = some .ifThen) (hno : no.length ≤ 1) :
      Asks fetch s ⟨current, .call name (condition :: yes :: no), st⟩ ⟨current, condition, st⟩
  | branch {name : String} {current : Option Summary} {condition yes a : Term} {no : List Term} {holds : Bool} {st mid : σ}
      (hname : Builtin.ofName? name = some .ifThen) (hno : no.length ≤ 1)
      (hcondition : (eval s current condition).runOn fetch st = (.ok (.bool holds), mid))
      (hbranch : a ∈ if holds then [yes] else no) :
      Asks fetch s ⟨current, .call name (condition :: yes :: no), st⟩ ⟨current, a, mid⟩
  | body {name : String} {current : Option Summary} {inner : Term} {rest : List Term} {m : Summary} {st mid : σ}
      (hname : Builtin.ofName? name = some .matchAll) (hruns : RunsBody fetch s inner current st m mid) :
      Asks fetch s ⟨current, .call name (inner :: rest), st⟩ ⟨some m, inner, mid⟩
  | kind {name : String} {how : Term} {rest : List Term} {st : σ} (hname : Builtin.ofName? name = some .matchThreads) :
      Asks fetch s ⟨none, .call name (how :: rest), st⟩ ⟨none, how, st⟩
  | seeds {name kind : String} {how a : Term} {before after : List Term} {values : List Value} {st mid mid' : σ}
      (hname : Builtin.ofName? name = some .matchThreads)
      (hhow : (eval s none how).runOn fetch st = (.ok (.string kind), mid))
      (hbefore : (evalAll s none before).runOn fetch mid = (.ok values, mid')) :
      Asks fetch s ⟨none, .call name (how :: (before ++ a :: after)), st⟩ ⟨none, a, mid'⟩

/-- An evaluation comes to another one, at once or by way of others. -/
def Reaches (fetch : String → σ → Except SearchError Message × σ) (s : Scope) : Evaluation σ → Evaluation σ → Prop :=
  Relation.ReflTransGen (Asks fetch s)

/-- The messages that an evaluation is about: the current one, or all those of the search. -/
def Scope.IsAbout (s : Scope) (m : Summary) : Option Summary → Prop
  | some m' => m' = m
  | none => ∃ uid ∈ s.working, s.catalog.find? uid = some m

/-! ### Errors -/

theorem runOn_evalAll_append {before after : List Term} {a : Term} {values : List Value}
    (hbefore : (evalAll s current before).runOn fetch st = (.ok values, mid))
    (ha : (eval s current a).runOn fetch mid = (.error e, st')) :
    (evalAll s current (before ++ a :: after)).runOn fetch st = (.error e, st') := by
  induction before generalizing st values with
  | nil =>
    rw [evalAll, runOn_pure] at hbefore
    obtain rfl : st = mid := congrArg Prod.snd hbefore
    rw [List.nil_append, evalAll_cons]
    exact runOn_bind_of_error ha
  | cons b before ih =>
    rw [evalAll_cons] at hbefore
    obtain ⟨v, mid', hb, hrest⟩ := exists_of_runOn_bind hbefore
    obtain ⟨vs, mid'', hvs, hpure⟩ := exists_of_runOn_bind hrest
    rw [runOn_pure] at hpure
    obtain rfl : mid'' = mid := congrArg Prod.snd hpure
    rw [List.cons_append, evalAll_cons, runOn_bind_of_ok hb]
    exact runOn_bind_of_error (ih hvs)

theorem runOn_evalJoined_append {isAnd : Bool} {seen : Joined} {before after : List Term} {a : Term} {v : Value}
    (hbefore : (evalJoined s current isAnd seen before).runOn fetch st = (.ok v, mid)) (hopen : v ≠ .bool !isAnd)
    (ha : (eval s current a).runOn fetch mid = (.error e, st')) :
    (evalJoined s current isAnd seen (before ++ a :: after)).runOn fetch st = (.error e, st') := by
  induction before generalizing st seen with
  | nil =>
    rw [evalJoined_nil, runOn_pure] at hbefore
    obtain rfl : st = mid := congrArg Prod.snd hbefore
    rw [List.nil_append, evalJoined_cons]
    exact runOn_bind_of_error ha
  | cons b before ih =>
    rw [evalJoined_cons] at hbefore
    obtain ⟨w, mid', hb, hrest⟩ := exists_of_runOn_bind hbefore
    rw [List.cons_append, evalJoined_cons, runOn_bind_of_ok hb]
    cases hadd : seen.add isAnd w with
    | error e' =>
      rw [hadd] at hrest
      cases hrest
    | ok step =>
      rw [hadd] at hrest
      cases step with
      | inl next => exact ih hrest
      | inr decided =>
        -- An argument that decides has the value that ends the evaluation.
        have hvalue : Value.bool decided = v := Except.ok.inj (congrArg Prod.fst hrest)
        have hdecided : decided = !isAnd := Bool.eq_not.2 (Joined.ne_of_add hadd)
        exact absurd (hvalue ▸ hdecided ▸ rfl) hopen

theorem runOn_selectFrom_append {test : Summary → Reading Bool} {before after : List String} {uid : String} {m : Summary}
    {hits : UidSet} (hm : s.catalog.find? uid = some m)
    (hbefore : (s.selectFrom test before).runOn fetch st = (.ok hits, mid))
    (htest : (test m).runOn fetch mid = (.error e, st')) :
    (s.selectFrom test (before ++ uid :: after)).runOn fetch st = (.error e, st') := by
  induction before generalizing st hits with
  | nil =>
    rw [Scope.selectFrom, runOn_pure] at hbefore
    obtain rfl : st = mid := congrArg Prod.snd hbefore
    rw [List.nil_append, Scope.selectFrom, hm]
    exact runOn_bind_of_error htest
  | cons u before ih =>
    rw [Scope.selectFrom] at hbefore
    rw [List.cons_append, Scope.selectFrom]
    cases hfind : s.catalog.find? u with
    | none =>
      rw [hfind] at hbefore
      exact ih hbefore
    | some m' =>
      rw [hfind] at hbefore
      obtain ⟨hit, mid', hhit, hrest⟩ := exists_of_runOn_bind hbefore
      obtain ⟨others, mid'', hothers, hpure⟩ := exists_of_runOn_bind hrest
      rw [runOn_pure] at hpure
      obtain rfl : mid'' = mid := congrArg Prod.snd hpure
      dsimp only
      rw [runOn_bind_of_ok hhit]
      exact runOn_bind_of_error (ih hothers)

/-- An error of the body is one of `match-all`, also if it is that the body has no truth value. -/
theorem run_matchAll_of_error (hname : Builtin.ofName? name = some .matchAll) {inner : Term} {rest : List Term} {m : Summary}
    (hruns : RunsBody fetch s inner current st m mid)
    (herror : (do
      let v ← eval s (some m) inner
      asVerdict "match-all" v : Reading Bool).runOn fetch mid = (.error e, st')) :
    (eval s current (.call name (inner :: rest))).runOn fetch st = (.error e, st') := by
  rw [eval_matchAll_cons hname]
  cases hruns with
  | current => exact runOn_bind_of_error herror
  | working hworking hm hbefore =>
    rw [Scope.judge, Scope.select, hworking]
    exact runOn_bind_of_error (runOn_selectFrom_append hm hbefore herror)

/-- **An error of an argument is the error of the call.** -/
theorem run_of_asks {x y : Evaluation σ} (h : Asks fetch s x y) (herror : y.run fetch s = (.error e, st')) :
    x.run fetch s = (.error e, st') := by
  unfold Evaluation.run at herror ⊢
  cases h with
  | strict hname hstrict hbefore =>
    dsimp only
    rw [eval_strict hname hstrict]
    exact runOn_bind_of_error (runOn_evalAll_append hbefore herror)
  | @joined _ isAnd _ _ _ _ _ _ _ hname hbefore hopen =>
    dsimp only
    cases isAnd with
    | true =>
      rw [eval_and hname]
      exact runOn_evalJoined_append hbefore hopen herror
    | false =>
      rw [eval_or hname]
      exact runOn_evalJoined_append hbefore hopen herror
  | @condition _ _ _ _ no _ hname hno =>
    dsimp only
    rcases no with _ | ⟨no, _ | ⟨last, rest⟩⟩
    · rw [eval_ifThen_two hname]
      exact runOn_bind_of_error herror
    · rw [eval_ifThen_three hname]
      exact runOn_bind_of_error herror
    · simp at hno
  | @branch _ _ _ yes a no holds _ _ hname hno hcondition hbranch =>
    dsimp only
    rcases no with _ | ⟨no, _ | ⟨last, rest⟩⟩
    · rw [eval_ifThen_two hname, runOn_bind_of_ok hcondition]
      cases holds with
      | true =>
        obtain rfl : a = yes := List.mem_singleton.1 hbranch
        exact herror
      | false => exact absurd hbranch List.not_mem_nil
    · rw [eval_ifThen_three hname, runOn_bind_of_ok hcondition]
      cases holds with
      | true =>
        obtain rfl : a = yes := List.mem_singleton.1 hbranch
        exact herror
      | false =>
        obtain rfl : a = no := List.mem_singleton.1 hbranch
        exact herror
    · simp at hno
  | body hname hruns => exact run_matchAll_of_error hname hruns (runOn_bind_of_error herror)
  | kind hname =>
    dsimp only
    rw [eval_matchThreads_cons hname]
    exact runOn_bind_of_error herror
  | seeds hname hhow hbefore =>
    dsimp only
    rw [eval_matchThreads_cons hname, runOn_bind_of_ok hhow]
    exact runOn_bind_of_error (runOn_evalAll_append hbefore herror)

/-- **An error that is reached is the result of the whole evaluation.** -/
theorem run_of_reaches {x y : Evaluation σ} (h : Reaches fetch s x y) (herror : y.run fetch s = (.error e, st')) :
    x.run fetch s = (.error e, st') := by
  induction h with
  | refl => exact herror
  | tail _ hasks ih => exact ih (run_of_asks hasks herror)

/-! ### Bodies -/

theorem exists_runOn_selectFrom {test : Summary → Reading Bool} {before after : List String} {hits : UidSet}
    (h : (s.selectFrom test (before ++ after)).runOn fetch st = (.ok hits, st')) :
    ∃ hits' mid, (s.selectFrom test before).runOn fetch st = (.ok hits', mid) := by
  induction before generalizing st st' hits with
  | nil => exact ⟨∅, st, by rw [Scope.selectFrom, runOn_pure]⟩
  | cons u before ih =>
    rw [List.cons_append, Scope.selectFrom] at h
    rw [Scope.selectFrom]
    cases hfind : s.catalog.find? u with
    | none =>
      rw [hfind] at h
      exact ih h
    | some m =>
      rw [hfind] at h
      obtain ⟨hit, mid, hhit, hrest⟩ := exists_of_runOn_bind h
      obtain ⟨others, mid', hothers, -⟩ := exists_of_runOn_bind hrest
      obtain ⟨hits', mid'', hbefore⟩ := ih hothers
      exact ⟨if hit then hits'.insert u else hits', mid'', by
        dsimp only
        rw [runOn_bind_of_ok hhit, runOn_bind_of_ok hbefore, runOn_pure]⟩

/-- A `match-all` that succeeds comes to its body for each message. -/
theorem exists_runsBody (hname : Builtin.ofName? name = some .matchAll) {inner : Term} {rest : List Term} {v : Value}
    (hok : (eval s current (.call name (inner :: rest))).runOn fetch st = (.ok v, st')) {m : Summary}
    (hm : s.IsAbout m current) : ∃ mid, RunsBody fetch s inner current st m mid := by
  cases current with
  | some m' =>
    obtain rfl : m' = m := hm
    exact ⟨st, .current⟩
  | none =>
    obtain ⟨uid, huid, hfind⟩ := hm
    obtain ⟨before, after, hworking⟩ := List.append_of_mem huid
    rw [eval_matchAll_cons hname, Scope.judge, Scope.select, hworking] at hok
    obtain ⟨hits, mid, hselect, -⟩ := exists_of_runOn_bind hok
    obtain ⟨hits', mid', hbefore⟩ := exists_runOn_selectFrom hselect
    exact ⟨mid', .working hworking hfind hbefore⟩

/-- In a `match-all` that succeeds the body has a truth value for each message. -/
theorem exists_bool_of_runsBody (hname : Builtin.ofName? name = some .matchAll) {inner : Term} {rest : List Term} {v : Value}
    (hok : (eval s current (.call name (inner :: rest))).runOn fetch st = (.ok v, st')) {m : Summary}
    (hruns : RunsBody fetch s inner current st m mid) :
    ∃ b, ((eval s (some m) inner).runOn fetch mid).1 = .ok (.bool b) := by
  -- Anything else is an error of the body, or one in its place.
  have hfails : ∀ e mid', (do
      let v ← eval s (some m) inner
      asVerdict "match-all" v : Reading Bool).runOn fetch mid ≠ (.error e, mid') := by
    intro e mid' herror
    rw [run_matchAll_of_error hname hruns herror] at hok
    cases hok
  cases hvalue : (eval s (some m) inner).runOn fetch mid with
  | mk answer mid' =>
    cases answer with
    | error e => exact absurd (runOn_bind_of_error hvalue) (hfails e mid')
    | ok w =>
      have hnext : (do
          let v ← eval s (some m) inner
          asVerdict "match-all" v : Reading Bool).runOn fetch mid = (asVerdict "match-all" w).runOn fetch mid' :=
        runOn_bind_of_ok hvalue
      cases w with
      | bool b => exact ⟨b, rfl⟩
      | _ => exact absurd hnext (hfails _ _)

end Search

namespace Folder

open Search

/-- **An evaluation for one message never widens to the folder.** It fails, or its value is no set. So each body that
`match-all` comes to, wherever in a term, has a truth value for each message, or else the whole evaluation fails. And where
`match-threads` is reached with a current message the whole evaluation fails with its error. -/
theorem evaluate_single (f : Folder) (s : Scope) (current : Option Summary) (cancelled : Bool) (t : Term) :
    (∀ m v, (f.evaluate s (some m) cancelled t).1 = .ok v → v.IsSingle) ∧
    (∀ current' inner rest g, Reaches fetch s ⟨current, t, f⟩ ⟨current', .call "match-all" (inner :: rest), g⟩ →
      (∃ e, (f.evaluate s current cancelled t).1 = .error e) ∨
        (∀ m, s.IsAbout m current' → ∃ h, RunsBody fetch s inner current' g m h) ∧
          ∀ m h, RunsBody fetch s inner current' g m h →
            ∃ b, ((eval s (some m) inner).runOn fetch h).1 = .ok (.bool b)) ∧
    ∀ m args g, Reaches fetch s ⟨current, t, f⟩ ⟨some m, .call "match-threads" args, g⟩ →
      (f.evaluate s current cancelled t).1 =
        .error (if cancelled then .cancelled else .wrongKind "match-threads" .insideMatchAll) := by
  cases cancelled with
  | true =>
    refine ⟨fun m v hv => ?_, fun current' inner rest g _ => .inl ⟨.cancelled, rfl⟩, fun m args g _ => rfl⟩
    cases hv
  | false =>
    have hmatchAll : Builtin.ofName? "match-all" = some .matchAll := by decide +kernel
    have hmatchThreads : Builtin.ofName? "match-threads" = some .matchThreads := by decide +kernel
    have hrun : ∀ current, f.evaluate s current false t = (⟨current, t, f⟩ : Evaluation Folder).run fetch s := fun _ => rfl
    refine ⟨fun m v hv => (yields_eval s m t).of_runOn hv, fun current' inner rest g hreaches => ?_,
      fun m args g hreaches => ?_⟩
    · cases hcall : (eval s current' (.call "match-all" (inner :: rest))).runOn fetch g with
      | mk answer h =>
        cases answer with
        | error e =>
          left
          exact ⟨e, by rw [hrun, run_of_reaches hreaches hcall]⟩
        | ok v =>
          right
          exact ⟨fun m hm => exists_runsBody hmatchAll hcall hm,
            fun m h hruns => exists_bool_of_runsBody hmatchAll hcall hruns⟩
    · have hcall : (⟨some m, .call "match-threads" args, g⟩ : Evaluation Folder).run fetch s =
          (.error (.wrongKind "match-threads" .insideMatchAll), g) := by
        unfold Evaluation.run
        dsimp only
        rw [eval_matchThreads_inside hmatchThreads]
        rfl
      rw [hrun, run_of_reaches hreaches hcall]
      rfl

/-- A verdict on one message, a body with a truth value for each message, and `match-threads` in a body that is reached by
way of `not`. -/
theorem evaluate_single_nested :
    let raw := Ascii.bytes "Subject: a\n\n"
    let f := ofMessages "in" [("1", raw), ("2", Ascii.bytes "Subject: b\n\n")]
    let s := f.scope ["1", "2"] 0
    let m := Summary.ofRaw "1" raw none
    let body := Term.call "uid" [.string "1"]
    let threads := Term.call "match-threads" [.string "all", .call "match-all" []]
    ((f.evaluate s (some m) false body).1 = .ok (.bool true) ∧ (Value.bool true).IsSingle) ∧
      (s.IsAbout m none ∧ (∃ h, RunsBody fetch s body none f m h) ∧
        ∀ h, RunsBody fetch s body none f m h → ∃ b, ((eval s (some m) body).runOn fetch h).1 = .ok (.bool b)) ∧
      Reaches fetch s ⟨none, .call "not" [.call "match-all" [threads]], f⟩ ⟨some m, threads, f⟩ ∧
      (f.evaluate s none false (.call "not" [.call "match-all" [threads]])).1 =
        .error (.wrongKind "match-threads" .insideMatchAll) := by
  intro raw f s m body threads
  have hverdict : (f.evaluate s (some m) false body).1 = .ok (.bool true) := eq_ok_of_toOption (by decide +kernel)
  have hsingle := (f.evaluate_single s none false body).1 m (.bool true) hverdict
  have hfind : s.catalog.find? "1" = some m := rfl
  have hm : s.IsAbout m none := ⟨"1", List.mem_cons_self .., hfind⟩
  have hfound : (f.evaluate s none false (.call "match-all" [body])).1 = .ok (.uids (TextSet.ofList ["1"])) :=
    eq_ok_of_toOption (by decide +kernel)
  obtain ⟨e, he⟩ | ⟨hruns, hbools⟩ :=
    (f.evaluate_single s none false (.call "match-all" [body])).2.1 none body [] f .refl
  · rw [hfound] at he
    cases he
  · have hthreads : Reaches fetch s ⟨none, .call "not" [.call "match-all" [threads]], f⟩ ⟨some m, threads, f⟩ := by
      have hnot : Asks fetch s ⟨none, .call "not" ([] ++ .call "match-all" [threads] :: []), f⟩
          ⟨none, .call "match-all" [threads], f⟩ := .strict (f := .not) (by decide +kernel) trivial rfl
      have hworking : s.working = [] ++ "1" :: ["2"] := rfl
      have hbody : Asks fetch s ⟨none, .call "match-all" [threads], f⟩ ⟨some m, threads, f⟩ :=
        .body (by decide +kernel) (.working hworking hfind rfl)
      exact .tail (.single hnot) hbody
    have herror := (f.evaluate_single s none false (.call "not" [.call "match-all" [threads]])).2.2 m _ f hthreads
    exact ⟨⟨hverdict, hsingle⟩, ⟨hm, hruns m hm, hbools m⟩, hthreads, herror⟩

end Folder

end MailQuery
