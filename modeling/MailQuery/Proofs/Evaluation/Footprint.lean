import MailQuery.Proofs.Evaluation.Narrowing
import MailQuery.Proofs.Evaluation.SingleMessage

/-!
# The messages that an evaluation reads

An evaluation for a whole folder reads no messages but those that the search is about, and one for a single message reads
that message only. `Reading.ReadsOnly` says this of a computation whatever it is answered. It is put together from the parts
of the computation, so that there is one lemma for each function that reads messages.

Two sources of messages that differ in other messages only do not make a difference then (`ReadsOnly.run_congr`).
`readsOnly_eval` is the main statement.
-/

namespace MailQuery.Search

open Mail

namespace Reading

variable {α β : Type} {P : String → Prop} {x : Reading α}

/-- A computation asks for no messages but those whose uids have a property, whatever it is answered. -/
inductive ReadsOnly (P : String → Prop) : Reading α → Prop where
  | done (r : Except SearchError α) : ReadsOnly P (done r)
  | read {uid : String} {next : Option Message → Reading α} (huid : P uid) (h : ∀ m?, ReadsOnly P (next m?)) :
      ReadsOnly P (read uid next)

theorem ReadsOnly.pure (a : α) : (pure a : Reading α).ReadsOnly P := .done _

theorem ReadsOnly.fail (e : SearchError) : (fail e : Reading α).ReadsOnly P := .done _

theorem ReadsOnly.bind {next : α → Reading β} (h : x.ReadsOnly P) (hnext : ∀ a, (next a).ReadsOnly P) :
    (x >>= next).ReadsOnly P := by
  induction h with
  | done r =>
    cases r with
    | error e => exact .fail e
    | ok a => exact hnext a
  | read huid _ ih => exact .read huid ih

/-- **What is not read makes no difference.** -/
theorem ReadsOnly.run_congr {fetch fetch' : String → Except SearchError Message} (h : x.ReadsOnly P)
    (heq : ∀ uid, P uid → fetch' uid = fetch uid) : x.run fetch' = x.run fetch := by
  induction h with
  | done r => rfl
  | read huid _ ih =>
    rw [run, run, heq _ huid]
    cases optional (fetch _) with
    | error e => rfl
    | ok m? => exact ih m?

end Reading

open Reading

section

variable {P : String → Prop} {s : Scope} {current : Option Summary} {m : Summary}

/-! ### Going through the messages -/

theorem readsOnly_contentTest {test : Message → Bool} {uid : String} (huid : P uid) :
    (contentTest test uid).ReadsOnly P := .read huid fun _ => .pure _

theorem readsOnly_selectFrom {test : Summary → Reading Bool} (htest : ∀ m, P m.uid → (test m).ReadsOnly P)
    {uids : List String} (huids : ∀ uid ∈ uids, P uid) : (s.selectFrom test uids).ReadsOnly P := by
  induction uids with
  | nil => exact .pure _
  | cons uid uids ih =>
    obtain ⟨huid, huids⟩ := List.forall_mem_cons.1 huids
    rw [Scope.selectFrom]
    cases hfind : s.catalog.find? uid with
    | none => exact ih huids
    | some m =>
      have hm : m.uid = uid := by simpa using List.find?_some hfind
      exact (htest m (hm ▸ huid)).bind fun _ => (ih huids).bind fun _ => .pure _

theorem readsOnly_scanBodies (query : Query) {uids : List String} (huids : ∀ uid ∈ uids, P uid) :
    (scanBodies query uids).ReadsOnly P := by
  induction uids with
  | nil => exact .pure _
  | cons uid uids ih =>
    obtain ⟨huid, huids⟩ := List.forall_mem_cons.1 huids
    exact (readsOnly_contentTest huid).bind fun _ => (ih huids).bind fun _ => .pure _

variable (hworking : ∀ uid ∈ s.working, P uid) (hcurrent : ∀ m ∈ current, P m.uid)

include hworking hcurrent in
theorem readsOnly_judge {test : Summary → Reading Bool} (htest : ∀ m, P m.uid → (test m).ReadsOnly P) :
    (s.judge current test).ReadsOnly P := by
  cases current with
  | some m => exact (htest m (hcurrent m rfl)).bind fun _ => .pure _
  | none => exact (readsOnly_selectFrom htest hworking).bind fun _ => .pure _

/-! ### Functions that read messages -/

theorem readsOnly_headerTest {style : MatchStyle} {header : String} {patterns : List String} (hm : P m.uid) :
    (headerTest style header patterns m).ReadsOnly P := by
  rw [headerTest]
  split
  · exact .pure _
  · split
    · exact .pure _
    · split
      · exact .pure _
      · exact .read hm fun _ => .pure _

theorem readsOnly_hasAnyQuery (queries : List Query) (hm : P m.uid) : (hasAnyQuery s m queries).ReadsOnly P := by
  induction queries with
  | nil => exact .pure _
  | cons query queries ih =>
    have hfirst : (hasQuery s query m).ReadsOnly P := by
      rw [hasQuery]
      split
      · exact .pure _
      · exact readsOnly_contentTest hm
    refine hfirst.bind fun hit => ?_
    cases hit with
    | true => exact .pure _
    | false => exact ih

include hworking in
theorem readsOnly_findQuery (query : Query) : (findQuery s query).ReadsOnly P := by
  rw [findQuery]
  split
  · exact .done _
  · obtain ⟨e, he⟩ | ⟨keep, hkeep⟩ := exists_candidates_on s query
    · rw [he]
      exact .fail e
    · -- Only a part of what the search is about is gone through.
      have hcandidates : candidates s query = .ok (s.working.filter keep) := hkeep s.working
      rw [hcandidates]
      exact readsOnly_scanBodies query fun uid huid => hworking uid (List.mem_of_mem_filter huid)

include hworking in
theorem readsOnly_findAnyQuery (queries : List Query) : (findAnyQuery s queries).ReadsOnly P := by
  induction queries with
  | nil => exact .pure _
  | cons query queries ih =>
    exact (readsOnly_findQuery hworking query).bind fun _ => ih.bind fun _ => .pure _

include hworking hcurrent in
theorem readsOnly_bodyContains (phrases : List String) : (bodyContains s current phrases).ReadsOnly P := by
  rw [bodyContains]
  split
  · exact readsOnly_judge hworking hcurrent fun _ _ => .pure _
  · cases current with
    | some m => exact (readsOnly_hasAnyQuery _ (hcurrent m rfl)).bind fun _ => .pure _
    | none => exact (readsOnly_findAnyQuery hworking _).bind fun _ => .pure _

include hcurrent in
theorem readsOnly_contentVerdict {test : Message → Bool} : (contentVerdict current test).ReadsOnly P := by
  cases current with
  | some m => exact (readsOnly_contentTest (hcurrent m rfl)).bind fun _ => .pure _
  | none => exact .pure _

include hcurrent in
theorem readsOnly_headerRegex (values : List Value) : (headerRegex current values).ReadsOnly P := by
  unfold headerRegex
  split
  · split
    · exact .pure _
    · split
      · exact .fail _
      · exact readsOnly_contentVerdict hcurrent
  · exact .fail _

include hcurrent in
theorem readsOnly_headerFullRegex (values : List Value) : (headerFullRegex current values).ReadsOnly P := by
  unfold headerFullRegex
  split
  · exact .pure _
  · split
    · exact .fail _
    · exact readsOnly_contentVerdict hcurrent

include hworking hcurrent in
theorem readsOnly_bodyRegex (values : List Value) : (bodyRegex s current values).ReadsOnly P := by
  unfold bodyRegex
  split
  · exact .fail _
  · exact readsOnly_judge hworking hcurrent fun _ hm => readsOnly_contentTest hm

include hworking hcurrent in
theorem readsOnly_locationTest (values : List Value) : (locationTest s current values).ReadsOnly P := by
  unfold locationTest
  split
  · exact readsOnly_judge hworking hcurrent fun _ _ => .pure _
  · exact .pure _

theorem readsOnly_firstText {function : String} {values : List Value} {next : String → Reading Value}
    (hnext : ∀ text, (next text).ReadsOnly P) :
    (match firstText function values with
      | .ok text => next text
      | .error e => .fail e : Reading Value).ReadsOnly P := by
  split
  · exact hnext _
  · exact .fail _

include hworking hcurrent in
/-- A function of evaluated arguments. -/
theorem readsOnly_apply (f : Builtin) (values : List Value) : (apply s current f values).ReadsOnly P := by
  cases f with
  | header style =>
    exact readsOnly_firstText fun _ => readsOnly_judge hworking hcurrent fun _ hm => readsOnly_headerTest hm
  | headerExists => exact readsOnly_contentVerdict hcurrent
  | headerRegex => exact readsOnly_headerRegex hcurrent values
  | headerFullRegex => exact readsOnly_headerFullRegex hcurrent values
  | bodyContains => exact readsOnly_bodyContains hworking hcurrent _
  | bodyRegex => exact readsOnly_bodyRegex hworking hcurrent values
  | userTag => exact readsOnly_firstText fun _ => .pure _
  | systemFlag => exact readsOnly_firstText fun _ => .pure _
  | messageLocation => exact readsOnly_locationTest hworking hcurrent values
  | compareDate =>
    simp only [apply]
    split
    · exact .pure _
    · exact .fail _
  | _ => exact .done _

/-! ### Terms -/

theorem readsOnly_evalAll {args : List Term} (hargs : ∀ a ∈ args, (eval s current a).ReadsOnly P) :
    (evalAll s current args).ReadsOnly P := by
  induction args with
  | nil =>
    rw [evalAll]
    exact .pure _
  | cons a args ih =>
    obtain ⟨ha, hargs⟩ := List.forall_mem_cons.1 hargs
    rw [evalAll_cons]
    exact ha.bind fun _ => (ih hargs).bind fun _ => .pure _

theorem readsOnly_evalJoined {args : List Term} (hargs : ∀ a ∈ args, (eval s current a).ReadsOnly P) (isAnd : Bool)
    (seen : Joined) : (evalJoined s current isAnd seen args).ReadsOnly P := by
  induction args generalizing seen with
  | nil =>
    rw [evalJoined_nil]
    exact .pure _
  | cons a args ih =>
    obtain ⟨ha, hargs⟩ := List.forall_mem_cons.1 hargs
    rw [evalJoined_cons]
    refine ha.bind fun v => ?_
    cases seen.add isAnd v with
    | error e => exact .fail e
    | ok next =>
      cases next with
      | inl seen' => exact ih hargs seen'
      | inr b => exact .pure _

theorem readsOnly_choice {condition yes no : Reading Value} (hcondition : condition.ReadsOnly P) (hyes : yes.ReadsOnly P)
    (hno : no.ReadsOnly P) :
    (do
      let v ← condition
      let holds ← asVerdict "if" v
      if holds then yes else no : Reading Value).ReadsOnly P := by
  refine hcondition.bind fun v => ReadsOnly.bind (.done _) fun holds => ?_
  cases holds with
  | true => exact hyes
  | false => exact hno

include hworking hcurrent in
/-- **An evaluation reads no messages but those that it is about**: those of the search and the current one. -/
theorem readsOnly_eval (t : Term) : (eval s current t).ReadsOnly P := by
  induction t using Term.induction generalizing current with
  | bool b =>
    rw [eval]
    exact .pure _
  | int n =>
    rw [eval]
    exact .pure _
  | string t =>
    rw [eval]
    exact .pure _
  | call name args ih =>
    have hargs : ∀ a ∈ args, (eval s current a).ReadsOnly P := fun a ha => ih a ha hcurrent
    cases hname : Builtin.ofName? name with
    | none =>
      rw [eval_unknown hname]
      exact .fail _
    | some f =>
      by_cases hstrict : f.IsStrict
      · rw [eval_strict hname hstrict]
        exact (readsOnly_evalAll hargs).bind fun values => readsOnly_apply hworking hcurrent f values
      · cases f with
        | and =>
          rw [eval_and hname]
          exact readsOnly_evalJoined hargs true .nothing
        | or =>
          rw [eval_or hname]
          exact readsOnly_evalJoined hargs false .nothing
        | sqlExp =>
          rw [eval_sqlExp hname]
          exact .fail _
        | ifThen =>
          rcases args with _ | ⟨condition, _ | ⟨yes, _ | ⟨no, _ | ⟨last, rest⟩⟩⟩⟩
          · rw [eval_ifThen_arity hname (by simp) (by simp)]
            exact .fail _
          · rw [eval_ifThen_arity hname (by simp) (by simp)]
            exact .fail _
          · rw [eval_ifThen_two hname]
            exact readsOnly_choice (hargs condition (by simp)) (hargs yes (by simp)) (.pure _)
          · rw [eval_ifThen_three hname]
            exact readsOnly_choice (hargs condition (by simp)) (hargs yes (by simp)) (hargs no (by simp))
          · rw [eval_ifThen_arity hname (by simp) (by simp)]
            exact .fail _
        | matchAll =>
          cases args with
          | nil =>
            rw [eval_matchAll_nil hname]
            exact readsOnly_judge hworking hcurrent fun _ _ => .pure _
          | cons inner rest =>
            rw [eval_matchAll_cons hname]
            refine readsOnly_judge hworking hcurrent fun m hm => ?_
            -- The message that is judged is the current one of the condition.
            have hinner : (eval s (some m) inner).ReadsOnly P :=
              ih inner (List.mem_cons_self ..) fun m' hm' => by rwa [← Option.some.inj hm']
            exact hinner.bind fun _ => .done _
        | matchThreads =>
          cases current with
          | some m =>
            rw [eval_matchThreads_inside hname]
            exact .fail _
          | none =>
            cases args with
            | nil =>
              rw [eval_matchThreads_nil hname]
              exact .fail _
            | cons how rest =>
              obtain ⟨hhow, hrest⟩ := List.forall_mem_cons.1 hargs
              rw [eval_matchThreads_cons hname]
              refine hhow.bind fun v => ?_
              split
              · exact (readsOnly_evalAll hrest).bind fun _ => .done _
              · exact .fail _
        | _ => exact absurd trivial hstrict

end

end MailQuery.Search
