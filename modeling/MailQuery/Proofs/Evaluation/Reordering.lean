import Mathlib.Data.List.Forall2
import MailQuery.Proofs.Evaluation.Modes
import MailQuery.Proofs.Evaluation.SingleMessage
import MailQuery.Proofs.Folders.Shortened

/-!
# The order of operands

A conjunction or disjunction stops at the argument that decides it, and fails at the first one of another kind than those
before. So the order of its arguments decides which of them are evaluated at all, and whether it has a value; but it does
not decide which value that is.

Two computations are `Consistent` if they cannot have two results. For conjunctions and disjunctions this comes from
saying without an order what has been seen (`Joined.Describes`, which each argument keeps by `Joined.Describes.add`), and
from there what they come to (`Comes`); what a list comes to, another one with consistent members comes to as well
(`Comes.unique`). All other functions evaluate the same arguments in the same order.

`evaluate_reordered` is the main statement.
-/

namespace MailQuery

open Mail

/-- Terms of which one has the arguments of some conjunctions and disjunctions in another order, at any depth. -/
inductive Term.Reordered : Term → Term → Prop where
  | bool (b : Bool) : Reordered (.bool b) (.bool b)
  | int (n : Int64) : Reordered (.int n) (.int n)
  | string (s : String) : Reordered (.string s) (.string s)
  | call (name : String) {args args' : List Term} (hargs : List.Forall₂ Reordered args args') :
      Reordered (.call name args) (.call name args')
  | joined (isAnd : Bool) {args args' args'' : List Term} (hargs : List.Forall₂ Reordered args args')
      (hperm : args'.Perm args'') :
      Reordered (.call (Search.Joined.function isAnd) args) (.call (Search.Joined.function isAnd) args'')

theorem Term.Reordered.refl (t : Term) : t.Reordered t := by
  induction t using Term.induction with
  | bool b => exact .bool b
  | int n => exact .int n
  | string s => exact .string s
  | call name args ih => exact .call name (List.forall₂_same.2 ih)

namespace Search

/-! ### Computations with one result -/

namespace Reading

variable {α β : Type} {fetch : String → Except SearchError Message} {x x' : Reading α}

/-- Two computations have the same result if both have one. -/
def Consistent (fetch : String → Except SearchError Message) (x x' : Reading α) : Prop :=
  ∀ a a', x.run fetch = .ok a → x'.run fetch = .ok a' → a = a'

theorem exists_of_run_bind {next : α → Reading β} {b : β} (h : (x >>= next).run fetch = .ok b) :
    ∃ a, x.run fetch = .ok a ∧ (next a).run fetch = .ok b := by
  rw [run_bind] at h
  cases hx : x.run fetch with
  | error e =>
    rw [hx] at h
    cases h
  | ok a =>
    rw [hx] at h
    exact ⟨a, rfl, h⟩

namespace Consistent

theorem refl (x : Reading α) : Consistent fetch x x := fun _ _ ha ha' => Except.ok.inj (ha.symm.trans ha')

theorem fail {e : SearchError} : Consistent fetch (.fail e) x' := fun _ _ ha => nomatch ha

/-- One computation after another. -/
theorem bind {next next' : α → Reading β} (h : Consistent fetch x x')
    (hnext : ∀ a, Consistent fetch (next a) (next' a)) : Consistent fetch (x >>= next) (x' >>= next') := by
  intro b b' hb hb'
  obtain ⟨a, ha, hb⟩ := exists_of_run_bind hb
  obtain ⟨a', ha', hb'⟩ := exists_of_run_bind hb'
  obtain rfl := h a a' ha ha'
  exact hnext a b b' hb hb'

end Consistent

end Reading

open Reading

variable {s : Scope} {current : Option Summary} {fetch : String → Except SearchError Message} {args args' : List Term}

/-! ### Arguments that are all evaluated -/

theorem consistent_evalAll
    (h : List.Forall₂ (fun a a' => Consistent fetch (eval s current a) (eval s current a')) args args') :
    Consistent fetch (evalAll s current args) (evalAll s current args') := by
  induction h with
  | nil => exact .refl _
  | cons ha _ ih =>
    rw [evalAll_cons, evalAll_cons]
    exact ha.bind fun v => ih.bind fun vs => .refl _

theorem consistent_selectFrom {read read' : Summary → Reading Bool} (h : ∀ m, Consistent fetch (read m) (read' m))
    (uids : List String) : Consistent fetch (s.selectFrom read uids) (s.selectFrom read' uids) := by
  induction uids with
  | nil => exact .refl _
  | cons uid uids ih =>
    rw [Scope.selectFrom, Scope.selectFrom]
    cases s.catalog.find? uid with
    | none => exact ih
    | some m => exact (h m).bind fun hit => ih.bind fun hits => .refl _

theorem consistent_judge {read read' : Summary → Reading Bool} (h : ∀ m, Consistent fetch (read m) (read' m)) :
    Consistent fetch (s.judge current read) (s.judge current read') := by
  cases current with
  | some m => exact (h m).bind fun verdict => .refl _
  | none => exact (consistent_selectFrom h s.working).bind fun hits => .refl _

theorem consistent_choice {condition condition' yes yes' no no' : Reading Value}
    (hcondition : Consistent fetch condition condition') (hyes : Consistent fetch yes yes')
    (hno : Consistent fetch no no') :
    Consistent fetch
      (do
        let v ← condition
        let holds ← asVerdict "if" v
        if holds then yes else no)
      (do
        let v ← condition'
        let holds ← asVerdict "if" v
        if holds then yes' else no') := by
  refine hcondition.bind fun v => (Consistent.refl _).bind fun holds => ?_
  cases holds with
  | true => exact hyes
  | false => exact hno

/-! ### Conjunctions and disjunctions -/

section

variable {value : Term → Except SearchError Value} {isAnd : Bool} {a : Term} {v v' : Value}

/-- The value of a term is a set with a uid in it. -/
def HasUid (value : Term → Except SearchError Value) (uid : String) (a : Term) : Prop :=
  ∃ hits, value a = .ok (.uids hits) ∧ uid ∈ hits

/-- A set is the intersection or union of the values of some terms, of which there is one at least. -/
structure IsJoin (value : Term → Except SearchError Value) (isAnd : Bool) (args : List Term) (found : UidSet) : Prop where
  ne_nil : args ≠ []
  sets : ∀ a ∈ args, ∃ hits, value a = .ok (.uids hits)
  mem : ∀ uid, uid ∈ found ↔ if isAnd then ∀ a ∈ args, HasUid value uid a else ∃ a ∈ args, HasUid value uid a

theorem hasUid_iff {uid : String} {hits : UidSet} (h : value a = .ok (.uids hits)) : HasUid value uid a ↔ uid ∈ hits := by
  constructor
  · rintro ⟨hits', h', huid⟩
    obtain rfl := Value.uids.inj (Except.ok.inj (h.symm.trans h'))
    exact huid
  · exact fun huid => ⟨hits, h, huid⟩

theorem IsJoin.singleton {hits : UidSet} (h : value a = .ok (.uids hits)) : IsJoin value isAnd [a] hits where
  ne_nil := List.cons_ne_nil _ _
  sets := List.forall_mem_singleton.2 ⟨hits, h⟩
  mem uid := by cases isAnd <;> simp [hasUid_iff h]

theorem IsJoin.add {before hits : UidSet} (hjoin : IsJoin value isAnd args before) (h : value a = .ok (.uids hits)) :
    IsJoin value isAnd (args ++ [a]) (Joined.addSet isAnd hits (.sets before)) where
  ne_nil := by simp
  sets := List.forall_mem_append.2 ⟨hjoin.sets, List.forall_mem_singleton.2 ⟨hits, h⟩⟩
  mem uid := by
    rw [Joined.mem_addSet, hjoin.mem]
    cases isAnd <;> simp [hasUid_iff h, or_imp, forall_and, or_and_right, exists_or]

/-- What a conjunction or disjunction has seen of some arguments. -/
def Joined.Describes (value : Term → Except SearchError Value) (isAnd : Bool) (args : List Term) : Joined → Prop
  | nothing => args = []
  | verdicts => ∀ a ∈ args, value a = .ok (.bool isAnd)
  | sets hits => IsJoin value isAnd args hits

/-- What some arguments come to: they are decided by one of them, or they are all true of a conjunction or false of a
disjunction, or they are sets. -/
inductive Comes (value : Term → Except SearchError Value) (isAnd : Bool) (args : List Term) : Value → Prop where
  | decided {a : Term} (ha : a ∈ args) (h : value a = .ok (.bool !isAnd)) : Comes value isAnd args (.bool !isAnd)
  | verdicts (h : ∀ a ∈ args, value a = .ok (.bool isAnd)) : Comes value isAnd args (.bool isAnd)
  | sets {found : UidSet} (h : IsJoin value isAnd args found) : Comes value isAnd args (.uids found)

/-- **What has been seen describes one more argument**, unless that decides. -/
theorem Joined.Describes.add {seen : Joined} {next : Joined ⊕ Bool} (hseen : seen.Describes value isAnd args)
    (ha : value a = .ok v) (hadd : seen.add isAnd v = .ok next) :
    (∃ seen', next = .inl seen' ∧ seen'.Describes value isAnd (args ++ [a])) ∨
      next = .inr (!isAnd) ∧ value a = .ok (.bool !isAnd) := by
  cases v with
  | bool b =>
    have hverdicts : ∀ a ∈ args, value a = .ok (.bool isAnd) := by
      cases seen with
      | nothing =>
        obtain rfl : args = [] := hseen
        exact fun a ha => absurd ha List.not_mem_nil
      | verdicts => exact hseen
      | sets hits => cases hadd
    have hnext : (if b = isAnd then .inl .verdicts else .inr b) = next := by
      cases seen with
      | sets hits => cases hadd
      | nothing | verdicts => exact Except.ok.inj hadd
    by_cases hb : b = isAnd
    · rw [if_pos hb] at hnext
      rw [hb] at ha
      exact .inl ⟨.verdicts, hnext.symm, List.forall_mem_append.2 ⟨hverdicts, List.forall_mem_singleton.2 ha⟩⟩
    · rw [if_neg hb] at hnext
      obtain rfl : b = !isAnd := Bool.eq_not.2 hb
      exact .inr ⟨hnext.symm, ha⟩
  | uids hits =>
    cases seen with
    | nothing =>
      cases hadd
      obtain rfl : args = [] := hseen
      exact .inl ⟨_, rfl, IsJoin.singleton ha⟩
    | verdicts => cases hadd
    | sets before =>
      cases hadd
      exact .inl ⟨_, rfl, IsJoin.add hseen ha⟩
  | _ => cases hadd

theorem Joined.Describes.comes {seen : Joined} (h : seen.Describes value isAnd args) :
    Comes value isAnd args (seen.value isAnd) := by
  cases seen with
  | nothing =>
    obtain rfl : args = [] := h
    exact .verdicts fun a ha => absurd ha List.not_mem_nil
  | verdicts => exact .verdicts h
  | sets hits => exact .sets h

/-- Two sets are the same if they are joined of terms with the same sets. -/
theorem IsJoin.unique {found found' : UidSet} (h : IsJoin value isAnd args found) (h' : IsJoin value isAnd args' found')
    (hleft : ∀ a ∈ args, ∃ a' ∈ args', ∀ w w', value a = .ok w → value a' = .ok w' → w = w')
    (hright : ∀ a' ∈ args', ∃ a ∈ args, ∀ w w', value a = .ok w → value a' = .ok w' → w = w') : found = found' := by
  have hhas : ∀ a ∈ args, ∀ a' ∈ args', (∀ w w', value a = .ok w → value a' = .ok w' → w = w') →
      ∀ uid, HasUid value uid a ↔ HasUid value uid a' := by
    intro a ha a' ha' hsame uid
    obtain ⟨hits, hhits⟩ := h.sets a ha
    obtain ⟨hits', hhits'⟩ := h'.sets a' ha'
    obtain rfl := Value.uids.inj (hsame _ _ hhits hhits')
    rw [hasUid_iff hhits, hasUid_iff hhits']
  refine TextSet.ext fun uid => ?_
  rw [h.mem, h'.mem]
  cases isAnd with
  | true =>
    constructor
    · intro hall a' ha'
      obtain ⟨a, ha, hsame⟩ := hright a' ha'
      exact (hhas a ha a' ha' hsame uid).1 (hall a ha)
    · intro hall a ha
      obtain ⟨a', ha', hsame⟩ := hleft a ha
      exact (hhas a ha a' ha' hsame uid).2 (hall a' ha')
  | false =>
    constructor
    · rintro ⟨a, ha, huid⟩
      obtain ⟨a', ha', hsame⟩ := hleft a ha
      exact ⟨a', ha', (hhas a ha a' ha' hsame uid).1 huid⟩
    · rintro ⟨a', ha', huid⟩
      obtain ⟨a, ha, hsame⟩ := hright a' ha'
      exact ⟨a, ha, (hhas a ha a' ha' hsame uid).2 huid⟩

/-- **What a list comes to, a list with consistent members comes to.** -/
theorem Comes.unique (h : Comes value isAnd args v) (h' : Comes value isAnd args' v')
    (hleft : ∀ a ∈ args, ∃ a' ∈ args', ∀ w w', value a = .ok w → value a' = .ok w' → w = w')
    (hright : ∀ a' ∈ args', ∃ a ∈ args, ∀ w w', value a = .ok w → value a' = .ok w' → w = w') : v = v' := by
  -- Two ways that differ give some member two values.
  cases h with
  | @decided a ha hvalue =>
    obtain ⟨a', ha', hsame⟩ := hleft a ha
    cases h' with
    | decided => rfl
    | verdicts h' => exact hsame _ _ hvalue (h' a' ha')
    | sets h' =>
      obtain ⟨hits, hhits⟩ := h'.sets a' ha'
      cases hsame _ _ hvalue hhits
  | verdicts h =>
    cases h' with
    | @decided a' ha' hvalue' =>
      obtain ⟨a, ha, hsame⟩ := hright a' ha'
      exact hsame _ _ (h a ha) hvalue'
    | verdicts => rfl
    | sets h' =>
      obtain ⟨a', ha'⟩ := List.exists_mem_of_ne_nil _ h'.ne_nil
      obtain ⟨a, ha, hsame⟩ := hright a' ha'
      obtain ⟨hits, hhits⟩ := h'.sets a' ha'
      cases hsame _ _ (h a ha) hhits
  | sets h =>
    cases h' with
    | @decided a' ha' hvalue' =>
      obtain ⟨a, ha, hsame⟩ := hright a' ha'
      obtain ⟨hits, hhits⟩ := h.sets a ha
      cases hsame _ _ hhits hvalue'
    | verdicts h' =>
      obtain ⟨a, ha⟩ := List.exists_mem_of_ne_nil _ h.ne_nil
      obtain ⟨a', ha', hsame⟩ := hleft a ha
      obtain ⟨hits, hhits⟩ := h.sets a ha
      cases hsame _ _ hhits (h' a' ha')
    | sets h' => rw [h.unique h' hleft hright]

end

/-- **A conjunction or disjunction that has a value has what its arguments come to.** -/
theorem comes_of_run {isAnd : Bool} {seen : Joined} {before : List Term} {v : Value}
    (hseen : seen.Describes (fun a => (eval s current a).run fetch) isAnd before)
    (hrun : (evalJoined s current isAnd seen args).run fetch = .ok v) :
    Comes (fun a => (eval s current a).run fetch) isAnd (before ++ args) v := by
  induction args generalizing seen before with
  | nil =>
    rw [evalJoined_nil] at hrun
    cases hrun
    rw [List.append_nil]
    exact hseen.comes
  | cons a args ih =>
    rw [evalJoined_cons] at hrun
    obtain ⟨w, ha, hrun⟩ := exists_of_run_bind hrun
    cases hadd : seen.add isAnd w with
    | error e =>
      rw [hadd] at hrun
      cases hrun
    | ok next =>
      rw [hadd] at hrun
      obtain ⟨seen', rfl, hseen'⟩ | ⟨rfl, hdecides⟩ := hseen.add ha hadd
      · have hcomes := ih hseen' hrun
        rwa [List.append_assoc, List.singleton_append] at hcomes
      · cases hrun
        exact .decided (by simp) hdecides

theorem exists_mem_of_forall₂ {α β : Type} {R : α → β → Prop} {as : List α} {bs : List β} (h : List.Forall₂ R as bs) :
    ∀ a ∈ as, ∃ b ∈ bs, R a b := by
  induction h with
  | nil => exact fun a ha => absurd ha List.not_mem_nil
  | cons hab _ ih =>
    refine List.forall_mem_cons.2 ⟨⟨_, List.mem_cons_self .., hab⟩, fun a ha => ?_⟩
    obtain ⟨b, hb, hR⟩ := ih a ha
    exact ⟨b, List.mem_cons_of_mem _ hb, hR⟩

/-- **The order of the arguments does not matter** to the value of a conjunction or disjunction. -/
theorem consistent_joined (isAnd : Bool) {args'' : List Term}
    (h : List.Forall₂ (fun a a' => Consistent fetch (eval s current a) (eval s current a')) args args')
    (hperm : args'.Perm args'') :
    Consistent fetch (evalJoined s current isAnd .nothing args) (evalJoined s current isAnd .nothing args'') := by
  intro v v' hv hv'
  have hnothing : Joined.Describes (fun a => (eval s current a).run fetch) isAnd [] .nothing := rfl
  refine (comes_of_run hnothing hv).unique (comes_of_run hnothing hv') (fun a ha => ?_) fun a'' ha'' => ?_
  · obtain ⟨a', ha', hsame⟩ := exists_mem_of_forall₂ h a ha
    exact ⟨a', hperm.mem_iff.1 ha', hsame⟩
  · obtain ⟨a, ha, hsame⟩ := exists_mem_of_forall₂ h.flip a'' (hperm.mem_iff.2 ha'')
    exact ⟨a, ha, hsame⟩

/-! ### Terms -/

/-- Calls of one function are consistent if their arguments are, for a whole folder and for any message. -/
theorem consistent_call {name : String} (current : Option Summary)
    (h : List.Forall₂ (fun a a' => ∀ current, Consistent fetch (eval s current a) (eval s current a')) args args') :
    Consistent fetch (eval s current (.call name args)) (eval s current (.call name args')) := by
  have hargs := h.imp fun a a' ha => ha current
  cases hname : Builtin.ofName? name with
  | none =>
    rw [eval_unknown hname]
    exact .fail
  | some f =>
    by_cases hstrict : f.IsStrict
    · rw [eval_strict hname hstrict, eval_strict hname hstrict]
      exact (consistent_evalAll hargs).bind fun values => .refl _
    · cases f with
      | and =>
        rw [eval_and hname, eval_and hname]
        exact consistent_joined true hargs (.refl _)
      | or =>
        rw [eval_or hname, eval_or hname]
        exact consistent_joined false hargs (.refl _)
      | sqlExp =>
        rw [eval_sqlExp hname]
        exact .fail
      | ifThen =>
        -- Both choices have the same condition, and so the same branch.
        rcases hargs with _ | ⟨hcondition, _ | ⟨hyes, _ | ⟨hno, _ | ⟨hmore, hrest⟩⟩⟩⟩
        case cons.cons.nil =>
          rw [eval_ifThen_two hname, eval_ifThen_two hname]
          exact consistent_choice hcondition hyes (.refl _)
        case cons.cons.cons.nil =>
          rw [eval_ifThen_three hname, eval_ifThen_three hname]
          exact consistent_choice hcondition hyes hno
        all_goals
          rw [eval_ifThen_arity hname (by simp) (by simp)]
          exact .fail
      | matchAll =>
        cases h with
        | nil => exact .refl _
        | cons hinner _ =>
          rw [eval_matchAll_cons hname, eval_matchAll_cons hname]
          exact consistent_judge fun m => (hinner (some m)).bind fun v => .refl _
      | matchThreads =>
        cases current with
        | some m =>
          rw [eval_matchThreads_inside hname]
          exact .fail
        | none =>
          cases hargs with
          | nil => exact .refl _
          | cons hhow hrest =>
            rw [eval_matchThreads_cons hname, eval_matchThreads_cons hname]
            refine hhow.bind fun v => ?_
            cases v with
            | string kind => exact (consistent_evalAll hrest).bind fun values => .refl _
            | _ => exact .fail
      | _ => exact absurd trivial hstrict

/-- **Terms that differ in the order of operands are consistent**, for a whole folder and for any message. -/
theorem consistent_eval {t t' : Term} (h : t.Reordered t') (s : Scope) (current : Option Summary)
    (fetch : String → Except SearchError Message) : Consistent fetch (eval s current t) (eval s current t') := by
  induction t using Term.induction generalizing t' current with
  | bool b | int n | string p =>
    cases h
    exact .refl _
  | call name args ih =>
    have hall : ∀ {args'}, List.Forall₂ Term.Reordered args args' → List.Forall₂
        (fun a a' => ∀ current, Consistent fetch (eval s current a) (eval s current a')) args args' := fun hargs =>
      ((List.forall₂_and_left _ _).2 ⟨ih, hargs⟩).imp fun a a' ha current => ha.1 ha.2 current
    cases h with
    | call _ hargs => exact consistent_call current (hall hargs)
    | joined isAnd hargs hperm =>
      rw [eval_joined, eval_joined]
      exact consistent_joined isAnd ((hall hargs).imp fun a a' ha => ha current) hperm

end Search

/-! ### Folders -/

namespace Folder

open Search

variable {f : Folder}

/-- An evaluation leaves what is known of the messages, and the answers that explain the folder. -/
theorem explains_evaluate {answers : String → Except SearchError Message} (h : f.Explains answers) (scope : Scope)
    (current : Option Summary) (t : Term) : (f.evaluate scope current false t).2.catalog = f.catalog ∧
      (f.evaluate scope current false t).2.Explains answers := by
  refine runOn_induction (P := fun g => g.catalog = f.catalog ∧ g.Explains answers) ?_ _ ⟨rfl, h⟩
  rintro g uid ⟨hcatalog, hg⟩
  obtain ⟨cache, hcache⟩ := exists_cache_of_fetch g uid
  refine ⟨?_, (hg.fetch uid).1⟩
  rw [hcache]
  exact hcatalog

/-- **The order of operands does not matter to a value.** In every state of a folder, terms that differ in the order of
the arguments of conjunctions and disjunctions have the same value, if both have one, on any messages and for any current
one. It makes no difference what the evaluation of the first has put into the cache, or out of it. -/
theorem evaluate_reordered (hf : f.Surviving) {t t' : Term} (ht : t.Reordered t') (working : List String) (now : Int64)
    (current : Option Summary) {v v' : Value} (hv : f.valueOn working now current t = .ok v) :
    (f.valueOn working now current t' = .ok v' → v = v') ∧
      ((f.evaluate (f.scope working now) current false t).2.valueOn working now current t' = .ok v' → v = v') := by
  have hexplains := hf.coherent.explains_answer
  have hconsistent := consistent_eval ht (f.scope working now) current f.answer
  have hrun := run_of_explains hexplains hv
  obtain ⟨hcatalog, hexplains'⟩ := explains_evaluate hexplains (f.scope working now) current t
  refine ⟨fun hv' => hconsistent _ _ hrun (run_of_explains hexplains hv'), fun hv' => ?_⟩
  have hscope : (f.evaluate (f.scope working now) current false t).2.scope working now = f.scope working now :=
    congrArg (fun catalog => Scope.mk catalog working now) hcatalog
  rw [valueOn, hscope] at hv'
  exact hconsistent _ _ hrun (run_of_explains hexplains' hv')

/-- The flag of the second message decides one of these at once, and is the last thing that the other one asks for. -/
theorem evaluate_reordered_nested :
    let f := (ofMessages "in" [("1", Ascii.bytes "Subject: a\n\nHello"), ("2", Ascii.bytes "Subject: b\n\n"),
      ("3", Ascii.bytes "Subject: c\n\n")]).perform (.setFlag "2" Flags.seen true)
    let working := ["3", "2", "1"]
    let seen := Term.call "system-flag" [.string "seen"]
    let hello := Term.call "body-contains" [.string "hello"]
    let unseen := Term.call "not" [seen]
    let t := Term.call "match-all" [.call "or" [seen, .call "and" [hello, unseen]]]
    let t' := Term.call "match-all" [.call "or" [.call "and" [unseen, hello], seen]]
    let found := Value.uids (TextSet.ofList ["1", "2"])
    (f.Surviving ∧ t.Reordered t' ∧ f.valueOn working 0 none t = .ok found) ∧
      f.valueOn working 0 none t' = .ok found ∧
      (f.evaluate (f.scope working 0) none false t).2.valueOn working 0 none t' = .ok found := by
  intro f working seen hello unseen t t' found
  have hf : f.Surviving := .perform _ (.start rfl)
  have hand : (Term.call "and" [hello, unseen]).Reordered (.call "and" [unseen, hello]) :=
    .joined true (List.forall₂_same.2 fun a _ => .refl a) (.swap ..)
  have ht : t.Reordered t' :=
    .call "match-all" (.cons (.joined false (.cons (.refl seen) (.cons hand .nil)) (.swap ..)) .nil)
  have hfound : f.valueOn working 0 none t = .ok found := eq_ok_of_toOption (by decide +kernel)
  have hsome : (f.valueOn working 0 none t').toOption.isSome = true := by decide +kernel
  have hsome' : ((f.evaluate (f.scope working 0) none false t).2.valueOn working 0 none t').toOption.isSome = true := by
    decide +kernel
  obtain ⟨v, ht'⟩ := Option.isSome_iff_exists.1 hsome
  obtain ⟨v', ht''⟩ := Option.isSome_iff_exists.1 hsome'
  have hv := eq_ok_of_toOption ht'
  have hv' := eq_ok_of_toOption ht''
  obtain rfl : found = v := (evaluate_reordered hf ht working 0 none hfound).1 hv
  obtain rfl : found = v' := (evaluate_reordered hf ht working 0 none hfound).2 hv'
  exact ⟨⟨hf, ht, hfound⟩, hv, hv'⟩

end Folder

end MailQuery
