import MailQuery.Proofs.Evaluation.Equations

/-!
# Values for one message

With a current message no evaluation gives a set of messages (`yields_eval`). This is carried through all functions: those
that give sets for a whole folder ask for the current message first (`yields_apply`), and what gives back the value of an
argument, a conjunction, a disjunction or a choice, has no other values to give back (`yields_evalJoined`).

The results are those of a computation that reads messages. `Reading.Yields` is about all of them at once, whatever is read.
-/

namespace MailQuery

open Mail

/-- A property of terms that a call has if all its arguments have it. -/
@[elab_as_elim]
theorem Term.induction {P : Term → Prop} (bool : ∀ b, P (.bool b)) (int : ∀ n, P (.int n)) (string : ∀ s, P (.string s))
    (call : ∀ name args, (∀ a ∈ args, P a) → P (.call name args)) : ∀ t, P t :=
  @Term.rec P (fun args => ∀ a ∈ args, P a) bool int string call (fun _ ha => absurd ha List.not_mem_nil)
    fun _ _ hhead htail => List.forall_mem_cons.2 ⟨hhead, htail⟩

/-- A value that is no set of messages. -/
def Value.IsSingle : Value → Prop
  | .bool _ | .int _ | .string _ | .time _ => True
  | .uids _ => False

namespace Search

namespace Reading

variable {α β : Type} {P : α → Prop} {Q : β → Prop} {x : Reading α}

/-- All results of a computation have a property, whatever messages are read. -/
inductive Yields (P : α → Prop) : Reading α → Prop where
  | done {r : Except SearchError α} (h : ∀ a, r = .ok a → P a) : Yields P (done r)
  | read {uid : String} {next : Option Message → Reading α} (h : ∀ m?, Yields P (next m?)) : Yields P (read uid next)

theorem Yields.pure {a : α} (h : P a) : (pure a : Reading α).Yields P := by
  refine .done fun b hb => ?_
  rwa [← Except.ok.inj hb]

theorem Yields.fail {e : SearchError} : (fail e : Reading α).Yields P := .done fun _ h => nomatch h

theorem Yields.bind {next : α → Reading β} (h : x.Yields P) (hnext : ∀ a, P a → (next a).Yields Q) :
    (x >>= next).Yields Q := by
  induction h with
  | @done r h =>
    cases r with
    | error e => exact .fail
    | ok a => exact hnext a (h a rfl)
  | read h ih => exact .read ih

theorem Yields.mono {P' : α → Prop} (h : x.Yields P) (himp : ∀ a, P a → P' a) : x.Yields P' := by
  induction h with
  | done h => exact .done fun a ha => himp a (h a ha)
  | read _ ih => exact .read ih

theorem yields_true (x : Reading α) : x.Yields fun _ => True := by
  induction x with
  | done r => exact .done fun _ _ => trivial
  | read uid next ih => exact .read ih

/-- What a computation goes on with has the property, whatever came before. -/
theorem Yields.bind_any {next : α → Reading β} (hnext : ∀ a, (next a).Yields Q) : (x >>= next).Yields Q :=
  (yields_true x).bind fun a _ => hnext a

theorem Yields.of_runOn {σ : Type} {fetch : String → σ → Except SearchError Message × σ} {st : σ} {a : α}
    (h : x.Yields P) (hrun : (x.runOn fetch st).1 = .ok a) : P a := by
  induction h generalizing st with
  | done h => exact h a hrun
  | @read uid next _ ih =>
    rw [runOn] at hrun
    cases hfetch : fetch uid st with
    | mk answer st' =>
      simp only [hfetch] at hrun
      cases hoptional : optional answer with
      | error e =>
        rw [hoptional] at hrun
        cases hrun
      | ok m? =>
        rw [hoptional] at hrun
        exact ih m? hrun

end Reading

open Reading

variable {s : Scope} {m : Summary} {values : List Value} {v : Value}

/-! ### Functions of values -/

theorem isSingle_compareValues {c : Comparison} (h : compareValues c values = .ok v) : v.IsSingle := by
  unfold compareValues at h
  split at h
  · split at h
    · obtain rfl := Except.ok.inj h
      trivial
    · cases h
  · cases h

theorem isSingle_numberLike (n : Int64) : (numberLike values n).IsSingle := by
  unfold numberLike
  split
  · trivial
  · trivial

theorem isSingle_sum (h : sum values = .ok v) : v.IsSingle := by
  unfold sum at h
  split at h
  · obtain rfl := Except.ok.inj h
    trivial
  · split at h
    · cases h
    · obtain rfl := Except.ok.inj h
      exact isSingle_numberLike _

theorem isSingle_difference (h : difference values = .ok v) : v.IsSingle := by
  unfold difference at h
  split at h
  · cases h
  · obtain rfl := Except.ok.inj h
    trivial
  · obtain rfl := Except.ok.inj h
    exact isSingle_numberLike _

theorem isSingle_castInt (h : castInt values = .ok v) : v.IsSingle := by
  unfold castInt at h
  split at h
  case h_5 => cases h
  all_goals
    obtain rfl := Except.ok.inj h
    trivial

theorem isSingle_castString (h : castString values = .ok v) : v.IsSingle := by
  unfold castString at h
  split at h
  case h_5 => cases h
  all_goals
    obtain rfl := Except.ok.inj h
    trivial

/-- The complement of a set is the verdict on the current message. -/
theorem isSingle_negation {v? : Option Value} (h : negation s (some m) v? = .ok v) : v.IsSingle := by
  unfold negation at h
  split at h
  case h_4 => cases h
  all_goals
    obtain rfl := Except.ok.inj h
    trivial

theorem isSingle_relativeMonths (now : Int64) : (relativeMonths now values).IsSingle := by
  unfold relativeMonths
  split
  · trivial
  · split
    · trivial
    · trivial
  · trivial

/-! ### Functions of the current message -/

theorem yields_judge {read : Summary → Reading Bool} : (s.judge (some m) read).Yields Value.IsSingle :=
  .bind_any fun _ => .pure trivial

theorem yields_contentVerdict {test : Message → Bool} : (contentVerdict (some m) test).Yields Value.IsSingle :=
  .bind_any fun _ => .pure trivial

theorem yields_headerRegex : (headerRegex (some m) values).Yields Value.IsSingle := by
  unfold headerRegex
  split
  · dsimp only
    split
    · exact .fail
    · exact yields_contentVerdict
  · exact .fail

theorem yields_headerFullRegex : (headerFullRegex (some m) values).Yields Value.IsSingle := by
  unfold headerFullRegex
  dsimp only
  split
  · exact .fail
  · exact yields_contentVerdict

theorem yields_bodyRegex : (bodyRegex s (some m) values).Yields Value.IsSingle := by
  unfold bodyRegex
  split
  · exact .fail
  · exact yields_judge

theorem yields_bodyContains {phrases : List String} : (bodyContains s (some m) phrases).Yields Value.IsSingle := by
  unfold bodyContains
  split
  · exact yields_judge
  · exact .bind_any fun _ => .pure trivial

theorem yields_locationTest : (locationTest s (some m) values).Yields Value.IsSingle := by
  unfold locationTest
  split
  · exact yields_judge
  · exact .pure trivial

theorem yields_firstText {function : String} {next : String → Reading Value}
    (hnext : ∀ text, (next text).Yields Value.IsSingle) :
    (match firstText function values with
      | .ok text => next text
      | .error e => .fail e : Reading Value).Yields Value.IsSingle := by
  split
  · exact hnext _
  · exact .fail

/-- **No function gives a set for one message**, not even of arguments that are sets. -/
theorem yields_apply (f : Builtin) : (apply s (some m) f values).Yields Value.IsSingle := by
  cases f with
  | not => exact .done fun _ => isSingle_negation
  | compare c => exact .done fun _ => isSingle_compareValues
  | add => exact .done fun _ => isSingle_sum
  | subtract => exact .done fun _ => isSingle_difference
  | castInt => exact .done fun _ => isSingle_castInt
  | castString => exact .done fun _ => isSingle_castString
  | header style => exact yields_firstText fun _ => yields_judge
  | headerExists => exact yields_contentVerdict
  | headerRegex => exact yields_headerRegex
  | headerFullRegex => exact yields_headerFullRegex
  | bodyContains => exact yields_bodyContains
  | bodyRegex => exact yields_bodyRegex
  | userTag => exact yields_firstText fun _ => .pure trivial
  | systemFlag => exact yields_firstText fun _ => .pure trivial
  | relativeMonths => exact .pure (isSingle_relativeMonths s.now)
  | messageLocation => exact yields_locationTest
  | compareDate =>
    simp only [apply]
    split
    · exact .pure trivial
    · exact .fail
  | userFlag | sentDate | receivedDate | size | currentDate | uid | makeTime => exact .pure trivial
  | and | or | ifThen | matchAll | matchThreads | sqlExp => exact .fail

/-! ### Terms -/

/-- A conjunction or disjunction that has seen no set so far. -/
def Joined.IsSingle : Joined → Prop
  | .nothing | .verdicts => True
  | .sets _ => False

theorem Joined.IsSingle.value {seen : Joined} (h : seen.IsSingle) (isAnd : Bool) : (seen.value isAnd).IsSingle := by
  cases seen with
  | sets hits => exact h.elim
  | nothing | verdicts => trivial

theorem Joined.isSingle_of_add {isAnd : Bool} {seen next : Joined} (hv : v.IsSingle)
    (h : seen.add isAnd v = .ok (.inl next)) : next.IsSingle := by
  unfold add at h
  split at h
  · cases h
  · have hnext := Except.ok.inj h
    split at hnext
    · obtain rfl := Sum.inl.inj hnext
      trivial
    · cases hnext
  · exact hv.elim
  · exact hv.elim
  · cases h

theorem yields_evalJoined {args : List Term} (hargs : ∀ a ∈ args, (eval s (some m) a).Yields Value.IsSingle) (isAnd : Bool)
    {seen : Joined} (hseen : seen.IsSingle) : (evalJoined s (some m) isAnd seen args).Yields Value.IsSingle := by
  induction args generalizing seen with
  | nil =>
    rw [evalJoined_nil]
    exact .pure (hseen.value isAnd)
  | cons a args ih =>
    obtain ⟨ha, hargs⟩ := List.forall_mem_cons.1 hargs
    rw [evalJoined_cons]
    refine ha.bind fun v hv => ?_
    cases hadd : seen.add isAnd v with
    | error e => exact .fail
    | ok step =>
      cases step with
      | inr b => exact .pure trivial
      | inl next => exact ih hargs (Joined.isSingle_of_add hv hadd)

/-- **No term has a set for one message.** -/
theorem yields_eval (s : Scope) (m : Summary) (t : Term) : (eval s (some m) t).Yields Value.IsSingle := by
  induction t using Term.induction with
  | bool b => exact .pure trivial
  | int n => exact .pure trivial
  | string p => exact .pure trivial
  | call name args ih =>
    cases hname : Builtin.ofName? name with
    | none =>
      rw [eval_unknown hname]
      exact .fail
    | some f =>
      by_cases hstrict : f.IsStrict
      · rw [eval_strict hname hstrict]
        exact .bind_any fun _ => yields_apply f
      · cases f with
        | and =>
          rw [eval_and hname]
          exact yields_evalJoined ih true trivial
        | or =>
          rw [eval_or hname]
          exact yields_evalJoined ih false trivial
        | sqlExp =>
          rw [eval_sqlExp hname]
          exact .fail
        | ifThen =>
          -- A choice has the value of one of its branches.
          rcases args with _ | ⟨condition, _ | ⟨yes, _ | ⟨no, _ | ⟨last, rest⟩⟩⟩⟩
          case cons.cons.nil =>
            rw [eval_ifThen_two hname]
            refine .bind_any fun _ => .bind_any fun holds => ?_
            cases holds with
            | true => exact ih yes (by simp)
            | false => exact .pure trivial
          case cons.cons.cons.nil =>
            rw [eval_ifThen_three hname]
            refine .bind_any fun _ => .bind_any fun holds => ?_
            cases holds with
            | true => exact ih yes (by simp)
            | false => exact ih no (by simp)
          all_goals
            rw [eval_ifThen_arity hname (by simp) (by simp)]
            exact .fail
        | matchAll =>
          cases args with
          | nil =>
            rw [eval_matchAll_nil hname]
            exact yields_judge
          | cons inner rest =>
            rw [eval_matchAll_cons hname]
            exact yields_judge
        | matchThreads =>
          rw [eval_matchThreads_inside hname]
          exact .fail
        | _ => exact absurd trivial hstrict

end Search

end MailQuery
