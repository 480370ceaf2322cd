import MailQuery.Proofs.Routes.Searches

/-!
# Evaluations that read no message

`Reading.Settles` says of a computation that it reads no message, and that its result, if it has one, has a property. It
is put together from the parts of a computation, so that an evaluation is followed from the arguments to the value
without asking whether it succeeds.

`Value.Includes` is what a value says of one message, in either mode: a truth value speaks for all messages, and a set for
those in it. The lemmas that follow are about the evaluations that lead from the values of arguments to such values:
`match-all` and other tests of messages (`settles_judge`), conjunctions and disjunctions (`settles_evalJoined_and`,
`settles_evalJoined_or`).
-/

namespace MailQuery

open Mail

/-- Whether a message is among those that a value stands for. -/
def Value.Includes (uid : String) : Value → Prop
  | .bool b => b = true
  | .uids hits => uid ∈ hits
  | _ => False

namespace Search

namespace Reading

variable {α β : Type} {P : α → Prop} {Q : β → Prop} {x : Reading α}

/-- A computation that reads no message and has no result but those with a property. -/
def Settles (P : α → Prop) (x : Reading α) : Prop := ∃ r, x = done r ∧ ∀ a, r = .ok a → P a

theorem Settles.done {r : Except SearchError α} (h : ∀ a, r = .ok a → P a) : (done r).Settles P := ⟨r, rfl, h⟩

theorem Settles.pure {a : α} (h : P a) : (pure a : Reading α).Settles P := by
  refine .done fun b hb => ?_
  rwa [← Except.ok.inj hb]

theorem Settles.fail {e : SearchError} : (fail e : Reading α).Settles P := .done fun _ h => nomatch h

theorem Settles.bind {next : α → Reading β} (h : x.Settles P) (hnext : ∀ a, P a → (next a).Settles Q) :
    (x >>= next).Settles Q := by
  obtain ⟨r, rfl, hr⟩ := h
  cases r with
  | error e => exact .fail
  | ok a => exact hnext a (hr a rfl)

theorem Settles.mono {P' : α → Prop} (h : x.Settles P) (himp : ∀ a, P a → P' a) : x.Settles P' := by
  obtain ⟨r, hx, hr⟩ := h
  exact ⟨r, hx, fun a ha => himp a (hr a ha)⟩

end Reading

open Reading

variable {s : Scope} {current : Option Summary} {args : List Term}

/-- Whether an evaluation is about a message: the current one, or, without one, all that are known. -/
def Scope.Concerns (s : Scope) (m : Summary) : Option Summary → Prop
  | some m' => m' = m
  | none => s.catalog.find? m.uid = some m

/-! ### Tests of messages -/

theorem settles_selectFrom {read : Summary → Reading Bool} {P : Summary → Prop}
    (h : ∀ m, (read m).Settles fun hit => hit = true → P m) (uids : List String) :
    (s.selectFrom read uids).Settles fun hits => ∀ uid ∈ hits, ∃ m, s.catalog.find? uid = some m ∧ P m := by
  induction uids with
  | nil => exact .pure fun uid huid => absurd huid (TextSet.not_mem_empty uid)
  | cons u uids ih =>
    rw [Scope.selectFrom]
    cases hfind : s.catalog.find? u with
    | none => exact ih
    | some m =>
      refine (h m).bind fun hit hhit => ih.bind fun hits hhits => .pure ?_
      intro uid huid
      cases hit with
      | false => exact hhits uid huid
      | true =>
        rcases TextSet.mem_insert.1 huid with rfl | huid
        · exact ⟨m, hfind, hhit rfl⟩
        · exact hhits uid huid

/-- What is true of the messages that pass a test is true of the messages that the test finds. -/
theorem settles_judge {read : Summary → Reading Bool} {P : Summary → Prop}
    (h : ∀ m, (read m).Settles fun hit => hit = true → P m) :
    (s.judge current read).Settles fun v => ∀ m, s.Concerns m current → v.Includes m.uid → P m := by
  cases current with
  | some m =>
    refine (h m).bind fun hit hhit => .pure ?_
    rintro m' rfl hincludes
    exact hhit hincludes
  | none =>
    refine (settles_selectFrom h s.working).bind fun hits hhits => .pure ?_
    intro m hm hincludes
    obtain ⟨m', hm', hP⟩ := hhits m.uid hincludes
    obtain rfl : m' = m := Option.some.inj (hm'.symm.trans hm)
    exact hP

/-- The same for a test that asks nothing but the summary. Without a current message it finds none. -/
theorem settles_verdict {test : Summary → Bool} {P : Summary → Prop} (h : ∀ m, test m = true → P m) :
    (pure (verdict current test) : Reading Value).Settles
      fun v => ∀ m, s.Concerns m current → v.Includes m.uid → P m := by
  refine .pure ?_
  cases current with
  | some m =>
    rintro m' rfl hincludes
    exact h m hincludes
  | none => exact fun m _ hincludes => absurd hincludes (TextSet.not_mem_empty m.uid)

/-! ### Conjunctions and disjunctions -/

namespace Joined

variable {seen : Joined} {v : Value} {uid : String}

/-- What a conjunction or disjunction has come to after one more argument, which may have decided it. -/
def outcome (isAnd : Bool) : Joined ⊕ Bool → Value := Sum.elim (·.value isAnd) .bool

/-- An argument decides by the truth value that no arguments do not have. -/
theorem ne_of_add {isAnd b : Bool} (h : seen.add isAnd v = .ok (.inr b)) : b ≠ isAnd := by
  cases v with
  | bool b' =>
    cases seen with
    | sets => cases h
    | nothing | verdicts =>
      have h := Except.ok.inj h
      by_cases hb : b' = isAnd
      · rw [if_pos hb] at h
        cases h
      · rw [if_neg hb] at h
        cases h
        exact hb
  | uids hits => cases seen <;> cases h
  | _ => cases h

theorem includes_add_and {next : Joined ⊕ Bool} (h : seen.add true v = .ok next)
    (hincludes : (outcome true next).Includes uid) : (seen.value true).Includes uid ∧ v.Includes uid := by
  cases v with
  | bool b =>
    cases seen with
    | sets => cases h
    | nothing | verdicts =>
      obtain rfl := Except.ok.inj h
      cases b with
      | true => exact ⟨rfl, rfl⟩
      | false => cases hincludes
  | uids hits =>
    cases seen with
    | verdicts => cases h
    | nothing =>
      obtain rfl := Except.ok.inj h
      exact ⟨rfl, hincludes⟩
    | sets before =>
      obtain rfl := Except.ok.inj h
      have hmem := Joined.mem_addSet.1 (show uid ∈ addSet true hits (.sets before) from hincludes)
      rwa [if_pos rfl] at hmem
  | _ => cases h

theorem includes_add_or {next : Joined ⊕ Bool} (h : seen.add false v = .ok next)
    (hincludes : (outcome false next).Includes uid) : (seen.value false).Includes uid ∨ v.Includes uid := by
  cases v with
  | bool b =>
    cases seen with
    | sets => cases h
    | nothing | verdicts =>
      obtain rfl := Except.ok.inj h
      cases b with
      | true => exact .inr rfl
      | false => cases hincludes
  | uids hits =>
    cases seen with
    | verdicts => cases h
    | nothing =>
      obtain rfl := Except.ok.inj h
      exact .inr hincludes
    | sets before =>
      obtain rfl := Except.ok.inj h
      have hmem := Joined.mem_addSet.1 (show uid ∈ addSet false hits (.sets before) from hincludes)
      rwa [if_neg (by decide)] at hmem
  | _ => cases h

end Joined

variable {β : Type} {P : String → β → Prop} {bs : List β}

/-- What a conjunction includes, each of its arguments includes. -/
theorem settles_evalJoined_and
    (h : List.Forall₂ (fun a b => (eval s current a).Settles fun v => ∀ uid, v.Includes uid → P uid b) args bs)
    (seen : Joined) :
    (evalJoined s current true seen args).Settles
      fun v => ∀ uid, v.Includes uid → (seen.value true).Includes uid ∧ ∀ b ∈ bs, P uid b := by
  induction h generalizing seen with
  | nil =>
    rw [evalJoined_nil]
    exact .pure fun uid hincludes => ⟨hincludes, fun b hb => absurd hb List.not_mem_nil⟩
  | cons ha _ ih =>
    rw [evalJoined_cons]
    refine ha.bind fun v hv => ?_
    cases hadd : seen.add true v with
    | error e => exact .fail
    | ok next =>
      have hstep : ∀ uid, (Joined.outcome true next).Includes uid → (seen.value true).Includes uid ∧ v.Includes uid :=
        fun uid => Joined.includes_add_and hadd
      cases next with
      | inl seen' =>
        refine (ih seen').mono fun w hw uid hincludes => ?_
        obtain ⟨hseen', hrest⟩ := hw uid hincludes
        obtain ⟨hseen, hfirst⟩ := hstep uid hseen'
        exact ⟨hseen, List.forall_mem_cons.2 ⟨hv uid hfirst, hrest⟩⟩
      | inr b =>
        -- A conjunction that is decided is false, and includes nothing.
        exact .pure fun uid hincludes => absurd hincludes (Joined.ne_of_add hadd)

/-- What a disjunction includes, one of its arguments includes. -/
theorem settles_evalJoined_or
    (h : List.Forall₂ (fun a b => (eval s current a).Settles fun v => ∀ uid, v.Includes uid → P uid b) args bs)
    (seen : Joined) :
    (evalJoined s current false seen args).Settles
      fun v => ∀ uid, v.Includes uid → (seen.value false).Includes uid ∨ ∃ b ∈ bs, P uid b := by
  induction h generalizing seen with
  | nil =>
    rw [evalJoined_nil]
    exact .pure fun uid hincludes => .inl hincludes
  | @cons a b args bs ha _ ih =>
    rw [evalJoined_cons]
    refine ha.bind fun v hv => ?_
    cases hadd : seen.add false v with
    | error e => exact .fail
    | ok next =>
      have hstep : ∀ uid, (Joined.outcome false next).Includes uid →
          (seen.value false).Includes uid ∨ ∃ b' ∈ b :: bs, P uid b' := by
        intro uid hincludes
        rcases Joined.includes_add_or hadd hincludes with hseen | hfirst
        · exact .inl hseen
        · exact .inr ⟨b, List.mem_cons_self .., hv uid hfirst⟩
      cases next with
      | inl seen' =>
        refine (ih seen').mono fun w hw uid hincludes => ?_
        rcases hw uid hincludes with hseen' | ⟨b', hb', hP⟩
        · exact hstep uid hseen'
        · exact .inr ⟨b', List.mem_cons_of_mem _ hb', hP⟩
      | inr b' => exact .pure hstep

end Search

end MailQuery
