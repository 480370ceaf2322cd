import Mathlib.Data.List.Forall2
import MailQuery.Proofs.Routes.Searches

/-!
# Values that agree on some messages

Two evaluations of one term may differ in the messages that they are about. Their values are then of the same kind, and sets
have the same of the messages that both are about (`Value.Agrees`). Functions that look at no message do not tell such
values apart: they are not defined for sets, or do not depend on what is in them.

`Reading.Simulates` says of two computations that the second one follows the first wherever that succeeds. It is put
together from the parts of a computation (`Simulates.bind`), so that there is one lemma for each function.
-/

namespace MailQuery

open Mail

/-- Two sets have the same of some messages. -/
def UidSet.SameAmong (among : List String) (hits hits' : UidSet) : Prop := ∀ uid ∈ among, uid ∈ hits ↔ uid ∈ hits'

/-- Two values are the same as far as some messages go. -/
inductive Value.Agrees (among : List String) : Value → Value → Prop where
  | same (v : Value) : Agrees among v v
  | uids {hits hits' : UidSet} (h : hits.SameAmong among hits') : Agrees among (.uids hits) (.uids hits')

theorem UidSet.SameAmong.refl {among : List String} (hits : UidSet) : hits.SameAmong among hits := fun _ _ => Iff.rfl

namespace Search

/-! ### Computations that follow one another -/

namespace Reading

variable {α β : Type} {R : α → α → Prop} {S : β → β → Prop} {fetch : String → Except SearchError Message}
  {x x' : Reading α}

/-- Wherever one computation succeeds, another one succeeds with a related result. -/
def Simulates (fetch : String → Except SearchError Message) (R : α → α → Prop) (x x' : Reading α) : Prop :=
  ∀ a, x.run fetch = .ok a → ∃ a', x'.run fetch = .ok a' ∧ R a a'

theorem Simulates.pure {a a' : α} (h : R a a') : Simulates fetch R (pure a) (pure a') := by
  intro b hb
  obtain rfl : a = b := Except.ok.inj hb
  exact ⟨a', rfl, h⟩

theorem Simulates.fail {e : SearchError} : Simulates fetch R (fail e) x' := fun _ h => nomatch h

theorem Simulates.refl (hR : ∀ a, R a a) (x : Reading α) : Simulates fetch R x x := fun a ha => ⟨a, ha, hR a⟩

/-- One computation after another. -/
theorem Simulates.bind {next next' : α → Reading β} (h : Simulates fetch R x x')
    (hnext : ∀ a a', R a a' → Simulates fetch S (next a) (next' a')) :
    Simulates fetch S (x >>= next) (x' >>= next') := by
  intro b hb
  rw [run_bind] at hb
  cases hx : x.run fetch with
  | error e =>
    rw [hx] at hb
    cases hb
  | ok a =>
    rw [hx, ok_bind] at hb
    obtain ⟨a', ha', hR⟩ := h a hx
    obtain ⟨b', hb', hS⟩ := hnext a a' hR b hb
    refine ⟨b', ?_, hS⟩
    rw [run_bind, ha', ok_bind, hb']

end Reading

open Reading

variable {fetch : String → Except SearchError Message} {among : List String} {v v' : Value} {values values' : List Value}

/-! ### Values that agree -/

/-- A value that is no set agrees with itself only. -/
theorem eq_of_agrees (h : v.Agrees among v') (hplain : ∀ hits, v ≠ .uids hits) : v' = v := by
  cases h with
  | same => rfl
  | uids => exact absurd rfl (hplain _)

theorem text?_of_agrees (h : v.Agrees among v') : v'.text? = v.text? := by
  cases h with
  | same => rfl
  | uids => rfl

theorem number?_of_agrees (h : v.Agrees among v') : v'.number? = v.number? := by
  cases h with
  | same => rfl
  | uids => rfl

theorem texts_of_agrees (h : List.Forall₂ (Value.Agrees among) values values') :
    Value.texts values' = Value.texts values := by
  induction h with
  | nil => rfl
  | cons hv _ ih =>
    have ih : List.filterMap Value.text? _ = List.filterMap Value.text? _ := ih
    rw [Value.texts, Value.texts, List.filterMap_cons, List.filterMap_cons, text?_of_agrees hv, ih]

theorem eq_of_forall₂_agrees (h : List.Forall₂ (Value.Agrees among) values values')
    (hplain : ∀ v ∈ values, ∀ hits, v ≠ .uids hits) : values' = values := by
  induction h with
  | nil => rfl
  | cons hv _ ih =>
    obtain ⟨hfirst, hrest⟩ := List.forall_mem_cons.1 hplain
    rw [eq_of_agrees hv hfirst, ih hrest]

theorem firstText_of_agrees (function : String) (h : List.Forall₂ (Value.Agrees among) values values') :
    firstText function values' = firstText function values := by
  cases h with
  | nil => rfl
  | cons hv _ =>
    have htext := text?_of_agrees hv
    rw [firstText, firstText, List.head?_cons, List.head?_cons, Option.bind_some, Option.bind_some, htext]

/-! ### Functions of plain values -/

theorem plain_of_numbers {ns : List Int64} (h : numbers values = .ok ns) : ∀ v ∈ values, ∀ hits, v ≠ .uids hits := by
  induction values generalizing ns with
  | nil => exact fun v hv => absurd hv List.not_mem_nil
  | cons v values ih =>
    rw [numbers] at h
    cases hv : v.number? with
    | none =>
      rw [hv] at h
      cases h
    | some n =>
      rw [hv] at h
      cases hrest : numbers values with
      | error e =>
        rw [hrest] at h
        cases h
      | ok rest =>
        refine List.forall_mem_cons.2 ⟨?_, ih hrest⟩
        rintro hits rfl
        cases hv

theorem plain_of_compareValues {c : Comparison} (h : compareValues c values = .ok v) :
    ∀ v ∈ values, ∀ hits, v ≠ .uids hits := by
  rcases values with _ | ⟨a, _ | ⟨b, _ | ⟨last, rest⟩⟩⟩
  · cases h
  · cases h
  · have horder : ∃ o, order? a b = some o := by
      cases horder : order? a b with
      | none =>
        rw [compareValues, horder] at h
        cases h
      | some o => exact ⟨o, rfl⟩
    obtain ⟨o, horder⟩ := horder
    refine List.forall_mem_cons.2 ⟨?_, List.forall_mem_singleton.2 ?_⟩
    · rintro hits rfl
      cases b <;> cases horder
    · rintro hits rfl
      cases a <;> cases horder
  · cases h

theorem plain_of_sum (h : sum values = .ok v) : ∀ v ∈ values, ∀ hits, v ≠ .uids hits := by
  rw [sum] at h
  split at h
  · next htexts =>
    rw [Bool.and_eq_true, List.all_eq_true] at htexts
    rintro w hw hits rfl
    cases htexts.2 _ hw
  · cases hnumbers : numbers values with
    | error e =>
      rw [hnumbers] at h
      cases h
    | ok ns => exact plain_of_numbers hnumbers

theorem plain_of_difference (h : difference values = .ok v) : ∀ v ∈ values, ∀ hits, v ≠ .uids hits := by
  rw [difference] at h
  cases hnumbers : numbers values with
  | error e =>
    rw [hnumbers] at h
    cases h
  | ok ns => exact plain_of_numbers hnumbers

theorem plain_of_castInt (h : castInt values = .ok v) : ∀ v ∈ values, ∀ hits, v ≠ .uids hits := by
  rcases values with _ | ⟨a, _ | ⟨b, rest⟩⟩
  · cases h
  · refine List.forall_mem_singleton.2 ?_
    rintro hits rfl
    cases h
  · cases a <;> cases h

theorem plain_of_castString (h : castString values = .ok v) : ∀ v ∈ values, ∀ hits, v ≠ .uids hits := by
  rcases values with _ | ⟨a, _ | ⟨b, rest⟩⟩
  · cases h
  · refine List.forall_mem_singleton.2 ?_
    rintro hits rfl
    cases h
  · cases a <;> cases h

/-- A function that is not defined for sets has the same value in both evaluations. -/
theorem simulates_done_of_plain {g : List Value → Except SearchError Value}
    (hplain : ∀ {v}, g values = .ok v → ∀ v ∈ values, ∀ hits, v ≠ .uids hits)
    (h : List.Forall₂ (Value.Agrees among) values values') :
    Simulates fetch (Value.Agrees among) (.done (g values)) (.done (g values')) := by
  intro v hv
  have hv : g values = .ok v := hv
  have heq := eq_of_forall₂_agrees h (hplain hv)
  refine ⟨v, ?_, .same v⟩
  rw [heq]
  exact hv

theorem relativeMonths_of_agrees (now : Int64) (h : List.Forall₂ (Value.Agrees among) values values') :
    relativeMonths now values' = relativeMonths now values := by
  cases h with
  | nil => rfl
  | cons ha hrest =>
    cases hrest with
    | nil =>
      cases ha with
      | same => rfl
      | uids => rfl
    | cons hb hrest =>
      cases hrest with
      | nil =>
        simp only [relativeMonths, number?_of_agrees ha, number?_of_agrees hb]
      | cons => simp only [relativeMonths]
/-! ### Conjunctions and disjunctions -/

/-- What arguments have come to, as far as some messages go. -/
inductive Joined.Agrees (among : List String) : Joined → Joined → Prop where
  | same (seen : Joined) : Agrees among seen seen
  | sets {hits hits' : UidSet} (h : hits.SameAmong among hits') : Agrees among (.sets hits) (.sets hits')

theorem Joined.Agrees.value {seen seen' : Joined} (h : Joined.Agrees among seen seen') (isAnd : Bool) :
    (seen.value isAnd).Agrees among (seen'.value isAnd) := by
  cases h with
  | same => exact .same _
  | sets h => exact .uids h

theorem Joined.sameAmong_addSet {hits hits' before before' : UidSet} (isAnd : Bool)
    (h : before.SameAmong among before') (hhits : hits.SameAmong among hits') :
    (addSet isAnd hits (.sets before)).SameAmong among (addSet isAnd hits' (.sets before')) := by
  intro uid huid
  rw [mem_addSet, mem_addSet, h uid huid, hhits uid huid]

/-- One more argument: it decides both or neither, and no error is made that was not made before. -/
theorem Joined.Agrees.add {seen seen' : Joined} (h : Joined.Agrees among seen seen') (isAnd : Bool)
    (hv : v.Agrees among v') {next : Joined ⊕ Bool} (hnext : seen.add isAnd v = .ok next) :
    ∃ next', seen'.add isAnd v' = .ok next' ∧ Sum.LiftRel (Joined.Agrees among) Eq next next' := by
  cases hv with
  | same v =>
    cases h with
    | same seen =>
      refine ⟨next, hnext, ?_⟩
      cases next with
      | inl seen => exact .inl (.same seen)
      | inr b => exact .inr rfl
    | sets h =>
      cases v with
      | uids hits =>
        obtain rfl := Except.ok.inj hnext
        exact ⟨_, rfl, .inl (.sets (sameAmong_addSet isAnd h (UidSet.SameAmong.refl hits)))⟩
      | _ => cases hnext
  | uids hhits =>
    cases h with
    | same seen =>
      cases seen with
      | nothing =>
        obtain rfl := Except.ok.inj hnext
        exact ⟨_, rfl, .inl (.sets hhits)⟩
      | verdicts => cases hnext
      | sets before =>
        obtain rfl := Except.ok.inj hnext
        exact ⟨_, rfl, .inl (.sets (sameAmong_addSet isAnd (UidSet.SameAmong.refl before) hhits))⟩
    | sets h =>
      obtain rfl := Except.ok.inj hnext
      exact ⟨_, rfl, .inl (.sets (sameAmong_addSet isAnd h hhits))⟩

end Search

end MailQuery
