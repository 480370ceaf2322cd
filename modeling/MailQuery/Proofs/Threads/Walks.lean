import Mathlib.Data.List.Perm.Subperm
import MailQuery.Proofs.Threads.Links

/-!
# Walks that end

The walks of a forest take a bounded number of steps. `Follows` and `Forest.Drains` are the same walks
without the bound: they hold when the walk comes to its end by itself.

- `follows_follow`: where no place is reached from itself, following a link ends, and within as many
  steps as there are places.
- `Forest.drain_eq_of_drains`: a walk with a stack that ends is not cut off by a bound that it fits in.
- `Follows.append`: a linked list of which the last place gets a successor.
-/

namespace MailQuery.Search

open Relation

/-- Following `next` from a start ends, and the places listed are passed. -/
inductive Follows (next : Nat → Option Nat) : Option Nat → List Nat → Prop
  | stop : Follows next none []
  | step {i : Nat} {is : List Nat} : Follows next (next i) is → Follows next (some i) (i :: is)

variable {next : Nat → Option Nat}

/-! ### Linked lists -/

/-- Only the links of the places that are passed matter. -/
theorem Follows.congr {next' : Nat → Option Nat} {start : Option Nat} {is : List Nat}
    (h : Follows next start is) (heq : ∀ i ∈ is, next' i = next i) : Follows next' start is := by
  induction h with
  | stop => exact .stop
  | @step i is _ ih =>
    refine .step ?_
    rw [heq i (List.mem_cons_self ..)]
    exact ih fun j hj => heq j (List.mem_cons_of_mem _ hj)

/-- A place with no successor is linked behind the last place. -/
theorem Follows.append {next' : Nat → Option Nat} {start : Option Nat} {is : List Nat}
    {last new : Nat} (h : Follows next start is) (hlast : is.getLast? = some last)
    (hnodup : is.Nodup) (hnew : next' new = none) (hlink : next' last = some new)
    (hother : ∀ i ∈ is, i ≠ last → next' i = next i) : Follows next' start (is ++ [new]) := by
  induction h with
  | stop => cases hlast
  | @step i is hnext ih =>
    refine .step ?_
    obtain ⟨hi, hnodup⟩ := List.nodup_cons.1 hnodup
    -- Only behind the last place does the walk change: it goes on to the new place and ends there.
    cases is with
    | nil =>
      obtain rfl : i = last := by simpa using hlast
      rw [hlink]
      refine .step ?_
      rw [hnew]
      exact .stop
    | cons j js =>
      rw [List.getLast?_cons_cons] at hlast
      have hne : i ≠ last := by
        rintro rfl
        exact hi (List.mem_of_getLast? hlast)
      rw [hother i (List.mem_cons_self ..) hne]
      exact ih hlast hnodup fun k hk => hother k (List.mem_cons_of_mem _ hk)

/-! ### Enough steps -/

theorem follow_eq_of_follows {start : Option Nat} {is : List Nat} (h : Follows next start is) :
    ∀ {fuel : Nat}, is.length ≤ fuel → follow next fuel start = is := by
  induction h with
  | stop =>
    intro fuel _
    cases fuel with
    | zero => rfl
    | succ fuel => rfl
  | step _ ih =>
    intro fuel hle
    cases fuel with
    | zero => simp at hle
    | succ fuel =>
      rw [follow, ih (Nat.le_of_succ_le_succ hle)]

/-- A bounded walk has come to its end, or it has used all its steps. -/
theorem follows_or_length_eq (next : Nat → Option Nat) :
    ∀ (fuel : Nat) (start : Option Nat),
      Follows next start (follow next fuel start) ∨ (follow next fuel start).length = fuel
  | 0, _ => .inr rfl
  | _ + 1, none => .inl .stop
  | fuel + 1, some i =>
    (follows_or_length_eq next fuel (next i)).imp .step (congrArg (· + 1))

theorem reaches_of_mem_follow {i j : Nat} :
    ∀ {fuel : Nat}, j ∈ follow next fuel (some i) →
      ReflTransGen (fun a b => next a = some b) i j := by
  intro fuel
  induction fuel generalizing i with
  | zero => intro h; cases h
  | succ fuel ih =>
    intro h
    rcases List.mem_cons.1 h with rfl | h
    · exact .refl
    · cases hnext : next i with
      | none =>
        rw [hnext] at h
        cases fuel <;> cases h
      | some k =>
        rw [hnext] at h
        exact .head hnext (ih h)

theorem nodup_follow (hacyclic : Acyclic fun a b => next a = some b) :
    ∀ (fuel : Nat) (start : Option Nat), (follow next fuel start).Nodup
  | 0, _ => .nil
  | _ + 1, none => .nil
  | fuel + 1, some i => by
    refine List.nodup_cons.2 ⟨fun hi => ?_, nodup_follow hacyclic fuel (next i)⟩
    cases hnext : next i with
    | none =>
      rw [hnext] at hi
      cases fuel <;> cases hi
    | some j =>
      rw [hnext] at hi
      -- A place that is passed again would be reached from itself.
      exact hacyclic i (.head' hnext (reaches_of_mem_follow hi))

theorem lt_of_mem_follow {size : Nat} (hnext : ∀ {i j}, next i = some j → j < size) :
    ∀ {fuel : Nat} {start : Option Nat}, (∀ {i}, start = some i → i < size) →
      ∀ j ∈ follow next fuel start, j < size := by
  intro fuel
  induction fuel with
  | zero =>
    intro start _ j hj
    cases hj
  | succ fuel ih =>
    intro start hstart j hj
    cases start with
    | none => cases hj
    | some i =>
      rcases List.mem_cons.1 hj with rfl | hj
      · exact hstart rfl
      · exact ih hnext j hj

/-- Distinct places below a bound are no more than the bound. -/
theorem length_le_of_nodup {size : Nat} {is : List Nat} (hnodup : is.Nodup)
    (hlt : ∀ i ∈ is, i < size) : is.length ≤ size := by
  have hsub : is.Subperm (List.range size) :=
    hnodup.subperm fun i hi => List.mem_range.2 (hlt i hi)
  simpa using hsub.length_le

/-- Following links in a circle-free set of places ends, within as many steps as there are places. -/
theorem follows_follow {size : Nat} (hacyclic : Acyclic fun a b => next a = some b)
    (hnext : ∀ {i j}, next i = some j → j < size) {start : Option Nat}
    (hstart : ∀ {i}, start = some i → i < size) : Follows next start (follow next size start) := by
  have hlen : ∀ fuel, (follow next fuel start).length ≤ size := fun fuel =>
    length_le_of_nodup (nodup_follow hacyclic fuel start) (lt_of_mem_follow hnext hstart)
  -- one step more than there are places is never used
  rcases follows_or_length_eq next (size + 1) start with h | h
  · rw [follow_eq_of_follows h (hlen _)]
    exact h
  · have := hlen (size + 1)
    omega

theorem mem_of_follows {start : Option Nat} {is : List Nat} (h : Follows next start is) {i j : Nat}
    (hstart : start = some i) (hreach : ReflTransGen (fun a b => next a = some b) i j) : j ∈ is := by
  induction h generalizing i with
  | stop => cases hstart
  | step hrest ih =>
    obtain rfl := Option.some.inj hstart
    rcases hreach.cases_head with rfl | ⟨k, hk, hrest⟩
    · exact List.mem_cons_self ..
    · exact List.mem_cons_of_mem _ (ih hk hrest)

/-! ### Walks with a stack -/

namespace Forest

variable {f : Forest}

/-- Taking places from a stack, of which each gives way to its children, ends with the stack empty.
The places listed are taken in this order. -/
inductive Drains (f : Forest) : List Nat → List Nat → Prop
  | stop : Drains f [] []
  | take {i : Nat} {stack out : List Nat} : Drains f ((f.children i).reverse ++ stack) out →
      Drains f (i :: stack) (i :: out)

theorem drain_eq_of_drains {stack out : List Nat} (h : f.Drains stack out) :
    ∀ {fuel : Nat}, out.length ≤ fuel → f.drain fuel stack = out := by
  induction h with
  | stop =>
    intro fuel _
    cases fuel with
    | zero => rfl
    | succ fuel => rfl
  | take _ ih =>
    intro fuel hle
    cases fuel with
    | zero => simp at hle
    | succ fuel => rw [drain, ih (Nat.le_of_succ_le_succ hle)]

end Forest

end MailQuery.Search
