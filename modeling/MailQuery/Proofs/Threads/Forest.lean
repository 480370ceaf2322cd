import Mathlib.Data.List.Nodup
import MailQuery.Proofs.Threads.Linking

/-!
# Threads are trees

`Forest.WellFormed` says what makes the links of messages those of a forest: the way up from a message
ends, the children of a message are linked in their order, and the walks down from the messages without
parent pass every message once. `Forest.wellFormed_ofSummaries` is the main statement: the forest of every
list of messages is well formed, whatever the messages say about each other.

All of it follows from two facts, that links close no circle (`Forest.acyclic_parentsOf`) and that linking
does what the parents say (`Forest.linked_ofParents`). A walk down with a stack ends because a child has
more messages above it than its parent, and because siblings have no message below both of them
(`Forest.Grounded.unrelated_of_parent?_eq`).
-/

namespace MailQuery.Search

open Mail Relation

namespace Forest

/-- One message is below another or the same. -/
def Below (f : Forest) : Nat → Nat → Prop := ReflTransGen fun i p => f.parent? i = some p

/-- What makes the links of messages those of a forest. The walks `lineage`, `children` and `subtree` are
bounded by the number of messages; that they end by themselves says that they are not cut off. -/
structure WellFormed (f : Forest) : Prop where
  parent_lt : ∀ {i p}, f.parent? i = some p → p < f.size
  /-- The way up ends, at a message without parent. -/
  lineage : ∀ i < f.size, Follows f.parent? (some i) (f.lineage i) ∧ f.root i ∈ f.roots
  /-- The way along the siblings ends, and passes the children in their order. -/
  children : ∀ p < f.size, Follows f.nextSibling? (f.firstChild? p) (f.children p) ∧
    (f.children p).Pairwise (· < ·) ∧ ∀ i, i ∈ f.children p ↔ f.parent? i = some p
  roots : f.roots.Pairwise (· < ·) ∧ ∀ i, i ∈ f.roots ↔ i < f.size ∧ f.parent? i = none
  /-- The way down ends, and passes the message and those below it once. -/
  subtree : ∀ i < f.size, f.Drains [i] (f.subtree i) ∧ (f.subtree i).Nodup ∧
    ∀ j, j ∈ f.subtree i ↔ i ∈ f.lineage j ∧ j < f.size
  /-- The ways down from the messages without parent pass all messages once. -/
  everyone : (f.roots.flatMap f.subtree).Perm (List.range f.size)

/-- The two facts on which all others rest. -/
structure Grounded (f : Forest) (parents : List (Option Nat)) : Prop where
  links : f.LinkedTo parents
  length : parents.length = f.size
  acyclic : Acyclic fun i p => f.parent? i = some p
  parent_lt : ∀ {i p}, f.parent? i = some p → p < f.size

namespace Grounded

variable {f : Forest} {parents : List (Option Nat)} (h : f.Grounded parents)

include h

theorem hasParent_iff {i p : Nat} : parents[i]? = some (some p) ↔ f.parent? i = some p := by
  rw [h.links.parent i, Option.join_eq_some_iff]

theorem lt_size {i : Nat} {parent : Option Nat} (hi : parents[i]? = some parent) : i < f.size := by
  rw [← h.length]
  exact (List.getElem?_eq_some_iff.1 hi).1

/-! ### Children and roots -/

theorem children_eq (p : Nat) : f.children p = placesOf parents (some p) :=
  follow_eq_of_follows (h.links.children p)
    (length_le_of_nodup (nodup_placesOf ..) fun _ hi => h.lt_size (mem_placesOf.1 hi))

theorem mem_children {i p : Nat} : i ∈ f.children p ↔ f.parent? i = some p := by
  rw [h.children_eq, mem_placesOf, h.hasParent_iff]

theorem lt_of_mem_children {i p : Nat} (hi : i ∈ f.children p) : i < f.size := by
  rw [h.children_eq, mem_placesOf] at hi
  exact h.lt_size hi

theorem mem_roots {i : Nat} : i ∈ f.roots ↔ i < f.size ∧ f.parent? i = none := by
  rw [h.links.roots, mem_placesOf, h.links.parent i, ← h.length]
  constructor
  · intro hi
    rw [hi]
    exact ⟨(List.getElem?_eq_some_iff.1 hi).1, rfl⟩
  · rintro ⟨hlt, hi⟩
    rw [List.getElem?_eq_getElem hlt] at hi ⊢
    exact congrArg some hi

/-! ### The way up -/

theorem follows_lineage {i : Nat} (hi : i < f.size) :
    Follows f.parent? (some i) (f.lineage i) :=
  follows_follow h.acyclic h.parent_lt fun he => Option.some.inj he ▸ hi

theorem mem_lineage {i j : Nat} (hj : j < f.size) : i ∈ f.lineage j ↔ f.Below j i :=
  ⟨fun hi => reaches_of_mem_follow hi, fun hreach => mem_of_follows (h.follows_lineage hj) rfl hreach⟩

theorem length_lineage_le {i : Nat} (hi : i < f.size) : (f.lineage i).length ≤ f.size :=
  length_le_of_nodup (nodup_follow h.acyclic ..)
    (lt_of_mem_follow h.parent_lt fun he => Option.some.inj he ▸ hi)

theorem lineage_of_parent {i p : Nat} (hi : i < f.size) (hp : f.parent? i = some p) :
    f.lineage i = i :: f.lineage p := by
  have hstep := Follows.step (hp ▸ h.follows_lineage (h.parent_lt hp))
  -- The message is not above its own parent, so that the longer way has no more places than the forest.
  have hle : (i :: f.lineage p).length ≤ f.size := by
    refine length_le_of_nodup (List.nodup_cons.2 ⟨fun hmem => ?_, nodup_follow h.acyclic ..⟩) ?_
    · exact h.acyclic i (.head' hp ((h.mem_lineage (h.parent_lt hp)).1 hmem))
    · intro j hj
      rcases List.mem_cons.1 hj with rfl | hj
      · exact hi
      · exact lt_of_mem_follow h.parent_lt (fun he => Option.some.inj he ▸ h.parent_lt hp) j hj
  exact follow_eq_of_follows hstep hle

theorem root_mem_roots {i : Nat} (hi : i < f.size) : f.root i ∈ f.roots := by
  -- The last place of a way up that has ended has no parent. The start of the way stands for the last
  -- place as long as no other is known.
  have hlast : ∀ {start : Option Nat} {is : List Nat}, Follows f.parent? start is →
      (∀ {j}, start = some j → j < f.size) → ∀ d, d < f.size ∧ (is = [] → f.parent? d = none) →
      is.getLastD d < f.size ∧ f.parent? (is.getLastD d) = none := by
    intro start is hfollows
    induction hfollows with
    | stop => exact fun _ d hd => ⟨hd.1, hd.2 rfl⟩
    | @step j js hrest ih =>
      intro hstart d hd
      rw [List.getLastD_cons]
      refine ih h.parent_lt j ⟨hstart rfl, ?_⟩
      rintro rfl
      generalize hnext : f.parent? j = next at hrest ⊢
      cases hrest
      rfl
  refine h.mem_roots.2 (hlast (h.follows_lineage hi) (fun he => Option.some.inj he ▸ hi) i ⟨hi, ?_⟩)
  intro hnil
  have hself := (h.mem_lineage hi).2 (ReflTransGen.refl : f.Below i i)
  rw [hnil] at hself
  cases hself

theorem below_root {i : Nat} (hi : i < f.size) : f.Below i (f.root i) := by
  have hself := (h.mem_lineage hi).2 (ReflTransGen.refl : f.Below i i)
  rw [← h.mem_lineage hi, root, List.getLastD_eq_getLast?,
    List.getLast?_eq_getLast_of_ne_nil (List.ne_nil_of_mem hself)]
  exact List.getLast_mem _

/-! ### The way down -/

/-- Two messages under one parent, or two without parent, have no message below both of them. -/
theorem unrelated_of_parent?_eq {a b : Nat} (hparent : f.parent? a = f.parent? b) (hne : a ≠ b)
    {j : Nat} (ha : f.Below j a) : ¬ f.Below j b := by
  -- the one would be above the other, and so above the parent of both
  have habove : ∀ {a b}, f.parent? a = f.parent? b → a ≠ b → ¬ f.Below a b := by
    intro a b hparent hne hab
    rcases hab.cases_head with rfl | ⟨p, hp, hpb⟩
    · exact hne rfl
    · exact h.acyclic b (.head' (hparent ▸ hp) hpb)
  intro hb
  -- A message has one parent at most, so that of two messages above it one is above the other.
  have hunique : Relator.RightUnique fun i p => f.parent? i = some p := fun i p q hp hq =>
    Option.some.inj (hp.symm.trans hq)
  rcases ReflTransGen.total_of_right_unique hunique ha hb with hab | hba
  · exact habove hparent hne hab
  · exact habove hparent.symm (Ne.symm hne) hba

omit h in
/-- A part of the stack gives way to all messages below it, each of them taken once, before the rest
of the stack is looked at. -/
def Yields (f : Forest) (is out : List Nat) : Prop :=
  out.Nodup ∧ (∀ j, j ∈ out ↔ ∃ i ∈ is, f.Below j i) ∧
    ∀ {stack rest}, f.Drains stack rest → f.Drains (is ++ stack) (out ++ rest)

omit h in
theorem yields_nil : Yields f [] [] := ⟨.nil, by simp, id⟩

omit h in
theorem Yields.cons {i : Nat} {is sub out : List Nat} (hi : Yields f [i] sub)
    (his : Yields f is out) (hunrelated : ∀ j, f.Below j i → ∀ k ∈ is, ¬ f.Below j k) :
    Yields f (i :: is) (sub ++ out) := by
  obtain ⟨hnodup, hmem, hdrain⟩ := hi
  obtain ⟨hnodup', hmem', hdrain'⟩ := his
  have hmem₁ : ∀ j, j ∈ sub ↔ f.Below j i := fun j => by simpa using hmem j
  refine ⟨?_, fun j => ?_, fun hrest => ?_⟩
  · refine List.nodup_append'.2 ⟨hnodup, hnodup', fun j hj hj' => ?_⟩
    obtain ⟨k, hk, hjk⟩ := (hmem' j).1 hj'
    exact hunrelated j ((hmem₁ j).1 hj) k hk hjk
  · rw [List.mem_append, hmem₁, hmem']
    simp
  · rw [List.append_assoc]
    exact hdrain (hdrain' hrest)

theorem Yields.node {i : Nat} {out : List Nat} (hout : Yields f (f.children i).reverse out) :
    Yields f [i] (i :: out) := by
  obtain ⟨hnodup, hmem, hdrain⟩ := hout
  have hmem₁ : ∀ j, j ∈ out ↔ ∃ c, f.parent? c = some i ∧ f.Below j c := fun j => by
    simp only [hmem, List.mem_reverse, h.mem_children]
  -- The message itself is taken first, and it is none of those below its children.
  refine ⟨List.nodup_cons.2 ⟨fun hi => ?_, hnodup⟩, fun j => ?_, fun hrest => .take (hdrain hrest)⟩
  · obtain ⟨c, hc, hic⟩ := (hmem₁ i).1 hi
    exact h.acyclic i (.tail' hic hc)
  · rw [List.mem_cons, hmem₁]
    constructor
    · rintro (rfl | ⟨c, hc, hjc⟩)
      · exact ⟨j, List.mem_cons_self .., .refl⟩
      · exact ⟨i, List.mem_cons_self .., hjc.tail hc⟩
    · rintro ⟨k, hk, hjk⟩
      obtain rfl := List.mem_singleton.1 hk
      rcases hjk.cases_tail with rfl | ⟨c, hjc, hc⟩
      · exact .inl rfl
      · exact .inr ⟨c, hc, hjc⟩

theorem exists_yields_of_siblings {parent : Option Nat} :
    ∀ {is : List Nat}, is.Nodup → (∀ i ∈ is, f.parent? i = parent) →
      (∀ i ∈ is, ∃ out, Yields f [i] out) → ∃ out, Yields f is out
  | [], _, _, _ => ⟨[], yields_nil⟩
  | i :: is, hnodup, hparent, hall => by
    obtain ⟨hi, hnodup⟩ := List.nodup_cons.1 hnodup
    obtain ⟨sub, hsub⟩ := hall i (List.mem_cons_self ..)
    obtain ⟨out, hout⟩ := exists_yields_of_siblings hnodup
      (fun k hk => hparent k (List.mem_cons_of_mem _ hk))
      (fun k hk => hall k (List.mem_cons_of_mem _ hk))
    refine ⟨sub ++ out, hsub.cons hout fun j hj k hk => ?_⟩
    refine h.unrelated_of_parent?_eq ?_ (fun he => hi (by rw [he]; exact hk)) hj
    rw [hparent i (List.mem_cons_self ..), hparent k (List.mem_cons_of_mem _ hk)]

/-- The way down from a message ends. The induction is on the number of messages that can still be
below: a child has one more message above it than its parent. -/
theorem exists_yields : ∀ (room : Nat) {i : Nat}, i < f.size →
    f.size - (f.lineage i).length ≤ room → ∃ out, Yields f [i] out := by
  intro room
  induction room with
  | zero =>
    intro i hi hroom
    -- With no room left all messages are above this one already, and a child would be one more.
    have hnil : f.children i = [] := by
      refine List.eq_nil_iff_forall_not_mem.2 fun c hc => ?_
      have hlt := h.lt_of_mem_children hc
      have hle := h.length_lineage_le hlt
      rw [h.lineage_of_parent hlt (h.mem_children.1 hc), List.length_cons] at hle
      omega
    refine ⟨[i], Yields.node h ?_⟩
    rw [hnil]
    exact yields_nil
  | succ room ih =>
    intro i hi hroom
    have hnodup : (f.children i).reverse.Nodup := by
      rw [List.nodup_reverse, h.children_eq]
      exact nodup_placesOf ..
    obtain ⟨out, hout⟩ := h.exists_yields_of_siblings hnodup
      (fun c hc => h.mem_children.1 (List.mem_reverse.1 hc)) fun c hc => by
        have hc := List.mem_reverse.1 hc
        have hlt := h.lt_of_mem_children hc
        refine ih hlt ?_
        have hle := h.length_lineage_le hlt
        rw [h.lineage_of_parent hlt (h.mem_children.1 hc), List.length_cons] at hle ⊢
        omega
    exact ⟨i :: out, Yields.node h hout⟩

theorem lt_of_below {i j : Nat} (hi : i < f.size) (hj : f.Below j i) : j < f.size := by
  rcases hj.cases_head with rfl | ⟨p, hp, -⟩
  · exact hi
  · exact h.lt_of_mem_children (h.mem_children.2 hp)

theorem yields_subtree {i : Nat} (hi : i < f.size) : Yields f [i] (f.subtree i) := by
  obtain ⟨out, hout⟩ := h.exists_yields _ hi (Nat.le_refl _)
  obtain ⟨hnodup, hmem, hdrain⟩ := hout
  have hend : f.Drains [i] out := by
    have := hdrain Drains.stop
    rwa [List.append_nil, List.append_nil] at this
  -- All messages that are taken are different, so that the bound on the walk is never met.
  have hlen : out.length ≤ f.size := by
    refine length_le_of_nodup hnodup fun j hj => ?_
    obtain ⟨k, hk, hjk⟩ := (hmem j).1 hj
    obtain rfl := List.mem_singleton.1 hk
    exact h.lt_of_below hi hjk
  rw [subtree, drain_eq_of_drains hend hlen]
  exact ⟨hnodup, hmem, hdrain⟩

theorem drains_subtree {i : Nat} (hi : i < f.size) : f.Drains [i] (f.subtree i) := by
  have := (h.yields_subtree hi).2.2 Drains.stop
  rwa [List.append_nil, List.append_nil] at this

theorem mem_subtree {i j : Nat} (hi : i < f.size) : j ∈ f.subtree i ↔ f.Below j i := by
  simpa using (h.yields_subtree hi).2.1 j

/-! ### All messages -/

theorem perm_range : (f.roots.flatMap f.subtree).Perm (List.range f.size) := by
  have hlt : ∀ {i}, i ∈ f.roots → i < f.size := fun hi => (h.mem_roots.1 hi).1
  have hnodup : (f.roots.flatMap f.subtree).Nodup := by
    refine List.nodup_flatMap.2 ⟨fun i hi => (h.yields_subtree (hlt hi)).1, ?_⟩
    have hroots : f.roots.Pairwise (· ≠ ·) := by
      rw [h.links.roots]
      exact nodup_placesOf ..
    refine hroots.imp_of_mem fun {a b} ha hb hne j hja hjb => ?_
    rw [h.mem_subtree (hlt ha)] at hja
    rw [h.mem_subtree (hlt hb)] at hjb
    refine h.unrelated_of_parent?_eq ?_ hne hja hjb
    rw [(h.mem_roots.1 ha).2, (h.mem_roots.1 hb).2]
  -- Both lists have no place twice, so that it is enough that they have the same places.
  refine (List.perm_ext_iff_of_nodup hnodup List.nodup_range).2 fun j => ?_
  rw [List.mem_flatMap, List.mem_range]
  constructor
  · rintro ⟨i, hi, hj⟩
    exact h.lt_of_below (hlt hi) ((h.mem_subtree (hlt hi)).1 hj)
  · intro hj
    have hroot := h.root_mem_roots hj
    exact ⟨f.root j, hroot, (h.mem_subtree (hlt hroot)).2 (h.below_root hj)⟩

theorem wellFormed : f.WellFormed where
  parent_lt := h.parent_lt
  lineage i hi := ⟨h.follows_lineage hi, h.root_mem_roots hi⟩
  children p hp := by
    rw [h.children_eq]
    exact ⟨h.links.children p, sorted_placesOf .., fun i => by rw [← h.children_eq, h.mem_children]⟩
  roots := by
    refine ⟨?_, fun i => h.mem_roots⟩
    rw [h.links.roots]
    exact sorted_placesOf ..
  subtree i hi := by
    refine ⟨h.drains_subtree hi, (h.yields_subtree hi).1, fun j => ?_⟩
    rw [h.mem_subtree hi]
    constructor
    · intro hj
      exact ⟨(h.mem_lineage (h.lt_of_below hi hj)).2 hj, h.lt_of_below hi hj⟩
    · rintro ⟨hmem, hj⟩
      exact (h.mem_lineage hj).1 hmem
  everyone := h.perm_range

end Grounded

theorem grounded_ofSummaries (summaries : List Summary) :
    (ofSummaries summaries).Grounded (parentsOf summaries) ∧
      (ofSummaries summaries).nodes.map (·.uid) = summaries.map (·.uid) := by
  have hlen : (parentsOf summaries).length = (summaries.map (·.uid)).length := by simp
  have hmem : ∀ p, some p ∈ parentsOf summaries → p < (summaries.map (·.uid)).length := by
    intro p hp
    obtain ⟨i, hi⟩ := List.mem_iff_getElem?.1 hp
    rw [List.length_map]
    exact lt_length_of_hasParent hi
  obtain ⟨hlinked, huids⟩ := linked_ofParents hlen hmem
  have hsize : (ofSummaries summaries).size = (summaries.map (·.uid)).length := by
    rw [← huids, List.length_map]
    rfl
  have hiff : ∀ i p, (ofSummaries summaries).parent? i = some p ↔
      HasParent (parentsOf summaries) i p := fun i p => by
    rw [HasParent, ← Option.join_eq_some_iff, ← hlinked.parent i]
    rfl
  refine ⟨⟨hlinked, hlen.trans hsize.symm, fun i hi => ?_, fun {i p} hp => ?_⟩, huids⟩
  · exact acyclic_parentsOf summaries i (TransGen.mono (fun a b hab => (hiff a b).1 hab) i i hi)
  · rw [hsize, List.length_map]
    exact lt_length_of_hasParent ((hiff i p).1 hp)

/-- What the links find for a message, or else its subject, becomes its parent. -/
theorem parent?_ofSummaries {summaries : List Summary} {i : Nat} {s : Summary} {before : Option Nat}
    (hs : summaries[i]? = some s) (hbefore : (Links.ofSummaries summaries).parents[i]? = some before) :
    (ofSummaries summaries).parent? i =
      adopt (subjectRoots summaries (Links.ofSummaries summaries).parents) s before := by
  obtain ⟨hgrounded, -⟩ := grounded_ofSummaries summaries
  rw [hgrounded.links.parent i, parentsOf, List.getElem?_zipWith, hs, hbefore]
  rfl

/-- **Threads are trees.** Every message has one node, in the order of the messages, and the links between
the nodes are those of a forest. A seed is looked up at a node, so that the walks of an expansion start
where they end. -/
theorem wellFormed_ofSummaries (summaries : List Summary) :
    (ofSummaries summaries).nodes.map (·.uid) = summaries.map (·.uid) ∧
      (ofSummaries summaries).WellFormed ∧
      ∀ uid i, (ofSummaries summaries).find? uid = some i → i < (ofSummaries summaries).size := by
  obtain ⟨hgrounded, huids⟩ := grounded_ofSummaries summaries
  refine ⟨huids, hgrounded.wellFormed, fun uid i hi => ?_⟩
  exact (List.findIdx?_eq_some_iff_getElem.1 hi).1

end Forest

end MailQuery.Search
