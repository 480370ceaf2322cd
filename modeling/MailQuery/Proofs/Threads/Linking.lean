import MailQuery.Proofs.Threads.Walks

/-!
# What linking makes of parents

The messages are linked one after another, each behind the last child of its parent. `Linking.Linked`
says what the links are after the first messages: following the siblings from the first child of a
message passes exactly the messages that have it as parent, in their order. `Forest.linked_ofParents`
says it of the whole forest.
-/

namespace MailQuery.Search

/-- The places with a given parent, or with none, in ascending order. -/
def placesOf (parents : List (Option Nat)) (parent : Option Nat) : List Nat :=
  (List.range parents.length).filter fun i => parents[i]? == some parent

@[simp] theorem mem_placesOf {parents : List (Option Nat)} {parent : Option Nat} {i : Nat} :
    i ∈ placesOf parents parent ↔ parents[i]? = some parent := by
  simp only [placesOf, List.mem_filter, List.mem_range, beq_iff_eq, and_iff_right_iff_imp]
  exact fun h => (List.getElem?_eq_some_iff.1 h).1

theorem sorted_placesOf (parents : List (Option Nat)) (parent : Option Nat) :
    (placesOf parents parent).Pairwise (· < ·) :=
  List.pairwise_lt_range.sublist List.filter_sublist

theorem nodup_placesOf (parents : List (Option Nat)) (parent : Option Nat) :
    (placesOf parents parent).Nodup :=
  (sorted_placesOf parents parent).imp Nat.ne_of_lt

theorem placesOf_concat (parents : List (Option Nat)) (new parent : Option Nat) :
    placesOf (parents ++ [new]) parent =
      placesOf parents parent ++ if new = parent then [parents.length] else [] := by
  have hold : (List.range parents.length).filter (fun i => (parents ++ [new])[i]? == some parent) =
      placesOf parents parent := by
    refine List.filter_congr fun i hi => ?_
    rw [List.getElem?_append_left (List.mem_range.1 hi)]
  rw [placesOf, List.length_append, List.length_singleton, List.range_succ, List.filter_append,
    hold, List.filter_singleton, List.getElem?_concat_length]
  by_cases h : new = parent
  · simp [h]
  · have hne : (some new == some parent) = false := by simpa using h
    rw [hne, if_neg h]
    rfl

namespace Linking

/-! ### One more message -/

theorem getElem?_modify_bind (nodes : List Node) (k i : Nat) (f : Node → Node)
    (g : Node → Option Nat) :
    (nodes.modify k f)[i]?.bind g =
      if k = i then nodes[i]?.bind fun n => g (f n) else nodes[i]?.bind g := by
  rw [List.getElem?_modify]
  by_cases h : k = i
  · simp only [h, if_true]
    cases nodes[i]? with
    | none => rfl
    | some n => rfl
  · simp only [h, if_false]
    cases nodes[i]? with
    | none => rfl
    | some n => rfl

/-- A link that is set shows at the places there are, and nowhere else. -/
theorem bind_some_eq_ite (nodes : List Node) (i k : Nat) :
    (nodes[i]?.bind fun _ => some k) = if i < nodes.length then some k else none := by
  by_cases h : i < nodes.length
  · rw [List.getElem?_eq_getElem h, if_pos h]
    rfl
  · rw [List.getElem?_eq_none (Nat.le_of_not_lt h), if_neg h]
    rfl

variable (l : Linking) (k p : Nat)

@[simp] theorem size_add (parent : Option Nat) : (l.add k parent).size = l.size := by
  cases parent with
  | none => rfl
  | some p =>
    simp only [add, Forest.size]
    split
    · rw [List.length_modify, List.length_modify]
    · rw [List.length_modify, List.length_modify]

theorem uids_add (parent : Option Nat) :
    (l.add k parent).nodes.map (·.uid) = l.nodes.map (·.uid) := by
  have hmodify : ∀ (nodes : List Node) (i : Nat) (f : Node → Node), (∀ n, (f n).uid = n.uid) →
      (nodes.modify i f).map (·.uid) = nodes.map (·.uid) := by
    intro nodes i f hf
    refine List.ext_getElem? fun j => ?_
    rw [List.getElem?_map, List.getElem?_map, List.getElem?_modify]
    cases nodes[j]? with
    | none => rfl
    | some n =>
      by_cases h : i = j
      · simp [h, hf]
      · simp [h]
  cases parent with
  | none => rfl
  | some p =>
    simp only [add]
    split
    · refine (hmodify _ _ _ ?_).trans (hmodify _ _ _ ?_)
      · exact fun _ => rfl
      · exact fun _ => rfl
    · refine (hmodify _ _ _ ?_).trans (hmodify _ _ _ ?_)
      · exact fun _ => rfl
      · exact fun _ => rfl

theorem parent?_add (hk : k < l.size) (i : Nat) :
    (l.add k (some p)).parent? i = if i = k then some p else l.parent? i := by
  have hset : (l.nodes.modify k fun n => { n with parent := some p })[i]?.bind (·.parent) =
      if i = k then some p else l.parent? i := by
    rw [getElem?_modify_bind, bind_some_eq_ite]
    by_cases h : k = i
    · subst h
      rw [if_pos rfl, if_pos rfl, if_pos (show k < l.nodes.length from hk)]
    · rw [if_neg h, if_neg (Ne.symm h)]
      rfl
  -- The other link that is set is a sibling or a first child, and leaves all parents as they are.
  simp only [add, Forest.parent?]
  split
  · rw [getElem?_modify_bind, ite_self]
    exact hset
  · rw [getElem?_modify_bind, ite_self]
    exact hset

theorem firstChild?_add (hp : p < l.size) (i : Nat) :
    (l.add k (some p)).firstChild? i =
      if i = p ∧ l.lastChild[p]?.join = none then some k else l.firstChild? i := by
  have hkeep : ∀ j, (l.nodes.modify k fun n => { n with parent := some p })[j]?.bind (·.firstChild) =
      l.firstChild? j := fun j => by
    rw [getElem?_modify_bind, ite_self]
    rfl
  simp only [add, Forest.firstChild?]
  split
  · next before hlast =>
    rw [getElem?_modify_bind, ite_self, hkeep, if_neg (by simp [hlast])]
    rfl
  · next hlast =>
    rw [getElem?_modify_bind, bind_some_eq_ite, List.length_modify]
    by_cases h : p = i
    · subst h
      rw [if_pos rfl, if_pos (show p < l.nodes.length from hp), if_pos ⟨rfl, hlast⟩]
    · rw [if_neg h, if_neg fun hi => h hi.1.symm, hkeep]
      rfl

theorem nextSibling?_add (hlast : ∀ {i}, l.lastChild[p]?.join = some i → i < l.size) (i : Nat) :
    (l.add k (some p)).nextSibling? i =
      if l.lastChild[p]?.join = some i then some k else l.nextSibling? i := by
  have hkeep : ∀ j, (l.nodes.modify k fun n => { n with parent := some p })[j]?.bind (·.nextSibling) =
      l.nextSibling? j := fun j => by
    rw [getElem?_modify_bind, ite_self]
    rfl
  -- Setting the parent of the new message leaves all siblings as they are.
  simp only [add, Forest.nextSibling?]
  split
  · next before hbefore =>
    rw [getElem?_modify_bind, bind_some_eq_ite, List.length_modify, hbefore]
    by_cases h : before = i
    · subst h
      rw [if_pos rfl, if_pos rfl, if_pos (show before < l.nodes.length from hlast hbefore)]
    · rw [if_neg h, if_neg fun hi => h (Option.some.inj hi), hkeep]
      rfl
  · next hnone =>
    rw [getElem?_modify_bind, ite_self, hkeep, hnone, if_neg (by simp)]
    rfl

/-! ### All messages so far -/

/-- What the links are after the messages with the given parents. -/
structure Linked (l : Linking) (parents : List (Option Nat)) : Prop where
  parent : ∀ i, l.parent? i = parents[i]?.join
  roots : l.roots = placesOf parents none
  /-- The children of a message are linked one behind another. -/
  children : ∀ p, Follows l.nextSibling? (l.firstChild? p) (placesOf parents (some p))
  lastChild : ∀ p < l.size, l.lastChild[p]?.join = (placesOf parents (some p)).getLast?
  lastSize : l.lastChild.length = l.size
  /-- A message that is not linked yet has no next sibling. -/
  fresh : ∀ i, parents.length ≤ i → l.nextSibling? i = none

theorem linked_start (uids : List String) : (start uids).Linked [] := by
  have hnone : ∀ (g : Node → Option Nat), (∀ uid, g ⟨uid, none, none, none⟩ = none) →
      ∀ i : Nat, (start uids).nodes[i]?.bind g = none := by
    intro g hg i
    rw [start, List.getElem?_map]
    cases uids[i]? with
    | none => rfl
    | some uid => exact hg uid
  refine ⟨fun i => hnone _ (fun _ => rfl) i, rfl, fun p => ?_, fun p _ => ?_, ?_,
    fun i _ => hnone _ (fun _ => rfl) i⟩
  · rw [show (start uids).firstChild? p = none from hnone _ (fun _ => rfl) p]
    exact .stop
  · rw [start, List.getElem?_map]
    cases uids[p]? with
    | none => rfl
    | some uid => rfl
  · simp [start, Forest.size]

variable {l} {parents : List (Option Nat)}

theorem Linked.addRoot (h : l.Linked parents) : (l.add parents.length none).Linked
    (parents ++ [none]) := by
  have hplaces : ∀ p, placesOf (parents ++ [none]) (some p) = placesOf parents (some p) := fun p => by
    rw [placesOf_concat, if_neg (by simp), List.append_nil]
  refine ⟨fun i => ?_, ?_, fun p => ?_, fun p hp => ?_, h.lastSize, fun i hi => ?_⟩
  · rw [show (l.add parents.length none).parent? i = l.parent? i from rfl, h.parent]
    rcases Nat.lt_trichotomy i parents.length with hlt | rfl | hgt
    · rw [List.getElem?_append_left hlt]
    · rw [List.getElem?_concat_length, List.getElem?_eq_none (Nat.le_refl _)]
      rfl
    · rw [List.getElem?_eq_none (Nat.le_of_lt hgt), List.getElem?_eq_none (by simp; omega)]
  · rw [placesOf_concat, if_pos rfl, ← h.roots]
    rfl
  · rw [hplaces]
    exact h.children p
  · rw [hplaces]
    exact h.lastChild p hp
  · rw [List.length_append, List.length_singleton] at hi
    exact h.fresh i (by omega)

/-- The last child so far, if there is one, comes before all messages that are not linked yet. -/
theorem Linked.lastChild_lt (h : l.Linked parents) {p i : Nat} (hp : p < l.size)
    (hi : l.lastChild[p]?.join = some i) : parents[i]? = some (some p) := by
  rw [h.lastChild p hp] at hi
  exact mem_placesOf.1 (List.mem_of_getLast? hi)

theorem Linked.addChild (h : l.Linked parents) {p : Nat} (hk : parents.length < l.size)
    (hp : p < l.size) : (l.add parents.length (some p)).Linked (parents ++ [some p]) := by
  have hlt : ∀ {i}, l.lastChild[p]?.join = some i → i < parents.length := fun hi =>
    (List.getElem?_eq_some_iff.1 (h.lastChild_lt hp hi)).1
  have hsibling := nextSibling?_add l parents.length p fun hi => Nat.lt_trans (hlt hi) hk
  have hfirst := firstChild?_add l parents.length p hp
  refine ⟨fun i => ?_, ?_, fun q => ?_, fun q hq => ?_, ?_, fun i hi => ?_⟩
  · rw [parent?_add l parents.length p hk, h.parent]
    rcases Nat.lt_trichotomy i parents.length with hi | rfl | hi
    · rw [if_neg (Nat.ne_of_lt hi), List.getElem?_append_left hi]
    · rw [if_pos rfl, List.getElem?_concat_length]
      rfl
    · rw [if_neg (Nat.ne_of_gt hi), List.getElem?_eq_none (Nat.le_of_lt hi),
        List.getElem?_eq_none (by simp; omega)]
  · rw [placesOf_concat, if_neg (by simp), List.append_nil, ← h.roots]
    rfl
  -- The children of `p` get one more; those of all other messages stay as they are.
  · by_cases hq : p = q
    · subst hq
      rw [placesOf_concat, if_pos rfl]
      cases hlast : l.lastChild[p]?.join with
      | none =>
        -- the message is the first child
        have hnil : placesOf parents (some p) = [] := by
          rw [← List.getLast?_eq_none_iff, ← h.lastChild p hp]
          exact hlast
        rw [hnil, hfirst, if_pos ⟨rfl, hlast⟩]
        refine .step ?_
        rw [hsibling, hlast, if_neg (by simp), h.fresh _ (Nat.le_refl _)]
        exact .stop
      | some last =>
        rw [hfirst, if_neg (by simp [hlast])]
        -- the message is linked behind the last child so far
        have hend : (placesOf parents (some p)).getLast? = some last :=
          (h.lastChild p hp).symm.trans hlast
        refine (h.children p).append hend (nodup_placesOf ..) ?_ ?_ ?_
        · have hne : last ≠ parents.length := Nat.ne_of_lt (hlt hlast)
          rw [hsibling, hlast, if_neg (by simpa using hne), h.fresh _ (Nat.le_refl _)]
        · rw [hsibling, if_pos hlast]
        · intro i _ hi
          rw [hsibling, hlast, if_neg fun he => hi (Option.some.inj he).symm]
    · rw [placesOf_concat, if_neg (by simpa using hq), List.append_nil, hfirst,
        if_neg fun hi => hq hi.1.symm]
      -- The last child of `p` is the only message whose sibling changes, and it is no child of `q`.
      refine (h.children q).congr fun i hi => ?_
      rw [hsibling, if_neg]
      intro hlast
      rw [mem_placesOf, h.lastChild_lt hp hlast] at hi
      exact hq (Option.some.inj (Option.some.inj hi))
  · rw [show (l.add parents.length (some p)).lastChild = l.lastChild.set p (some parents.length)
      from rfl]
    rw [size_add] at hq
    by_cases hpq : p = q
    · subst hpq
      rw [List.getElem?_set_self (by rw [h.lastSize]; exact hp), placesOf_concat, if_pos rfl,
        List.getLast?_concat]
      rfl
    · rw [List.getElem?_set_ne hpq, placesOf_concat, if_neg (by simpa using hpq), List.append_nil]
      exact h.lastChild q hq
  · rw [size_add, ← h.lastSize]
    exact List.length_set
  · rw [List.length_append, List.length_singleton] at hi
    rw [hsibling, if_neg fun hlast => by have := hlt hlast; omega]
    exact h.fresh i (by omega)

theorem Linked.addAll {before after : List (Option Nat)} (h : l.Linked before)
    (hsize : before.length + after.length = l.size) (hparent : ∀ p, some p ∈ after → p < l.size) :
    (l.addAll (after.zipIdx before.length)).Linked (before ++ after) ∧
      (l.addAll (after.zipIdx before.length)).nodes.map (·.uid) = l.nodes.map (·.uid) := by
  induction after generalizing l before with
  | nil =>
    rw [List.append_nil]
    exact ⟨h, rfl⟩
  | cons parent after ih =>
    have hstep : (l.add before.length parent).Linked (before ++ [parent]) := by
      cases parent with
      | none => exact h.addRoot
      | some p =>
        refine h.addChild ?_ (hparent p (List.mem_cons_self ..))
        rw [← hsize, List.length_cons]
        omega
    have hlen : (before ++ [parent]).length = before.length + 1 := List.length_append
    have hrest := ih hstep (by rw [hlen, size_add, ← hsize, List.length_cons]; omega)
      (fun p hp => by rw [size_add]; exact hparent p (List.mem_cons_of_mem _ hp))
    rw [hlen, List.append_assoc, uids_add] at hrest
    exact hrest

end Linking

namespace Forest

/-- What the links of a whole forest are: those to the parents are the given ones, and the children of a
message are linked in their order. -/
structure LinkedTo (f : Forest) (parents : List (Option Nat)) : Prop where
  parent : ∀ i, f.parent? i = parents[i]?.join
  roots : f.roots = placesOf parents none
  children : ∀ p, Follows f.nextSibling? (f.firstChild? p) (placesOf parents (some p))

theorem linked_ofParents {uids : List String} {parents : List (Option Nat)}
    (hlen : parents.length = uids.length) (hparent : ∀ p, some p ∈ parents → p < uids.length) :
    (ofParents uids parents).LinkedTo parents ∧
      (ofParents uids parents).nodes.map (·.uid) = uids := by
  have hsize : (Linking.start uids).size = uids.length := List.length_map ..
  have huids : (Linking.start uids).nodes.map (·.uid) = uids := by
    simp [Linking.start, Function.comp_def]
  have hcount : ([] : List (Option Nat)).length + parents.length = (Linking.start uids).size := by
    rw [hsize, ← hlen, List.length_nil, Nat.zero_add]
  have h := (Linking.linked_start uids).addAll hcount
    (fun p hp => by rw [hsize]; exact hparent p hp)
  rw [huids, List.nil_append] at h
  exact ⟨⟨h.1.parent, h.1.roots, h.1.children⟩, h.2⟩

end Forest

end MailQuery.Search
