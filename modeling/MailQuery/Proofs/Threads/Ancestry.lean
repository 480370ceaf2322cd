import Mathlib.Data.List.Chain
import MailQuery.Proofs.Threads.Forest
import MailQuery.Proofs.Threads.Identities

/-!
# Links of complete references

Where every message names all messages before it, from the first one on, the links are those of the forest that the ids
form. It does not matter which messages of this forest there are, and in which order they come.

- `Ancestry`: a forest of ids, given by what is above each of them. `Ancestry.Places` says that a message tells where in
  the forest it stands.
- `Links.Records`: what holds of the links after some of the messages. A link is always one of the forest, so that the
  search for a circle goes up in the forest and never finds one (`not_leadsTo`), and all links above a message are made.
- `Links.nearest?_of_above`, `Links.nearest?_eq_none`: the walk to the nearest message passes by the ids that no message
  has.
-/

namespace MailQuery.Search

open Mail

/-- A forest of ids. Each has the ids above it, from the root down. -/
structure Ancestry where
  above : String → List String
  /-- What is above an id that is above another one comes before it. -/
  above_eq : ∀ {id p : String} {before after : List String}, above id = before ++ p :: after → above p = before

namespace Ancestry

variable {a : Ancestry} {id p : String}

/-- The forest in which the ids of a list follow one another. -/
def line (path : List String) (hnodup : path.Nodup) : Ancestry where
  above id := if id ∈ path then path.takeWhile (· != id) else []
  above_eq {id p before after} h := by
    by_cases hid : id ∈ path
    · rw [if_pos hid] at h
      have hpath : path = before ++ p :: (after ++ path.dropWhile (· != id)) := by
        rw [← List.cons_append, ← List.append_assoc, ← h, List.takeWhile_append_dropWhile]
      have hp : p ∈ path := by
        rw [hpath]
        exact List.mem_append_right _ (List.mem_cons_self ..)
      have hbefore : ∀ k ∈ before, (k != p) = true := by
        intro k hk
        rw [hpath] at hnodup
        rw [bne_iff_ne]
        rintro rfl
        exact List.disjoint_of_nodup_append hnodup hk (List.mem_cons_self ..)
      rw [if_pos hp, hpath, List.takeWhile_append_of_pos hbefore, List.takeWhile_cons_of_neg (by simp), List.append_nil]
    · rw [if_neg hid] at h
      exact absurd h.symm (List.append_ne_nil_of_right_ne_nil _ (List.cons_ne_nil _ _))

/-- The id right above an id. -/
def parent? (a : Ancestry) (id : String) : Option String := (a.above id).getLast?

theorem above_of_parent? (h : a.parent? id = some p) : a.above id = a.above p ++ [p] := by
  obtain ⟨before, hbefore⟩ := List.getLast?_eq_some_iff.1 h
  rw [a.above_eq hbefore, hbefore]

theorem above_of_parent?_none (h : a.parent? id = none) : a.above id = [] := List.getLast?_eq_none_iff.1 h

theorem not_mem_above (a : Ancestry) (id : String) : id ∉ a.above id := by
  intro hid
  obtain ⟨before, after, habove⟩ := List.append_of_mem hid
  have hlength := congrArg List.length habove
  rw [a.above_eq habove, List.length_append, List.length_cons] at hlength
  omega

/-- What is above an id above another one is above that as well. -/
theorem above_subset (hp : p ∈ a.above id) : a.above p ⊆ a.above id := by
  obtain ⟨before, after, habove⟩ := List.append_of_mem hp
  rw [a.above_eq habove, habove]
  exact List.subset_append_left ..

/-- The ids above an id and the id itself lead down step by step. -/
theorem isChain_above (a : Ancestry) (id : String) :
    (a.above id ++ [id]).IsChain fun p c => a.parent? c = some p := by
  -- The induction is on the number of ids above, as each of them has less above it.
  induction hlength : (a.above id).length generalizing id with
  | zero =>
    rw [List.length_eq_zero_iff.1 hlength]
    exact List.isChain_singleton id
  | succ n ih =>
    refine List.isChain_append.2 ⟨?_, List.isChain_singleton id, fun p hp c hc => ?_⟩
    · cases hparent : a.parent? id with
      | none =>
        rw [above_of_parent?_none hparent] at hlength
        cases hlength
      | some p =>
        rw [above_of_parent? hparent] at hlength ⊢
        rw [List.length_append, List.length_singleton] at hlength
        exact ih p (by omega)
    · obtain rfl : id = c := Option.some.inj hc
      exact hp

/-- Of the ids that lead down to an id only the first one has none above it. -/
theorem parent?_of_not_mem_drop {k : String} (hk : k ∈ id :: a.above id) (hdrop : k ∉ (a.above id ++ [id]).drop 1) :
    a.parent? k = none := by
  cases habove : a.above id with
  | nil =>
    rw [habove, List.mem_singleton] at hk
    rw [hk, parent?, habove]
    rfl
  | cons root rest =>
    rw [habove, List.cons_append, List.drop_succ_cons, List.drop_zero, List.mem_append, List.mem_singleton, not_or] at hdrop
    rw [habove, List.mem_cons, List.mem_cons] at hk
    have hkroot : k = root := (hk.resolve_left hdrop.2).resolve_right hdrop.1
    have hnothing : a.above root = [] := a.above_eq (habove.trans (List.nil_append _).symm)
    rw [hkroot, parent?, hnothing]
    rfl

/-- A message that says where in the forest it stands: its references are the ids above its own, and it answers no
message or the one right above. All these ids are written in full, and there are no more than a hundred of them. -/
structure Places (a : Ancestry) (s : Summary) : Prop where
  isId : ∀ id ∈ s.messageId :: a.above s.messageId, id ≠ "" ∧ normalizeId id = id
  references : s.references = a.above s.messageId
  inReplyTo : s.inReplyTo = none ∨ s.inReplyTo = a.parent? s.messageId
  depth : (a.above s.messageId).length ≤ 100

theorem Places.normal {s : Summary} (h : a.Places s) : normalizeId s.messageId = s.messageId :=
  (h.isId _ (List.mem_cons_self ..)).2

/-- A message in its place names the ids above it. -/
theorem Places.references_eq {s : Summary} (h : a.Places s) : Links.references s = a.above s.messageId := by
  have habove : ∀ id ∈ a.above s.messageId, id ≠ "" ∧ normalizeId id = id := fun id hid =>
    h.isId id (List.mem_cons_of_mem _ hid)
  have hids : (s.references.map normalizeId).filter (· != "") = a.above s.messageId := by
    rw [h.references, List.map_congr_left fun id hid => (habove id hid).2, List.map_id']
    refine List.filter_eq_self.2 fun id hid => ?_
    simpa using (habove id hid).1
  rw [Links.references, hids]
  rcases h.inReplyTo with hnone | hparent
  · rw [hnone]
    rfl
  · cases hlast : a.parent? s.messageId with
    | none =>
      rw [hparent, hlast]
      rfl
    | some p =>
      have hnormal : normalizeId p = p := (habove p (List.mem_of_getLast? hlast)).2
      rw [hparent, hlast, Option.map_some, hnormal]
      exact if_pos (.inr hlast)

end Ancestry

namespace Links

variable {l : Links} {a : Ancestry} {id p : String} {messages : List Summary}

/-! ### Single links -/

/-- All links are links of the forest. -/
def Within (l : Links) (a : Ancestry) : Prop := ∀ {id p}, l.parent? id = some p → a.parent? id = some p

/-- The search for a circle goes up in the forest, where no circle is, and comes to an end in time. -/
theorem not_leadsTo (h : l.Within a) {target : String} :
    ∀ {fuel : Nat} {id : String}, target ∉ id :: a.above id → (a.above id).length < fuel →
      l.leadsTo target fuel (some id) = false := by
  intro fuel
  induction fuel with
  | zero => exact fun _ hfuel => absurd hfuel (Nat.not_lt_zero _)
  | succ fuel ih =>
    intro id htarget hfuel
    rw [List.mem_cons, not_or] at htarget
    rw [leadsTo, beq_eq_false_iff_ne.2 (Ne.symm htarget.1), Bool.false_or]
    cases hnext : l.parent? id with
    | none =>
      cases fuel with
      | zero => rfl
      | succ fuel => rfl
    | some p =>
      have habove := a.above_of_parent? (h hnext)
      rw [habove, List.mem_append, List.mem_singleton, not_or] at htarget
      rw [habove, List.length_append, List.length_singleton] at hfuel
      refine ih ?_ (by omega)
      rw [List.mem_cons, not_or]
      exact ⟨htarget.2.2, htarget.2.1⟩

/-- A link of the forest is made. -/
theorem parent?_connect_of_edge (h : l.Within a) (hedge : a.parent? id = some p)
    (hdepth : (a.above id).length ≤ maxSteps) (k : String) :
    (l.connect p id).parent? k = if k = id then some p else l.parent? k := by
  have habove := a.above_of_parent? hedge
  have hid := a.not_mem_above id
  rw [habove, List.mem_append, List.mem_singleton, not_or] at hid
  rw [habove, List.length_append, List.length_singleton] at hdepth
  have hfree : l.leadsTo id maxSteps (some p) = false :=
    not_leadsTo h (by rw [List.mem_cons, not_or]; exact ⟨hid.2, hid.1⟩) (by omega)
  rw [parent?_connect, hfree]
  simp only [and_true, eq_comm]

/-- All links of a way down are made, and no others are changed. -/
theorem parent?_connectAll_of_chain {chain : List String} (h : l.Within a)
    (hchain : chain.IsChain fun p c => a.parent? c = some p)
    (hdepth : ∀ id ∈ chain, (a.above id).length ≤ maxSteps) (k : String) :
    ((chain.zip (chain.drop 1)).foldl (fun l pair => l.connect pair.1 pair.2) l).parent? k =
      if k ∈ chain.drop 1 then a.parent? k else l.parent? k := by
  induction chain generalizing l with
  | nil => rfl
  | cons p chain ih =>
    cases chain with
    | nil => rfl
    | cons c rest =>
      obtain ⟨hedge, hrest⟩ := List.isChain_cons_cons.1 hchain
      have hconnect := parent?_connect_of_edge h hedge (hdepth c (by simp))
      have hwithin : (l.connect p c).Within a := by
        intro id above habove
        rw [hconnect] at habove
        by_cases hid : id = c
        · rw [if_pos hid] at habove
          rw [hid, hedge, habove]
        · rw [if_neg hid] at habove
          exact h habove
      have hnext := ih hwithin hrest fun id hid => hdepth id (List.mem_cons_of_mem _ hid)
      rw [List.drop_succ_cons, List.drop_zero, List.zip_cons_cons, List.foldl_cons]
      rw [List.drop_succ_cons, List.drop_zero] at hnext
      rw [hnext, hconnect]
      -- The first link is that of `c`, which is not linked once more.
      by_cases hc : k = c
      · rw [if_pos hc, hc, if_pos (List.mem_cons_self ..), hedge, ite_self]
      · rw [if_neg hc]
        by_cases hk : k ∈ rest
        · rw [if_pos hk, if_pos (List.mem_cons_of_mem _ hk)]
        · rw [if_neg hk, if_neg]
          intro hmem
          rcases List.mem_cons.1 hmem with rfl | hmem
          · exact hc rfl
          · exact hk hmem

/-! ### All messages -/

/-- What holds of the links of some messages that say where in the forest they stand. -/
structure Records (l : Links) (a : Ancestry) (messages : List Summary) : Prop where
  ids : l.ids = messages.map (·.messageId)
  place : ∀ {id i}, l.place? id = some i ↔ l.ids[i]? = some id
  within : l.Within a
  /-- All links above a message are made. -/
  complete : ∀ id ∈ l.ids, ∀ k ∈ id :: a.above id, l.parent? k = a.parent? k

theorem records_start (a : Ancestry) : start.Records a [] where
  ids := rfl
  place := by
    intro id i
    constructor
    · exact fun h => nomatch h
    · exact fun h => nomatch h
  within h := by cases h
  complete _ h := by cases h

theorem Records.indexed (h : l.Records a messages) : l.Indexed := fun _ _ => h.place

/-- **One more message.** Its own links and those of the ids above it are made, and no other link is changed. -/
theorem Records.addMessage (h : l.Records a messages) {s : Summary} (hs : a.Places s) (hnew : s.messageId ∉ l.ids) :
    (l.addMessage s).Records a (messages ++ [s]) := by
  have hchain := a.isChain_above s.messageId
  have hdepth : ∀ id ∈ a.above s.messageId ++ [s.messageId], (a.above id).length ≤ maxSteps := by
    intro id hid
    have hle : (a.above id).length ≤ (a.above s.messageId).length := by
      rcases List.mem_append.1 hid with habove | hself
      · obtain ⟨before, after, hsplit⟩ := List.append_of_mem habove
        rw [a.above_eq hsplit, hsplit, List.length_append]
        exact Nat.le_add_right ..
      · obtain rfl := List.mem_singleton.1 hself
        exact Nat.le_refl _
    have hbound := hs.depth
    rw [maxSteps]
    omega
  have hne : s.messageId ≠ "" := (hs.isId _ (List.mem_cons_self ..)).1
  have hfresh : l.Fresh s := ⟨h.indexed, by rwa [hs.normal], by rwa [hs.normal]⟩
  rw [Links.addMessage, hfresh.freshId_eq, hs.normal, hs.references_eq]
  generalize hentered : ({ l with ids := l.ids ++ [s.messageId] } : Links).modify s.messageId
    (fun c => { c with entry := some l.ids.length }) = entered
  have hparent : ∀ k, entered.parent? k = l.parent? k := by
    intro k
    rw [← hentered]
    exact parent?_enter l ..
  have hwithin : entered.Within a := by
    intro id p hp
    rw [hparent] at hp
    exact h.within hp
  have hlinked := parent?_connectAll_of_chain hwithin hchain hdepth
  have hids : entered.ids = l.ids ++ [s.messageId] := by
    rw [← hentered]
    rfl
  refine ⟨?_, ?_, ?_, ?_⟩
  · rw [ids_connectAll, hids, h.ids, List.map_append]
    rfl
  · intro id i
    rw [ids_connectAll, place?_connectAll, ← hentered]
    exact h.indexed.enter hnew id i
  · intro id p hp
    rw [hlinked] at hp
    split at hp
    · exact hp
    · exact hwithin hp
  · intro id hid k hk
    rw [hlinked]
    split
    · rfl
    · next hdrop =>
      rw [hparent]
      rw [ids_connectAll, hids, List.mem_append, List.mem_singleton] at hid
      rcases hid with hold | rfl
      · exact h.complete id hold k hk
      · -- Only the first id of the way down has got no link here, and it needs none.
        have hroot := a.parent?_of_not_mem_drop hk hdrop
        cases hparent : l.parent? k with
        | none => exact hroot.symm
        | some p => exact (h.within hparent).symm

theorem Records.addAll {rest : List Summary} (h : l.Records a messages) (hplaces : ∀ s ∈ rest, a.Places s)
    (hnodup : ((messages ++ rest).map (·.messageId)).Nodup) :
    (rest.foldl Links.addMessage l).Records a (messages ++ rest) := by
  induction rest generalizing l messages with
  | nil =>
    rw [List.append_nil]
    exact h
  | cons s rest ih =>
    obtain ⟨hs, hrest⟩ := List.forall_mem_cons.1 hplaces
    have hnew : s.messageId ∉ l.ids := by
      rw [List.map_append, List.map_cons] at hnodup
      rw [h.ids]
      intro hmem
      exact List.disjoint_of_nodup_append hnodup hmem (List.mem_cons_self ..)
    have hsplit : messages ++ s :: rest = messages ++ [s] ++ rest := by
      rw [List.append_assoc, List.singleton_append]
    rw [hsplit] at hnodup ⊢
    exact ih (h.addMessage hs hnew) hrest hnodup

/-- **The links of messages that say where in the forest they stand are those of the forest.** -/
theorem records_ofSummaries {summaries : List Summary} (hplaces : ∀ s ∈ summaries, a.Places s)
    (hnodup : (summaries.map (·.messageId)).Nodup) : (ofSummaries summaries).Records a summaries :=
  (records_start a).addAll hplaces hnodup

/-! ### The nearest message above -/

/-- Ids that no message has are passed on the way up. -/
theorem nearest?_of_above {k : String} {before after : List String} {i : Nat} (hk : l.place? k = some i) :
    ∀ {fuel : Nat} {id : String}, a.above id = before ++ k :: after →
      (∀ x ∈ id :: after, l.parent? x = a.parent? x) → (∀ x ∈ after, l.place? x = none) → after.length ≤ fuel →
      l.nearest? fuel (l.parent? id) = some i := by
  induction after using List.reverseRecOn with
  | nil =>
    intro fuel id habove hlinks _ _
    have hparent : a.parent? id = some k := by
      rw [Ancestry.parent?, habove]
      exact List.getLast?_concat ..
    rw [hlinks id (List.mem_cons_self ..), hparent]
    exact nearest?_of_entry hk fuel
  | append_singleton after x ih =>
    intro fuel id habove hlinks hnone hfuel
    rw [List.length_append, List.length_singleton] at hfuel
    obtain ⟨fuel, rfl⟩ : ∃ n, fuel = n + 1 := ⟨fuel - 1, by omega⟩
    have habove' : a.above id = (before ++ k :: after) ++ [x] := by
      rw [habove, List.append_assoc, List.cons_append]
    have hparent : a.parent? id = some x := by
      rw [Ancestry.parent?, habove']
      exact List.getLast?_concat ..
    have hx : x ∈ after ++ [x] := List.mem_append_right _ (List.mem_singleton_self x)
    rw [hlinks id (List.mem_cons_self ..), hparent, nearest?_succ (hnone x hx)]
    refine ih (a.above_eq habove') (fun y hy => ?_) (fun y hy => ?_) (by omega)
    · rcases List.mem_cons.1 hy with rfl | hy
      · exact hlinks y (List.mem_cons_of_mem _ hx)
      · exact hlinks y (List.mem_cons_of_mem _ (List.mem_append_left _ hy))
    · exact hnone y (List.mem_append_left _ hy)

theorem nearest?_eq_none (h : l.Within a) :
    ∀ {fuel : Nat} {id : String}, (∀ x ∈ a.above id, l.place? x = none) → l.nearest? fuel (l.parent? id) = none := by
  intro fuel
  induction fuel with
  | zero =>
    intro id hnone
    cases hparent : l.parent? id with
    | none => rfl
    | some p => exact nearest?_zero (hnone p (List.mem_of_getLast? (h hparent)))
  | succ fuel ih =>
    intro id hnone
    cases hparent : l.parent? id with
    | none => rfl
    | some p =>
      have hmem : p ∈ a.above id := List.mem_of_getLast? (h hparent)
      rw [nearest?_succ (hnone p hmem)]
      exact ih fun x hx => hnone x (a.above_subset hmem hx)

end Links

end MailQuery.Search
