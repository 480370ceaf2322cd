import MailQuery.Proofs.Threads.Forest
import MailQuery.Proofs.Threads.Identities

/-!
# Messages that change the links of others

A message links all ids that it names to one another, and not only itself. An id that has a link gets another one then,
unless that would close a circle: a message with gaps in its references takes earlier replies away from the messages that
they answer.

- `Links.moved?` is the id under which the references of a message put another id in the end. There is no other change to
  the links there are (`Links.Fresh.parent?_addMessage`).
- `Links.Undisturbed`: what a message does not touch. The walks to the nearest messages stay the same
  (`Links.Fresh.nearest?_addMessage`).
- `Forest.parent?_concat`: which earlier messages keep their parents when one more message comes in, and which do not.
-/

namespace MailQuery.Search

open Mail Relation

namespace Links

variable {l : Links} {m : Summary} {id : String}

/-! ### Links that move -/

/-- The id under which the ids of a list put another one in the end: the one before it where it is named last, except for
links that would close a circle at that time. -/
def moved? (l : Links) (id : String) : List String → Option String
  | parent :: child :: rest =>
    ((l.connect parent child).moved? id (child :: rest)).or
      (if child = id ∧ l.leadsTo child maxSteps (some parent) = false then some parent else none)
  | _ => none

/-- The ids of a list are linked one after the other, and the last link of an id counts. -/
theorem parent?_connectAll (l : Links) (chain : List String) (id : String) :
    ((chain.zip (chain.drop 1)).foldl (fun l pair => l.connect pair.1 pair.2) l).parent? id =
      (l.moved? id chain).or (l.parent? id) := by
  induction chain generalizing l with
  | nil => rfl
  | cons parent chain ih =>
    cases chain with
    | nil => rfl
    | cons child rest =>
      have hnext := ih (l.connect parent child)
      rw [List.drop_succ_cons, List.drop_zero] at hnext
      rw [List.drop_succ_cons, List.drop_zero, List.zip_cons_cons, List.foldl_cons, hnext, moved?, parent?_connect,
        Option.or_assoc]
      congr 1
      split
      · rfl
      · rfl

theorem leadsTo_congr {l' : Links} (h : ∀ id, l.parent? id = l'.parent? id) (target : String) :
    ∀ (fuel : Nat) (start : Option String), l.leadsTo target fuel start = l'.leadsTo target fuel start := by
  intro fuel
  induction fuel with
  | zero =>
    intro start
    cases start with
    | none => rfl
    | some id => rfl
  | succ fuel ih =>
    intro start
    cases start with
    | none => rfl
    | some id => rw [leadsTo, leadsTo, h, ih]

/-- Where a list of ids puts an id depends on the links only, and not on the messages that have the ids. -/
theorem moved?_congr {l' : Links} (h : ∀ id, l.parent? id = l'.parent? id) (id : String) (chain : List String) :
    l.moved? id chain = l'.moved? id chain := by
  induction chain generalizing l l' with
  | nil => rfl
  | cons parent chain ih =>
    cases chain with
    | nil => rfl
    | cons child rest =>
      have hconnect : ∀ k, (l.connect parent child).parent? k = (l'.connect parent child).parent? k := by
        intro k
        rw [parent?_connect, parent?_connect, leadsTo_congr h, h]
      rw [moved?, moved?, ih hconnect, leadsTo_congr h]

/-- One more id at the end of a list puts no other id anywhere. -/
theorem moved?_concat {last : String} (hid : id ≠ last) (l : Links) (chain : List String) :
    l.moved? id (chain ++ [last]) = l.moved? id chain := by
  induction chain generalizing l with
  | nil => rfl
  | cons parent chain ih =>
    cases chain with
    | nil =>
      have hlast : ¬ (last = id ∧ l.leadsTo last maxSteps (some parent) = false) := fun h => hid h.1.symm
      rw [List.singleton_append, moved?, if_neg hlast]
      rfl
    | cons child rest =>
      have hnext := ih (l.connect parent child)
      rw [List.cons_append] at hnext
      rw [List.cons_append, List.cons_append, moved?, moved?, hnext]

/-! ### One more message -/

/-- What a new message changes about the links of other ids. -/
theorem Fresh.parent?_addMessage (h : l.Fresh m) (hid : id ≠ normalizeId m.messageId) :
    (l.addMessage m).parent? id = (l.moved? id (references m)).or (l.parent? id) := by
  rw [Links.addMessage, h.freshId_eq, parent?_connectAll, moved?_concat hid]
  generalize hentered : ({ l with ids := l.ids ++ [normalizeId m.messageId] } : Links).modify (normalizeId m.messageId)
    (fun c => { c with entry := some l.ids.length }) = entered
  have hparent : ∀ k, entered.parent? k = l.parent? k := by
    intro k
    rw [← hentered]
    exact parent?_enter l ..
  rw [moved?_congr hparent, hparent]

theorem Fresh.place?_addMessage (h : l.Fresh m) (hid : id ≠ normalizeId m.messageId) :
    (l.addMessage m).place? id = l.place? id := by
  rw [Links.addMessage, h.freshId_eq, place?_connectAll, place?_modify, if_neg hid]
  rfl

/-- An id is linked to one that no message has. -/
def Missing (l : Links) (id above : String) : Prop := l.parent? id = some above ∧ l.place? above = none

/-- A new message leaves the way from an id up to the nearest message as it is: it has itself none of the ids on this
way, and its references put none of them under another id. -/
def Undisturbed (l : Links) (m : Summary) (id : String) : Prop :=
  ∀ passed, ReflTransGen l.Missing id passed →
    passed ≠ normalizeId m.messageId ∧ ∀ q, l.moved? passed (references m) = some q → l.parent? passed = some q

/-- The way from an id without link, or with one to a message, has no ids in between. -/
theorem undisturbed_of_placed (hid : id ≠ normalizeId m.messageId)
    (hplaced : ∀ above ∈ l.parent? id, (l.place? above).isSome = true)
    (hmoved : ∀ q ∈ l.moved? id (references m), l.parent? id = some q) : l.Undisturbed m id := by
  intro passed hpassed
  rcases hpassed.cases_head with rfl | ⟨above, ⟨habove, hmissing⟩, -⟩
  · exact ⟨hid, hmoved⟩
  · have hsome := hplaced above habove
    rw [hmissing] at hsome
    cases hsome

theorem Undisturbed.above {above : String} (h : l.Undisturbed m id) (habove : l.Missing id above) :
    l.Undisturbed m above := fun passed hpassed => h passed (.head habove hpassed)

/-- A walk that is not disturbed leads where it did before. -/
theorem Fresh.nearest?_addMessage (h : l.Fresh m) :
    ∀ {fuel : Nat} {id : String}, l.Undisturbed m id →
      (l.addMessage m).nearest? fuel ((l.addMessage m).parent? id) = l.nearest? fuel (l.parent? id) := by
  have hlink : ∀ {id : String}, l.Undisturbed m id → (l.addMessage m).parent? id = l.parent? id := by
    intro id hundisturbed
    obtain ⟨hid, hmoved⟩ := hundisturbed id .refl
    rw [h.parent?_addMessage hid]
    cases hcase : l.moved? id (references m) with
    | none => rfl
    | some q => exact (hmoved q hcase).symm
  -- An id that leads to a message already is not that of the new one.
  have hplace : ∀ {id above : String}, l.Undisturbed m id → l.parent? id = some above →
      (l.addMessage m).place? above = l.place? above := by
    intro id above hundisturbed habove
    refine h.place?_addMessage fun hsame => ?_
    have hmissing : l.Missing id above := ⟨habove, by rw [hsame, h.indexed.place?_eq_none h.not_mem]⟩
    exact ((hundisturbed.above hmissing) above .refl).1 hsame
  intro fuel
  induction fuel with
  | zero =>
    intro id hundisturbed
    rw [hlink hundisturbed]
    cases habove : l.parent? id with
    | none => rfl
    | some above =>
      have hsame := hplace hundisturbed habove
      cases hat : l.place? above with
      | some j => rw [nearest?_of_entry hat, nearest?_of_entry (hsame.trans hat)]
      | none => rw [nearest?_zero hat, nearest?_zero (hsame.trans hat)]
  | succ fuel ih =>
    intro id hundisturbed
    rw [hlink hundisturbed]
    cases habove : l.parent? id with
    | none => rfl
    | some above =>
      have hsame := hplace hundisturbed habove
      cases hat : l.place? above with
      | some j => rw [nearest?_of_entry hat, nearest?_of_entry (hsame.trans hat)]
      | none =>
        rw [nearest?_succ hat, nearest?_succ (hsame.trans hat)]
        exact ih (hundisturbed.above ⟨habove, hat⟩)

/-- A walk that has found a message finds it with more steps as well. -/
theorem nearest?_succ_of_some {i : Nat} :
    ∀ {fuel : Nat} {start : Option String}, l.nearest? fuel start = some i → l.nearest? (fuel + 1) start = some i := by
  intro fuel
  induction fuel with
  | zero =>
    intro start hfound
    cases start with
    | none => cases hfound
    | some id =>
      cases hat : l.place? id with
      | some j =>
        rw [nearest?_of_entry hat] at hfound ⊢
        exact hfound
      | none =>
        rw [nearest?_zero hat] at hfound
        cases hfound
  | succ fuel ih =>
    intro start hfound
    cases start with
    | none => cases hfound
    | some id =>
      cases hat : l.place? id with
      | some j =>
        rw [nearest?_of_entry hat] at hfound ⊢
        exact hfound
      | none =>
        rw [nearest?_succ hat] at hfound ⊢
        exact ih hfound

/-- No walk to the nearest message is broken off: a message with others above it finds one of them. -/
def WalksEnd (l : Links) : Prop :=
  ∀ id ∈ l.ids, l.nearest? (l.ids.length + 100) (l.parent? id) = none →
    ∀ above, TransGen l.Answers id above → l.place? above = none

/-- No walk is broken off if only messages without link find no other one. -/
theorem walksEnd_of_linked (h : ∀ id ∈ l.ids, l.nearest? (l.ids.length + 100) (l.parent? id) = none → l.parent? id = none) :
    l.WalksEnd := by
  intro id hid hnone above habove
  obtain ⟨next, hnext, -⟩ := TransGen.head'_iff.1 habove
  rw [Answers, h id hid hnone] at hnext
  cases hnext

/-! ### Messages with ids of their own -/

variable {summaries : List Summary} {i : Nat} {s : Summary}

/-- The nearest message above a message is found from its own id. -/
theorem getElem?_parents_ofSummaries (h : HaveOwnIds summaries) (hs : summaries[i]? = some s) :
    (ofSummaries summaries).parents[i]? =
      some ((ofSummaries summaries).nearest? (summaries.length + 100)
        ((ofSummaries summaries).parent? (normalizeId s.messageId))) := by
  have hid : (ofSummaries summaries).ids[i]? = some (normalizeId s.messageId) := by
    rw [(indexed_ofSummaries h).2, List.getElem?_map, hs]
    rfl
  rw [getElem?_parents hid, length_ids_ofSummaries]

section

variable (h : HaveOwnIds (summaries ++ [m]))

include h

theorem parent?_concat_of_moved? {q : String} (hs : summaries[i]? = some s)
    (hmoved : (ofSummaries summaries).moved? (normalizeId s.messageId) (references m) = some q) :
    (ofSummaries (summaries ++ [m])).parent? (normalizeId s.messageId) = some q := by
  obtain ⟨-, -, hnew⟩ := h.of_concat
  have hid : normalizeId s.messageId ≠ normalizeId m.messageId := by
    intro hsame
    rw [← hsame] at hnew
    exact hnew (List.mem_map_of_mem (List.mem_of_getElem? hs))
  rw [ofSummaries_concat, h.fresh.parent?_addMessage hid, hmoved]
  rfl

/-- A message whose way is not disturbed is one step better off. -/
theorem getElem?_parents_concat (hs : summaries[i]? = some s)
    (hundisturbed : (ofSummaries summaries).Undisturbed m (normalizeId s.messageId)) :
    (ofSummaries (summaries ++ [m])).parents[i]? =
      some ((ofSummaries summaries).nearest? (summaries.length + 100 + 1)
        ((ofSummaries summaries).parent? (normalizeId s.messageId))) := by
  have hs' : (summaries ++ [m])[i]? = some s := by
    rw [List.getElem?_append_left (List.getElem?_eq_some_iff.1 hs).1, hs]
  have hlength : (summaries ++ [m]).length + 100 = summaries.length + 100 + 1 := by
    rw [List.length_append, List.length_singleton, Nat.add_right_comm]
  rw [getElem?_parents_ofSummaries h hs', hlength, ofSummaries_concat, h.fresh.nearest?_addMessage hundisturbed]

/-- A message that disturbs no way leaves the nearest messages as they are. -/
theorem parents_concat (hundisturbed : ∀ s ∈ summaries, (ofSummaries summaries).Undisturbed m (normalizeId s.messageId))
    (hend : (ofSummaries summaries).WalksEnd) :
    (ofSummaries summaries).parents <+: (ofSummaries (summaries ++ [m])).parents := by
  obtain ⟨hold, -, -⟩ := h.of_concat
  refine List.prefix_iff_getElem?.2 fun i hi => ?_
  have hlt : i < summaries.length := by
    rw [parents, List.length_map, length_ids_ofSummaries] at hi
    exact hi
  have hs := List.getElem?_eq_getElem hlt
  have hmem := List.getElem_mem hlt
  rw [← List.getElem?_eq_getElem hi, getElem?_parents_concat h hs (hundisturbed _ hmem),
    getElem?_parents_ofSummaries hold hs]
  congr 1
  cases hfound : (ofSummaries summaries).nearest? (summaries.length + 100)
      ((ofSummaries summaries).parent? (normalizeId summaries[i].messageId)) with
  | some p => exact nearest?_succ_of_some hfound
  | none =>
    have hid : normalizeId summaries[i].messageId ∈ (ofSummaries summaries).ids := by
      rw [(indexed_ofSummaries hold).2]
      exact List.mem_map_of_mem hmem
    rw [← length_ids_ofSummaries] at hfound
    -- With one step more the walk would find a message only if there were one above.
    refine Option.eq_none_iff_forall_ne_some.2 fun p hp => ?_
    obtain ⟨above, habove, hat⟩ := above_of_nearest? hp
    rw [hend _ hid hfound above habove] at hat
    cases hat

end

end Links

namespace Forest

variable {summaries : List Summary} {m : Summary}

/-- One more message starts a subject after all others. -/
theorem subjectRoots_concat {parents later : List (Option Nat)} (hlength : summaries.length = parents.length)
    (hlater : parents <+: later) : subjectRoots summaries parents <+: subjectRoots (summaries ++ [m]) later := by
  obtain ⟨more, rfl⟩ := hlater
  rw [subjectRoots, subjectRoots, List.zip_append hlength, List.zipIdx_append, List.filterMap_append]
  exact List.prefix_append ..

/-- **Which parents change when one more message comes in.** All messages have ids of their own. A message that has its
parent by links keeps it, if the new message does not disturb the way to the parent. A message that the references of the
new one put under another message goes there, whatever its own references say. And if nobody is disturbed, nobody loses a
parent, also not one that was found by subject. -/
theorem parent?_concat (h : HaveOwnIds (summaries ++ [m])) :
    (∀ i p s, summaries[i]? = some s → (Links.ofSummaries summaries).parents[i]? = some (some p) →
      (Links.ofSummaries summaries).Undisturbed m (normalizeId s.messageId) →
      (ofSummaries (summaries ++ [m])).parent? i = some p) ∧
    (∀ i j s u, summaries[i]? = some s → summaries[j]? = some u →
      (Links.ofSummaries summaries).moved? (normalizeId s.messageId) (Links.references m) =
        some (normalizeId u.messageId) →
      (ofSummaries (summaries ++ [m])).parent? i = some j) ∧
    ((∀ s ∈ summaries, (Links.ofSummaries summaries).Undisturbed m (normalizeId s.messageId)) →
      (Links.ofSummaries summaries).WalksEnd →
      ∀ i p, (ofSummaries summaries).parent? i = some p → (ofSummaries (summaries ++ [m])).parent? i = some p) := by
  have hlater : ∀ {i : Nat} {s : Summary}, summaries[i]? = some s → (summaries ++ [m])[i]? = some s := by
    intro i s hs
    rw [List.getElem?_append_left (List.getElem?_eq_some_iff.1 hs).1, hs]
  obtain ⟨hold, -, -⟩ := h.of_concat
  have hkeeps : ∀ i p s, summaries[i]? = some s → (Links.ofSummaries summaries).parents[i]? = some (some p) →
      (Links.ofSummaries summaries).Undisturbed m (normalizeId s.messageId) →
      (ofSummaries (summaries ++ [m])).parent? i = some p := by
    intro i p s hs hparent hundisturbed
    have hfound := Option.some.inj ((Links.getElem?_parents_ofSummaries hold hs).symm.trans hparent)
    have hparents := Links.getElem?_parents_concat h hs hundisturbed
    rw [Links.nearest?_succ_of_some hfound] at hparents
    rw [parent?_ofSummaries (hlater hs) hparents, adopt]
  refine ⟨hkeeps, ?_, ?_⟩
  · intro i j s u hs hu hmoved
    obtain ⟨hindexed, hids⟩ := Links.indexed_ofSummaries h
    have hplace : (Links.ofSummaries (summaries ++ [m])).place? (normalizeId u.messageId) = some j := by
      rw [hindexed, hids, List.getElem?_map, hlater hu]
      rfl
    have hparents := Links.getElem?_parents_ofSummaries h (hlater hs)
    rw [Links.parent?_concat_of_moved? h hs hmoved, Links.nearest?_of_entry hplace] at hparents
    rw [parent?_ofSummaries (hlater hs) hparents, adopt]
  · intro hundisturbed hend i p hp
    obtain ⟨hgrounded, -⟩ := grounded_ofSummaries summaries
    obtain ⟨s, before, hs, hbefore, hadopt⟩ := getElem?_parentsOf (hgrounded.hasParent_iff.2 hp)
    cases before with
    | some q =>
      obtain rfl : q = p := Option.some.inj hadopt
      exact hkeeps i q s hs hbefore (hundisturbed s (List.mem_of_getElem? hs))
    | none =>
      have hparents := Links.parents_concat h hundisturbed hend
      have hlength : summaries.length = (Links.ofSummaries summaries).parents.length := by
        rw [length_parents, Links.length_ids_ofSummaries]
      obtain ⟨more, hroots⟩ := subjectRoots_concat (m := m) hlength hparents
      obtain ⟨hlt, hnothing⟩ := List.getElem?_eq_some_iff.1 hbefore
      have hbefore' := List.prefix_iff_getElem?.1 hparents i hlt
      rw [hnothing] at hbefore'
      rw [parent?_ofSummaries (hlater hs) hbefore', ← hroots]
      rw [adopt] at hadopt ⊢
      split at hadopt
      · next hreply => rw [if_pos hreply, List.lookup_append, hadopt, Option.some_or]
      · cases hadopt

/-- The answer to an answer stays where it is when a third one comes in, but a fourth one that leaves the second message
out takes the third one to the first. -/
theorem parent?_concat_left_out :
    let first := { Summary.ofUid "1" with messageId := "a@x", subject := "Plan" }
    let second := { Summary.ofUid "2" with messageId := "b@x", references := ["a@x"], subject := "Re: Plan" }
    let third := { Summary.ofUid "3" with messageId := "c@x", references := ["a@x", "b@x"], subject := "Re: Plan" }
    let fourth := { Summary.ofUid "4" with messageId := "d@x", references := ["a@x", "c@x"], subject := "Re: Plan" }
    (HaveOwnIds [first, second, third] ∧ (ofSummaries [first, second, third]).parent? 1 = some 0) ∧
      HaveOwnIds [first, second, third, fourth] ∧
      (ofSummaries [first, second, third, fourth]).parent? 1 = some 0 ∧
      (ofSummaries [first, second, third, fourth]).parent? 2 = some 0 := by
  intro first second third fourth
  have hfourth : HaveOwnIds ([first, second, third] ++ [fourth]) := ⟨by decide +kernel, by decide +kernel⟩
  have hthird : HaveOwnIds ([first, second] ++ [third]) := hfourth.of_concat.1
  refine ⟨⟨hthird, ?_⟩, hfourth, ?_, ?_⟩
  · refine (parent?_concat hthird).2.2 (fun s hs => ?_) (Links.walksEnd_of_linked (by decide +kernel)) 1 0
      (by decide +kernel)
    rcases List.mem_pair.1 hs with rfl | rfl
    · exact Links.undisturbed_of_placed (by decide +kernel) (by decide +kernel) (by decide +kernel)
    · exact Links.undisturbed_of_placed (by decide +kernel) (by decide +kernel) (by decide +kernel)
  · refine (parent?_concat hfourth).1 1 0 second rfl (by decide +kernel) ?_
    exact Links.undisturbed_of_placed (by decide +kernel) (by decide +kernel) (by decide +kernel)
  · exact (parent?_concat hfourth).2.1 2 0 third first rfl rfl (by decide +kernel)

/-- A message does not always stay with the message that it names last, and that has been its parent. -/
theorem not_forall_parent?_concat :
    ¬ ∀ (summaries : List Summary) (m : Summary), HaveOwnIds (summaries ++ [m]) →
      ∀ i p s t, summaries[i]? = some s → summaries[p]? = some t →
        (Links.references s).getLast? = some (normalizeId t.messageId) →
        (ofSummaries summaries).parent? i = some p → (ofSummaries (summaries ++ [m])).parent? i = some p := by
  intro hkeeps
  let first := { Summary.ofUid "1" with messageId := "a@x", subject := "Plan" }
  let second := { Summary.ofUid "2" with messageId := "b@x", references := ["a@x"], subject := "Re: Plan" }
  let third := { Summary.ofUid "3" with messageId := "c@x", references := ["a@x", "b@x"], subject := "Re: Plan" }
  let fourth := { Summary.ofUid "4" with messageId := "d@x", references := ["a@x", "c@x"], subject := "Re: Plan" }
  have hown : HaveOwnIds ([first, second, third] ++ [fourth]) := ⟨by decide +kernel, by decide +kernel⟩
  have hkept := hkeeps [first, second, third] fourth hown 2 1 third second rfl rfl (by decide +kernel) (by decide +kernel)
  have hmoved : (ofSummaries ([first, second, third] ++ [fourth])).parent? 2 = some 0 := by decide +kernel
  rw [hmoved] at hkept
  cases hkept

end Forest

end MailQuery.Search
