import Mathlib.Logic.Relation
import MailQuery.Search.Forest

/-!
# No circle among links

Messages name the messages before them as they like: an id may name itself, two ids may name each
other, several messages may have one id, and an id may be spelled like a made-up one. None of this
closes a circle.

- `Links.Sound`: what holds of the links after every message: no id is above itself, and an id leads
  to a message that has it.
- `Links.sound_ofSummaries`: the links of every list of messages are sound. Each single link is guarded
  by `Links.leadsTo`, and `acyclic_of_new_edge` says why one guarded link does no harm.
- `Forest.acyclic_parentsOf`: the step from links to parents keeps this. The nearest message above another
  one has an id above its id, and the parents that are found by subject have no parent themselves.
-/

namespace MailQuery.Search

open Mail Relation

/-- No point of a relation is reached from itself. -/
def Acyclic {α : Type} (r : α → α → Prop) : Prop := ∀ a, ¬ TransGen r a a

/-- A relation in which `c` points to `p` as well stays acyclic, unless `p` leads to `c`. Other edges may
be lost. -/
theorem acyclic_of_new_edge {α : Type} {r s : α → α → Prop} {c p : α} (hr : Acyclic r)
    (hpc : ¬ ReflTransGen r p c) (hs : ∀ a b, s a b → r a b ∨ a = c ∧ b = p) : Acyclic s := by
  -- a path takes the new edge at most once, since behind it the point `c` is out of reach
  have hpath : ∀ {a b}, TransGen s a b →
      TransGen r a b ∨ ReflTransGen r a c ∧ ReflTransGen r p b := by
    intro a b h
    induction h with
    | single hab =>
      rcases hs _ _ hab with h | ⟨rfl, rfl⟩
      · exact .inl (.single h)
      · exact .inr ⟨.refl, .refl⟩
    | tail _ hbd ih =>
      rcases hs _ _ hbd with h | ⟨rfl, rfl⟩
      · exact ih.imp (·.tail h) fun ⟨hac, hpb⟩ => ⟨hac, hpb.tail h⟩
      · rcases ih with hab | ⟨-, hpb⟩
        · exact .inr ⟨hab.to_reflTransGen, .refl⟩
        · exact absurd hpb hpc
  intro a ha
  rcases hpath ha with h | ⟨hac, hpa⟩
  · exact hr a h
  · exact hpc (hpa.trans hac)

namespace Links

/-- The message of one id answers that of another. -/
def Answers (l : Links) (id above : String) : Prop := l.parent? id = some above

/-! ### Look-ups after a change -/

theorem get?_modify (l : Links) (id k : String) (f : Container → Container) :
    (l.modify id f).containers.get? k =
      if k = id then some (f ((l.containers.get? id).getD .unknown)) else l.containers.get? k :=
  SortedMap.get?_alter ..

@[simp] theorem ids_modify (l : Links) (id : String) (f : Container → Container) :
    (l.modify id f).ids = l.ids := rfl

theorem parent?_modify (l : Links) (id k : String) (f : Container → Container) :
    (l.modify id f).parent? k =
      if k = id then (f ((l.containers.get? id).getD .unknown)).parent else l.parent? k := by
  rw [parent?, get?_modify]
  split
  · rfl
  · rfl

theorem place?_modify (l : Links) (id k : String) (f : Container → Container) :
    (l.modify id f).place? k =
      if k = id then (f ((l.containers.get? id).getD .unknown)).entry else l.place? k := by
  rw [place?, get?_modify]
  split
  · rfl
  · rfl

theorem parent_getD_unknown (l : Links) (id : String) :
    ((l.containers.get? id).getD .unknown).parent = l.parent? id := by
  rw [parent?]
  cases l.containers.get? id with
  | none => rfl
  | some c => rfl

theorem place_getD_unknown (l : Links) (id : String) :
    ((l.containers.get? id).getD .unknown).entry = l.place? id := by
  rw [place?]
  cases l.containers.get? id with
  | none => rfl
  | some c => rfl

/-! ### The guard -/

/-- The search for a circle says no only where there is none: then the walk upwards has come to its
end and has not met the id. -/
theorem not_reaches_of_leadsTo {l : Links} {target : String} :
    ∀ {fuel : Nat} {id : String}, l.leadsTo target fuel (some id) = false →
      ¬ ReflTransGen l.Answers id target := by
  intro fuel
  induction fuel with
  | zero =>
    intro id h
    simp [leadsTo] at h
  | succ fuel ih =>
    intro id h hreach
    simp only [leadsTo, Bool.or_eq_false_iff, beq_eq_false_iff_ne] at h
    obtain ⟨hne, hnext⟩ := h
    rcases hreach.cases_head with rfl | ⟨above, habove, hrest⟩
    · exact hne rfl
    · rw [show l.parent? id = some above from habove] at hnext
      exact ih hnext hrest

@[simp] theorem ids_connect (l : Links) (parent child : String) :
    (l.connect parent child).ids = l.ids := by
  unfold connect
  split
  · rfl
  · rfl

@[simp] theorem place?_connect (l : Links) (parent child id : String) :
    (l.connect parent child).place? id = l.place? id := by
  unfold connect
  split
  · rfl
  · rw [place?_modify]
    split
    · next h =>
      rw [h]
      exact place_getD_unknown l child
    · rfl

/-- A link is made unless the search for a circle meets the child. -/
theorem parent?_connect (l : Links) (parent child id : String) :
    (l.connect parent child).parent? id =
      if child = id ∧ l.leadsTo child maxSteps (some parent) = false then some parent else l.parent? id := by
  have hself : parent = child → l.leadsTo child maxSteps (some parent) = true := by
    rintro rfl
    rw [leadsTo.eq_def]
    simp only [beq_self_eq_true, Bool.true_or]
  unfold connect
  cases hguard : l.leadsTo child maxSteps (some parent) with
  | true =>
    rw [Bool.or_true, if_pos rfl, if_neg fun h => nomatch h.2]
  | false =>
    have hne : parent ≠ child := fun he => by
      rw [hself he] at hguard
      cases hguard
    rw [Bool.or_false, decide_eq_false hne, if_neg Bool.false_ne_true, parent?_modify]
    by_cases hid : id = child
    · rw [if_pos hid, if_pos ⟨hid.symm, rfl⟩]
    · rw [if_neg hid, if_neg fun h => hid h.1.symm]

theorem acyclic_connect {l : Links} (h : Acyclic l.Answers) (parent child : String) :
    Acyclic (l.connect parent child).Answers := by
  unfold connect
  split
  · exact h
  · next hguard =>
    simp only [Bool.or_eq_true, decide_eq_true_eq, not_or, Bool.not_eq_true] at hguard
    -- Only the edge of `child` changes. Its old parent is lost, which closes no circle.
    refine acyclic_of_new_edge h (not_reaches_of_leadsTo hguard.2) fun id above hnew => ?_
    rw [Answers, parent?_modify] at hnew
    split at hnew
    · next hid => exact .inr ⟨hid, (Option.some.inj hnew).symm⟩
    · exact .inl hnew

/-! ### All messages -/

/-- What holds of the links of some messages. -/
structure Sound (l : Links) : Prop where
  acyclic : Acyclic l.Answers
  /-- An id leads to a message that has it. -/
  entry : ∀ {id i}, l.place? id = some i → l.ids[i]? = some id

theorem sound_start : start.Sound where
  acyclic a ha := by
    obtain ⟨b, hb, -⟩ := TransGen.head'_iff.1 ha
    cases hb
  entry h := by cases h

theorem Sound.connect {l : Links} (h : l.Sound) (parent child : String) :
    (l.connect parent child).Sound where
  acyclic := acyclic_connect h.acyclic parent child
  entry he := by
    rw [place?_connect] at he
    rw [ids_connect]
    exact h.entry he

theorem Sound.connectAll {l : Links} (h : l.Sound) (pairs : List (String × String)) :
    (pairs.foldl (fun l pair => l.connect pair.1 pair.2) l).Sound := by
  induction pairs generalizing l with
  | nil => exact h
  | cons pair pairs ih => exact ih (h.connect pair.1 pair.2)

/-- Entering a message changes no link. -/
theorem parent?_enter (l : Links) (id k : String) :
    (({ l with ids := l.ids ++ [id] } : Links).modify id fun c => { c with entry := some l.ids.length }).parent? k =
      l.parent? k := by
  rw [parent?_modify]
  by_cases hk : k = id
  · rw [if_pos hk, hk]
    exact parent_getD_unknown l id
  · rw [if_neg hk]
    rfl

/-- A new message takes the id over that it is given, also from an earlier message. -/
theorem Sound.enter {l : Links} (h : l.Sound) (id : String) :
    Sound (({ l with ids := l.ids ++ [id] } : Links).modify id
      fun c => { c with entry := some l.ids.length }) where
  acyclic a ha := by
    refine h.acyclic a (TransGen.mono (fun x y hxy => ?_) a a ha)
    rw [Answers, parent?_enter] at hxy
    exact hxy
  entry {k i} he := by
    rw [place?_modify] at he
    rw [ids_modify]
    split at he
    · next hk =>
      -- an id that was given before leads to the new message now, which has it as well
      rw [hk, ← Option.some.inj he]
      exact List.getElem?_concat_length
    · have hi := h.entry he
      rw [List.getElem?_append_left (List.getElem?_eq_some_iff.1 hi).1]
      exact hi

theorem Sound.addMessage {l : Links} (h : l.Sound) (s : Summary) : (l.addMessage s).Sound :=
  (h.enter (l.freshId s)).connectAll _

/-- The links of every list of messages are sound. -/
theorem sound_ofSummaries (summaries : List Summary) : (ofSummaries summaries).Sound := by
  have hall : ∀ {l : Links}, l.Sound → (summaries.foldl Links.addMessage l).Sound := by
    induction summaries with
    | nil => exact id
    | cons s summaries ih => exact fun h => ih (h.addMessage s)
  exact hall sound_start

theorem ids_connectAll (l : Links) (pairs : List (String × String)) :
    (pairs.foldl (fun l pair => l.connect pair.1 pair.2) l).ids = l.ids := by
  induction pairs generalizing l with
  | nil => rfl
  | cons pair pairs ih => rw [List.foldl_cons, ih, ids_connect]

/-- Every message has one id, in the order of the messages. -/
theorem length_ids_ofSummaries (summaries : List Summary) :
    (ofSummaries summaries).ids.length = summaries.length := by
  have hall : ∀ l : Links,
      (summaries.foldl Links.addMessage l).ids.length = l.ids.length + summaries.length := by
    induction summaries with
    | nil => intro l; rfl
    | cons s summaries ih =>
      intro l
      rw [List.foldl_cons, ih, Links.addMessage, ids_connectAll, ids_modify, List.length_append,
        List.length_singleton, List.length_cons]
      omega
  have h := hall start
  rwa [show start.ids.length = 0 from rfl, Nat.zero_add] at h

/-! ### The nearest message above -/

theorem nearest?_of_entry {l : Links} {id : String} {i : Nat} (h : l.place? id = some i)
    (fuel : Nat) : l.nearest? fuel (some id) = some i := by
  rw [nearest?.eq_def]
  simp only [h]

theorem nearest?_zero {l : Links} {id : String} (h : l.place? id = none) : l.nearest? 0 (some id) = none := by
  rw [nearest?.eq_def]
  simp only [h]

theorem nearest?_succ {l : Links} {id : String} (h : l.place? id = none) (fuel : Nat) :
    l.nearest? (fuel + 1) (some id) = l.nearest? fuel (l.parent? id) := by
  rw [nearest?.eq_def]
  simp only [h]

theorem reaches_of_nearest? {l : Links} {i : Nat} :
    ∀ {fuel : Nat} {id : String}, l.nearest? fuel (some id) = some i →
      ∃ above, ReflTransGen l.Answers id above ∧ l.place? above = some i := by
  intro fuel
  induction fuel with
  | zero =>
    intro id h
    cases he : l.place? id with
    | none =>
      rw [nearest?_zero he] at h
      cases h
    | some j =>
      rw [nearest?_of_entry he] at h
      exact ⟨id, .refl, he.trans h⟩
  | succ fuel ih =>
    intro id h
    cases he : l.place? id with
    | some j =>
      rw [nearest?_of_entry he] at h
      exact ⟨id, .refl, he.trans h⟩
    | none =>
      rw [nearest?_succ he] at h
      cases hp : l.parent? id with
      | none =>
        rw [hp] at h
        simp [nearest?] at h
      | some next =>
        rw [hp] at h
        obtain ⟨above, hreach, hentry⟩ := ih h
        exact ⟨above, .head hp hreach, hentry⟩

theorem getElem?_parents {l : Links} {i : Nat} {id : String} (h : l.ids[i]? = some id) :
    l.parents[i]? = some (l.nearest? (l.ids.length + 100) (l.parent? id)) := by
  rw [parents, List.getElem?_map, h]
  rfl

/-- The walk to the nearest message starts one step above the message itself. -/
theorem above_of_nearest? {l : Links} {fuel : Nat} {id : String} {i : Nat}
    (h : l.nearest? fuel (l.parent? id) = some i) :
    ∃ above, TransGen l.Answers id above ∧ l.place? above = some i := by
  cases hnext : l.parent? id with
  | none =>
    rw [hnext] at h
    cases fuel <;> cases h
  | some next =>
    rw [hnext] at h
    obtain ⟨above, hreach, hentry⟩ := reaches_of_nearest? h
    exact ⟨above, .head' hnext hreach, hentry⟩

/-- The id of the parent of a message is above the id of the message. -/
theorem above_of_parents {l : Links} (h : l.Sound) {i p : Nat}
    (hp : l.parents[i]? = some (some p)) :
    ∃ id above, l.ids[i]? = some id ∧ l.ids[p]? = some above ∧ TransGen l.Answers id above := by
  rw [parents, List.getElem?_map, Option.map_eq_some_iff] at hp
  obtain ⟨id, hid, hnearest⟩ := hp
  obtain ⟨above, hreach, hentry⟩ := above_of_nearest? hnearest
  exact ⟨id, above, hid, h.entry hentry, hreach⟩

end Links

namespace Forest

/-- The message at one place has that at another one as its parent. -/
def HasParent (parents : List (Option Nat)) (i p : Nat) : Prop := parents[i]? = some (some p)

/-! ### From links to parents -/

theorem length_parents (l : Links) : l.parents.length = l.ids.length := List.length_map ..

@[simp] theorem length_parentsOf (summaries : List Summary) :
    (parentsOf summaries).length = summaries.length := by
  rw [parentsOf, List.length_zipWith, length_parents, Links.length_ids_ofSummaries, Nat.min_self]

theorem getElem?_parentsOf {summaries : List Summary} {i : Nat} {parent : Option Nat}
    (h : (parentsOf summaries)[i]? = some parent) :
    ∃ s before, summaries[i]? = some s ∧ (Links.ofSummaries summaries).parents[i]? = some before ∧
      adopt (subjectRoots summaries (Links.ofSummaries summaries).parents) s before = parent := by
  rw [parentsOf, List.getElem?_zipWith] at h
  split at h
  · next s before hs hbefore => exact ⟨s, before, hs, hbefore, Option.some.inj h⟩
  · cases h

/-- A message that starts a subject has no parent, neither by links nor by its subject. -/
theorem parentsOf_of_mem_subjectRoots {summaries : List Summary} {subject : String} {p : Nat}
    (h : (subject, p) ∈ subjectRoots summaries (Links.ofSummaries summaries).parents) :
    (parentsOf summaries)[p]? = some none := by
  rw [subjectRoots, List.mem_filterMap] at h
  obtain ⟨⟨⟨s, parent⟩, i⟩, hmem, hsome⟩ := h
  rw [List.mem_zipIdx_iff_getElem?, List.getElem?_zip_eq_some] at hmem
  obtain ⟨hs, hparent⟩ := hmem
  simp only at hs hparent hsome
  split at hsome
  · next hroot =>
    simp only [Bool.and_eq_true, Option.isNone_iff_eq_none, Bool.not_eq_true'] at hroot
    obtain ⟨rfl, hreply⟩ := hroot
    obtain ⟨-, rfl⟩ := Prod.mk.inj (Option.some.inj hsome)
    rw [parentsOf, List.getElem?_zipWith, hs, hparent]
    simp [adopt, hreply]
  · cases hsome

/-- A parent is found by links, or it is a message without parent. -/
theorem hasParent_parentsOf {summaries : List Summary} {i p : Nat}
    (h : HasParent (parentsOf summaries) i p) :
    HasParent (Links.ofSummaries summaries).parents i p ∨
      (parentsOf summaries)[p]? = some none := by
  obtain ⟨s, before, -, hbefore, hadopt⟩ := getElem?_parentsOf h
  -- A message that has a parent by its links keeps it; only the others are given one by their subject.
  cases before with
  | some q =>
    rw [adopt] at hadopt
    exact .inl (hbefore.trans (congrArg some hadopt))
  | none =>
    rw [adopt] at hadopt
    split at hadopt
    · obtain ⟨before, after, hsplit, -⟩ := List.lookup_eq_some_iff.1 hadopt
      have hmem : (baseSubject s.subject, p) ∈
          subjectRoots summaries (Links.ofSummaries summaries).parents := by
        rw [hsplit]
        exact List.mem_append_right _ (List.mem_cons_self ..)
      exact .inr (parentsOf_of_mem_subjectRoots hmem)
    · cases hadopt

theorem transGen_answers {summaries : List Summary} {i j : Nat}
    (h : TransGen (HasParent (Links.ofSummaries summaries).parents) i j) :
    ∃ id above, (Links.ofSummaries summaries).ids[i]? = some id ∧
      (Links.ofSummaries summaries).ids[j]? = some above ∧
      TransGen (Links.ofSummaries summaries).Answers id above := by
  induction h with
  | single hij => exact Links.above_of_parents (Links.sound_ofSummaries summaries) hij
  | tail _ hjk ih =>
    obtain ⟨id, above, hi, hj, habove⟩ := ih
    obtain ⟨above', top, hj', hk, htop⟩ :=
      Links.above_of_parents (Links.sound_ofSummaries summaries) hjk
    obtain rfl : above = above' := Option.some.inj (hj.symm.trans hj')
    exact ⟨id, top, hi, hk, habove.trans htop⟩

/-- No message is above itself. -/
theorem acyclic_parentsOf (summaries : List Summary) :
    Acyclic (HasParent (parentsOf summaries)) := by
  -- behind a parent that was found by its subject there is no way further up
  have hpath : ∀ {i j}, TransGen (HasParent (parentsOf summaries)) i j →
      TransGen (HasParent (Links.ofSummaries summaries).parents) i j ∨
        (parentsOf summaries)[j]? = some none := by
    intro i j h
    induction h with
    | single hij => exact (hasParent_parentsOf hij).imp_left .single
    | tail _ hjk ih =>
      rcases ih with hlinked | hroot
      · exact (hasParent_parentsOf hjk).imp_left hlinked.tail
      · rw [HasParent, hroot] at hjk
        cases hjk
  intro i hi
  rcases hpath hi with hlinked | hroot
  · obtain ⟨id, above, hid, habove, hreach⟩ := transGen_answers hlinked
    obtain rfl : id = above := Option.some.inj (hid.symm.trans habove)
    exact (Links.sound_ofSummaries summaries).acyclic id hreach
  · obtain ⟨p, hp, -⟩ := TransGen.head'_iff.1 hi
    rw [HasParent, hroot] at hp
    cases hp

/-- A parent is one of the messages. -/
theorem lt_length_of_hasParent {summaries : List Summary} {i p : Nat}
    (h : HasParent (parentsOf summaries) i p) : p < summaries.length := by
  rcases hasParent_parentsOf h with hlinked | hroot
  · obtain ⟨-, above, -, habove, -⟩ :=
      Links.above_of_parents (Links.sound_ofSummaries summaries) hlinked
    rw [← Links.length_ids_ofSummaries]
    exact (List.getElem?_eq_some_iff.1 habove).1
  · rw [← length_parentsOf]
    exact (List.getElem?_eq_some_iff.1 hroot).1

end Forest

end MailQuery.Search
