import MailQuery.Proofs.Threads.Ancestry

/-!
# Threads of complete references

The threads of messages that tell where in a forest of ids they stand. By their links they get the nearest message above
them that there is (`Links.exists_parent_of_records`). A reply that is left over finds the first message of its subject
(`Forest.lookup_subjectRoots`).

`Forest.rebuilds_ofSummaries` is the main statement.
-/

namespace MailQuery.Search

open Mail

/-! ### What the threads are -/

namespace Ancestry

variable {a : Ancestry} {summaries : List Summary} {s : Summary} {p : Nat}

/-- The nearest message above a message is at a place: no message has an id in between. -/
def HasNearest (a : Ancestry) (summaries : List Summary) (s : Summary) (p : Nat) : Prop :=
  ∃ m before after, summaries[p]? = some m ∧ a.above s.messageId = before ++ m.messageId :: after ∧
    ∀ other ∈ summaries, other.messageId ∉ after

/-- There is no message above a message. -/
def IsOrphan (a : Ancestry) (summaries : List Summary) (s : Summary) : Prop :=
  ∀ m ∈ summaries, m.messageId ∉ a.above s.messageId

instance : Decidable (a.IsOrphan summaries s) := inferInstanceAs (Decidable (∀ m ∈ summaries, m.messageId ∉ a.above s.messageId))

/-- The message at a place starts a subject: it is no reply, and there is no message above it. -/
def StartsSubject (a : Ancestry) (summaries : List Summary) (subject : String) (p : Nat) : Prop :=
  ∃ m, summaries[p]? = some m ∧ a.IsOrphan summaries m ∧ isReplySubject m.subject = false ∧
    baseSubject m.subject = baseSubject subject

/-- The first message that starts a subject. -/
def IsFirstOfSubject (a : Ancestry) (summaries : List Summary) (subject : String) (p : Nat) : Prop :=
  a.StartsSubject summaries subject p ∧ ∀ q < p, ¬ a.StartsSubject summaries subject q

/-- A message with a message above it has a nearest one. -/
theorem exists_hasNearest (h : ¬ a.IsOrphan summaries s) : ∃ p, a.HasNearest summaries s p := by
  have hlast : ∀ {ids : List String}, (∃ m ∈ summaries, m.messageId ∈ ids) →
      ∃ m ∈ summaries, ∃ before after, ids = before ++ m.messageId :: after ∧
        ∀ other ∈ summaries, other.messageId ∉ after := by
    intro ids
    induction ids with
    | nil =>
      rintro ⟨m, -, hm⟩
      cases hm
    | cons id ids ih =>
      intro hsome
      by_cases hrest : ∃ m ∈ summaries, m.messageId ∈ ids
      · obtain ⟨m, hm, before, after, hids, hnone⟩ := ih hrest
        exact ⟨m, hm, id :: before, after, by rw [hids, List.cons_append], hnone⟩
      · obtain ⟨m, hm, hmem⟩ := hsome
        have hnone : ∀ other ∈ summaries, other.messageId ∉ ids := fun other ho hin => hrest ⟨other, ho, hin⟩
        have hid : m.messageId = id := (List.mem_cons.1 hmem).resolve_right (hnone m hm)
        exact ⟨m, hm, [], ids, by rw [hid, List.nil_append], hnone⟩
  have hsome : ∃ m ∈ summaries, m.messageId ∈ a.above s.messageId := by
    simpa [IsOrphan] using h
  obtain ⟨m, hm, before, after, habove, hnone⟩ := hlast hsome
  obtain ⟨p, hp⟩ := List.mem_iff_getElem?.1 hm
  exact ⟨p, m, before, after, hp, habove, hnone⟩

theorem HasNearest.not_isOrphan (h : a.HasNearest summaries s p) : ¬ a.IsOrphan summaries s := by
  obtain ⟨m, before, after, hp, habove, -⟩ := h
  intro horphan
  refine horphan m (List.mem_of_getElem? hp) ?_
  rw [habove]
  exact List.mem_append_right _ (List.mem_cons_self ..)

end Ancestry

/-- The links lead to the nearest message above each message, if there is one. -/
theorem Links.exists_parent_of_records {a : Ancestry} {summaries : List Summary} {l : Links}
    (h : l.Records a summaries) (hplaces : ∀ s ∈ summaries, a.Places s) {i : Nat} {s : Summary}
    (hs : summaries[i]? = some s) :
    ∃ before, l.parents[i]? = some before ∧ (∀ p, a.HasNearest summaries s p → before = some p) ∧
      (a.IsOrphan summaries s → before = none) := by
  have hid : l.ids[i]? = some s.messageId := by
    rw [h.ids, List.getElem?_map, hs]
    rfl
  -- An id that no message has leads to no place.
  have habsent : ∀ ids : List String, (∀ m ∈ summaries, m.messageId ∉ ids) → ∀ x ∈ ids, l.place? x = none := by
    intro ids hnone x hx
    refine h.indexed.place?_eq_none fun hmem => ?_
    rw [h.ids] at hmem
    obtain ⟨m, hm, rfl⟩ := List.mem_map.1 hmem
    exact hnone m hm hx
  have hlinks := h.complete s.messageId (List.mem_of_getElem? hid)
  refine ⟨l.nearest? (l.ids.length + 100) (l.parent? s.messageId), getElem?_parents hid, fun p hp => ?_, fun horphan => ?_⟩
  · obtain ⟨m, before, after, hm, habove, hnone⟩ := hp
    have hplace : l.place? m.messageId = some p := by
      rw [h.place, h.ids, List.getElem?_map, hm]
      rfl
    have hdepth := (hplaces s (List.mem_of_getElem? hs)).depth
    rw [habove, List.length_append, List.length_cons] at hdepth
    refine Links.nearest?_of_above hplace habove (fun x hx => hlinks x ?_) (habsent after hnone) (by omega)
    rw [habove]
    rcases List.mem_cons.1 hx with rfl | hx
    · exact List.mem_cons_self ..
    · exact List.mem_cons_of_mem _ (List.mem_append_right _ (List.mem_cons_of_mem _ hx))
  · exact Links.nearest?_eq_none h.within (habsent _ horphan)

namespace Forest

variable {a : Ancestry} {summaries : List Summary} {parents : List (Option Nat)}

/-! ### Replies that are left over -/

/-- A message, given with its parent by links, starts a subject. -/
def startsSubject (base : String) (message : Summary × Option Nat) : Bool :=
  message.2.isNone && !isReplySubject message.1.subject && baseSubject message.1.subject == base

/-- The subject that a message starts, with the place of the message. -/
def subjectRoot? : (Summary × Option Nat) × Nat → Option (String × Nat)
  | ((s, parent), i) => if parent.isNone && !isReplySubject s.subject then some (baseSubject s.subject, i) else none

theorem lookup_filterMap_subjectRoot? (base : String) (messages : List (Summary × Option Nat)) (start : Nat) :
    ((messages.zipIdx start).filterMap subjectRoot?).lookup base =
      (messages.findIdx? (startsSubject base)).map (· + start) := by
  induction messages generalizing start with
  | nil => rfl
  | cons message messages ih =>
    obtain ⟨s, parent⟩ := message
    have hshift : ((messages.findIdx? (startsSubject base)).map (· + 1)).map (· + start) =
        (messages.findIdx? (startsSubject base)).map (· + (start + 1)) := by
      rw [Option.map_map]
      congr 1
      funext n
      show n + 1 + start = n + (start + 1)
      omega
    rw [List.zipIdx_cons, List.findIdx?_cons]
    by_cases hroot : (parent.isNone && !isReplySubject s.subject) = true
    · have hsome : subjectRoot? ((s, parent), start) = some (baseSubject s.subject, start) := if_pos hroot
      have hstarts : startsSubject base (s, parent) = (baseSubject s.subject == base) := by
        rw [startsSubject, hroot, Bool.true_and]
      rw [List.filterMap_cons_some hsome, SortedMap.lookup_cons_eq_if, hstarts]
      by_cases hbase : base = baseSubject s.subject
      · rw [if_pos hbase, if_pos (beq_iff_eq.2 hbase.symm), Option.map_some, Nat.zero_add]
      · rw [if_neg hbase, if_neg (fun h => hbase (beq_iff_eq.1 h).symm), hshift, ih]
    · have hnone : subjectRoot? ((s, parent), start) = none := if_neg hroot
      have hother : startsSubject base (s, parent) = false := by
        rw [startsSubject, Bool.eq_false_iff.2 hroot, Bool.false_and]
      rw [List.filterMap_cons_none hnone, hother, if_neg Bool.false_ne_true, hshift, ih]

/-- **Looking up a subject is looking for the first message that starts it.** -/
theorem lookup_subjectRoots (base : String) :
    (subjectRoots summaries parents).lookup base = (summaries.zip parents).findIdx? (startsSubject base) := by
  have hroots : subjectRoots summaries parents = ((summaries.zip parents).zipIdx 0).filterMap subjectRoot? := rfl
  rw [hroots, lookup_filterMap_subjectRoot?]
  exact Option.map_id'

section

variable (hplaces : ∀ s ∈ summaries, a.Places s) (hnodup : (summaries.map (·.messageId)).Nodup)

include hplaces hnodup

/-- What starts a subject by links does so in the forest of ids. -/
theorem exists_startsSubject_iff (subject : String) (p : Nat) :
    (∃ message, (summaries.zip (Links.ofSummaries summaries).parents)[p]? = some message ∧
        startsSubject (baseSubject subject) message = true) ↔
      a.StartsSubject summaries subject p := by
  have hrecords := Links.records_ofSummaries hplaces hnodup
  constructor
  · rintro ⟨⟨m, parent⟩, hmessage, hstarts⟩
    obtain ⟨hm, hparent⟩ := List.getElem?_zip_eq_some.1 hmessage
    obtain ⟨before, hbefore, hnearest, -⟩ := Links.exists_parent_of_records hrecords hplaces hm
    obtain rfl : before = parent := Option.some.inj (hbefore.symm.trans hparent)
    simp only [startsSubject, Bool.and_eq_true, Option.isNone_iff_eq_none, Bool.not_eq_true', beq_iff_eq] at hstarts
    obtain ⟨⟨hnone, hreply⟩, hbase⟩ := hstarts
    refine ⟨m, hm, Classical.byContradiction fun horphan => ?_, hreply, hbase⟩
    obtain ⟨q, hq⟩ := Ancestry.exists_hasNearest horphan
    rw [hnearest q hq] at hnone
    cases hnone
  · rintro ⟨m, hm, horphan, hreply, hbase⟩
    obtain ⟨before, hbefore, -, hnone⟩ := Links.exists_parent_of_records hrecords hplaces hm
    refine ⟨(m, before), List.getElem?_zip_eq_some.2 ⟨hm, hbefore⟩, ?_⟩
    simp [startsSubject, hnone horphan, hreply, hbase]

theorem lookup_eq_some_iff (subject : String) (p : Nat) :
    (subjectRoots summaries (Links.ofSummaries summaries).parents).lookup (baseSubject subject) = some p ↔
      a.IsFirstOfSubject summaries subject p := by
  have hstarts := exists_startsSubject_iff hplaces hnodup subject
  rw [lookup_subjectRoots, List.findIdx?_eq_some_iff_getElem, Ancestry.IsFirstOfSubject, ← hstarts]
  constructor
  · rintro ⟨hp, hfound, hbefore⟩
    refine ⟨⟨_, List.getElem?_eq_getElem hp, hfound⟩, fun q hq hother => ?_⟩
    obtain ⟨message, hmessage, htest⟩ := (hstarts q).2 hother
    obtain ⟨hlt, rfl⟩ := List.getElem?_eq_some_iff.1 hmessage
    exact hbefore q hq htest
  · rintro ⟨⟨message, hmessage, htest⟩, hbefore⟩
    obtain ⟨hlt, rfl⟩ := List.getElem?_eq_some_iff.1 hmessage
    exact ⟨hlt, htest, fun q hq hother => hbefore q hq ((hstarts q).1 ⟨_, List.getElem?_eq_getElem _, hother⟩)⟩

theorem lookup_eq_none_iff (subject : String) :
    (subjectRoots summaries (Links.ofSummaries summaries).parents).lookup (baseSubject subject) = none ↔
      ∀ p, ¬ a.StartsSubject summaries subject p := by
  have hstarts := exists_startsSubject_iff hplaces hnodup subject
  rw [lookup_subjectRoots, List.findIdx?_eq_none_iff]
  constructor
  · intro hnone p hp
    obtain ⟨message, hmessage, htest⟩ := (hstarts p).2 hp
    rw [hnone message (List.mem_of_getElem? hmessage)] at htest
    cases htest
  · intro hnone message hmessage
    obtain ⟨p, hp⟩ := List.mem_iff_getElem?.1 hmessage
    exact Bool.eq_false_iff.2 fun htest => hnone p ((hstarts p).1 ⟨message, hp, htest⟩)

/-- **Threads are rebuilt from complete references.** Whichever messages of a forest of ids there are, in whatever order:
the parent of a message is the nearest message above it, and if there is none, but the message is a reply, the first
message that starts its subject. All other messages are without parent. -/
theorem rebuilds_ofSummaries {i : Nat} {s : Summary} (hs : summaries[i]? = some s) :
    (a.IsOrphan summaries s ∨ ∃ p, a.HasNearest summaries s p) ∧
    (∀ p, (ofSummaries summaries).parent? i = some p ↔
      a.HasNearest summaries s p ∨
        a.IsOrphan summaries s ∧ isReplySubject s.subject = true ∧ a.IsFirstOfSubject summaries s.subject p) ∧
    (i ∈ (ofSummaries summaries).roots ↔
      a.IsOrphan summaries s ∧ (isReplySubject s.subject = true → ∀ p, ¬ a.StartsSubject summaries s.subject p)) := by
  have hrecords := Links.records_ofSummaries hplaces hnodup
  obtain ⟨before, hbefore, hnearest, horphan⟩ := Links.exists_parent_of_records hrecords hplaces hs
  obtain ⟨hgrounded, -⟩ := grounded_ofSummaries summaries
  have hparent := parent?_ofSummaries hs hbefore
  have hsize : i < (ofSummaries summaries).size := by
    rw [← hgrounded.length, length_parentsOf]
    exact (List.getElem?_eq_some_iff.1 hs).1
  rw [hgrounded.mem_roots, hparent]
  by_cases hcase : a.IsOrphan summaries s
  · have hnone : ∀ p, ¬ a.HasNearest summaries s p := fun p hp => hp.not_isOrphan hcase
    rw [horphan hcase, adopt]
    by_cases hreply : isReplySubject s.subject = true
    · rw [if_pos hreply, lookup_eq_none_iff hplaces hnodup]
      refine ⟨.inl hcase, fun p => ?_, ?_⟩
      · rw [lookup_eq_some_iff hplaces hnodup]
        simp [hnone p, hcase, hreply]
      · simp [hsize, hcase, hreply]
    · rw [if_neg hreply]
      simp [hnone, hsize, hcase, hreply]
  · obtain ⟨q, hq⟩ := Ancestry.exists_hasNearest hcase
    rw [hnearest q hq, adopt]
    refine ⟨.inr ⟨q, hq⟩, fun p => ?_, by simp [hcase]⟩
    constructor
    · rintro hp
      rw [← Option.some.inj hp]
      exact .inl hq
    · rintro (hp | ⟨hno, -⟩)
      · rw [← hnearest q hq, hnearest p hp]
      · exact absurd hno hcase

end

/-- The answer to a message that is missing comes first, then a reply without references, then the message with which all
began. -/
theorem rebuilds_ofSummaries_backwards :
    let a := Ancestry.line ["a@x", "b@x", "c@x"] (by decide)
    let summaries : List Summary :=
      [{ Summary.ofUid "1" with
          messageId := "c@x", references := ["a@x", "b@x"], inReplyTo := some "b@x", subject := "No" },
        { Summary.ofUid "2" with messageId := "d@x", subject := "Re: Plan" },
        { Summary.ofUid "3" with messageId := "a@x", subject := "Plan" }]
    ((∀ s ∈ summaries, a.Places s) ∧ (summaries.map (·.messageId)).Nodup) ∧
      (ofSummaries summaries).parent? 0 = some 2 ∧ (ofSummaries summaries).parent? 1 = some 2 ∧
      2 ∈ (ofSummaries summaries).roots := by
  intro a summaries
  have hplaces : ∀ s ∈ summaries, a.Places s := by
    have hids : ∀ s ∈ summaries, ∀ id ∈ s.messageId :: a.above s.messageId, id ≠ "" ∧ normalizeId id = id := by
      decide +kernel
    have hreferences : ∀ s ∈ summaries, s.references = a.above s.messageId := by decide
    have hanswers : ∀ s ∈ summaries, s.inReplyTo = none ∨ s.inReplyTo = a.parent? s.messageId := by decide
    have hdepth : ∀ s ∈ summaries, (a.above s.messageId).length ≤ 100 := by decide
    exact fun s hs => ⟨hids s hs, hreferences s hs, hanswers s hs, hdepth s hs⟩
  have hnodup : (summaries.map (·.messageId)).Nodup := by decide
  have hreply : summaries[1]? = some summaries[1] := rfl
  have hroot : summaries[2]? = some summaries[2] := rfl
  have hfirst : a.IsFirstOfSubject summaries summaries[1].subject 2 := by
    refine ⟨⟨summaries[2], rfl, by decide, by decide +kernel, by decide +kernel⟩, fun q hq => ?_⟩
    rintro ⟨m, hm, horphan, hreply, -⟩
    obtain rfl | rfl : q = 0 ∨ q = 1 := by omega
    · obtain rfl : summaries[0] = m := Option.some.inj hm
      exact absurd horphan (by decide)
    · obtain rfl : summaries[1] = m := Option.some.inj hm
      exact absurd hreply (by decide +kernel)
  have hnearest : a.HasNearest summaries summaries[0] 2 :=
    ⟨summaries[2], [], ["b@x"], rfl, by decide, by decide⟩
  refine ⟨⟨hplaces, hnodup⟩, ?_, ?_, ?_⟩
  · exact ((rebuilds_ofSummaries hplaces hnodup rfl).2.1 2).2 (.inl hnearest)
  · exact ((rebuilds_ofSummaries hplaces hnodup hreply).2.1 2).2 (.inr ⟨by decide, by decide +kernel, hfirst⟩)
  · exact (rebuilds_ofSummaries hplaces hnodup hroot).2.2.2 ⟨by decide, fun h => absurd h (by decide +kernel)⟩

end Forest

end MailQuery.Search
