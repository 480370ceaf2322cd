import MailQuery.Proofs.Threads.Forest

/-!
# What an expansion brings in

An expansion starts at the messages of a set, its seeds, and walks through their threads. The three relations between
messages that matter are stated by uids, without any walk: one message is below another (`Forest.Descends`), two messages
have a message without parent above both of them (`Forest.ShareRoot`), and a message has neither parent nor child
(`Forest.Solitary`).

- `Expansion.mem_expand`: an expansion adds what is related to some seed, seed by seed.
- `Forest.Grounded.mem_relatedUids_all` and its companions: the walk of each expansion finds exactly the messages in its
  relation.
- `Expansion.closures_ofSummaries`: each expansion is the closure of the seeds under its relation. One is contained in the
  next, and what is closed does not grow any more.
-/

namespace MailQuery.Search

open Mail Relation

namespace Forest

/-- The message of one uid is below that of another, or the same. -/
def Descends (f : Forest) (uid above : String) : Prop :=
  ∃ i j, f.uid? i = some uid ∧ f.uid? j = some above ∧ f.Below i j

/-- The messages of two uids are in one thread: a message without parent is above both, or one of them. -/
def ShareRoot (f : Forest) (uid other : String) : Prop :=
  ∃ i j r, f.uid? i = some uid ∧ f.uid? j = some other ∧ f.parent? r = none ∧ f.Below i r ∧ f.Below j r

/-- The message of a uid has neither parent nor child. -/
def Solitary (f : Forest) (uid : String) : Prop :=
  ∃ i, f.uid? i = some uid ∧ f.parent? i = none ∧ ∀ c, f.parent? c ≠ some i

theorem lt_size_of_uid? {f : Forest} {i : Nat} {uid : String} (h : f.uid? i = some uid) : i < f.size := by
  obtain ⟨n, hn, -⟩ := Option.map_eq_some_iff.1 h
  exact (List.getElem?_eq_some_iff.1 hn).1

namespace Grounded

variable {f : Forest} {parents : List (Option Nat)} (h : f.Grounded parents)

include h

/-! ### Ways that meet -/

/-- Above a message there is one message without parent. -/
theorem root_unique {i r s : Nat} (hr : f.parent? r = none) (hs : f.parent? s = none) (hir : f.Below i r)
    (his : f.Below i s) : r = s := by
  by_contra hne
  exact h.unrelated_of_parent?_eq (hr.trans hs.symm) hne hir his

theorem eq_root {i r : Nat} (hi : i < f.size) (hr : f.parent? r = none) (hir : f.Below i r) : r = f.root i :=
  h.root_unique hr (h.mem_roots.1 (h.root_mem_roots hi)).2 hir (h.below_root hi)

/-- A message is alone if nothing is linked to it from above or below. -/
theorem isAlone_iff {i : Nat} : f.isAlone i = true ↔ f.parent? i = none ∧ ∀ c, f.parent? c ≠ some i := by
  have hchildren := h.links.children i
  have hfirst : f.firstChild? i = none ↔ ∀ c, f.parent? c ≠ some i := by
    constructor
    · intro hnone c hc
      have hmem : c ∈ placesOf parents (some i) := mem_placesOf.2 (h.hasParent_iff.2 hc)
      rw [hnone] at hchildren
      generalize placesOf parents (some i) = children at hchildren hmem
      cases hchildren
      cases hmem
    · intro hnone
      cases hfirst : f.firstChild? i with
      | none => rfl
      | some c =>
        -- the first child is one of the children
        have hmem : c ∈ placesOf parents (some i) := mem_of_follows hchildren hfirst .refl
        exact absurd (h.hasParent_iff.1 (mem_placesOf.1 hmem)) (hnone c)
  rw [isAlone, Bool.and_eq_true, Option.isNone_iff_eq_none, Option.isNone_iff_eq_none, hfirst]

section

variable (hnodup : (f.nodes.map (·.uid)).Nodup)

include hnodup

omit h in
/-- A uid is looked up at the place of its message. -/
theorem find?_eq_some_iff {uid : String} {i : Nat} : f.find? uid = some i ↔ f.uid? i = some uid := by
  rw [find?, List.findIdx?_eq_some_iff_getElem, uid?, Option.map_eq_some_iff]
  constructor
  · rintro ⟨hi, huid, -⟩
    exact ⟨f.nodes[i], List.getElem?_eq_getElem hi, by simpa using huid⟩
  · rintro ⟨n, hn, rfl⟩
    obtain ⟨hi, rfl⟩ := List.getElem?_eq_some_iff.1 hn
    refine ⟨hi, by simp, fun j hj hsame => ?_⟩
    -- no earlier message has the same uid
    have hj' : j < f.nodes.length := Nat.lt_trans hj hi
    have heq : (f.nodes.map (·.uid))[j]? = (f.nodes.map (·.uid))[i]? := by
      simpa [hi, hj'] using hsame
    exact Nat.ne_of_lt hj ((List.getElem?_inj (by simpa using hj') hnodup).1 heq)

omit h in
theorem place_unique {uid : String} {i j : Nat} (hi : f.uid? i = some uid) (hj : f.uid? j = some uid) : i = j :=
  Option.some.inj (((find?_eq_some_iff hnodup).2 hi).symm.trans ((find?_eq_some_iff hnodup).2 hj))

omit h in
/-- A seed brings in the messages to which the walk from its place leads. -/
theorem mem_relatedUids {e : Expansion} {seed uid : String} :
    uid ∈ e.relatedUids f seed ↔ ∃ i j, f.uid? i = some seed ∧ f.uid? j = some uid ∧ j ∈ e.related f i := by
  rw [Expansion.relatedUids]
  cases hfind : f.find? seed with
  | none =>
    have hnone : ∀ i, f.uid? i ≠ some seed := fun i hi => by
      rw [(find?_eq_some_iff hnodup).2 hi] at hfind
      cases hfind
    simp [hnone]
  | some i =>
    have hi := (find?_eq_some_iff hnodup).1 hfind
    rw [List.mem_filterMap]
    constructor
    · rintro ⟨j, hj, huid⟩
      exact ⟨i, j, hi, huid, hj⟩
    · rintro ⟨k, j, hk, huid, hj⟩
      rw [place_unique hnodup hk hi] at hj
      exact ⟨j, hj, huid⟩

/-! ### The walks -/

theorem mem_relatedUids_replies {seed uid : String} :
    uid ∈ Expansion.replies.relatedUids f seed ↔ f.Descends uid seed := by
  rw [mem_relatedUids hnodup]
  constructor
  · rintro ⟨i, j, hi, hj, hmem⟩
    exact ⟨j, i, hj, hi, (h.mem_subtree (lt_size_of_uid? hi)).1 hmem⟩
  · rintro ⟨j, i, hj, hi, hbelow⟩
    exact ⟨i, j, hi, hj, (h.mem_subtree (lt_size_of_uid? hi)).2 hbelow⟩

theorem mem_relatedUids_repliesAndParents {seed uid : String} :
    uid ∈ Expansion.repliesAndParents.relatedUids f seed ↔ f.Descends uid seed ∨ f.Descends seed uid := by
  have hmem : ∀ {i j}, i < f.size →
      (j ∈ Expansion.repliesAndParents.related f i ↔ f.Below i j ∨ f.Below j i) := by
    intro i j hi
    rw [Expansion.related, List.mem_append, h.mem_lineage hi, h.mem_subtree hi]
  rw [mem_relatedUids hnodup]
  constructor
  · rintro ⟨i, j, hi, hj, hrelated⟩
    rcases (hmem (lt_size_of_uid? hi)).1 hrelated with habove | hbelow
    · exact .inr ⟨i, j, hi, hj, habove⟩
    · exact .inl ⟨j, i, hj, hi, hbelow⟩
  · rintro (⟨j, i, hj, hi, hbelow⟩ | ⟨i, j, hi, hj, habove⟩)
    · exact ⟨i, j, hi, hj, (hmem (lt_size_of_uid? hi)).2 (.inr hbelow)⟩
    · exact ⟨i, j, hi, hj, (hmem (lt_size_of_uid? hi)).2 (.inl habove)⟩

theorem mem_relatedUids_all {seed uid : String} :
    uid ∈ Expansion.all.relatedUids f seed ↔ f.ShareRoot uid seed := by
  have hroot : ∀ {i}, i < f.size → f.root i < f.size ∧ f.parent? (f.root i) = none := fun hi =>
    h.mem_roots.1 (h.root_mem_roots hi)
  rw [mem_relatedUids hnodup]
  constructor
  · rintro ⟨i, j, hi, hj, hmem⟩
    have hlt := lt_size_of_uid? hi
    exact ⟨j, i, f.root i, hj, hi, (hroot hlt).2, (h.mem_subtree (hroot hlt).1).1 hmem, h.below_root hlt⟩
  · rintro ⟨j, i, r, hj, hi, hr, hjr, hir⟩
    have hlt := lt_size_of_uid? hi
    rw [h.eq_root hlt hr hir] at hjr
    exact ⟨i, j, hi, hj, (h.mem_subtree (hroot hlt).1).2 hjr⟩

theorem mem_relatedUids_single {seed uid : String} :
    uid ∈ Expansion.single.relatedUids f seed ↔ uid = seed ∧ f.Solitary uid := by
  have hmem : ∀ {i j}, j ∈ Expansion.single.related f i ↔ j = i ∧ f.isAlone i = true := by
    intro i j
    rw [Expansion.related]
    by_cases halone : f.isAlone i = true
    · simp [halone]
    · simp [halone]
  rw [mem_relatedUids hnodup]
  constructor
  · rintro ⟨i, j, hi, hj, hrelated⟩
    obtain ⟨rfl, halone⟩ := hmem.1 hrelated
    exact ⟨Option.some.inj (hj.symm.trans hi), j, hj, h.isAlone_iff.1 halone⟩
  · rintro ⟨rfl, i, hi, halone⟩
    exact ⟨i, i, hi, hi, hmem.2 ⟨rfl, h.isAlone_iff.2 halone⟩⟩

/-! ### The relations -/

omit h in
theorem descends_trans {a b c : String} (hab : f.Descends a b) (hbc : f.Descends b c) : f.Descends a c := by
  obtain ⟨i, j, hi, hj, hij⟩ := hab
  obtain ⟨j', k, hj', hk, hjk⟩ := hbc
  obtain rfl := place_unique hnodup hj hj'
  exact ⟨i, k, hi, hk, hij.trans hjk⟩

theorem shareRoot_trans {a b c : String} (hab : f.ShareRoot a b) (hbc : f.ShareRoot b c) : f.ShareRoot a c := by
  obtain ⟨i, j, r, hi, hj, hr, hir, hjr⟩ := hab
  obtain ⟨j', k, s, hj', hk, hs, hjs, hks⟩ := hbc
  obtain rfl := place_unique hnodup hj hj'
  obtain rfl := h.root_unique hr hs hjr hjs
  exact ⟨i, k, r, hi, hk, hr, hir, hks⟩

end

theorem shareRoot_of_descends {a b : String} (hab : f.Descends a b) : f.ShareRoot a b ∧ f.ShareRoot b a := by
  obtain ⟨i, j, hi, hj, hij⟩ := hab
  have hlt := lt_size_of_uid? hj
  have hroot := (h.mem_roots.1 (h.root_mem_roots hlt)).2
  have hjr := h.below_root hlt
  exact ⟨⟨i, j, _, hi, hj, hroot, hij.trans hjr, hjr⟩, ⟨j, i, _, hj, hi, hroot, hjr, hij.trans hjr⟩⟩

end Grounded

end Forest

namespace Expansion

theorem mem_expand {e : Expansion} {f : Forest} {seeds : UidSet} {uid : String} :
    uid ∈ e.expand f seeds ↔ (e ≠ single ∧ uid ∈ seeds) ∨ ∃ seed ∈ seeds, uid ∈ e.relatedUids f seed := by
  rw [expand, TextSet.mem_insertAll, List.mem_flatMap, or_comm]
  refine or_congr ?_ Iff.rfl
  by_cases hsingle : e = single
  · simp [hsingle]
  · simp [hsingle]

theorem expand_none (f : Forest) (seeds : UidSet) : none.expand f seeds = seeds := by
  refine TextSet.ext fun uid => ?_
  have hnothing : ∀ seed, uid ∉ none.relatedUids f seed := by
    intro seed
    rw [relatedUids]
    split
    · exact List.not_mem_nil
    · exact List.not_mem_nil
  rw [mem_expand]
  simp [hnothing]

/-- What the expansions of a set of seeds are, by their names. Seeds that no message has stay in the set and bring in
nothing. -/
structure Closures (f : Forest) (seeds : UidSet) : Prop where
  replies : ∀ uid, uid ∈ (ofName "replies").expand f seeds ↔ uid ∈ seeds ∨ ∃ seed ∈ seeds, f.Descends uid seed
  repliesAndParents : ∀ uid, uid ∈ (ofName "replies_parents").expand f seeds ↔
    uid ∈ (ofName "replies").expand f seeds ∨ ∃ seed ∈ seeds, f.Descends seed uid
  all : ∀ uid, uid ∈ (ofName "all").expand f seeds ↔ uid ∈ seeds ∨ ∃ seed ∈ seeds, f.ShareRoot uid seed
  single : ∀ uid, uid ∈ (ofName "single").expand f seeds ↔ uid ∈ seeds ∧ f.Solitary uid
  /-- `none` and all other names change nothing. -/
  none : ∀ name, name ∉ ["all", "replies", "replies_parents", "single"] → (ofName name).expand f seeds = seeds
  /-- Each of these expansions is contained in the next one. -/
  chain : ["single", "none", "replies", "replies_parents", "all"].IsChain fun smaller larger =>
    ∀ uid ∈ (ofName smaller).expand f seeds, uid ∈ (ofName larger).expand f seeds
  /-- Whole threads and all that is below are complete after one expansion. -/
  idempotent : ∀ name ∈ ["all", "replies"],
    (ofName name).expand f ((ofName name).expand f seeds) = (ofName name).expand f seeds

section

variable {f : Forest} {parents : List (Option Nat)} (h : f.Grounded parents)
  (hnodup : (f.nodes.map (·.uid)).Nodup) {seeds : UidSet} {uid : String}

include h hnodup

theorem mem_expand_replies :
    uid ∈ replies.expand f seeds ↔ uid ∈ seeds ∨ ∃ seed ∈ seeds, f.Descends uid seed := by
  simp [mem_expand, h.mem_relatedUids_replies hnodup]

theorem mem_expand_repliesAndParents :
    uid ∈ repliesAndParents.expand f seeds ↔ uid ∈ replies.expand f seeds ∨ ∃ seed ∈ seeds, f.Descends seed uid := by
  rw [mem_expand_replies h hnodup, or_assoc, ← exists_or]
  simp [mem_expand, h.mem_relatedUids_repliesAndParents hnodup, and_or_left]

theorem mem_expand_all :
    uid ∈ all.expand f seeds ↔ uid ∈ seeds ∨ ∃ seed ∈ seeds, f.ShareRoot uid seed := by
  simp [mem_expand, h.mem_relatedUids_all hnodup]

theorem mem_expand_single : uid ∈ single.expand f seeds ↔ uid ∈ seeds ∧ f.Solitary uid := by
  rw [mem_expand]
  constructor
  · rintro (⟨hne, -⟩ | ⟨seed, hseed, hrelated⟩)
    · exact absurd rfl hne
    · obtain ⟨rfl, halone⟩ := (h.mem_relatedUids_single hnodup).1 hrelated
      exact ⟨hseed, halone⟩
  · rintro ⟨hseed, halone⟩
    exact .inr ⟨uid, hseed, (h.mem_relatedUids_single hnodup).2 ⟨rfl, halone⟩⟩

/-- What is above or below a seed is in its thread. -/
theorem mem_expand_all_of_repliesAndParents (hmem : uid ∈ repliesAndParents.expand f seeds) :
    uid ∈ all.expand f seeds := by
  rw [mem_expand_repliesAndParents h hnodup, mem_expand_replies h hnodup] at hmem
  rw [mem_expand_all h hnodup]
  rcases hmem with (hseed | ⟨seed, hseed, hbelow⟩) | ⟨seed, hseed, habove⟩
  · exact .inl hseed
  · exact .inr ⟨seed, hseed, (h.shareRoot_of_descends hbelow).1⟩
  · exact .inr ⟨seed, hseed, (h.shareRoot_of_descends habove).2⟩

theorem expand_all_expand_all : all.expand f (all.expand f seeds) = all.expand f seeds := by
  refine TextSet.ext fun uid => ?_
  rw [mem_expand_all h hnodup]
  constructor
  · rintro (hmem | ⟨other, hother, hshare⟩)
    · exact hmem
    · rw [mem_expand_all h hnodup] at hother ⊢
      rcases hother with hseed | ⟨seed, hseed, hroot⟩
      · exact .inr ⟨other, hseed, hshare⟩
      · exact .inr ⟨seed, hseed, h.shareRoot_trans hnodup hshare hroot⟩
  · exact .inl

theorem expand_replies_expand_replies : replies.expand f (replies.expand f seeds) = replies.expand f seeds := by
  refine TextSet.ext fun uid => ?_
  rw [mem_expand_replies h hnodup]
  constructor
  · rintro (hmem | ⟨other, hother, hbelow⟩)
    · exact hmem
    · rw [mem_expand_replies h hnodup] at hother ⊢
      rcases hother with hseed | ⟨seed, hseed, habove⟩
      · exact .inr ⟨other, hseed, hbelow⟩
      · exact .inr ⟨seed, hseed, Forest.Grounded.descends_trans hnodup hbelow habove⟩
  · exact .inl

end

/-- **Expansions are closures.** For the threads of every list of messages with distinct uids and for every set of seeds. -/
theorem closures_ofSummaries {summaries : List Summary} (hnodup : (summaries.map (·.uid)).Nodup) (seeds : UidSet) :
    Closures (Forest.ofSummaries summaries) seeds := by
  obtain ⟨hgrounded, huids⟩ := Forest.grounded_ofSummaries summaries
  rw [← huids] at hnodup
  have hnone : ∀ name, name ∉ ["all", "replies", "replies_parents", "single"] → ofName name = none := by
    intro name hname
    simp only [List.mem_cons, List.not_mem_nil, or_false, not_or] at hname
    obtain ⟨hall, hreplies, hparents, hsingle⟩ := hname
    rw [ofName, if_neg hall, if_neg hreplies, if_neg hparents, if_neg hsingle]
  refine ⟨fun uid => mem_expand_replies hgrounded hnodup, fun uid => mem_expand_repliesAndParents hgrounded hnodup,
    fun uid => mem_expand_all hgrounded hnodup, fun uid => mem_expand_single hgrounded hnodup,
    fun name hname => ?_, ?_, ?_⟩
  · rw [hnone name hname, expand_none]
  · have hempty : (ofName "none").expand (Forest.ofSummaries summaries) seeds = seeds := by
      rw [hnone "none" (by decide), expand_none]
    refine .cons_cons ?_ (.cons_cons ?_ (.cons_cons ?_ (.cons_cons ?_ (.singleton _))))
    · intro uid hmem
      rw [hempty]
      exact ((mem_expand_single hgrounded hnodup).1 hmem).1
    · intro uid hmem
      rw [hempty] at hmem
      exact (mem_expand_replies hgrounded hnodup).2 (.inl hmem)
    · exact fun uid hmem => (mem_expand_repliesAndParents hgrounded hnodup).2 (.inl hmem)
    · exact fun uid hmem => mem_expand_all_of_repliesAndParents hgrounded hnodup hmem
  · intro name hname
    simp only [List.mem_cons, List.not_mem_nil, or_false] at hname
    rcases hname with rfl | rfl
    · exact expand_all_expand_all hgrounded hnodup
    · exact expand_replies_expand_replies hgrounded hnodup

/-- A thread with two branches, a message alone, and a seed that is no message. -/
theorem closures_ofSummaries_branches :
    let summaries : List Summary :=
      [{ Summary.ofUid "1" with messageId := "a@x", subject := "Plan" },
        { Summary.ofUid "2" with messageId := "b@x", references := ["a@x"], subject := "Re: Plan" },
        { Summary.ofUid "3" with messageId := "c@x", references := ["a@x", "b@x"], subject := "Re: Plan" },
        { Summary.ofUid "4" with messageId := "d@x", inReplyTo := some "a@x", subject := "Re: Plan" },
        { Summary.ofUid "5" with messageId := "e@x", subject := "Lunch" }]
    let f := Forest.ofSummaries summaries
    let seeds := TextSet.ofList ["2", "5", "zz"]
    (summaries.map (·.uid)).Nodup ∧ Closures f seeds ∧
      ["single", "replies", "replies_parents", "all"].map (fun name => ((ofName name).expand f seeds).toList) =
        [["5"], ["2", "3", "5", "zz"], ["1", "2", "3", "5", "zz"], ["1", "2", "3", "4", "5", "zz"]] := by
  intro summaries f seeds
  have hnodup : (summaries.map (·.uid)).Nodup := by decide
  exact ⟨hnodup, closures_ofSummaries hnodup seeds, by decide +kernel⟩

end Expansion

end MailQuery.Search
