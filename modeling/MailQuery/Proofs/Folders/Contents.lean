import MailQuery.Folder.Basic

/-!
# What a folder gives for a message

`Folder.content` is the answer that a folder owes for a uid: the message read from the source, or that it
cannot be had. It does not depend on the cache. `Folder.Faithful` says that the cache holds nothing else, and
every operation keeps that; so `fetch` answers with the content (`fetch_eq_content`), and a computation that
reads messages has the result that it has on the content (`runOn_eq_run`).
-/

namespace MailQuery

open Mail Search

namespace Cache

variable {c : Cache} {uid u : String} {m n : Message}

theorem lookup_of_lookup_take {es : List (String × Message)} {count : Nat}
    (h : (es.take count).lookup u = some m) : es.lookup u = some m := by
  induction es generalizing count with
  | nil => simp at h
  | cons e es ih =>
    cases count with
    | zero => cases h
    | succ count =>
      rw [List.take_succ_cons, SortedMap.lookup_cons_eq_if] at h
      rw [SortedMap.lookup_cons_eq_if]
      split
      · next hu => rwa [if_pos hu] at h
      · next hu =>
        rw [if_neg hu] at h
        exact ih h

theorem lookup_filter_ne {es : List (String × Message)} :
    (es.filter (·.1 != uid)).lookup u = if u = uid then none else es.lookup u := by
  induction es with
  | nil => simp
  | cons e es ih =>
    rw [List.filter_cons]
    by_cases he : e.1 = uid
    · rw [if_neg (by simpa using he), ih, SortedMap.lookup_cons_eq_if, ← he]
      split
      · rfl
      · rfl
    · rw [if_pos (by simpa using he), SortedMap.lookup_cons_eq_if, SortedMap.lookup_cons_eq_if, ih]
      by_cases hu : u = e.1
      · rw [if_pos hu, if_pos hu, if_neg (by rwa [hu])]
      · rw [if_neg hu, if_neg hu]

theorem find?_erase : (c.erase uid).find? u = if u = uid then none else c.find? u := lookup_filter_ne

/-- A cache that is used holds the message and what it held before, or less. -/
theorem find?_of_find?_use (h : (c.use uid m).find? u = some n) :
    (u = uid ∧ n = m) ∨ c.find? u = some n := by
  have h := lookup_of_lookup_take h
  rw [SortedMap.lookup_cons_eq_if] at h
  by_cases hu : u = uid
  · rw [if_pos hu] at h
    exact .inl ⟨hu, (Option.some.inj h).symm⟩
  · rw [if_neg hu] at h
    have herase : (c.erase uid).find? u = some n := h
    rw [find?_erase, if_neg hu] at herase
    exact .inr herase

end Cache

namespace Folder

/-- What a folder gives for a uid. -/
def content (f : Folder) (uid : String) : Except SearchError Message :=
  if f.dropped.contains uid then .error (.unavailable uid)
  else
    match f.summary? uid with
    | none => .error (.unavailable uid)
    | some s =>
      match f.source.read s with
      | .error e => .error e
      | .ok raw => .ok (Message.ofRaw raw)

/-- The cache holds nothing but the contents of the folder. -/
def Faithful (f : Folder) : Prop := ∀ uid m, f.cache.find? uid = some m → f.content uid = .ok m

variable {f : Folder} {uid : String} {m : Message}

theorem isSome_summary?_iff : (f.summary? uid).isSome = true ↔ uid ∈ f.uids := by
  show (f.catalog.summaries.reverse.find? (·.uid == uid)).isSome = true ↔ uid ∈ f.catalog.summaries.map (·.uid)
  rw [List.find?_isSome, List.mem_map]
  constructor
  · rintro ⟨m, hm, huid⟩
    exact ⟨m, List.mem_reverse.1 hm, by simpa using huid⟩
  · rintro ⟨m, hm, rfl⟩
    exact ⟨m, List.mem_reverse.2 hm, beq_self_eq_true _⟩

theorem mem_uids_of_content (h : f.content uid = .ok m) : uid ∈ f.uids := by
  rw [content] at h
  split at h
  · cases h
  · rw [← isSome_summary?_iff]
    cases hs : f.summary? uid with
    | none =>
      rw [hs] at h
      cases h
    | some s => rfl

/-! ### Fetching -/

/-- Only the cache changes when a message is fetched. -/
theorem exists_cache_of_fetch (f : Folder) (uid : String) :
    ∃ cache, (f.fetch uid).2 = { f with cache } := by
  rw [fetch]
  split
  · exact ⟨f.cache, rfl⟩
  · split
    · exact ⟨_, rfl⟩
    · split
      · exact ⟨f.cache, rfl⟩
      · split
        · exact ⟨f.cache, rfl⟩
        · exact ⟨_, rfl⟩

theorem content_fetch (f : Folder) (uid : String) : (f.fetch uid).2.content = f.content := by
  obtain ⟨cache, hcache⟩ := exists_cache_of_fetch f uid
  rw [hcache]
  rfl

theorem Faithful.use (h : f.Faithful) (hcontent : f.content uid = .ok m) :
    Faithful { f with cache := f.cache.use uid m } := by
  intro u n hn
  rcases Cache.find?_of_find?_use hn with ⟨rfl, rfl⟩ | hn
  · exact hcontent
  · exact h u n hn

/-- **A fetch answers with the content**, whatever was fetched before, and leaves a faithful cache. -/
theorem fetch_eq_content (h : f.Faithful) (uid : String) :
    (f.fetch uid).1 = f.content uid ∧ (f.fetch uid).2.Faithful := by
  rw [fetch]
  -- The cases are those of fetching: dropped, in the cache, unknown, unreadable, and read anew.
  split
  · next hdropped => exact ⟨by rw [content, if_pos hdropped], h⟩
  · next hdropped =>
    split
    · next m hm => exact ⟨(h uid m hm).symm, h.use (h uid m hm)⟩
    · split
      · next hs => exact ⟨by simp only [content, if_neg hdropped, hs], h⟩
      · next s hs =>
        split
        · next e he => exact ⟨by simp only [content, if_neg hdropped, hs, he], h⟩
        · next raw hraw =>
          have hcontent : f.content uid = .ok (Message.ofRaw raw) := by
            simp only [content, if_neg hdropped, hs, hraw]
          exact ⟨hcontent.symm, h.use hcontent⟩

/-- **A computation that reads messages has the result that it has on the contents**, and only the cache
changes. -/
theorem runOn_eq_run {α : Type} (x : Reading α) (h : f.Faithful) :
    (x.runOn fetch f).1 = x.run f.content := by
  induction x generalizing f with
  | done => rfl
  | read uid next ih =>
    obtain ⟨hanswer, hfaithful⟩ := fetch_eq_content h uid
    have hcontent := content_fetch f uid
    rw [Reading.runOn, Reading.run]
    cases hfetch : f.fetch uid with
    | mk answer g =>
      rw [hfetch] at hanswer hfaithful hcontent
      rw [← hanswer]
      cases hoptional : Reading.optional answer with
      | error e => simp [hoptional]
      | ok m? => simpa [hoptional, ← hcontent] using ih m? hfaithful

/-- What a fetch keeps, a computation that reads messages keeps. -/
theorem runOn_induction {P : Folder → Prop} (hfetch : ∀ f uid, P f → P (f.fetch uid).2) {α : Type}
    (x : Reading α) (h : P f) : P (x.runOn fetch f).2 := by
  induction x generalizing f with
  | done => exact h
  | read uid next ih =>
    have hnext := hfetch f uid h
    rw [Reading.runOn]
    cases hanswer : f.fetch uid with
    | mk answer g =>
      rw [hanswer] at hnext
      cases hoptional : Reading.optional answer with
      | error e => simpa [hoptional] using hnext
      | ok m? => simpa [hoptional] using ih m? hnext

end Folder

end MailQuery
