import MailQuery.Folder.Session
import MailQuery.Proofs.Folders.Contents
import MailQuery.Proofs.WordIndex.Lookup

/-!
# Folders of raw messages

`Folder.InMemory` holds of a folder that was made from raw messages, after any operations on it. In all these
states the cache is faithful (`InMemory.sound`), and a message that has no content is one that cannot be had
(`Sound.optional_content`).

An index that is built lists each message under the words of its content (`lists_buildWordIndex`).
-/

namespace MailQuery

open Mail Search

/-- An index lists each message under the words of its content, and nothing else. -/
def Search.WordIndex.Lists (index : WordIndex) (content : String → Except SearchError Message) : Prop :=
  ∀ w uid, uid ∈ index.postings w ↔
    ∃ m, content uid = .ok m ∧ w ∈ WordIndex.bodyWords m.bodyText

namespace Folder

/-! ### What operations do to contents -/

variable {f : Folder}

theorem map_changeLast {β : Type} {key : Summary → β} {uid : String} {change : Summary → Summary}
    (hkey : ∀ s, key (change s) = key s) {summaries changed : List Summary}
    (h : changeLast uid change summaries = some changed) : changed.map key = summaries.map key := by
  induction summaries generalizing changed with
  | nil => cases h
  | cons s rest ih =>
    rw [changeLast] at h
    -- The last summary with the uid is changed, so that the rest of the list is tried first.
    split at h
    · next rest' hrest =>
      cases h
      rw [List.map_cons, List.map_cons, ih hrest]
    · split at h
      · cases h
        rw [List.map_cons, List.map_cons, hkey]
      · cases h

/-- What of a summary decides on the raw message. -/
def locator (s : Summary) : String × Option Span := (s.uid, s.span)

theorem read_eq_of_locator {s t : Summary} (h : locator s = locator t) (source : Source) :
    source.read s = source.read t := by
  obtain ⟨huid, hspan⟩ := Prod.ext_iff.1 h
  have huid : s.uid = t.uid := huid
  have hspan : s.span = t.span := hspan
  cases source with
  | memory raws => simp only [Source.read, huid]
  | mailbox file => simp only [Source.read, huid, hspan]

/-- A change that keeps uids and spans changes no content. -/
theorem content_change {change : Summary → Summary} (hkey : ∀ s, locator (change s) = locator s)
    (f : Folder) (uid : String) : (f.change uid change).content = f.content := by
  rw [Folder.change]
  split
  · next changed hchanged =>
    have hmap := map_changeLast hkey hchanged
    funext u
    have hfind : ∀ summaries : List Summary, (summaries.reverse.find? (·.uid == u)).map locator =
        (summaries.map locator).reverse.find? (·.1 == u) := fun summaries => by
      rw [← List.map_reverse, List.find?_map]
      rfl
    have hlocator : (changed.reverse.find? (·.uid == u)).map locator =
        (f.catalog.summaries.reverse.find? (·.uid == u)).map locator := by
      rw [hfind, hfind, hmap]
    simp only [content, summary?, Catalog.find?]
    cases hnew : changed.reverse.find? (·.uid == u) with
    | none =>
      rw [hnew, Option.map_none] at hlocator
      rw [Option.map_eq_none_iff.1 hlocator.symm]
    | some s =>
      rw [hnew, Option.map_some] at hlocator
      obtain ⟨t, ht, hst⟩ := Option.map_eq_some_iff.1 hlocator.symm
      simp only [ht, read_eq_of_locator hst.symm]
  · rfl

theorem Faithful.change (h : f.Faithful) {change : Summary → Summary}
    (hkey : ∀ s, locator (change s) = locator s) (uid : String) : (f.change uid change).Faithful := by
  intro u m hm
  rw [content_change hkey]
  refine h u m ?_
  rw [← hm, Folder.change]
  split <;> rfl

/-- A message that was dropped cannot be had any more, and all others can as before. -/
theorem content_dropContent (f : Folder) (uid u : String) :
    (f.dropContent uid).content u = if u = uid then .error (.unavailable u) else f.content u := by
  have hdropped : ((f.dropContent uid).dropped.contains u = true) ↔
      (u = uid ∨ f.dropped.contains u = true) := by
    rw [dropContent, TextSet.contains_iff, TextSet.mem_insert, TextSet.contains_iff]
  rw [content]
  by_cases hu : u = uid
  · rw [if_pos (hdropped.2 (.inl hu)), if_pos hu]
  · rw [if_neg hu, content]
    by_cases hd : f.dropped.contains u = true
    · rw [if_pos (hdropped.2 (.inr hd)), if_pos hd]
    · rw [if_neg fun h => (hdropped.1 h).elim hu hd, if_neg hd]
      rfl

theorem Faithful.dropContent (h : f.Faithful) (uid : String) : (f.dropContent uid).Faithful := by
  intro u m hm
  have herase : (f.cache.erase uid).find? u = some m := hm
  rw [Cache.find?_erase] at herase
  by_cases hu : u = uid
  · rw [if_pos hu] at herase
    cases herase
  · rw [if_neg hu] at herase
    rw [content_dropContent, if_neg hu]
    exact h u m herase

/-! ### Building an index -/

/-- Reading all bodies keeps the contents, and lists each message under the words of its content. -/
theorem indexBodies_spec (h : f.Faithful) (index : WordIndex) (uids : List String) :
    (indexBodies index f uids).2.Faithful ∧ (indexBodies index f uids).2.content = f.content ∧
      ∀ w u, u ∈ (indexBodies index f uids).1.postings w ↔ u ∈ index.postings w ∨
        (u ∈ uids ∧ ∃ m, f.content u = .ok m ∧ w ∈ WordIndex.bodyWords m.bodyText) := by
  induction uids generalizing f index with
  | nil => exact ⟨h, rfl, fun w u => by simp [indexBodies]⟩
  | cons uid rest ih =>
    obtain ⟨hanswer, hfaithful⟩ := fetch_eq_content h uid
    have hcontent := content_fetch f uid
    rw [indexBodies]
    cases hfetch : f.fetch uid with
    | mk answer g =>
      rw [hfetch] at hanswer hfaithful hcontent
      -- A message that cannot be read is skipped. It has no content, so that nothing is owed for it.
      cases answer with
      | error e =>
        obtain ⟨hrest, hsame, hmem⟩ := ih hfaithful index
        refine ⟨hrest, hsame.trans hcontent, fun w u => ?_⟩
        have hcontent : g.content = f.content := hcontent
        simp only [hmem, hcontent, List.mem_cons]
        constructor
        · rintro (hu | ⟨hu, hm⟩)
          · exact .inl hu
          · exact .inr ⟨.inr hu, hm⟩
        · rintro (hu | ⟨rfl | hu, hm⟩)
          · exact .inl hu
          · obtain ⟨m, hm, -⟩ := hm
            have herror : Except.error e = f.content u := hanswer
            rw [hm] at herror
            cases herror
          · exact .inr ⟨hu, hm⟩
      | ok m =>
        obtain ⟨hrest, hsame, hmem⟩ := ih hfaithful (index.addMessage uid m.bodyText)
        refine ⟨hrest, hsame.trans hcontent, fun w u => ?_⟩
        have hcontent : g.content = f.content := hcontent
        have hm : f.content uid = .ok m := hanswer.symm
        simp only [hmem, hcontent, List.mem_cons, WordIndex.mem_postings_addMessage]
        constructor
        · rintro ((⟨rfl, hw⟩ | hu) | ⟨hu, hm'⟩)
          · exact .inr ⟨.inl rfl, m, hm, hw⟩
          · exact .inl hu
          · exact .inr ⟨.inr hu, hm'⟩
        · rintro (hu | ⟨rfl | hu, hm'⟩)
          · exact .inl (.inr hu)
          · obtain ⟨m', hm', hw⟩ := hm'
            rw [hm] at hm'
            cases hm'
            exact .inl (.inl ⟨rfl, hw⟩)
          · exact .inr ⟨hu, hm'⟩

theorem content_buildWordIndex (h : f.Faithful) : f.buildWordIndex.content = f.content :=
  (indexBodies_spec h .empty f.uids).2.1

theorem Faithful.buildWordIndex (h : f.Faithful) : f.buildWordIndex.Faithful :=
  (indexBodies_spec h .empty f.uids).1

/-- **The index that is built lists each message under the words of its content.** -/
theorem lists_buildWordIndex (h : f.Faithful) :
    ∃ index, f.buildWordIndex.catalog.words = some index ∧ index.Lists f.buildWordIndex.content := by
  refine ⟨_, rfl, fun w uid => ?_⟩
  rw [content_buildWordIndex h, (indexBodies_spec h .empty f.uids).2.2]
  constructor
  · rintro (hu | ⟨-, hm⟩)
    · simp at hu
    · exact hm
  · rintro ⟨m, hm, hw⟩
    exact .inr ⟨mem_uids_of_content hm, m, hm, hw⟩

end Folder

/-! ### Searching -/

namespace Session

/-- Reading an expression changes only what was read last. -/
theorem exists_last_of_read (s : Session) (expression : String) :
    ∃ last, (s.read expression).2 = { s with last } := by
  rw [read]
  split
  · exact ⟨s.last, rfl⟩
  · split
    · exact ⟨_, rfl⟩
    · exact ⟨s.last, rfl⟩

/-- **The answer of an evaluation in a folder** depends on the contents, the catalog and the clock. -/
theorem searchMemory_eq {f : Folder} (h : f.Faithful) (s : Session) (expression : String)
    (subset : Option (List String)) : (s.searchMemory f expression subset).1 = (do
      let t ← (s.read expression).1
      let v ← (evaluate (f.scope (f.workingFor subset) s.now) none s.cancelled t).run f.content
      Folder.hits (f.workingFor subset) v) := by
  obtain ⟨last, hlast⟩ := s.exists_last_of_read expression
  rw [searchMemory]
  cases hread : s.read expression with
  | mk read s' =>
    rw [hread] at hlast
    obtain rfl : s' = { s with last } := hlast
    cases read with
    | error e => rfl
    | ok t =>
      -- On a faithful cache the evaluation has the answer that it has on the contents.
      have hrun := Folder.runOn_eq_run
        (evaluate (f.scope (f.workingFor subset) s.now) none s.cancelled t) h
      simp only [Folder.evaluate, ok_bind]
      rw [← hrun]
      cases hanswer : (evaluate (f.scope (f.workingFor subset) s.now) none s.cancelled t).runOn
          Folder.fetch f with
      | mk answer g => cases answer <;> rfl

end Session

namespace Folder

variable {P : Folder → Prop} {f : Folder}

theorem saveChanges_induction (hsync : ∀ f, P f → P f.syncStore.2) (h : P f) : P f.saveChanges.2 := by
  have hnext := hsync f h
  rw [saveChanges]
  split
  · cases hanswer : f.syncStore with
    | mk answer g =>
      rw [hanswer] at hnext
      cases answer <;> exact hnext
  · exact h

end Folder

namespace Session

variable {P : Folder → Prop} (hfetch : ∀ f uid, P f → P (f.fetch uid).2)
  (hsync : ∀ f, P f → P f.syncStore.2) (s : Session) {f : Folder} (expression : String)

include hfetch

theorem searchMemory_induction (subset : Option (List String)) (h : P f) :
    P (s.searchMemory f expression subset).2.2 := by
  rw [searchMemory]
  cases hread : s.read expression with
  | mk read s' =>
    cases read with
    | error e => exact h
    | ok t =>
      have hnext := Folder.runOn_induction hfetch
        (Search.evaluate (f.scope (f.workingFor subset) s'.now) none s'.cancelled t) h
      simp only [Folder.evaluate]
      cases hanswer : (Search.evaluate (f.scope (f.workingFor subset) s'.now) none s'.cancelled
          t).runOn Folder.fetch f with
      | mk answer g =>
        rw [hanswer] at hnext
        cases answer <;> exact hnext

theorem countMemory_induction (h : P f) : P (s.countMemory f expression).2.2 :=
  searchMemory_induction hfetch s expression none h

omit hfetch in
theorem plan_snd (f : Folder) : (s.plan f expression).2 = f.saveChanges.2 := by
  rw [plan]
  cases f.saveChanges with
  | mk saved g =>
    cases saved with
    | error e => rfl
    | ok _ => dsimp only; split <;> rfl

include hsync

theorem searchDatabase_induction (h : P f) : P (s.searchDatabase f expression).2.2 := by
  have hplan : P (s.plan f expression).2 := by
    rw [plan_snd]
    exact Folder.saveChanges_induction hsync h
  rw [searchDatabase]
  cases hanswer : s.plan f expression with
  | mk plan g =>
    rw [hanswer] at hplan
    cases plan with
    | evaluate => exact searchMemory_induction hfetch s expression none hplan
    | ask store condition => exact hplan
    | fail e => exact hplan

theorem countDatabase_induction (h : P f) : P (s.countDatabase f expression).2.2 := by
  have hplan : P (s.plan f expression).2 := by
    rw [plan_snd]
    exact Folder.saveChanges_induction hsync h
  rw [countDatabase]
  cases hanswer : s.plan f expression with
  | mk plan g =>
    rw [hanswer] at hplan
    cases plan with
    | evaluate => exact countMemory_induction hfetch s expression hplan
    | ask store condition => exact hplan
    | fail e => exact hplan

/-- What fetching and writing to the store keep, a search keeps. -/
theorem search_induction (subset : Option (List String)) (h : P f) :
    P (s.search f expression subset).2.2 := by
  rw [search]
  dsimp only
  cases f.route (effective expression) subset with
  | memory => exact searchMemory_induction hfetch s _ subset h
  | database => exact searchDatabase_induction hfetch hsync s _ h

/-- What fetching and writing to the store keep, counting keeps. -/
theorem count_induction (h : P f) : P (s.count f expression).2.2 := by
  rw [count]
  dsimp only
  cases f.route (effective expression) none with
  | memory => exact countMemory_induction hfetch s _ h
  | database => exact countDatabase_induction hfetch hsync s _ h

end Session

/-! ### All states of a folder -/

namespace Folder

/-- The folders of raw messages, after any operations on them. -/
inductive InMemory : Folder → Prop where
  | ofMessages (location : String) (raws : List (String × Bytes)) : InMemory (ofMessages location raws)
  | fetch {f : Folder} (uid : String) (h : InMemory f) : InMemory (f.fetch uid).2
  | dropContent {f : Folder} (uid : String) (h : InMemory f) : InMemory (f.dropContent uid)
  | buildWordIndex {f : Folder} (h : InMemory f) : InMemory f.buildWordIndex
  | setFlag {f : Folder} (uid : String) (bit : UInt32) (on : Bool) (h : InMemory f) :
      InMemory (f.setFlag uid bit on)
  | addUserFlag {f : Folder} (uid flag : String) (h : InMemory f) : InMemory (f.addUserFlag uid flag)
  | setUserTag {f : Folder} (uid name value : String) (h : InMemory f) :
      InMemory (f.setUserTag uid name value)
  | attachStore {f : Folder} (store : Store) (h : InMemory f) : InMemory (f.attachStore store)
  | setTable {f : Folder} (table : String) (h : InMemory f) : InMemory { f with table }
  | setMemoryOnly {f : Folder} (memoryOnly : Bool) (h : InMemory f) : InMemory { f with memoryOnly }
  | setBlocked {f : Folder} (blocked : Bool) (h : InMemory f) : InMemory { f with blocked }
  | syncStore {f : Folder} (h : InMemory f) : InMemory f.syncStore.2
  | saveChanges {f : Folder} (h : InMemory f) : InMemory f.saveChanges.2
  | search {f : Folder} (s : Session) (expression : String) (subset : Option (List String))
      (h : InMemory f) : InMemory (s.search f expression subset).2.2
  | count {f : Folder} (s : Session) (expression : String) (h : InMemory f) :
      InMemory (s.count f expression).2.2

/-- What holds in all these states. -/
structure Sound (f : Folder) : Prop where
  faithful : f.Faithful
  memory : ∃ raws, f.source = .memory raws

namespace Sound

variable {f : Folder}

theorem fetch (h : f.Sound) (uid : String) : (f.fetch uid).2.Sound := by
  refine ⟨(fetch_eq_content h.faithful uid).2, ?_⟩
  obtain ⟨cache, hcache⟩ := exists_cache_of_fetch f uid
  rw [hcache]
  exact h.memory

theorem change (h : f.Sound) {change : Summary → Summary} (hkey : ∀ s, locator (change s) = locator s)
    (uid : String) : (f.change uid change).Sound := by
  refine ⟨h.faithful.change hkey uid, ?_⟩
  rw [Folder.change]
  split <;> exact h.memory

theorem syncStore (h : f.Sound) : f.syncStore.2.Sound := by
  rw [Folder.syncStore]
  split
  · exact h
  · split <;> exact ⟨h.faithful, h.memory⟩

theorem buildWordIndex (h : f.Sound) : f.buildWordIndex.Sound := by
  refine ⟨h.faithful.buildWordIndex, ?_⟩
  have hsource : ∀ (uids : List String) (index : WordIndex) (g : Folder),
      (∃ raws, g.source = .memory raws) → ∃ raws, (indexBodies index g uids).2.source = .memory raws := by
    intro uids
    induction uids with
    | nil => exact fun _ _ h => h
    | cons uid rest ih =>
      intro index g hg
      obtain ⟨cache, hcache⟩ := exists_cache_of_fetch g uid
      rw [indexBodies]
      cases hfetch : g.fetch uid with
      | mk answer g' =>
        rw [hfetch] at hcache
        have hg' : ∃ raws, g'.source = .memory raws := by
          rw [show g' = { g with cache } from hcache]
          exact hg
        cases answer <;> exact ih _ _ hg'
  exact hsource f.uids .empty f h.memory

/-- A message without content is one that cannot be had, which ends no search. -/
theorem optional_content (h : f.Sound) (uid : String) :
    Reading.optional (f.content uid) = .ok (f.content uid).toOption := by
  obtain ⟨raws, hraws⟩ := h.memory
  rw [content]
  split
  · rfl
  · cases f.summary? uid with
    | none => rfl
    | some s =>
      simp only [hraws, Source.read]
      cases raws.reverse.lookup s.uid <;> rfl

end Sound

/-- **The cache is faithful in every state of a folder of raw messages.** -/
theorem InMemory.sound {f : Folder} (h : f.InMemory) : f.Sound := by
  induction h with
  | ofMessages location raws => exact ⟨fun uid m hm => (by cases hm), raws, rfl⟩
  | fetch uid _ ih => exact ih.fetch uid
  | dropContent uid _ ih => exact ⟨ih.faithful.dropContent uid, ih.memory⟩
  | buildWordIndex _ ih => exact ih.buildWordIndex
  | setFlag uid bit on _ ih =>
    refine ih.change ?_ uid
    exact fun _ => rfl
  | addUserFlag uid flag _ ih =>
    refine ih.change ?_ uid
    exact fun _ => rfl
  | setUserTag uid name value _ ih =>
    refine ih.change ?_ uid
    exact fun _ => rfl
  | attachStore store _ ih => exact ⟨ih.faithful, ih.memory⟩
  | setTable table _ ih => exact ⟨ih.faithful, ih.memory⟩
  | setMemoryOnly _ _ ih | setBlocked _ _ ih => exact ⟨ih.faithful, ih.memory⟩
  | syncStore _ ih => exact ih.syncStore
  | saveChanges _ ih => exact saveChanges_induction (fun _ => Sound.syncStore) ih
  | search s expression subset _ ih =>
    exact Session.search_induction (fun _ uid h => h.fetch uid) (fun _ => Sound.syncStore) s expression
      subset ih
  | count s expression _ ih =>
    exact Session.count_induction (fun _ uid h => h.fetch uid) (fun _ => Sound.syncStore) s expression ih

end Folder

end MailQuery
