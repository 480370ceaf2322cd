import MailQuery.Proofs.Evaluation.Footprint
import MailQuery.Proofs.Evaluation.Settling
import MailQuery.Proofs.Routes.Sessions
import MailQuery.Proofs.Routes.Subsets

/-!
# Searches after a message was dropped

When the content of a message is lost, searches find or do not find the other messages as before. An evaluation before and one
after the loss are compared through a third one, about all messages but the lost one: both agree with it on these
(`simulates_eval`), and it does not read the lost message (`readsOnly_eval`), so that the loss makes no difference to it
(`searchMemory_agrees`).

What is left is that both searches are evaluated. Dropping a message changes nothing that this depends on
(`EvaluatesOn.dropContent`), and a search leaves nothing to save to the next one (`EvaluatesOn.search`).

`search_dropContent` is the main statement.
-/

namespace MailQuery

open Mail Search

/-- Values that agree on some messages stand for the same of them. -/
theorem Value.Agrees.includes_iff {among : List String} {v v' : Value} (h : v.Agrees among v') {uid : String}
    (huid : uid ∈ among) : v.Includes uid ↔ v'.Includes uid := by
  cases h with
  | same => exact Iff.rfl
  | uids h => exact h uid huid

namespace Folder

variable {f : Folder}

/-- What is found are the messages of the search that a value stands for. -/
theorem mem_hits {working found : List String} {v : Value} (h : hits working v = .ok found) (uid : String) :
    uid ∈ found ↔ uid ∈ working ∧ v.Includes uid := by
  cases v with
  | bool b =>
    cases b with
    | true =>
      obtain rfl : working = found := Except.ok.inj h
      exact (and_iff_left rfl).symm
    | false =>
      obtain rfl : [] = found := Except.ok.inj h
      exact iff_of_false List.not_mem_nil fun h => Bool.false_ne_true h.2
  | uids hits =>
    obtain rfl := Except.ok.inj h
    rw [List.mem_filter, TextSet.contains_iff]
    exact Iff.rfl
  | _ => cases h

/-- A search is about messages that the folder has. -/
theorem complete_scope_workingFor (f : Folder) (subset : Option (List String)) (now : Int64) :
    (f.scope (f.workingFor subset) now).Complete := by
  intro uid huid
  have huid : uid ∈ f.workingFor subset := huid
  rw [workingFor] at huid
  split at huid
  · exact isSome_summary?_iff.2 huid
  · exact (List.mem_filter.1 huid).2

/-! ### Saving -/

theorem saveChanges_of_clean (h : (f.dirty && f.store.isSome) = false) : f.saveChanges = (.ok (), f) := by
  rw [saveChanges, h]
  rfl

/-- A folder whose changes were saved has none left. -/
theorem clean_of_saveChanges (h : f.saveChanges.1 = .ok ()) :
    (f.saveChanges.2.dirty && f.saveChanges.2.store.isSome) = false := by
  by_cases hclean : (f.dirty && f.store.isSome) = true
  · obtain ⟨-, hstore⟩ := Bool.and_eq_true _ _ ▸ hclean
    obtain ⟨store, hstore⟩ := Option.isSome_iff_exists.1 hstore
    rw [saveChanges, if_pos hclean, syncStore, hstore] at h ⊢
    dsimp only at h ⊢
    cases hwrite : f.writeTo store with
    | mk answer written =>
      rw [hwrite] at h
      cases answer with
      | error e => cases h
      | ok n => rfl
  · have hclean := Bool.eq_false_iff.2 hclean
    rw [saveChanges_of_clean hclean]
    exact hclean

/-- The content of a message is not what is saved. -/
theorem saveChanges_dropContent (f : Folder) (uid : String) :
    (f.dropContent uid).saveChanges = (f.saveChanges.1, f.saveChanges.2.dropContent uid) := by
  have hsync : (f.dropContent uid).syncStore = (f.syncStore.1, f.syncStore.2.dropContent uid) := by
    have hstore : (f.dropContent uid).store = f.store := rfl
    have hwrite : ∀ store : Store, (f.dropContent uid).writeTo store = f.writeTo store := fun _ => rfl
    rw [syncStore, syncStore, hstore]
    cases f.store with
    | none => rfl
    | some store =>
      simp only [hwrite]
      cases f.writeTo store with
      | mk answer store => cases answer <;> rfl
  have hdirty : ((f.dropContent uid).dirty && (f.dropContent uid).store.isSome) = (f.dirty && f.store.isSome) := rfl
  rw [saveChanges, saveChanges, hdirty, hsync]
  split
  · cases f.syncStore with
    | mk answer g => cases answer <;> rfl
  · rfl

end Folder

namespace Session

variable {s s' : Session} {f g : Folder} {expression lost : String} {subset : Option (List String)} {t : Term}
  {found found' : List String}

/-! ### Two evaluations -/

/-- What a search finds are the messages that the value of the expression stands for. -/
theorem exists_run_of_searchMemory (hf : f.Faithful) (hread : (s.read expression).1 = .ok t)
    (hfound : (s.searchMemory f expression subset).1 = .ok found) :
    ∃ v, (eval (f.scope (f.workingFor subset) s.now) none t).run f.content = .ok v ∧
      ∀ uid, uid ∈ found ↔ uid ∈ f.workingFor subset ∧ v.Includes uid := by
  rw [searchMemory_eq hf, hread, ok_bind, evaluate] at hfound
  split at hfound
  · cases hfound
  · cases hvalue : (eval (f.scope (f.workingFor subset) s.now) none t).run f.content with
    | error e =>
      rw [hvalue] at hfound
      cases hfound
    | ok v =>
      rw [hvalue, ok_bind] at hfound
      exact ⟨v, rfl, Folder.mem_hits hfound⟩

/-- **Evaluations in folders that differ in the content of one message** find the same of the others. -/
theorem searchMemory_agrees (hf : f.Faithful) (hg : g.Faithful) (hcatalog : g.catalog = f.catalog)
    (hcontent : ∀ uid, uid ≠ lost → g.content uid = f.content uid) (hnow : s'.now = s.now)
    (hread : (s.read expression).1 = .ok t) (hread' : (s'.read expression).1 = .ok t) (ht : t.Avoids "match-threads")
    (hfound : (s.searchMemory f expression subset).1 = .ok found)
    (hfound' : (s'.searchMemory g expression subset).1 = .ok found') {uid : String} (huid : uid ≠ lost) :
    uid ∈ found' ↔ uid ∈ found := by
  obtain ⟨v, hvalue, hmem⟩ := exists_run_of_searchMemory hf hread hfound
  obtain ⟨v', hvalue', hmem'⟩ := exists_run_of_searchMemory hg hread' hfound'
  -- Both evaluations have the same scope.
  have hworking : g.workingFor subset = f.workingFor subset := by
    simp only [Folder.workingFor, Folder.uids, Folder.summary?, hcatalog]
  have hscope : g.scope (f.workingFor subset) s'.now = f.scope (f.workingFor subset) s.now := by
    rw [Folder.scope, Folder.scope, hcatalog, hnow]
  rw [hworking, hscope] at hvalue'
  rw [hworking] at hmem'
  -- The third evaluation is about the messages that were not lost.
  let rest := (f.workingFor subset).filter (· != lost)
  have hrest : ∀ {u}, u ∈ rest ↔ u ∈ f.workingFor subset ∧ u ≠ lost := by
    intro u
    rw [List.mem_filter, bne_iff_ne]
  have hcomplete := f.complete_scope_workingFor subset s.now
  have hsub : ∀ u ∈ rest, u ∈ f.workingFor subset := fun u hu => (hrest.1 hu).1
  obtain ⟨w, hw, hagrees⟩ := simulates_eval hcomplete hsub ht v hvalue
  obtain ⟨w', hw', hagrees'⟩ := simulates_eval hcomplete hsub ht v' hvalue'
  have hreads : (eval ((f.scope (f.workingFor subset) s.now).on rest) none t).ReadsOnly (· ≠ lost) :=
    readsOnly_eval (fun u hu => (hrest.1 hu).2) (fun m hm => (by cases hm)) t
  rw [hreads.run_congr hcontent, hw] at hw'
  obtain rfl : w = w' := Except.ok.inj hw'
  rw [hmem, hmem']
  exact and_congr_right fun hworking =>
    have hu := hrest.2 ⟨hworking, huid⟩
    (hagrees'.includes_iff hu).trans (hagrees.includes_iff hu).symm

/-! ### Searches that are evaluated -/

/-- An expression is evaluated on the messages if it is read and all changes are saved, and there is no condition or no
store. -/
theorem plan_eq_evaluate_iff : (s.plan f expression).1 = .evaluate ↔ f.saveChanges.1 = .ok () ∧
    ((∃ name, s.compiler.compile s.now expression = .error (.unknownFunction name)) ∨
      ∃ condition, s.compiler.compile s.now expression = .ok condition ∧ f.saveChanges.2.store = none) := by
  rw [plan]
  cases f.saveChanges with
  | mk saved g =>
    cases saved with
    | error e =>
      constructor
      · intro h
        cases h
      · rintro ⟨h, -⟩
        cases h
    | ok u =>
      rw [and_iff_right rfl]
      cases s.compiler.compile s.now expression with
      | error e => cases e <;> simp
      | ok condition =>
        dsimp only
        cases g.store with
        | none => simp
        | some store => cases s.cancelled <;> simp

/-- A search is evaluated on the messages: at once, or since the expression has no condition. -/
def EvaluatesOn (s : Session) (f : Folder) (expression : String) (subset : Option (List String)) : Prop :=
  f.route (effective expression) subset = .memory ∨ (s.plan f (effective expression)).1 = .evaluate

theorem EvaluatesOn.plan_of_route (h : s.EvaluatesOn f expression subset)
    (hroute : f.route (effective expression) subset = .database) : (s.plan f (effective expression)).1 = .evaluate := by
  obtain hmemory | hplan := h
  · rw [hroute] at hmemory
    cases hmemory
  · exact hplan

/-- The answer to a search that is evaluated. -/
theorem EvaluatesOn.search_eq (h : s.EvaluatesOn f expression subset) (hf : f.Faithful) :
    (s.search f expression subset).1 = (s.searchMemory f (effective expression) subset).1 := by
  cases hroute : f.route (effective expression) subset with
  | memory => simp only [Session.search, hroute]
  | database =>
    -- A search that is left to the database has no subset, and is the one of the whole folder.
    have hplan : s.Evaluates f expression := .inr (h.plan_of_route hroute)
    have hnone : subset.any (!·.isEmpty) = false := by
      cases hany : subset.any (!·.isEmpty) with
      | false => rfl
      | true => simp [Folder.route, hany] at hroute
    have hwhole : f.route (effective expression) none = .database := by
      rw [← hroute, Folder.route, Folder.route, hnone, Option.any_none]
    have hworking : f.workingFor subset = f.workingFor none := by
      cases subset with
      | none => rfl
      | some uids =>
        obtain rfl : uids = [] := by simpa using hnone
        rfl
    have hsame : s.search f expression subset = s.search f expression none := by
      simp only [Session.search, hroute, hwhole]
    rw [hsame, hplan.search_eq hf, searchMemory, searchMemory, hworking]

theorem EvaluatesOn.dropContent (h : s.EvaluatesOn f expression subset) (uid : String) :
    s.EvaluatesOn (f.dropContent uid) expression subset := by
  refine h.imp id fun h => ?_
  rw [plan_eq_evaluate_iff] at h ⊢
  rwa [Folder.saveChanges_dropContent]

/-- Reading messages changes nothing that decides how a search is answered. -/
theorem searchMemory_keeps (s : Session) (f : Folder) (expression : String) (subset : Option (List String)) :
    (s.searchMemory f expression subset).2.2.store = f.store ∧
      (s.searchMemory f expression subset).2.2.dirty = f.dirty ∧
        (s.searchMemory f expression subset).2.2.memoryOnly = f.memoryOnly := by
  refine searchMemory_induction (P := fun g => g.store = f.store ∧ g.dirty = f.dirty ∧ g.memoryOnly = f.memoryOnly)
    (fun g uid hg => ?_) s expression subset ⟨rfl, rfl, rfl⟩
  obtain ⟨cache, hcache⟩ := Folder.exists_cache_of_fetch g uid
  rw [hcache]
  exact hg

/-- A search that is made again is answered in the same way. -/
theorem EvaluatesOn.search (h : s.EvaluatesOn f expression subset) :
    (s.search f expression subset).2.1.EvaluatesOn (s.search f expression subset).2.2 expression subset := by
  obtain ⟨last, hlast⟩ := s.exists_last_of_ask f (.search expression subset)
  have hlast : (s.search f expression subset).2.1 = { s with last, cancelled := false } := hlast
  rw [hlast]
  cases hroute : f.route (effective expression) subset with
  | memory =>
    left
    obtain ⟨hstore, -, hmemory⟩ := s.searchMemory_keeps f (effective expression) subset
    have hfolder : (s.search f expression subset).2.2 = (s.searchMemory f (effective expression) subset).2.2 := by
      simp only [Session.search, hroute]
    rw [hfolder, ← hroute, Folder.route, Folder.route, hstore, hmemory]
  | database =>
    right
    have hplan := h.plan_of_route hroute
    have hfolder : (s.search f expression subset).2.2 =
        (s.searchMemory f.saveChanges.2 (effective expression) none).2.2 := by
      simp only [Session.search, hroute, searchDatabase]
      have hsaved := s.plan_snd (effective expression) f
      cases hanswer : s.plan f (effective expression) with
      | mk plan g =>
        rw [hanswer] at hplan hsaved
        obtain rfl : plan = .evaluate := hplan
        obtain rfl : g = f.saveChanges.2 := hsaved
        rfl
    obtain ⟨hsaved, hcompiled⟩ := plan_eq_evaluate_iff.1 hplan
    obtain ⟨hstore, hdirty, -⟩ := s.searchMemory_keeps f.saveChanges.2 (effective expression) none
    have hclean := Folder.clean_of_saveChanges hsaved
    rw [← hstore, ← hdirty] at hclean
    rw [hfolder, plan_eq_evaluate_iff, Folder.saveChanges_of_clean hclean]
    refine ⟨rfl, ?_⟩
    rw [hstore]
    exact hcompiled

/-- A search changes neither the catalog nor the contents. -/
theorem search_keeps (s : Session) (hf : f.Faithful) (expression : String) (subset : Option (List String)) :
    (s.search f expression subset).2.2.Faithful ∧ (s.search f expression subset).2.2.catalog = f.catalog ∧
      (s.search f expression subset).2.2.content = f.content := by
  refine search_induction (P := fun g => g.Faithful ∧ g.catalog = f.catalog ∧ g.content = f.content)
    (fun g uid hg => ?_) (fun g hg => ?_) s expression subset ⟨hf, rfl, rfl⟩
  · obtain ⟨hfaithful, hcatalog, hcontent⟩ := hg
    refine ⟨(Folder.fetch_eq_content hfaithful uid).2, ?_, (Folder.content_fetch g uid).trans hcontent⟩
    obtain ⟨cache, hcache⟩ := Folder.exists_cache_of_fetch g uid
    rw [hcache]
    exact hcatalog
  · obtain ⟨hfaithful, hcatalog, hcontent⟩ := hg
    rw [Folder.syncStore]
    split
    · exact ⟨hfaithful, hcatalog, hcontent⟩
    · split <;> exact ⟨hfaithful, hcatalog, hcontent⟩

/-- **A message that is lost only affects itself.** A search without `match-threads` that is evaluated, in any state of an
opened folder, and the same search after a message was dropped, from the same state or one after the other: if both
succeed, they find the same of all other messages. -/
theorem search_dropContent (hf : f.Opened) (hs : s.Started) (heval : s.EvaluatesOn f expression subset)
    (hparse : Term.parse (effective expression) = .ok t) (ht : t.Avoids "match-threads")
    (hstate : (s', g) = (s, f) ∨ (s', g) = (s.search f expression subset).2)
    (hfound : (s.search f expression subset).1 = .ok found)
    (hfound' : (s'.search (g.dropContent lost) expression subset).1 = .ok found') :
    ∀ uid, uid ≠ lost → (uid ∈ found' ↔ uid ∈ found) := by
  intro uid huid
  have hstart : g.Faithful ∧ g.catalog = f.catalog ∧ g.content = f.content ∧ s'.Remembers ∧ s'.now = s.now ∧
      s'.EvaluatesOn g expression subset := by
    obtain hsame | hnext := hstate
    · obtain ⟨rfl, rfl⟩ := Prod.mk.inj hsame
      exact ⟨hf.faithful, rfl, rfl, hs.remembers, rfl, heval⟩
    · obtain ⟨rfl, rfl⟩ := Prod.mk.inj hnext
      obtain ⟨hfaithful, hcatalog, hcontent⟩ := s.search_keeps hf.faithful expression subset
      obtain ⟨last, hlast⟩ := s.exists_last_of_ask f (.search expression subset)
      have hlast : (s.search f expression subset).2.1 = { s with last, cancelled := false } := hlast
      have hnow : (s.search f expression subset).2.1.now = s.now := by rw [hlast]
      exact ⟨hfaithful, hcatalog, hcontent, hs.remembers.ask f (.search expression subset), hnow, heval.search⟩
  obtain ⟨hfaithful, hcatalog, hcontent, hremembers, hnow, heval'⟩ := hstart
  have hfaithful' := hfaithful.dropContent lost
  have hcontent' : ∀ u, u ≠ lost → (g.dropContent lost).content u = f.content u := by
    intro u hu
    rw [Folder.content_dropContent, if_neg hu, hcontent]
  rw [heval.search_eq hf.faithful] at hfound
  rw [(heval'.dropContent lost).search_eq hfaithful'] at hfound'
  exact searchMemory_agrees hf.faithful hfaithful' hcatalog hcontent' hnow
    ((read_eq_parse hs.remembers _).trans hparse) ((read_eq_parse hremembers _).trans hparse) ht hfound hfound' huid

/-- A negation and a phrase that the index narrows down. The message that is dropped is found for one reason only, and the
others are found as before. -/
theorem search_dropContent_phrases :
    let f := (Folder.ofMessages "in" [("1", Ascii.bytes "Subject: a\n\nHello, World"), ("2", Ascii.bytes "Subject: b\n\nHello"),
      ("3", Ascii.bytes "Subject: c\n\nGoodbye")]).perform .buildWordIndex
    let s := Session.start .tree 0
    let text := "(or (not (body-contains \"hello\")) (body-contains \"o, w\"))"
    let next := (s.search f text none).2
    (s.search f text none).1 = .ok ["1", "3"] ∧ (next.1.search (next.2.dropContent "1") text none).1 = .ok ["3"] ∧
      ∀ uid, uid ≠ "1" → (uid ∈ ["3"] ↔ uid ∈ ["1", "3"]) := by
  intro f s text next
  have hopened : f.Opened := .perform _ (.start rfl)
  have heval : s.EvaluatesOn f text none := .inl rfl
  have hparse : Term.parse (effective text) = .ok (.call "or" [.call "not" [.call "body-contains" [.string "hello"]],
      .call "body-contains" [.string "o, w"]]) := eq_ok_of_toOption (by decide +kernel)
  have hphrase : ∀ p, (Term.call "body-contains" [.string p]).Avoids "match-threads" := by
    refine fun p => .call (by decide) fun a ha => ?_
    rw [List.mem_singleton.1 ha]
    exact .string p
  have havoids : (Term.call "or" [.call "not" [.call "body-contains" [.string "hello"]],
      .call "body-contains" [.string "o, w"]]).Avoids "match-threads" := by
    refine .call (by decide) (List.forall_mem_cons.2 ⟨?_, List.forall_mem_singleton.2 (hphrase _)⟩)
    exact .call (by decide) (List.forall_mem_singleton.2 (hphrase _))
  have hfound : (s.search f text none).1 = .ok ["1", "3"] := eq_ok_of_toOption (by decide +kernel)
  have hfound' : (next.1.search (next.2.dropContent "1") text none).1 = .ok ["3"] :=
    eq_ok_of_toOption (by decide +kernel)
  exact ⟨hfound, hfound',
    search_dropContent hopened (.start .tree 0) heval hparse havoids (.inr rfl) hfound hfound'⟩

end Session

end MailQuery
