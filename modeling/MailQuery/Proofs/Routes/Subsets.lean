import MailQuery.Proofs.Evaluation.Narrowing

/-!
# Searches of a subset

A search may be about some messages only, in an order of their own, with repetitions, and with uids that the folder does not
have. Such a search is always evaluated on the messages. Where the search of the whole folder is evaluated as well, its
result says what the search of each subset finds: the members that are in it (`Session.search_subset`).

Evaluating a term on the subset follows the evaluation on the folder (`simulates_eval`), with a set that is the same as far as
the subset goes; a uid that the folder does not have is in neither result.
-/

namespace MailQuery

open Mail Search

namespace Folder

variable {f : Folder}

theorem workingFor_none : f.workingFor none = f.uids := rfl

theorem workingFor_some {subset : List String} (hne : subset ≠ []) :
    f.workingFor (some subset) = subset.filter f.uids.contains := by
  have hisEmpty : ¬ subset.isEmpty = true := fun h => hne (List.isEmpty_iff.1 h)
  rw [workingFor, Option.getD_some, if_neg hisEmpty]
  refine List.filter_congr fun uid _ => ?_
  rw [Bool.eq_iff_iff, isSome_summary?_iff, List.contains_iff_mem]

/-- What a value that is the same for a subset stands for there. -/
theorem hits_of_agrees {subset : List String} {v v' : Value} {found : List String}
    (hv : v.Agrees (subset.filter f.uids.contains) v') (hfound : hits f.uids v = .ok found) :
    hits (subset.filter f.uids.contains) v' = .ok (subset.filter found.contains) := by
  -- Both results have only what the folder has, so that the members of the subset are told apart by the values.
  have hfilter : ∀ hits hits' : UidSet, hits.SameAmong (subset.filter f.uids.contains) hits' →
      (subset.filter f.uids.contains).filter hits'.contains =
        subset.filter (f.uids.filter hits.contains).contains := by
    intro hits hits' hsame
    rw [List.filter_filter]
    refine List.filter_congr fun uid huid => ?_
    rw [Bool.eq_iff_iff, Bool.and_eq_true, List.contains_iff_mem, List.contains_iff_mem, List.mem_filter,
      TextSet.contains_iff, TextSet.contains_iff, and_comm]
    refine and_congr_right fun hknown => (hsame uid ?_).symm
    exact List.mem_filter.2 ⟨huid, List.contains_iff_mem.2 hknown⟩
  cases hv with
  | same =>
    cases v with
    | bool b =>
      cases b with
      | true =>
        obtain rfl : f.uids = found := Except.ok.inj hfound
        rfl
      | false =>
        obtain rfl : [] = found := Except.ok.inj hfound
        rw [hits]
        exact congrArg Except.ok (List.filter_eq_nil_iff.2 fun uid _ => by simp).symm
    | uids hits =>
      obtain rfl := Except.ok.inj hfound
      exact congrArg Except.ok (hfilter hits hits (UidSet.SameAmong.refl hits))
    | _ => cases hfound
  | @uids hits hits' hsame =>
    obtain rfl := Except.ok.inj hfound
    exact congrArg Except.ok (hfilter hits hits' hsame)

/-- Writing to the store changes nothing of what the messages are. -/
theorem saveChanges_keeps (hf : f.Faithful) :
    f.saveChanges.2.Faithful ∧ f.saveChanges.2.catalog = f.catalog ∧ f.saveChanges.2.content = f.content := by
  refine saveChanges_induction (P := fun g => g.Faithful ∧ g.catalog = f.catalog ∧ g.content = f.content) ?_
    ⟨hf, rfl, rfl⟩
  rintro g ⟨hfaithful, hcatalog, hcontent⟩
  rw [syncStore]
  split
  · exact ⟨hfaithful, hcatalog, hcontent⟩
  · split <;> exact ⟨hfaithful, hcatalog, hcontent⟩

end Folder

namespace Session

variable {s : Session} {f : Folder} {expression : String} {subset found : List String}

/-- A search of the whole folder is evaluated on the messages: at once, or since the expression has no condition. -/
def Evaluates (s : Session) (f : Folder) (expression : String) : Prop :=
  f.route (effective expression) none = .memory ∨ (s.plan f (effective expression)).1 = .evaluate

/-- The answer to a search that is evaluated. Changes are saved before, or not, which makes no difference to it. -/
theorem Evaluates.search_eq (h : s.Evaluates f expression) (hf : f.Faithful) :
    (s.search f expression none).1 = (s.searchMemory f (effective expression) none).1 := by
  rw [search]
  dsimp only
  cases hroute : f.route (effective expression) none with
  | memory => rfl
  | database =>
    obtain hmemory | hplan := h
    · rw [hroute] at hmemory
      cases hmemory
    · dsimp only
      have hsaved := s.plan_snd (effective expression) f
      rw [searchDatabase]
      cases hanswer : s.plan f (effective expression) with
      | mk plan g =>
        rw [hanswer] at hplan hsaved
        obtain rfl : plan = .evaluate := hplan
        obtain rfl : g = f.saveChanges.2 := hsaved
        obtain ⟨hfaithful, hcatalog, hcontent⟩ := Folder.saveChanges_keeps hf
        have hworking : f.saveChanges.2.workingFor none = f.workingFor none := congrArg Catalog.uids hcatalog
        have hscope : ∀ working, f.saveChanges.2.scope working s.now = f.scope working s.now :=
          fun working => congrArg (Scope.mk · working s.now) hcatalog
        dsimp only
        rw [searchMemory_eq hfaithful, searchMemory_eq hf, hworking, hscope, hcontent]

/-- **Evaluating on a subset finds the members that are found in the whole folder.** -/
theorem searchMemory_subset (hf : f.Faithful) (hne : subset ≠ [])
    (havoids : ∀ t, (s.read expression).1 = .ok t → t.Avoids "match-threads")
    (hfound : (s.searchMemory f expression none).1 = .ok found) :
    (s.searchMemory f expression (some subset)).1 = .ok (subset.filter found.contains) := by
  rw [searchMemory_eq hf, Folder.workingFor_none] at hfound
  rw [searchMemory_eq hf, Folder.workingFor_some hne]
  cases hread : (s.read expression).1 with
  | error e =>
    rw [hread] at hfound
    cases hfound
  | ok t =>
    rw [hread, ok_bind] at hfound
    rw [ok_bind]
    cases hvalue : (evaluate (f.scope f.uids s.now) none s.cancelled t).run f.content with
    | error e =>
      rw [hvalue] at hfound
      cases hfound
    | ok v =>
      rw [hvalue, ok_bind] at hfound
      have hcancelled : ¬ s.cancelled = true := by
        intro hcancelled
        rw [evaluate, if_pos hcancelled] at hvalue
        cases hvalue
      rw [evaluate, if_neg hcancelled] at hvalue
      have hcomplete : (f.scope f.uids s.now).Complete := fun uid huid => Folder.isSome_summary?_iff.2 huid
      have hsub : ∀ uid ∈ subset.filter f.uids.contains, uid ∈ f.uids :=
        fun uid huid => List.contains_iff_mem.1 (List.mem_filter.1 huid).2
      obtain ⟨v', hvalue', hagrees⟩ := simulates_eval hcomplete hsub (havoids t hread) v hvalue
      rw [evaluate, if_neg hcancelled]
      show (eval ((f.scope f.uids s.now).on (subset.filter f.uids.contains)) none t).run f.content >>= _ = _
      rw [hvalue', ok_bind]
      exact Folder.hits_of_agrees hagrees hfound

/-- **Searching a subset is filtering the whole result.** Where a search that is evaluated succeeds for the whole folder, it
succeeds for each subset that is not empty, and finds the members of the subset that are in the whole result, in their
order and as often as they are there. -/
theorem search_subset (hf : f.Opened) (heval : s.Evaluates f expression)
    (havoids : ∀ t, (s.read (effective expression)).1 = .ok t → t.Avoids "match-threads") (hne : subset ≠ [])
    (hfound : (s.search f expression none).1 = .ok found) :
    (s.search f expression (some subset)).1 = .ok (subset.filter found.contains) := by
  rw [heval.search_eq hf.faithful] at hfound
  have hroute : f.route (effective expression) (some subset) = .memory := by
    have hmember : (!subset.isEmpty) = true := by simpa using hne
    rw [Folder.route, Option.any_some, hmember, Bool.or_true, Bool.true_or, if_pos rfl]
  rw [search]
  dsimp only
  rw [hroute]
  exact searchMemory_subset hf.faithful hne havoids hfound

/-- A complement, a word that is looked up in the index and a phrase that is looked for in the bodies. The subset has a
message twice and a uid without message. -/
theorem search_subset_phrases :
    let f := (Folder.ofMessages "in" [("1", Ascii.bytes "Subject: a\n\nHello, World"), ("2", Ascii.bytes "Subject: b\n\nHello"),
      ("3", Ascii.bytes "Subject: c\n\nGoodbye")]).perform .buildWordIndex
    let s := Session.start .tree 0
    let text := "(or (not (body-contains \"hello\")) (body-contains \"o, w\"))"
    (s.search f text none).1 = .ok ["1", "3"] ∧
      (s.search f text (some ["3", "9", "2", "1", "3"])).1 = .ok ["3", "1", "3"] := by
  intro f s text
  have hopened : f.Opened := .perform _ (.start rfl)
  have heval : s.Evaluates f text := .inl rfl
  have hread : (s.read (effective text)).1 = .ok (.call "or" [.call "not" [.call "body-contains" [.string "hello"]],
      .call "body-contains" [.string "o, w"]]) := eq_ok_of_toOption (by decide +kernel)
  have havoids : ∀ t, (s.read (effective text)).1 = .ok t → t.Avoids "match-threads" := by
    intro t ht
    obtain rfl := Except.ok.inj (hread.symm.trans ht)
    have hphrase : ∀ p, (Term.call "body-contains" [.string p]).Avoids "match-threads" := by
      refine fun p => .call (by decide) fun a ha => ?_
      rw [List.mem_singleton.1 ha]
      exact .string p
    refine .call (by decide) (List.forall_mem_cons.2 ⟨?_, List.forall_mem_singleton.2 (hphrase _)⟩)
    exact .call (by decide) (List.forall_mem_singleton.2 (hphrase _))
  have hfound : (s.search f text none).1 = .ok ["1", "3"] := eq_ok_of_toOption (by decide +kernel)
  exact ⟨hfound, search_subset hopened heval havoids (List.cons_ne_nil _ _) hfound⟩

end Session

end MailQuery
