import Mathlib.Data.List.Nodup
import MailQuery.Proofs.Expr.Printing
import MailQuery.Proofs.Folders.Synced
import MailQuery.Proofs.Routes.Routing
import MailQuery.Proofs.Routes.Searches

/-!
# Memory and database answer alike

A search that both sides know has a test (`Term.exists_search`), and either way of answering it comes to the messages
that pass the test, in the order of the folder: `Folder.found`. In memory they are counted out of a set
(`Session.searchMemory_eq_answer`), and in the database they are the rows of which the condition is true, put back in
order (`Session.database_eq_or_refused`). For the latter the table has to hold the rows of the summaries, which it does
in every folder that was written once, since changes are saved before the store is asked.

A condition that is within the limits of the database (`Session.Fits`) is always answered. A conjunction of more than a
thousand parts is not, and is refused (`Session.searchDatabase_conjunction`).

`Session.search_memoryOnly` is the main statement.
-/

namespace MailQuery

open Mail Sql Search Text

/-! ### The messages that pass a test -/

theorem Search.Catalog.find?_of_mem {c : Catalog} (hnodup : c.uids.Nodup) {m : Summary} (hm : m ∈ c.summaries) :
    c.find? m.uid = some m := by
  have hsome : (c.find? m.uid).isSome = true := by
    rw [find?, List.find?_isSome]
    exact ⟨m, List.mem_reverse.2 hm, beq_self_eq_true _⟩
  obtain ⟨m', hm'⟩ := Option.isSome_iff_exists.1 hsome
  have huid : m'.uid = m.uid := by
    simpa using List.find?_some hm'
  have hmem : m' ∈ c.summaries := List.mem_reverse.1 (List.mem_of_find?_eq_some hm')
  rw [hm', List.inj_on_of_nodup_map hnodup hmem hm huid]

namespace Folder

variable {f : Folder} {test : Summary → Bool}

/-- The messages that pass a test, in the order of the folder. -/
def found (f : Folder) (test : Summary → Bool) : List String := (f.catalog.summaries.filter test).map (·.uid)

/-- Uids that are picked like the messages which pass a test are those messages. -/
theorem filter_uids_eq_found {p : String → Bool} (h : ∀ m ∈ f.catalog.summaries, p m.uid = test m) :
    f.uids.filter p = f.found test := by
  show (f.catalog.summaries.map (·.uid)).filter p = _
  rw [List.filter_map, found]
  exact congrArg _ (List.filter_congr h)

theorem complete_scope (hnodup : f.uids.Nodup) (now : Int64) : (f.scope f.uids now).Complete := by
  intro uid huid
  obtain ⟨m, hm, rfl⟩ := List.mem_map.1 huid
  show (f.catalog.find? m.uid).isSome = true
  rw [Catalog.find?_of_mem hnodup hm]
  rfl

/-- A set that a test selects is counted out to the messages which pass it. -/
theorem filter_contains_eq_found (hnodup : f.uids.Nodup) {now : Int64} {hits : UidSet}
    (h : (f.scope f.uids now).Selects test hits) : f.uids.filter hits.contains = f.found test := by
  refine filter_uids_eq_found fun m hm => ?_
  rw [Bool.eq_iff_iff, TextSet.contains_iff, h]
  show m.uid ∈ f.uids ∧ (f.catalog.find? m.uid).any test = true ↔ _
  rw [Catalog.find?_of_mem hnodup hm]
  constructor
  · exact fun hchosen => hchosen.2
  · exact fun htest => ⟨List.mem_map_of_mem hm, htest⟩

/-- A message is found if it passes the test, as no other one has its uid. -/
theorem mem_found_iff (hnodup : f.uids.Nodup) {m : Summary} (hm : m ∈ f.catalog.summaries) :
    m.uid ∈ f.found test ↔ test m = true := by
  rw [found, List.mem_map]
  constructor
  · rintro ⟨m', hm', huid⟩
    obtain ⟨hmem, htest⟩ := List.mem_filter.1 hm'
    rwa [← List.inj_on_of_nodup_map hnodup hmem hm huid]
  · exact fun htest => ⟨m, List.mem_filter.2 ⟨hm, htest⟩, rfl⟩

theorem found_congr {test' : Summary → Bool} (h : ∀ m ∈ f.catalog.summaries, test m = test' m) :
    f.found test = f.found test' := by
  rw [found, found, List.filter_congr h]

/-- Two tests find the same messages only if they agree on each message. -/
theorem found_eq_found_iff (hnodup : f.uids.Nodup) {test' : Summary → Bool} :
    f.found test = f.found test' ↔ ∀ m ∈ f.catalog.summaries, test m = test' m := by
  refine ⟨fun h m hm => ?_, found_congr⟩
  rw [Bool.eq_iff_iff, ← mem_found_iff hnodup hm, ← mem_found_iff hnodup hm, h]

/-- The messages that pass a test are picked by their uids. -/
theorem filter_found_eq_found (hnodup : f.uids.Nodup) : f.uids.filter (f.found test).contains = f.found test := by
  refine filter_uids_eq_found fun m hm => ?_
  rw [Bool.eq_iff_iff, List.contains_iff_mem, mem_found_iff hnodup hm]

end Folder

/-! ### The store -/

namespace Store

variable {store : Store} {name : String} {summaries : List Summary} {e e' : Expr}

/-- A condition that is taken asks about the rows of the messages of which it is true. -/
theorem rowsWhere_eq (hname : isAllowedName name = true)
    (hrows : (store.table? name).map (·.rows) = some (summaries.map Summary.row))
    (he : IsTakenFor e.sql e' (summaries.map Summary.row)) :
    store.rowsWhere name e.sql = .ok ((summaries.filter fun m => e'.isTrueOf m.row).map Summary.row) := by
  have hcut : isCut name = false := by
    rw [isAllowedName, Bool.and_eq_true, Bool.not_eq_true'] at hname
    exact hname.1
  rw [rowsWhere_of_isTakenFor hcut hrows he, List.filter_map]
  rfl

theorem uidsWhere_eq (hname : isAllowedName name = true)
    (hrows : (store.table? name).map (·.rows) = some (summaries.map Summary.row))
    (he : IsTakenFor e.sql e' (summaries.map Summary.row)) :
    store.uidsWhere name e = .ok ((summaries.filter fun m => e'.isTrueOf m.row).map (·.uid)) := by
  have huid : ((fun r : Row => cellText? (r .uid)) ∘ Summary.row) = fun m => some m.uid := by
    funext m
    show some (String.ofList m.uid.toList) = _
    rw [String.ofList_toList]
  rw [uidsWhere_eq_map, rowsWhere_eq hname hrows he]
  show Except.ok (((summaries.filter fun m => e'.isTrueOf m.row).map Summary.row).filterMap
    fun r => cellText? (r .uid)) = _
  rw [List.filterMap_map, huid, List.filterMap_eq_map']

theorem count_eq (hname : isAllowedName name = true)
    (hrows : (store.table? name).map (·.rows) = some (summaries.map Summary.row))
    (he : IsTakenFor e.sql e' (summaries.map Summary.row)) :
    store.count name e = .ok (summaries.filter fun m => e'.isTrueOf m.row).length := by
  rw [count_eq_map, rowsWhere_eq hname hrows he]
  show Except.ok ((summaries.filter fun m => e'.isTrueOf m.row).map Summary.row).length = _
  rw [List.length_map]

end Store

namespace Session

/-! ### Sessions -/

/-- The sessions in which any searches were made. -/
inductive Started : Session → Prop where
  | start (compiler : Compiler) (now : Int64) : Started (start compiler now)
  | cancel {s : Session} (h : Started s) : Started s.cancel
  | search {s : Session} (f : Folder) (expression : String) (subset : Option (List String)) (h : Started s) :
      Started (s.search f expression subset).2.1
  | count {s : Session} (f : Folder) (expression : String) (h : Started s) : Started (s.count f expression).2.1

/-- The tree that is remembered is that of the expression that was read last. -/
def Remembers (s : Session) : Prop :=
  ∀ expression t, s.last = some (expression, t) → Term.parse expression = .ok t

variable {s : Session} {f : Folder} {expression : String} {t : Term} {test : Summary → Bool} {e e' : Expr}

/-- Reading an expression that is remembered gives what reading it anew would give. -/
theorem read_eq_parse (h : s.Remembers) (expression : String) : (s.read expression).1 = Term.parse expression := by
  rw [read]
  split
  · next e t hfilter =>
    obtain ⟨hlast, he⟩ := Option.filter_eq_some_iff.1 hfilter
    obtain rfl : e = expression := by simpa using he
    exact (h e t hlast).symm
  · split
    · next t hparse => exact hparse.symm
    · next e hparse => exact hparse.symm

theorem Remembers.read (h : s.Remembers) (expression : String) : (s.read expression).2.Remembers := by
  rw [Session.read]
  split
  · exact h
  · split
    · next t hparse =>
      rintro e t' hlast
      cases hlast
      exact hparse
    · exact h

theorem Remembers.searchMemory (h : s.Remembers) (f : Folder) (expression : String) (subset : Option (List String)) :
    (s.searchMemory f expression subset).2.1.Remembers := by
  have hread := h.read expression
  rw [Session.searchMemory]
  cases hanswer : s.read expression with
  | mk answer s' =>
    rw [hanswer] at hread
    cases answer with
    | error e => exact hread
    | ok t =>
      dsimp only
      split <;> exact hread

theorem Remembers.countMemory (h : s.Remembers) (f : Folder) (expression : String) :
    (s.countMemory f expression).2.1.Remembers :=
  h.searchMemory f expression none

theorem Remembers.searchDatabase (h : s.Remembers) (f : Folder) (expression : String) :
    (s.searchDatabase f expression).2.1.Remembers := by
  rw [Session.searchDatabase]
  split
  · exact h.searchMemory _ expression none
  · exact h
  · exact h

theorem Remembers.countDatabase (h : s.Remembers) (f : Folder) (expression : String) :
    (s.countDatabase f expression).2.1.Remembers := by
  rw [Session.countDatabase]
  split
  · exact h.countMemory _ expression
  · exact h
  · exact h

/-- **What a session remembers was read from the text it stands for.** -/
theorem Started.remembers (h : s.Started) : s.Remembers := by
  induction h with
  | start compiler now =>
    rintro e t hlast
    cases hlast
  | cancel _ ih => exact ih
  | search f expression subset _ ih =>
    rw [Session.search]
    dsimp only
    cases f.route (effective expression) subset with
    | memory => exact ih.searchMemory f (effective expression) subset
    | database => exact ih.searchDatabase f (effective expression)
  | count f expression _ ih =>
    rw [Session.count]
    dsimp only
    cases f.route (effective expression) none with
    | memory => exact ih.countMemory f (effective expression)
    | database => exact ih.countDatabase f (effective expression)

/-! ### Answers -/

/-- The answer that both ways of searching come to. -/
def answer (s : Session) (f : Folder) (test : Summary → Bool) : Except SearchError (List String) :=
  if s.cancelled then .error .cancelled else .ok (f.found test)

theorem answer_eq_ok (hcancelled : s.cancelled = false) : s.answer f test = .ok (f.found test) := by
  rw [answer, hcancelled, if_neg (by decide)]

/-- The answer to an evaluation that reads no message. -/
theorem searchMemory_of_done (hs : s.Remembers) (hparse : Term.parse expression = .ok t)
    {r : Except SearchError Value} (heval : eval (f.scope f.uids s.now) none t = .done r) :
    (s.searchMemory f expression none).1 = if s.cancelled then .error .cancelled else r >>= Folder.hits f.uids := by
  obtain ⟨last, hlast⟩ := s.exists_last_of_read expression
  have hread : s.read expression = (.ok t, { s with last }) :=
    Prod.ext ((read_eq_parse hs expression).trans hparse) hlast
  have hworking : f.workingFor none = f.uids := rfl
  rw [searchMemory, hread]
  dsimp only [Folder.evaluate]
  rw [evaluate, hworking]
  by_cases hcancelled : s.cancelled = true
  · rw [if_pos hcancelled, if_pos hcancelled]
    rfl
  · rw [if_neg hcancelled, if_neg hcancelled, heval]
    cases r <;> rfl

/-- **In memory, a search comes to the messages that pass its test.** -/
theorem searchMemory_of_selects (hs : s.Remembers) (hnodup : f.uids.Nodup) (hparse : Term.parse expression = .ok t)
    (heval : ∃ hits, eval (f.scope f.uids s.now) none t = pure (.uids hits) ∧ (f.scope f.uids s.now).Selects test hits) :
    (s.searchMemory f expression none).1 = s.answer f test := by
  obtain ⟨hits, heval, hselects⟩ := heval
  rw [searchMemory_of_done hs hparse heval, answer, ← Folder.filter_contains_eq_found hnodup hselects]
  rfl

theorem searchMemory_eq_answer (hs : s.Remembers) (hnodup : f.uids.Nodup) (hparse : Term.parse expression = .ok t)
    (ht : Term.HasSearch s.now t test) : (s.searchMemory f expression none).1 = s.answer f test :=
  searchMemory_of_selects hs hnodup hparse (ht.eval rfl (Folder.complete_scope hnodup s.now))

/-- An expression that can be compiled is asked of a store whose table has the rows of the messages. -/
theorem exists_store_of_compile (hf : f.Ready) (hcompile : s.compiler.compile s.now expression = .ok e) :
    ∃ store : Store, (store.table? f.table).map (·.rows) = some (f.catalog.summaries.map Summary.row) ∧
      (s.searchDatabase f expression).1 = (if s.cancelled then .error .cancelled else
        orIfMissing [] ((store.uidsWhere f.table e).map fun found => f.uids.filter fun uid => found.contains uid)) ∧
      (s.countDatabase f expression).1 = if s.cancelled then .error .cancelled else
        orIfMissing 0 (store.count f.table e) := by
  obtain ⟨store, hsave, hrows⟩ := hf.exists_saveChanges
  have hplan : s.plan f expression = (if s.cancelled then .fail .cancelled else .ask store e,
      { f with store := some store, dirty := false }) := by
    rw [plan, hsave]
    dsimp only
    rw [hcompile]
  refine ⟨store, hrows, ?_⟩
  rw [searchDatabase, countDatabase, hplan]
  by_cases hcancelled : s.cancelled = true
  · simp only [hcancelled, if_true, and_self]
  · simp only [hcancelled, if_false, Bool.false_eq_true, and_true]
    rfl

/-- The answers of the database to a condition are made of the messages of whose rows it is true, as it is read. -/
theorem database_of_isTakenFor (hf : f.Ready) (he : IsTakenFor e.sql e' (f.catalog.summaries.map Summary.row))
    (hcompile : s.compiler.compile s.now expression = .ok e) :
    (s.searchDatabase f expression).1 = (s.answer f fun m => e'.isTrueOf m.row) ∧
      (s.countDatabase f expression).1 = (s.answer f fun m => e'.isTrueOf m.row).map (·.length) := by
  obtain ⟨store, hrows, hsearch, hcount⟩ := exists_store_of_compile hf hcompile
  rw [hsearch, hcount, answer, Store.uidsWhere_eq hf.name hrows he, Store.count_eq hf.name hrows he]
  by_cases hcancelled : s.cancelled = true
  · rw [if_pos hcancelled, if_pos hcancelled, if_pos hcancelled]
    exact ⟨rfl, rfl⟩
  · rw [if_neg hcancelled, if_neg hcancelled, if_neg hcancelled]
    constructor
    · -- The store gives the uids in the order of its rows; they are picked from the folder in its own order.
      show Except.ok (f.uids.filter fun uid => (f.found fun m => e'.isTrueOf m.row).contains uid) = _
      rw [Folder.filter_found_eq_found hf.nodup]
    · show Except.ok (f.catalog.summaries.filter fun m => e'.isTrueOf m.row).length =
        Except.ok (f.found fun m => e'.isTrueOf m.row).length
      rw [Folder.found, List.length_map]

/-- The fault of the database is the answer where it refuses the condition. -/
theorem database_of_isRefused (hf : f.Ready) (he : IsRefused e.sql (f.catalog.summaries.map Summary.row))
    (hcompile : s.compiler.compile s.now expression = .ok e) :
    (s.searchDatabase f expression).1 = (if s.cancelled then .error .cancelled else .error .store) ∧
      (s.countDatabase f expression).1 = if s.cancelled then .error .cancelled else .error .store := by
  obtain ⟨store, hrows, hsearch, hcount⟩ := exists_store_of_compile hf hcompile
  rw [hsearch, hcount, Store.uidsWhere_eq_map, Store.count_eq_map, Store.rowsWhere_of_isRefused hrows he]
  exact ⟨rfl, rfl⟩

/-! ### Limits -/

/-- The condition that an expression is compiled to is within the limits of the database. -/
def Fits (s : Session) (expression : String) : Prop :=
  ∀ e, s.compiler.compile s.now expression = .ok e → e.WithinLimits

instance (s : Session) (expression : String) : Decidable (s.Fits expression) :=
  decidable_of_iff (∀ e ∈ (s.compiler.compile s.now expression).toOption, e.WithinLimits)
    ⟨fun h e he => h e (by rw [he]; rfl), fun h e he => h e (eq_ok_of_toOption he)⟩

theorem Fits.of_compile (hcompile : s.compiler.compile s.now expression = .ok e) (he : e.WithinLimits) :
    s.Fits expression := by
  intro e' he'
  rw [hcompile] at he'
  cases he'
  exact he

/-- A condition that says something can be read back, unless it was written by hand. -/
theorem isReadable_of_compile (hparse : Term.parse expression = .ok t) (hnone : t.WritesNone) (he : e.Definite)
    (hcompile : s.compiler.compile s.now expression = .ok e) : e.IsReadable := by
  refine (s.compiler.isReadable_of_compile (.of_parse hparse hnone) hcompile).resolve_left ?_
  rintro rfl
  exact he.sql_ne_empty rfl

/-- **The database answers with the messages of whose rows the condition is true, or it refuses the condition**, which is
beyond the limits then. -/
theorem database_eq_or_refused (hf : f.Ready) (hparse : Term.parse expression = .ok t) (hnone : t.WritesNone)
    (he : e.Definite) (hcompile : s.compiler.compile s.now expression = .ok e) :
    ((s.searchDatabase f expression).1 = (s.answer f fun m => e.isTrueOf m.row) ∧
      (s.countDatabase f expression).1 = (s.answer f fun m => e.isTrueOf m.row).map (·.length)) ∨
    ¬ s.Fits expression ∧ (s.searchDatabase f expression).1 = .error .store ∧
      (s.countDatabase f expression).1 = .error .store := by
  obtain htaken | ⟨hbeyond, hrefused⟩ := he.isTakenFor_or_isRefused (isReadable_of_compile hparse hnone he hcompile)
    (f.catalog.summaries.map Summary.row)
  · have hanswer := database_of_isTakenFor hf htaken hcompile
    simp only [e.isTrueOf_narrow] at hanswer
    exact .inl hanswer
  · obtain ⟨hsearch, hcount⟩ := database_of_isRefused hf hrefused hcompile
    by_cases hcancelled : s.cancelled = true
    · rw [hsearch, hcount, answer, if_pos hcancelled, if_pos hcancelled, if_pos hcancelled]
      exact .inl ⟨rfl, rfl⟩
    · rw [if_neg hcancelled] at hsearch hcount
      exact .inr ⟨fun hfits => hbeyond (hfits e hcompile), hsearch, hcount⟩

/-- **The database refuses a condition that is too high.** -/
theorem searchDatabase_of_not_isShallow (hf : f.Ready) (hparse : Term.parse expression = .ok t) (hnone : t.WritesNone)
    (he : e.Definite) (hcompile : s.compiler.compile s.now expression = .ok e) (hhigh : e.isShallow = false)
    (hcancelled : s.cancelled = false) : (s.searchDatabase f expression).1 = .error .store := by
  have hrefused := he.isRefused (isReadable_of_compile hparse hnone he hcompile) hhigh
    (f.catalog.summaries.map Summary.row)
  rw [(database_of_isRefused hf hrefused hcompile).1, hcancelled, if_neg (by decide)]

/-! ### Searches -/

/-- The compiler of terms makes the condition that a term is lowered to. -/
theorem compile_tree_eq (htree : s.compiler = .tree) (hparse : Term.parse expression = .ok t) :
    s.compiler.compile s.now expression = Sql.Tree.compileTerm s.now t := by
  rw [htree]
  show Sql.Tree.compile s.now expression = _
  rw [Sql.Tree.compile, hparse]

/-- A search is compiled to a condition that decides its test. -/
theorem exists_compile (htree : s.compiler = .tree) (hparse : Term.parse expression = .ok t)
    (ht : Term.HasSearch s.now t test) :
    ∃ e, s.compiler.compile s.now expression = .ok e ∧ e.Decides test := by
  obtain ⟨o, hlower, hdecides⟩ := ht.lower
  obtain ⟨e, hfinish, he⟩ := hdecides.finish
  refine ⟨e, ?_, he⟩
  rw [compile_tree_eq htree hparse, Sql.Tree.compileTerm, hlower]
  exact hfinish

/-- A condition that decides a test is true of the rows of the messages that pass it. -/
theorem answer_of_decides (he : e.Decides test) (hsummaries : ∀ m ∈ f.catalog.summaries, m.Searchable) :
    (s.answer f fun m => e.isTrueOf m.row) = s.answer f test := by
  -- The condition is never unknown on a row, so that the rows left out are those of which it is false.
  have hfound : (f.found fun m => e.isTrueOf m.row) = f.found test := Folder.found_congr fun m hm => by
    rw [Expr.isTrueOf, he.truth (hsummaries m hm)]
    cases test m <;> rfl
  rw [answer, answer, hfound]

theorem countMemory_eq_answer (hs : s.Remembers) (hnodup : f.uids.Nodup) (hparse : Term.parse expression = .ok t)
    (ht : Term.HasSearch s.now t test) :
    (s.countMemory f expression).1 = (s.answer f test).map (·.length) := by
  rw [countMemory, ← searchMemory_eq_answer hs hnodup hparse ht]

/-- **A search comes to the messages that pass its test, or the database refuses it** beyond its limits. -/
theorem search_eq_answer_or_refused (hs : s.Remembers) (hf : f.Ready)
    (hsummaries : ∀ m ∈ f.catalog.summaries, m.Searchable) (htree : s.compiler = .tree)
    (hparse : Term.parse (effective expression) = .ok t) (hnone : t.WritesNone) (ht : Term.HasSearch s.now t test) :
    ((s.search f expression none).1 = s.answer f test ∧
      (s.count f expression).1 = (s.answer f test).map (·.length)) ∨
    ¬ s.Fits (effective expression) ∧ (s.search f expression none).1 = .error .store ∧
      (s.count f expression).1 = .error .store := by
  rw [search, count]
  dsimp only
  cases f.route (effective expression) none with
  | memory => exact .inl ⟨searchMemory_eq_answer hs hf.nodup hparse ht, countMemory_eq_answer hs hf.nodup hparse ht⟩
  | database =>
    obtain ⟨e, hcompile, he⟩ := exists_compile htree hparse ht
    rw [← answer_of_decides he hsummaries]
    exact database_eq_or_refused hf hparse hnone he.definite hcompile

/-- **Memory and database answer alike, or the database refuses.** In a folder that was written to its store and changed
since, an expression of `Term.IsSearch` is always answered in memory, if the subjects are printable. With the database,
the search has the same answer and so has counting, unless the condition is beyond the limits of the database and it
refuses both. -/
theorem search_memoryOnly (hf : f.Synced) (hsummaries : ∀ m ∈ f.catalog.summaries, m.Searchable) (hs : s.Started)
    (htree : s.compiler = .tree) (hparse : Term.parse (effective expression) = .ok t) (ht : t.IsSearch) :
    ((s.count { f with memoryOnly := true } expression).1 =
        (s.search { f with memoryOnly := true } expression none).1.map (·.length) ∧
      (s.cancelled = false → ∃ uids, (s.search { f with memoryOnly := true } expression none).1 = .ok uids)) ∧
    (((s.search f expression none).1 = (s.search { f with memoryOnly := true } expression none).1 ∧
        (s.count f expression).1 = (s.count { f with memoryOnly := true } expression).1) ∨
      ¬ s.Fits (effective expression) ∧ (s.search f expression none).1 = .error .store ∧
        (s.count f expression).1 = .error .store) := by
  obtain ⟨test, htest⟩ := Term.exists_search s.now ht
  have hnodup := hf.ready.nodup
  have hsearch : (s.search { f with memoryOnly := true } expression none).1 = s.answer f test :=
    searchMemory_eq_answer (f := { f with memoryOnly := true }) hs.remembers hnodup hparse htest
  have hcount : (s.count { f with memoryOnly := true } expression).1 = (s.answer f test).map (·.length) :=
    countMemory_eq_answer (f := { f with memoryOnly := true }) hs.remembers hnodup hparse htest
  rw [hsearch, hcount]
  refine ⟨⟨rfl, fun hcancelled => ⟨f.found test, answer_eq_ok hcancelled⟩⟩, ?_⟩
  exact search_eq_answer_or_refused hs.remembers hf.ready hsummaries htree hparse ht.writesNone htest

theorem search_memoryOnly_unseen :
    let raws := [("1", Ascii.bytes "Subject: Re: a\n\n"), ("2", Ascii.bytes "Subject: b\n\n"),
      ("3", Ascii.bytes "Subject: c\n\n")]
    let f := (((Folder.ofMessages "in" raws).attachStore .empty).syncStore.2).setFlag "2" Flags.seen true
    let s := Session.start .tree 0
    let text := "(not (match-all (or (system-flag \"seen\") (header-starts-with \"subject\" \"re:\"))))"
    f.route text none = .database ∧ s.Fits (effective text) ∧ (s.search f text none).1 = .ok ["3"] ∧
      (s.search f text none).1 = (s.search { f with memoryOnly := true } text none).1 ∧
      (s.count f text).1 = (s.count { f with memoryOnly := true } text).1 ∧
      (s.count { f with memoryOnly := true } text).1 =
        (s.search { f with memoryOnly := true } text none).1.map (·.length) := by
  intro raws f s text
  have hsynced : f.Synced := by
    have hsync : ((Folder.ofMessages "in" raws).attachStore .empty).syncStore =
        (.ok 3, ((Folder.ofMessages "in" raws).attachStore .empty).syncStore.2) :=
      Prod.ext (eq_ok_of_toOption (by decide +kernel)) rfl
    exact .setFlag "2" Flags.seen true (.syncStore rfl hsync)
  have hsummaries : ∀ m ∈ f.catalog.summaries, m.Searchable := by decide +kernel
  have hparse : Term.parse (effective text) = .ok (.call "not" [.call "match-all" [.call "or"
      [.call "system-flag" [.string "seen"], .call "header-starts-with" [.string "subject", .string "re:"]]]]) :=
    eq_ok_of_toOption (by decide +kernel)
  have hsearch : Term.IsSearch (.call "not" [.call "match-all" [.call "or"
      [.call "system-flag" [.string "seen"], .call "header-starts-with" [.string "subject", .string "re:"]]]]) := by
    refine .not (.matchAll (.or (fun a ha => ?_) (by decide)))
    rcases List.mem_cons.1 ha with rfl | ha
    · exact .systemFlag "seen"
    · obtain rfl := List.mem_singleton.1 ha
      show Term.IsTest (.call "header-starts-with" (.string "subject" :: ["re:"].map .string))
      refine .startsWith fun p hp => ?_
      obtain rfl := List.mem_singleton.1 hp
      exact ⟨by decide +kernel, by decide +kernel, by decide +kernel⟩
  have hfits : s.Fits (effective text) := by decide +kernel
  obtain ⟨⟨hlength, -⟩, halike⟩ := search_memoryOnly hsynced hsummaries (.start .tree 0) rfl hparse hsearch
  obtain ⟨hsame, hcount⟩ := halike.resolve_right fun hrefused => hrefused.1 hfits
  exact ⟨by decide +kernel, hfits, eq_ok_of_toOption (by decide +kernel), hsame, hcount, hlength⟩

end Session

/-! ### Conjunctions that are too high -/

/-- The search for a conjunction of truth values. -/
def Term.conjunction (n : Nat) : Term := .call "match-all" [.call "and" (List.replicate n (.bool true))]

namespace Term

theorem isSearch_conjunction (n : Nat) : (conjunction (n + 1)).IsSearch := by
  refine .matchAll (.and (fun a ha => ?_) (List.cons_ne_nil _ _))
  rw [List.eq_of_mem_replicate ha]
  exact .bool true

theorem parse_conjunction (n : Nat) : Term.parse (toString (conjunction n)) = .ok (conjunction n) := by
  refine parse_write (.call (by decide +kernel) (List.forall_mem_singleton.2 (.call (by decide +kernel) fun a ha => ?_)))
  rw [List.eq_of_mem_replicate ha]
  exact .bool true

/-- The characters that the text of such a search is made of. -/
def conjunctionChars : List Char := "(match-l nd#)".toList

theorem mem_conjunctionChars {n : Nat} {c : Char} (h : c ∈ (toString (conjunction n)).toList) : c ∈ conjunctionChars := by
  have hargs : ∀ n, ∀ c ∈ writeArgs (List.replicate n (.bool true)), c ∈ conjunctionChars := by
    intro n
    induction n with
    | zero => simp [writeArgs]
    | succ n ih =>
      have hfirst : ∀ c ∈ ' ' :: write (.bool true), c ∈ conjunctionChars := by decide
      rw [List.replicate_succ, writeArgs]
      exact List.forall_mem_append.2 ⟨hfirst, ih⟩
  have hopen : ∀ c ∈ "(match-all (and".toList, c ∈ conjunctionChars := by decide
  have hclose : ∀ c ∈ [')', ')'], c ∈ conjunctionChars := by decide
  have htext : (toString (conjunction n)).toList =
      "(match-all (and".toList ++ (writeArgs (List.replicate n (.bool true)) ++ [')', ')']) := by
    show (String.ofList (conjunction n).write).toList = _
    simp [conjunction, write, writeArgs]
  rw [htext, List.mem_append, List.mem_append] at h
  exact h.elim (hopen c) fun h => h.elim (hargs n c) (hclose c)

/-- In each name of a function that needs messages there is some other character. -/
theorem needsMemory_conjunction (n : Nat) : needsMemory (toString (conjunction n)) = false := by
  have hnames : (memoryOnly.all fun f => f.name.toList.any fun c => !conjunctionChars.contains c) = true := by
    decide +kernel
  refine List.any_eq_false.2 fun f hf hinfix => ?_
  obtain ⟨c, hc, hother⟩ := List.any_eq_true.1 (List.all_eq_true.1 hnames f hf)
  rw [Bool.not_eq_true', ← Bool.not_eq_true, List.contains_iff_mem] at hother
  exact hother (mem_conjunctionChars ((isInfix_iff.1 hinfix).subset hc))

/-- The conditions of the parts are put beside each other. -/
theorem compile_conjunction (now : Int64) (n : Nat) :
    Tree.compileTerm now (conjunction (n + 1)) = .ok (.enclosed true (.chain n)) := by
  have hargs : ∀ n, Tree.lowerAll now (List.replicate n (.bool true)) = .ok (List.replicate n (.bool true)) := fun n =>
    Tree.lowerAll_eq (List.forall₂_iff_get.2 ⟨by simp, fun i _ _ => by simp [Tree.lower]⟩)
  have hparts : ∀ n, Operand.parts true (List.replicate n (.bool true)) = .ok (List.replicate n (.truth true)) := by
    intro n
    induction n with
    | zero => rfl
    | succ n ih =>
      rw [List.replicate_succ, Operand.parts, ih]
      rfl
  have hlower : Tree.lower now (conjunction (n + 1)) = .ok (.condition (.enclosed true (.chain n))) := by
    rw [conjunction, Tree.lower_matchAll (by simp)]
    show Tree.lower now (.call Stack.Logic.and.name _) = _
    rw [Tree.lower_logic, hargs]
    show Operand.join true _ = _
    rw [Operand.join, hparts]
    rfl
  rw [Tree.compileTerm, hlower]
  rfl

end Term

theorem Sql.Expr.plain_chain (n : Nat) : (chain n).Plain := by
  induction n with
  | zero => exact .truth true
  | succ n ih =>
    rw [chain_succ]
    exact ih.binary .and (.truth true)

namespace Session

variable {s : Session} {f : Folder}

/-- **A conjunction of more than a thousand parts is refused by the database**, though each part is the constant true. -/
theorem searchDatabase_conjunction (hf : f.Synced) (htree : s.compiler = .tree) (hcancelled : s.cancelled = false) {n : Nat}
    (h : maxHeight ≤ n) : (s.searchDatabase f (toString (Term.conjunction (n + 1)))).1 = .error .store := by
  have hparse := Term.parse_conjunction (n + 1)
  have hcompile := (compile_tree_eq htree hparse).trans (Term.compile_conjunction s.now n)
  have hhigh : (Expr.enclosed true (.chain n)).isShallow = false := by
    show (Expr.chain n).isShallow = false
    rw [Expr.isShallow_chain, decide_eq_false (Nat.not_lt.2 h)]
  exact searchDatabase_of_not_isShallow hf.ready hparse (Term.isSearch_conjunction n).writesNone
    ((Expr.plain_chain n).enclosed true).definite hcompile hhigh hcancelled

theorem search_conjunction (hf : f.Synced) (hmemory : f.memoryOnly = false) (htree : s.compiler = .tree)
    (hcancelled : s.cancelled = false) {n : Nat} (h : maxHeight ≤ n) :
    (s.search f (toString (Term.conjunction (n + 1))) none).1 = .error .store := by
  have hroute : f.route (toString (Term.conjunction (n + 1))) none = .database := by
    obtain ⟨store, hstore, -⟩ := hf.ready.store
    rw [Folder.route, hmemory, hstore, Term.needsMemory_conjunction]
    rfl
  rw [search_of_route_database (effective_of_parse (Term.parse_conjunction (n + 1))) hroute]
  exact searchDatabase_conjunction hf htree hcancelled h

/-- In memory, such a conjunction has an answer. -/
theorem search_conjunction_memoryOnly (hs : s.Started) (hf : f.Synced) (hcancelled : s.cancelled = false) (n : Nat) :
    ∃ uids, (s.search { f with memoryOnly := true } (toString (Term.conjunction (n + 1))) none).1 = .ok uids := by
  have hparse := Term.parse_conjunction (n + 1)
  obtain ⟨test, htest⟩ := Term.exists_search s.now (Term.isSearch_conjunction n)
  have hmemory := searchMemory_eq_answer hs.remembers (hf.setMemoryOnly true).ready.nodup hparse htest
  rw [answer_eq_ok hcancelled] at hmemory
  exact ⟨_, (congrArg Prod.fst (search_of_route_memory (effective_of_parse hparse) rfl)).trans hmemory⟩

/-- A conjunction of 1001 constants is answered in memory, and refused by the database. -/
theorem not_forall_search_memoryOnly :
    ¬ ∀ (s : Session) (f : Folder) (expression : String) (t : Term), f.Synced →
      (∀ m ∈ f.catalog.summaries, m.Searchable) → s.Started → s.compiler = .tree →
      Term.parse (effective expression) = .ok t → t.IsSearch →
      (s.search { f with memoryOnly := true } expression none).1 = (s.search f expression none).1 := by
  intro h
  let f := ((Folder.ofMessages "in" [("1", Ascii.bytes "Subject: a\n\n")]).attachStore .empty).syncStore.2
  let s := start .tree 0
  have hsync : ((Folder.ofMessages "in" [("1", Ascii.bytes "Subject: a\n\n")]).attachStore .empty).syncStore = (.ok 1, f) :=
    Prod.ext (eq_ok_of_toOption (by decide +kernel)) rfl
  have hsynced : f.Synced := .syncStore rfl hsync
  have hsummaries : ∀ m ∈ f.catalog.summaries, m.Searchable := by decide +kernel
  have hstarted : s.Started := .start .tree 0
  have hparse := Term.parse_conjunction (maxHeight + 1)
  have heffective := effective_of_parse hparse
  have hdatabase := search_conjunction (s := s) hsynced (by decide +kernel) rfl rfl (Nat.le_refl maxHeight)
  obtain ⟨uids, hmemory⟩ := search_conjunction_memoryOnly hstarted hsynced rfl maxHeight
  have hsame := h s f _ _ hsynced hsummaries hstarted rfl (heffective.symm ▸ hparse) (Term.isSearch_conjunction maxHeight)
  rw [hmemory, hdatabase] at hsame
  cases hsame

end Session

end MailQuery
