import MailQuery.Proofs.Routes.Agreement

/-!
# What a session carries from one call to the next

A session remembers the expression that it read last and whether the next search is cancelled. Neither can be
observed later. What is remembered was read from its text (`Remembers`), so that a session answers as it would after
forgetting it (`outcome_search_forget`); and every call lowers the flag that a cancellation raises.

`ask_after` is the main statement. It is about all sequences of calls, cancellations and changes of the folder.
-/

namespace MailQuery

open Search

namespace Session

/-- A question to a session. -/
inductive Call where
  | search (expression : String) (subset : Option (List String))
  | count (expression : String)

/-- What a call is answered with. -/
inductive Reply where
  | found (answer : Except SearchError (List String))
  | counted (answer : Except SearchError Nat)

/-- Whether a call failed. -/
def Reply.IsError : Reply → Prop
  | found answer => ∃ e, answer = .error e
  | counted answer => ∃ e, answer = .error e

/-- The reply to a call, with the session and the folder afterwards. -/
def ask (s : Session) (f : Folder) : Call → Reply × Session × Folder
  | .search expression subset =>
    match s.search f expression subset with
    | (answer, s, f) => (.found answer, s, f)
  | .count expression =>
    match s.count f expression with
    | (answer, s, f) => (.counted answer, s, f)

/-- What can happen to a session and the folder that it searches. -/
inductive Event where
  | call (c : Call)
  | cancel
  /-- The folder is changed in any way, or another one is searched from now on. -/
  | alter (change : Folder → Folder)

/-- The session and the folder after an event. -/
def next : Session × Folder → Event → Session × Folder
  | (s, f), .call c => (s.ask f c).2
  | (s, f), .cancel => (s.cancel, f)
  | (s, f), .alter change => (s, change f)

/-- The session and the folder after some events, one after another. -/
def after (s : Session) (f : Folder) (events : List Event) : Session × Folder := events.foldl next (s, f)

/-- Whether a cancellation is raised after an event. -/
def Event.raises (raised : Bool) : Event → Bool
  | call _ => false
  | cancel => true
  | alter _ => raised

/-- Whether a cancellation has been raised since the last call. -/
def isRaised (events : List Event) : Bool := events.foldl Event.raises false

/-! ### What is remembered -/

variable {s : Session} {f : Folder} {expression : String} {subset : Option (List String)}

/-- The session that has read nothing yet. -/
def forget (s : Session) : Session := { s with last := none }

/-- What can be observed of a call: its answer and the folder afterwards. -/
def outcome {α : Type} (r : α × Session × Folder) : α × Folder := (r.1, r.2.2)

theorem remembers_forget (s : Session) : s.forget.Remembers := by
  rintro e t hlast
  cases hlast

theorem exists_read (h : s.Remembers) (expression : String) :
    ∃ last, s.read expression = (Term.parse expression, { s with last }) := by
  obtain ⟨last, hlast⟩ := s.exists_last_of_read expression
  exact ⟨last, Prod.ext (read_eq_parse h expression) hlast⟩

theorem outcome_searchMemory_forget (h : s.Remembers) (f : Folder) (expression : String)
    (subset : Option (List String)) :
    outcome (s.searchMemory f expression subset) = outcome (s.forget.searchMemory f expression subset) := by
  obtain ⟨last, hread⟩ := exists_read h expression
  obtain ⟨last', hread'⟩ := exists_read s.remembers_forget expression
  rw [searchMemory, searchMemory, hread, hread']
  cases Term.parse expression with
  | error e => rfl
  | ok t =>
    -- The two evaluations are the same: what is remembered is not among what they look at.
    dsimp only [forget]
    cases f.evaluate (f.scope (f.workingFor subset) s.now) none s.cancelled t with
    | mk answer g => cases answer <;> rfl

theorem outcome_countMemory_forget (h : s.Remembers) (f : Folder) (expression : String) :
    outcome (s.countMemory f expression) = outcome (s.forget.countMemory f expression) :=
  congrArg (Prod.map (Except.map List.length) id) (outcome_searchMemory_forget h f expression none)

/-- A plan does not depend on what is remembered. -/
theorem plan_forget (s : Session) (f : Folder) (expression : String) :
    s.forget.plan f expression = s.plan f expression := rfl

theorem outcome_searchDatabase_forget (h : s.Remembers) (f : Folder) (expression : String) :
    outcome (s.searchDatabase f expression) = outcome (s.forget.searchDatabase f expression) := by
  rw [searchDatabase, searchDatabase, plan_forget]
  cases s.plan f expression with
  | mk plan g =>
    cases plan with
    | evaluate => exact outcome_searchMemory_forget h g expression none
    | ask store condition => rfl
    | fail e => rfl

theorem outcome_countDatabase_forget (h : s.Remembers) (f : Folder) (expression : String) :
    outcome (s.countDatabase f expression) = outcome (s.forget.countDatabase f expression) := by
  rw [countDatabase, countDatabase, plan_forget]
  cases s.plan f expression with
  | mk plan g =>
    cases plan with
    | evaluate => exact outcome_countMemory_forget h g expression
    | ask store condition => rfl
    | fail e => rfl

/-- **A search comes to the same when everything that was remembered is forgotten.** -/
theorem outcome_search_forget (h : s.Remembers) (f : Folder) (expression : String) (subset : Option (List String)) :
    outcome (s.search f expression subset) = outcome (s.forget.search f expression subset) := by
  rw [search, search]
  dsimp only
  cases f.route (effective expression) subset with
  | memory => exact outcome_searchMemory_forget h f (effective expression) subset
  | database => exact outcome_searchDatabase_forget h f (effective expression)

theorem outcome_count_forget (h : s.Remembers) (f : Folder) (expression : String) :
    outcome (s.count f expression) = outcome (s.forget.count f expression) := by
  rw [count, count]
  dsimp only
  cases f.route (effective expression) none with
  | memory => exact outcome_countMemory_forget h f (effective expression)
  | database => exact outcome_countDatabase_forget h f (effective expression)

theorem outcome_ask_forget (h : s.Remembers) (f : Folder) (c : Call) :
    outcome (s.ask f c) = outcome (s.forget.ask f c) := by
  cases c with
  | search expression subset =>
    exact congrArg (Prod.map Reply.found id) (outcome_search_forget h f expression subset)
  | count expression => exact congrArg (Prod.map Reply.counted id) (outcome_count_forget h f expression)

/-! ### Cancellation -/

section

variable (hcancelled : s.cancelled = true)

include hcancelled

theorem searchMemory_of_cancelled (f : Folder) (expression : String) (subset : Option (List String)) :
    ∃ e, (s.searchMemory f expression subset).1 = .error e := by
  obtain ⟨last, hlast⟩ := s.exists_last_of_read expression
  rw [searchMemory]
  cases hread : s.read expression with
  | mk answer s' =>
    rw [hread] at hlast
    obtain rfl : s' = { s with last } := hlast
    cases answer with
    | error e => exact ⟨e, rfl⟩
    | ok t =>
      dsimp only [Folder.evaluate]
      rw [Search.evaluate, if_pos hcancelled]
      exact ⟨.cancelled, rfl⟩

theorem countMemory_of_cancelled (f : Folder) (expression : String) :
    ∃ e, (s.countMemory f expression).1 = .error e := by
  obtain ⟨e, he⟩ := searchMemory_of_cancelled hcancelled f expression none
  refine ⟨e, ?_⟩
  show (s.searchMemory f expression none).1.map (·.length) = .error e
  rw [he]
  rfl

/-- The store is not asked on behalf of a search that is cancelled. -/
theorem plan_of_cancelled (f : Folder) (expression : String) (store : Store) (condition : Sql.Expr) :
    (s.plan f expression).1 ≠ .ask store condition := by
  intro hplan
  rw [plan] at hplan
  split at hplan
  · cases hplan
  · split at hplan
    · cases hplan
    · cases hplan
    · cases hplan
    · rw [if_pos hcancelled] at hplan
      cases hplan

theorem searchDatabase_of_cancelled (f : Folder) (expression : String) :
    ∃ e, (s.searchDatabase f expression).1 = .error e := by
  have hplan := plan_of_cancelled hcancelled f expression
  rw [searchDatabase]
  cases hanswer : s.plan f expression with
  | mk plan g =>
    cases plan with
    | evaluate => exact searchMemory_of_cancelled hcancelled g expression none
    | ask store condition => exact absurd (congrArg Prod.fst hanswer) (hplan store condition)
    | fail e => exact ⟨e, rfl⟩

theorem countDatabase_of_cancelled (f : Folder) (expression : String) :
    ∃ e, (s.countDatabase f expression).1 = .error e := by
  have hplan := plan_of_cancelled hcancelled f expression
  rw [countDatabase]
  cases hanswer : s.plan f expression with
  | mk plan g =>
    cases plan with
    | evaluate => exact countMemory_of_cancelled hcancelled g expression
    | ask store condition => exact absurd (congrArg Prod.fst hanswer) (hplan store condition)
    | fail e => exact ⟨e, rfl⟩

/-- **A call that is cancelled fails**, in whichever way it would be answered. -/
theorem ask_of_cancelled (f : Folder) (c : Call) : (s.ask f c).1.IsError := by
  cases c with
  | search expression subset =>
    show ∃ e, (s.search f expression subset).1 = .error e
    rw [search]
    dsimp only
    cases f.route (effective expression) subset with
    | memory => exact searchMemory_of_cancelled hcancelled f (effective expression) subset
    | database => exact searchDatabase_of_cancelled hcancelled f (effective expression)
  | count expression =>
    show ∃ e, (s.count f expression).1 = .error e
    rw [count]
    dsimp only
    cases f.route (effective expression) none with
    | memory => exact countMemory_of_cancelled hcancelled f (effective expression)
    | database => exact countDatabase_of_cancelled hcancelled f (effective expression)

end

/-! ### Runs -/

theorem exists_last_of_searchMemory (s : Session) (f : Folder) (expression : String) (subset : Option (List String)) :
    ∃ last, (s.searchMemory f expression subset).2.1 = { s with last } := by
  obtain ⟨last, hlast⟩ := s.exists_last_of_read expression
  refine ⟨last, ?_⟩
  rw [searchMemory]
  cases hread : s.read expression with
  | mk answer s' =>
    rw [hread] at hlast
    cases answer with
    | error e => exact hlast
    | ok t =>
      dsimp only
      split <;> exact hlast

theorem exists_last_of_searchDatabase (s : Session) (f : Folder) (expression : String) :
    ∃ last, (s.searchDatabase f expression).2.1 = { s with last } := by
  rw [searchDatabase]
  split
  · exact exists_last_of_searchMemory s _ expression none
  · exact ⟨s.last, rfl⟩
  · exact ⟨s.last, rfl⟩

theorem exists_last_of_countDatabase (s : Session) (f : Folder) (expression : String) :
    ∃ last, (s.countDatabase f expression).2.1 = { s with last } := by
  rw [countDatabase]
  split
  · exact exists_last_of_searchMemory s _ expression none
  · exact ⟨s.last, rfl⟩
  · exact ⟨s.last, rfl⟩

/-- A call changes what is remembered, and lowers the flag. -/
theorem exists_last_of_ask (s : Session) (f : Folder) (c : Call) :
    ∃ last, (s.ask f c).2.1 = { s with last, cancelled := false } := by
  have hended : ∀ {s' : Session}, (∃ last, s' = { s with last }) →
      ∃ last, s'.ended = { s with last, cancelled := false } := by
    rintro _ ⟨last, rfl⟩
    exact ⟨last, rfl⟩
  cases c with
  | search expression subset =>
    show ∃ last, (s.search f expression subset).2.1 = _
    rw [search]
    dsimp only
    cases f.route (effective expression) subset with
    | memory => exact hended (exists_last_of_searchMemory s f (effective expression) subset)
    | database => exact hended (exists_last_of_searchDatabase s f (effective expression))
  | count expression =>
    show ∃ last, (s.count f expression).2.1 = _
    rw [count]
    dsimp only
    cases f.route (effective expression) none with
    | memory => exact hended (exists_last_of_searchMemory s f (effective expression) none)
    | database => exact hended (exists_last_of_countDatabase s f (effective expression))

theorem Remembers.ask (h : s.Remembers) (f : Folder) (c : Call) : (s.ask f c).2.1.Remembers := by
  cases c with
  | search expression subset =>
    show (s.search f expression subset).2.1.Remembers
    rw [Session.search]
    dsimp only
    cases f.route (effective expression) subset with
    | memory => exact h.searchMemory f (effective expression) subset
    | database => exact h.searchDatabase f (effective expression)
  | count expression =>
    show (s.count f expression).2.1.Remembers
    rw [Session.count]
    dsimp only
    cases f.route (effective expression) none with
    | memory => exact h.countMemory f (effective expression)
    | database => exact h.countDatabase f (effective expression)

/-- A session that differs from a new one in what it remembers and in the flag alone. -/
structure Continues (compiler : Compiler) (now : Int64) (raised : Bool) (s : Session) : Prop where
  forget : s.forget = { start compiler now with cancelled := raised }
  remembers : s.Remembers

variable {compiler : Compiler} {now : Int64} {raised : Bool}

theorem Continues.next (h : s.Continues compiler now raised) (f : Folder) (e : Event) :
    (next (s, f) e).1.Continues compiler now (e.raises raised) := by
  cases e with
  | call c =>
    obtain ⟨last, hlast⟩ := s.exists_last_of_ask f c
    refine ⟨?_, h.remembers.ask f c⟩
    show (s.ask f c).2.1.forget = _
    rw [hlast]
    exact congrArg (fun s : Session => { s with cancelled := false }) h.forget
  | cancel => exact ⟨congrArg Session.cancel h.forget, h.remembers⟩
  | alter change => exact h

theorem Continues.after (h : s.Continues compiler now raised) (f : Folder) (events : List Event) :
    (s.after f events).1.Continues compiler now (events.foldl Event.raises raised) := by
  induction events generalizing s f raised with
  | nil => exact h
  | cons e events ih => exact ih (h.next f e) (Session.next (s, f) e).2

theorem continues_start (compiler : Compiler) (now : Int64) : (start compiler now).Continues compiler now false :=
  ⟨rfl, (start compiler now).remembers_forget⟩

/-- **Nothing of a session can be observed in a later call.** After any calls, cancellations and changes of the folder, a
call comes to what it would come to in a new session, unless a cancellation was raised since the last call; then it
fails. Whatever comes of a call, the flag is down when it has ended. -/
theorem ask_after (compiler : Compiler) (now : Int64) (f : Folder) (events : List Event) (c : Call) :
    let s := ((start compiler now).after f events).1
    let g := ((start compiler now).after f events).2
    (isRaised events = false → outcome (s.ask g c) = outcome ((start compiler now).ask g c)) ∧
      (isRaised events = true → (s.ask g c).1.IsError) ∧
      (s.ask g c).2.1.cancelled = false := by
  intro s g
  have hs : s.Continues compiler now (isRaised events) := (continues_start compiler now).after f events
  refine ⟨fun hlowered => ?_, fun hraised => ?_, ?_⟩
  · rw [outcome_ask_forget hs.remembers, hs.forget, hlowered]
    rfl
  · have hcancelled : s.cancelled = true := hraised ▸ congrArg Session.cancelled hs.forget
    exact ask_of_cancelled hcancelled g c
  · obtain ⟨last, hlast⟩ := s.exists_last_of_ask g c
    rw [hlast]

/-- An expression that cannot be read, and then a cancellation, stand before a search; the next call is answered as if
they had not. -/
theorem ask_after_cancel :
    let f := Folder.ofMessages "in" [("1", Ascii.bytes "Subject: a\n\n")]
    let events := [Event.call (.count "(match-all"), .cancel]
    let later := events ++ [.call (.search "(match-all)" none), .alter fun f => f.setFlag "1" Mail.Flags.seen true]
    let s := (start .tree 0).after f events
    let s' := (start .tree 0).after f later
    (isRaised events = true ∧ (s.1.ask s.2 (.search "(match-all)" none)).1.IsError) ∧
      isRaised later = false ∧ s'.1.last.isSome = true ∧
      outcome (s'.1.ask s'.2 (.count "(match-all)")) = outcome ((start .tree 0).ask s'.2 (.count "(match-all)")) := by
  intro f events later s s'
  have hraised : isRaised events = true := rfl
  have hlowered : isRaised later = false := rfl
  have hlast : s'.1.last.isSome = true := by decide +kernel
  exact ⟨⟨hraised, (ask_after .tree 0 f events (.search "(match-all)" none)).2.1 hraised⟩, hlowered, hlast,
    (ask_after .tree 0 f later (.count "(match-all)")).1 hlowered⟩

end Session

end MailQuery
