import Mathlib.Data.List.TakeWhile
import MailQuery.Folder.Session
import MailQuery.Proofs.Expr.Spelling

/-!
# Expressions that need messages are never left to the database

Whether an expression needs messages is decided on its text, before anything is read: the name of a function that does
is looked for as a piece of the text. The scanner takes symbols from the text as they are (`infix_of_scan`), so that a
call is found however deep it stands and whatever is around it (`needsMemory_of_calls`). Strings may be found as well;
that costs time but changes no result.

`search_of_calls` says what follows for searches. It also says that a text which is left to the database has no
symbol of such a name, which holds of texts that are not terms too: a compiler that reads tokens meets none.
-/

namespace MailQuery

open Search Text

/-- A term in which a function is called, at any depth. -/
inductive Term.Calls (function : String) : Term → Prop where
  | here (args : List Term) : Calls function (.call function args)
  | inside {name : String} {args : List Term} {a : Term} (ha : a ∈ args) (h : Calls function a) :
      Calls function (.call name args)

/-! ### From calls to pieces of the text -/

namespace Term

/-- The name of a call is among the tokens of the term. -/
theorem Calls.symbol_mem_tokens {function : String} {t : Term} (h : t.Calls function) :
    Token.symbol function ∈ t.tokens := by
  induction h with
  | here args =>
    rw [tokens]
    exact List.mem_cons_of_mem _ (List.mem_cons_self ..)
  | inside ha _ ih =>
    rw [tokens]
    have hmem := mem_tokensAll_iff.2 ⟨_, ha, ih⟩
    exact List.mem_cons_of_mem _ (List.mem_cons_of_mem _ (List.mem_append_left _ hmem))

end Term

namespace Search

variable {text : String} {t : Term} {function : Builtin}

/-- An expression in which a symbol names such a function needs messages. -/
theorem needsMemory_of_symbol {lexemes : List Lexeme} (hfunction : function ∈ memoryOnly)
    (hscan : tokenize text = .ok lexemes) (hsymbol : Token.symbol function.name ∈ lexemes.map (·.token)) :
    needsMemory text = true :=
  List.any_eq_true.2 ⟨function, hfunction, isInfix_iff.2 (Token.infix_of_scan hscan hsymbol)⟩

/-- **An expression that calls such a function needs messages.** -/
theorem needsMemory_of_calls (hfunction : function ∈ memoryOnly) (hparse : Term.parse text = .ok t)
    (hcalls : t.Calls function.name) : needsMemory text = true := by
  obtain ⟨lexemes, hscan, htokens⟩ := Term.map_token_of_parse hparse
  exact needsMemory_of_symbol hfunction hscan (htokens ▸ hcalls.symbol_mem_tokens)

end Search

/-! ### Blank texts -/

theorem Text.forall_blank_of_trim {cs : List Char} (h : trim cs = []) : ∀ c ∈ cs, isBlank c = true := by
  have hstart : ∀ c ∈ trimStart cs, isBlank c = true := by
    rw [trim, trimEnd, List.reverse_eq_nil_iff, List.dropWhile_eq_nil_iff] at h
    exact fun c hc => h c (List.mem_reverse.2 hc)
  -- What is left at the start begins with a character that is not blank, unless nothing is left.
  refine List.dropWhile_eq_nil_iff.1 (List.eq_nil_iff_forall_not_mem.2 fun c hc => ?_)
  have hne : cs.dropWhile isBlank ≠ [] := List.ne_nil_of_mem hc
  have hhead := List.head_dropWhile_not isBlank hne
  rw [hstart _ (List.head_mem hne)] at hhead
  cases hhead

/-- A text that can be read stands for itself. -/
theorem effective_of_parse {text : String} {t : Term} (h : Term.parse text = .ok t) : effective text = text := by
  rw [effective]
  refine if_neg fun hempty => ?_
  have hscan : tokenize text = .ok [] := Token.scan_of_blank (forall_blank_of_trim (List.isEmpty_iff.1 hempty)) 0
  rw [Term.parse, hscan] at h
  cases h

/-! ### Searches -/

namespace Session

/-- What comes of a search or a count, with the cancellation over. -/
def finished {α : Type} (r : α × Session × Folder) : α × Session × Folder := (r.1, r.2.1.ended, r.2.2)

variable {s : Session} {f : Folder} {text : String}

theorem search_of_route_memory {subset : Option (List String)} (heffective : effective text = text)
    (hroute : f.route text subset = .memory) : s.search f text subset = finished (s.searchMemory f text subset) := by
  rw [search, heffective]
  dsimp only
  rw [hroute]
  rfl

theorem search_of_route_database {subset : Option (List String)} (heffective : effective text = text)
    (hroute : f.route text subset = .database) : s.search f text subset = finished (s.searchDatabase f text) := by
  rw [search, heffective]
  dsimp only
  rw [hroute]
  rfl

theorem count_of_route_memory (heffective : effective text = text) (hroute : f.route text none = .memory) :
    s.count f text = finished (s.countMemory f text) := by
  rw [count, heffective]
  dsimp only
  rw [hroute]
  rfl

end Session

theorem Folder.route_of_needsMemory {f : Folder} {text : String} (h : needsMemory text = true)
    (subset : Option (List String)) : f.route text subset = .memory := by
  rw [route, h, Bool.or_true]
  rfl

/-- **No expression that needs messages is left to the database.** If a text reads as a term that calls one of the
functions of `memoryOnly`, then it is evaluated on the messages in every folder and for every subset, in searches and in
counts. And a text that is left to the database has no symbol with the name of one of these functions, even if it
is not the text of a term. -/
theorem Session.search_of_calls (text : String) :
    (∀ t, ∀ function ∈ memoryOnly, Term.parse text = .ok t → t.Calls function.name →
      needsMemory text = true ∧ ∀ f : Folder,
        (∀ subset, f.route text subset = .memory) ∧
        ∀ s : Session, (∀ subset, s.search f text subset = finished (s.searchMemory f text subset)) ∧
          s.count f text = finished (s.countMemory f text)) ∧
    ∀ (f : Folder) (subset : Option (List String)) (lexemes : List Lexeme), f.route text subset = .database →
      tokenize text = .ok lexemes → ∀ function ∈ memoryOnly, Token.symbol function.name ∉ lexemes.map (·.token) := by
  constructor
  · intro t function hfunction hparse hcalls
    have hneeds := needsMemory_of_calls hfunction hparse hcalls
    have heffective := effective_of_parse hparse
    refine ⟨hneeds, fun f => ?_⟩
    have hroute := Folder.route_of_needsMemory (f := f) hneeds
    exact ⟨hroute, fun s => ⟨fun subset => search_of_route_memory heffective (hroute subset),
      count_of_route_memory heffective (hroute none)⟩⟩
  · intro f subset lexemes hroute hscan function hfunction hsymbol
    rw [Folder.route_of_needsMemory (needsMemory_of_symbol hfunction hscan hsymbol)] at hroute
    cases hroute

/-- A call that is nested, with a string right behind its name and white space of several kinds around it. -/
theorem Session.search_of_calls_nested :
    let text := "\n(match-all\u00a0( not\t( and #t(match-threads\"all\" ( system-flag'S')))))"
    let threads := Term.call "match-threads" [.string "all", .call "system-flag" [.string "S"]]
    let t := Term.call "match-all" [.call "not" [.call "and" [.bool true, threads]]]
    let f := (Folder.ofMessages "in" [("1", Ascii.bytes "Subject: a\n\n")]).attachStore .empty
    Builtin.matchThreads ∈ memoryOnly ∧ Term.parse text = .ok t ∧ t.Calls Builtin.matchThreads.name ∧
      needsMemory text = true ∧ f.route text none = .memory ∧ f.route text (some ["1"]) = .memory ∧
      f.route "(match-all #t)" none = .database ∧ tokenize "(match-all #t)" = .ok [⟨.openParen, 0⟩,
        ⟨.symbol "match-all", 1⟩, ⟨.bool true, 11⟩, ⟨.closeParen, 13⟩] ∧
      ∀ function ∈ memoryOnly, Token.symbol function.name ∉
        [Token.openParen, .symbol "match-all", .bool true, .closeParen] := by
  intro text threads t f
  have hfunction : Builtin.matchThreads ∈ memoryOnly := by decide
  have hparse : Term.parse text = .ok t := eq_ok_of_toOption (by decide +kernel)
  have hcalls : t.Calls Builtin.matchThreads.name := by
    have hmem : threads ∈ [Term.bool true, threads] := List.mem_cons_of_mem _ (List.mem_singleton.2 rfl)
    exact .inside (List.mem_singleton.2 rfl) (.inside (List.mem_singleton.2 rfl) (.inside hmem (.here _)))
  obtain ⟨hneeds, hsearch⟩ := (search_of_calls text).1 t _ hfunction hparse hcalls
  have hroute : f.route "(match-all #t)" none = .database := by decide +kernel
  have hscan : tokenize "(match-all #t)" = .ok [⟨.openParen, 0⟩, ⟨.symbol "match-all", 1⟩, ⟨.bool true, 11⟩,
      ⟨.closeParen, 13⟩] := eq_ok_of_toOption (by decide +kernel)
  exact ⟨hfunction, hparse, hcalls, hneeds, (hsearch f).1 none, (hsearch f).1 (some ["1"]), hroute, hscan,
    (search_of_calls "(match-all #t)").2 f none _ hroute hscan⟩

end MailQuery
