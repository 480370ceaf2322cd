import MailQuery.Proofs.Compilers.Conditions
import MailQuery.Proofs.Evaluation.Settling
import MailQuery.Proofs.Routes.Agreement
import MailQuery.Proofs.Routes.Coverings
import MailQuery.Proofs.Routes.Routing

/-!
# The database loses no message

`IsPositive` are the terms without negation over flags, labels, tags and subjects. Unlike `Term.IsSearch` they may have
wildcards in their patterns, and tests may stand outside of `match-all`, where they find nothing or are true of everything.
The two ways of answering need not agree on them: the database compares texts more loosely.

A term is covered by a condition (`Covered`) if it is lowered to it and the condition is true of the row of each message
that a value of the term includes. Every positive term is covered by one (`exists_covering`), so that what is found in memory
is found in the database as well, unless it refuses the condition: `Session.search_found_of_memoryOnly` is the main
statement.
-/

namespace MailQuery

open Mail Sql Text Search

namespace Term

variable {now : Int64} {t : Term} {e : Expr}

/-- Conditions that are put together without negation. Texts that the database compares have no character 0 in them, at
which it would stop. -/
inductive IsPositive : Term → Prop where
  | bool (b : Bool) : IsPositive (.bool b)
  | everyMessage : IsPositive (.call "match-all" [])
  | systemFlag (name : String) : IsPositive (.call "system-flag" [.string name])
  | userFlag {label : String} (h : '\x00' ∉ label.toList) : IsPositive (.call "user-flag" [.string label])
  | userTag {name value : String} (hcompleted : name ≠ "completed-on") (hfollow : name ≠ "follow-up")
      (h : '\x00' ∉ value.toList) : IsPositive (.call "=" [.call "user-tag" [.string name], .string value])
  | subject {style : MatchStyle} (hstyle : Operand.IsWholeStyle style) {patterns : List String}
      (h : ∀ p ∈ patterns, IsPrintable p.toList) :
      IsPositive (.call (Builtin.header style).name (.string "subject" :: patterns.map .string))
  | matchAll {t : Term} (h : IsPositive t) : IsPositive (.call "match-all" [t])
  | and {args : List Term} (hargs : ∀ a ∈ args, IsPositive a) (hne : args ≠ []) : IsPositive (.call "and" args)
  | or {args : List Term} (hargs : ∀ a ∈ args, IsPositive a) (hne : args ≠ []) : IsPositive (.call "or" args)

theorem IsPositive.writesNone (h : t.IsPositive) : t.WritesNone := by
  induction h with
  | bool b => exact writesNone_bool b
  | everyMessage => exact writesNone_strings (by decide) []
  | systemFlag text | @userFlag text _ => exact writesNone_strings (by decide) [text]
  | @userTag name value _ _ _ =>
    have htag : WritesNone (.call "user-tag" [.string name]) := writesNone_strings (by decide) [name]
    refine writesNone_call_iff.2 ⟨by decide, List.forall_mem_cons.2 ⟨htag, ?_⟩⟩
    exact List.forall_mem_singleton.2 (writesNone_string value)
  | @subject style hstyle patterns _ =>
    exact writesNone_strings (by rcases hstyle with rfl | rfl | rfl <;> decide) ("subject" :: patterns)
  | matchAll _ ih => exact writesNone_call_iff.2 ⟨by decide, List.forall_mem_singleton.2 ih⟩
  | and _ _ ih => exact writesNone_call_iff.2 ⟨by decide, ih⟩
  | or _ _ ih => exact writesNone_call_iff.2 ⟨by decide, ih⟩

/-- A term is lowered to a condition that is true of the row of each message which a value of the term includes. -/
structure Covered (now : Int64) (t : Term) (e : Expr) : Prop where
  lower : ∃ o, Tree.lower now t = .ok o ∧ o.Asks e
  eval : ∀ (s : Scope) (current : Option Summary), (Search.eval s current t).Settles
    fun v => ∀ m, s.Concerns m current → v.Includes m.uid → m.Legible → e.isTrueOf m.row = true

/-! ### Tests -/

theorem lower_call_string {name : String} {f : Builtin} {take : Stack.Take} (hname : Builtin.ofName? name = some f)
    (htake : Stack.take? f = some take) (text : String) :
    Tree.lower now (.call name [.string text]) = Operand.call now f [.string text] := by
  have htext : Tree.lower now (.string text) = .ok (.string text) := by rw [Tree.lower]
  rw [Tree.lower_call hname htake, Tree.lowerAll_eq (.cons htext .nil)]
  rfl

theorem eval_call_string {name : String} {f : Builtin} (hname : Builtin.ofName? name = some f) (hf : f.IsStrict)
    (s : Scope) (current : Option Summary) (text : String) :
    Search.eval s current (.call name [.string text]) = apply s current f [.string text] := by
  have htext : Search.eval s current (.string text) = pure (.string text) := by rw [Search.eval]
  exact eval_call_eq hname hf (.cons htext .nil)

theorem Covered.bool (b : Bool) : Covered now (.bool b) (.truth b) := by
  refine ⟨⟨.bool b, by rw [Tree.lower], .bool b⟩, fun s current => ?_⟩
  rw [Search.eval]
  refine .pure fun m _ hincludes _ => ?_
  rw [Expr.isTrueOf_truth]
  exact hincludes

theorem Covered.everyMessage : Covered now (.call "match-all" []) (.truth true) := by
  refine ⟨⟨_, Tree.lower_everyMessage, .condition (Expr.Plain.truth true).definite⟩, fun s current => ?_⟩
  rw [eval_matchAll_nil ofName?_matchAll]
  exact settles_judge fun m => .pure fun _ _ => Expr.isTrueOf_truth

theorem exists_covering_systemFlag (now : Int64) (name : String) :
    ∃ e, Covered now (.call "system-flag" [.string name]) e := by
  have hname : Builtin.ofName? "system-flag" = some .systemFlag := by decide +kernel
  obtain ⟨e, hflag, hplain, htruth⟩ := Operand.exists_flagSet name
  refine ⟨e, ⟨.condition e, ?_, .condition hplain.definite⟩, fun s current => ?_⟩
  · rw [lower_call_string hname rfl]
    exact congrArg Except.ok hflag
  · rw [eval_call_string hname trivial]
    show (pure (verdict current fun m => m.flags.isSet name) : Reading Value).Settles _
    refine settles_verdict fun m hset _ => ?_
    rw [Expr.isTrueOf, htruth m, hset]
    rfl

/-- A label is looked for in the text of all labels. -/
theorem Covered.userFlag {label : String} (h : '\x00' ∉ label.toList) :
    Covered now (.call "user-flag" [.string label]) (.enclosed false (.hasInfix .labels label)) := by
  have hname : Builtin.ofName? "user-flag" = some .userFlag := by decide +kernel
  refine ⟨⟨_, ?_, .condition ((Expr.Definite.hasInfix .labels h).enclosed false)⟩, fun s current => ?_⟩
  · rw [lower_call_string hname rfl]
    rfl
  · rw [eval_call_string hname trivial]
    show (pure (verdict current fun m => [label].any m.hasUserFlag) : Reading Value).Settles _
    refine settles_verdict fun m hlabel hm => ?_
    have hmem : label ∈ m.userFlags := by
      rw [List.any_cons, List.any_nil, Bool.or_false] at hlabel
      exact TextSet.contains_iff.1 hlabel
    exact hasInfix_isTrueOf rfl hm.nul_not_mem_labelsText h (Summary.infix_labelsText hmem)

/-- The value of a tag is looked for in the text of all tags. Without a current message every tag is empty, and the empty
value stands in every text. -/
theorem Covered.userTag {name value : String} (hcompleted : name ≠ "completed-on") (hfollow : name ≠ "follow-up")
    (h : '\x00' ∉ value.toList) :
    Covered now (.call "=" [.call "user-tag" [.string name], .string value]) (.enclosed true (.hasInfix .tags value)) := by
  have hname : Builtin.ofName? "user-tag" = some .userTag := by decide +kernel
  have hequal : Builtin.ofName? "=" = some (.compare .equal) := by decide +kernel
  refine ⟨⟨_, ?_, .condition ((Expr.Definite.hasInfix .tags h).enclosed true)⟩, fun s current => ?_⟩
  · have htag : Tree.lower now (.call "user-tag" [.string name]) = .ok (.scalar (.column .tags)) := by
      rw [lower_call_string hname rfl]
      show Except.ok (if name = "completed-on" then _ else if name = "follow-up" then _ else _) = _
      rw [if_neg hcompleted, if_neg hfollow]
    have hvalue : Tree.lower now (.string value) = .ok (.string value) := by rw [Tree.lower]
    rw [Tree.lower_call hequal rfl, Tree.lowerAll_eq (.cons htag (.cons hvalue .nil))]
    rfl
  · have htag : Search.eval s current (.call "user-tag" [.string name]) =
        pure (.string (current.elim "" fun m => m.userTag name)) := by
      rw [eval_call_string hname trivial]
      rfl
    have hvalue : Search.eval s current (.string value) = pure (.string value) := by rw [Search.eval]
    rw [eval_call_eq hequal trivial (.cons htag (.cons hvalue .nil))]
    refine .pure fun m hm hincludes hlegible => ?_
    have hsame : (current.elim "" fun m => m.userTag name) = value := by
      have horder : (compareOfLessAndEq (current.elim "" fun m => m.userTag name) value == .eq) = true := by
        revert hincludes
        show comparisonHolds .equal _ = true → _
        cases compareOfLessAndEq (current.elim "" fun m => m.userTag name) value <;> exact fun h => h
      exact (compareOfLessAndEq_eq_eq String.le_refl String.not_le).1 (beq_iff_eq.1 horder)
    have hinfix : value.toList <:+: m.tagsText.toList := by
      rw [← hsame]
      cases current with
      | some m' =>
        obtain rfl : m' = m := hm
        exact m'.infix_tagsText name
      | none => exact List.nil_infix
    exact hasInfix_isTrueOf rfl hlegible.nul_not_mem_tagsText h hinfix

theorem exists_covering_subject (now : Int64) {style : MatchStyle} (hstyle : Operand.IsWholeStyle style)
    {patterns : List String} (h : ∀ p ∈ patterns, IsPrintable p.toList) :
    ∃ e, Covered now (.call (Builtin.header style).name (.string "subject" :: patterns.map .string)) e := by
  obtain ⟨o, e, hheader, hasks, htrue⟩ := Operand.header_asks hstyle h
  refine ⟨e, ⟨o, by rw [lower_header hstyle.ne_soundex, hheader], hasks⟩, fun s current => ?_⟩
  rw [eval_header s current hstyle.ne_contains]
  exact settles_judge fun m => .pure fun htest hm => htrue m hm htest

/-! ### Operators -/

/-- `match-all` asks for the same condition as its argument. -/
theorem exists_asks_matchAll {o : Operand} (hlower : Tree.lower now t = .ok o) (hasks : o.Asks e) :
    ∃ o', Tree.lower now (.call "match-all" [t]) = .ok o' ∧ o'.Asks e := by
  by_cases hbool : ∃ b, t = .bool b
  · obtain ⟨b, rfl⟩ := hbool
    rw [Tree.lower] at hlower
    cases hlower
    cases hasks
    exact ⟨_, Tree.lower_matchAll_bool b, .condition (Expr.Plain.truth b).definite⟩
  · refine ⟨o, ?_, hasks⟩
    rw [Tree.lower_matchAll fun b hb => hbool ⟨b, hb⟩, hlower]

/-- `match-all` asks for the same condition as its argument, and includes the messages that the argument is true of. -/
theorem Covered.matchAll (h : Covered now t e) : Covered now (.call "match-all" [t]) e := by
  refine ⟨?_, fun s current => ?_⟩
  · obtain ⟨o, hlower, hasks⟩ := h.lower
    exact exists_asks_matchAll hlower hasks
  · rw [eval_matchAll_cons ofName?_matchAll]
    refine settles_judge fun m => (h.eval s (some m)).bind fun v hv => .done ?_
    rintro hit hverdict rfl
    cases v with
    | bool b =>
      obtain rfl : b = true := Except.ok.inj hverdict
      exact hv m rfl rfl
    | _ => cases hverdict

theorem exists_covering_join (isAnd : Bool) {args : List Term} {es : List Expr}
    (h : List.Forall₂ (Covered now) args es) (hne : args ≠ []) :
    ∃ e, Covered now (.call (if isAnd then "and" else "or") args) e := by
  obtain ⟨os, hlowers, hasks⟩ := exists_forall₂_and (S := fun e o => Operand.Asks o e) (h.imp fun _ _ ha => ha.lower)
  have hosne : os ≠ [] := by
    rintro rfl
    cases hlowers
    exact hne rfl
  obtain ⟨e, hjoin, hdefinite, htrue⟩ := Operand.join_asks isAnd hasks.flip hosne
  -- Each argument speaks of the messages that the evaluation is about, and of no others.
  have hargs : ∀ (s : Scope) (current : Option Summary), List.Forall₂ (fun a e => (Search.eval s current a).Settles
      fun v => ∀ uid, v.Includes uid →
        ∀ m, s.Concerns m current → m.uid = uid → m.Legible → Expr.isTrueOf e m.row = true) args es := by
    refine fun s current => h.imp fun a e ha => (ha.eval s current).mono ?_
    rintro v hv _ hincludes m hm rfl hlegible
    exact hv m hm hincludes hlegible
  refine ⟨e, ⟨.condition e, ?_, .condition hdefinite⟩, fun s current => ?_⟩
  · cases isAnd with
    | true =>
      show Tree.lower now (.call Stack.Logic.and.name args) = _
      rw [Tree.lower_logic, Tree.lowerAll_eq hlowers]
      exact hjoin
    | false =>
      show Tree.lower now (.call Stack.Logic.or.name args) = _
      rw [Tree.lower_logic, Tree.lowerAll_eq hlowers]
      exact hjoin
  · cases isAnd with
    | true =>
      show (Search.eval s current (.call "and" args)).Settles _
      rw [eval_and (by decide +kernel)]
      refine (settles_evalJoined_and (hargs s current) .nothing).mono fun v hv m hm hincludes hlegible => ?_
      rw [htrue, Operand.joinTrue, if_pos rfl, List.all_eq_true]
      exact fun e he => (hv m.uid hincludes).2 e he m hm rfl hlegible
    | false =>
      show (Search.eval s current (.call "or" args)).Settles _
      rw [eval_or (by decide +kernel)]
      refine (settles_evalJoined_or (hargs s current) .nothing).mono fun v hv m hm hincludes hlegible => ?_
      rw [htrue, Operand.joinTrue, if_neg (by decide), List.any_eq_true]
      obtain hnothing | ⟨e, he, hholds⟩ := hv m.uid hincludes
      · cases hnothing
      · exact ⟨e, he, hholds m hm rfl hlegible⟩

/-- **Every positive term is covered by the condition that it is lowered to.** -/
theorem exists_covering (now : Int64) (h : t.IsPositive) : ∃ e, Covered now t e := by
  induction h with
  | bool b => exact ⟨_, Covered.bool b⟩
  | everyMessage => exact ⟨_, Covered.everyMessage⟩
  | systemFlag name => exact exists_covering_systemFlag now name
  | userFlag h => exact ⟨_, Covered.userFlag h⟩
  | userTag hcompleted hfollow h => exact ⟨_, Covered.userTag hcompleted hfollow h⟩
  | subject hstyle h => exact exists_covering_subject now hstyle h
  | matchAll _ ih =>
    obtain ⟨e, he⟩ := ih
    exact ⟨e, he.matchAll⟩
  | and _ hne ih =>
    obtain ⟨es, hes⟩ := exists_forall₂ ih
    exact exists_covering_join true hes hne
  | or _ hne ih =>
    obtain ⟨es, hes⟩ := exists_forall₂ ih
    exact exists_covering_join false hes hne

end Term

/-! ### Sessions -/

/-- What a value stands for includes all that it is counted out to. -/
theorem Folder.includes_of_mem_hits {working found : List String} {v : Value} (h : hits working v = .ok found)
    {uid : String} (huid : uid ∈ found) : uid ∈ working ∧ v.Includes uid := by
  cases v with
  | bool b =>
    cases b with
    | true =>
      obtain rfl : working = found := Except.ok.inj h
      exact ⟨huid, rfl⟩
    | false =>
      obtain rfl : [] = found := Except.ok.inj h
      cases huid
  | uids hits =>
    obtain rfl := Except.ok.inj h
    obtain ⟨hworking, hcontains⟩ := List.mem_filter.1 huid
    exact ⟨hworking, TextSet.contains_iff.1 hcontains⟩
  | _ => cases h

namespace Session

variable {s : Session} {f : Folder} {expression : String} {t : Term} {e : Expr}

/-- Both compilers make the condition that a term is lowered to, if both know the term. -/
theorem compile_eq_finish (hstack : s.compiler = .stack → IsCondition t) (hparse : Term.parse expression = .ok t)
    {o : Operand} (hlower : Tree.lower s.now t = .ok o) : s.compiler.compile s.now expression = o.finish := by
  cases hcompiler : s.compiler with
  | tree => rw [← hcompiler, compile_tree_eq hcompiler hparse, Tree.compileTerm, hlower]
  | stack => exact Stack.compile_of_lower hparse (hstack hcompiler) hlower

theorem compile_of_covered (hstack : s.compiler = .stack → IsCondition t) (hparse : Term.parse expression = .ok t)
    (h : t.Covered s.now e) : s.compiler.compile s.now expression = .ok e := by
  obtain ⟨o, hlower, hasks⟩ := h.lower
  rw [compile_eq_finish hstack hparse hlower, hasks.finish]

/-- `match-all` is compiled to what its argument asks for. -/
theorem compile_of_asks (ht : IsCondition t) {o : Operand} (hlower : Tree.lower s.now t = .ok o) (hasks : o.Asks e)
    (hparse : Term.parse expression = .ok (.call "match-all" [t])) : s.compiler.compile s.now expression = .ok e := by
  obtain ⟨o', hlower', hasks'⟩ := Term.exists_asks_matchAll hlower hasks
  rw [compile_eq_finish (fun _ => .matchAll ht) hparse hlower', hasks'.finish]

/-- What is found in the database for a term that asks for a condition, unless it refuses the condition. -/
theorem search_of_asks (hf : f.Synced) (ht : IsCondition t) (hnone : t.WritesNone) (hcancelled : s.cancelled = false)
    {o : Operand} (hlower : Tree.lower s.now t = .ok o) (hasks : o.Asks e)
    (hparse : Term.parse expression = .ok (.call "match-all" [t])) (hroute : f.route expression none = .database) :
    (s.search f expression none).1 = .ok (f.found fun m => e.isTrueOf m.row) ∨
      ¬ s.Fits expression ∧ (s.search f expression none).1 = .error .store := by
  have hcompile := compile_of_asks ht hlower hasks hparse
  have hnone' : (Term.call "match-all" [t]).WritesNone :=
    Term.writesNone_call_iff.2 ⟨by decide, List.forall_mem_singleton.2 hnone⟩
  rw [search_of_route_database (effective_of_parse hparse) hroute]
  obtain ⟨hsearch, -⟩ | ⟨hbeyond, hrefused, -⟩ :=
    database_eq_or_refused hf.ready hparse hnone' hasks.definite hcompile
  · exact .inl (hsearch.trans (answer_eq_ok hcancelled))
  · exact .inr ⟨hbeyond, hrefused⟩

/-- **What is found in memory, the condition is true of.** -/
theorem mem_found_of_mem_hits (hnodup : f.uids.Nodup) (hlegible : ∀ m ∈ f.catalog.summaries, m.Legible)
    (h : t.Covered s.now e) {v : Value} (hvalue : eval (f.scope f.uids s.now) none t = .done (.ok v))
    {found : List String} (hhits : Folder.hits f.uids v = .ok found) {uid : String} (huid : uid ∈ found) :
    uid ∈ f.found fun m => e.isTrueOf m.row := by
  obtain ⟨hknown, hincludes⟩ := Folder.includes_of_mem_hits hhits huid
  obtain ⟨m, hm, rfl⟩ := List.mem_map.1 hknown
  obtain ⟨r, hr, hcovers⟩ := h.eval (f.scope f.uids s.now) none
  rw [hvalue] at hr
  cases hr
  have hrow : e.isTrueOf m.row = true :=
    hcovers v rfl m (Catalog.find?_of_mem hnodup hm) hincludes (hlegible m hm)
  exact List.mem_map_of_mem (List.mem_filter.2 ⟨hm, hrow⟩)

/-- **The database loses no message.** Where a positive expression is evaluated in memory, the database answers it too, and
returns each message that is found in memory, whatever labels and tags the messages carry and whatever wildcards stand in
the texts that are searched for. The same holds of the search in the way that the folder chooses. Otherwise the condition
is beyond the limits of the database, which refuses it. The compiler of tokens answers only what it knows, and has no
tests of a subject for several patterns. -/
theorem search_found_of_memoryOnly (hf : f.Synced) (hlegible : ∀ m ∈ f.catalog.summaries, m.Legible) (hs : s.Started)
    (hstack : s.compiler = .stack → IsCondition t) (hparse : Term.parse (effective expression) = .ok t)
    (ht : t.IsPositive) {found : List String}
    (hfound : (s.search { f with memoryOnly := true } expression none).1 = .ok found) :
    ((∃ more, (s.searchDatabase f (effective expression)).1 = .ok more ∧ ∀ uid ∈ found, uid ∈ more) ∧
      ∃ more, (s.search f expression none).1 = .ok more ∧ ∀ uid ∈ found, uid ∈ more) ∨
    ¬ s.Fits (effective expression) ∧ (s.searchDatabase f (effective expression)).1 = .error .store := by
  obtain ⟨e, hcovered⟩ := Term.exists_covering s.now ht
  obtain ⟨r, heval, -⟩ := hcovered.eval (f.scope f.uids s.now) none
  -- No message is read, so that the folder answers in memory whether it has a store or not.
  have hanswer : (if s.cancelled then .error .cancelled else r >>= Folder.hits f.uids) = .ok found :=
    (searchMemory_of_done (f := { f with memoryOnly := true }) hs.remembers hparse heval).symm.trans hfound
  have hmemory : (s.searchMemory f (effective expression) none).1 = .ok found :=
    (searchMemory_of_done hs.remembers hparse heval).trans hanswer
  cases hcancelled : s.cancelled with
  | true =>
    rw [hcancelled, if_pos rfl] at hanswer
    cases hanswer
  | false =>
    rw [hcancelled, if_neg (by decide)] at hanswer
    cases r with
    | error error => cases hanswer
    | ok v =>
      obtain ⟨o, -, hasks⟩ := hcovered.lower
      have hcompile := compile_of_covered hstack hparse hcovered
      obtain ⟨hsearch, -⟩ | ⟨hbeyond, hrefused, -⟩ :=
        database_eq_or_refused hf.ready hparse ht.writesNone hasks.definite hcompile
      · have hdatabase := hsearch.trans (answer_eq_ok hcancelled)
        have hmore : ∀ uid ∈ found, uid ∈ f.found fun m => e.isTrueOf m.row := fun uid huid =>
          mem_found_of_mem_hits hf.ready.nodup hlegible hcovered heval hanswer huid
        refine .inl ⟨⟨_, hdatabase, hmore⟩, ?_⟩
        rw [search]
        dsimp only
        cases f.route (effective expression) none with
        | memory => exact ⟨found, hmemory, fun _ huid => huid⟩
        | database => exact ⟨_, hdatabase, hmore⟩
      · exact .inr ⟨hbeyond, hrefused⟩

/-- The wildcards in a label and in the value of a tag are taken for such, so that the database finds one message more. -/
theorem search_found_of_memoryOnly_wildcards :
    let f := (((((Folder.ofMessages "in" [("1", Ascii.bytes "Subject: a\n\n"), ("2", Ascii.bytes "Subject: b\n\n")]).attachStore
      .empty).syncStore.2.addUserFlag "1" "a_c").addUserFlag "2" "abc").setUserTag "1" "due" "5%").setUserTag "2" "was" "15"
    let s := Session.start .stack 0
    let text := "(match-all (and (user-flag \"a_c\") (= (user-tag \"due\") \"5%\")))"
    (s.search { f with memoryOnly := true } text none).1 = .ok ["1"] ∧ (s.search f text none).1 = .ok ["1", "2"] ∧
      s.Fits (effective text) ∧ (∃ more, (s.searchDatabase f (effective text)).1 = .ok more ∧ ∀ uid ∈ ["1"], uid ∈ more) ∧
      ∃ more, (s.search f text none).1 = .ok more ∧ ∀ uid ∈ ["1"], uid ∈ more := by
  intro f s text
  let raws := [("1", Ascii.bytes "Subject: a\n\n"), ("2", Ascii.bytes "Subject: b\n\n")]
  have hsynced : f.Synced := by
    have hsync : ((Folder.ofMessages "in" raws).attachStore .empty).syncStore =
        (.ok 2, ((Folder.ofMessages "in" raws).attachStore .empty).syncStore.2) :=
      Prod.ext (eq_ok_of_toOption (by decide +kernel)) rfl
    have hstart : ((Folder.ofMessages "in" raws).attachStore .empty).syncStore.2.Synced := .syncStore rfl hsync
    have hlabels := (hstart.addUserFlag "1" "a_c").addUserFlag "2" "abc"
    exact (hlabels.setUserTag "1" "due" "5%").setUserTag "2" "was" "15"
  have hlegible : ∀ m ∈ f.catalog.summaries, m.Legible := by decide +kernel
  have hparse : Term.parse (effective text) = .ok (.call "match-all" [.call "and" [.call "user-flag" [.string "a_c"],
      .call "=" [.call "user-tag" [.string "due"], .string "5%"]]]) := eq_ok_of_toOption (by decide +kernel)
  have hpositive : Term.IsPositive (.call "match-all" [.call "and" [.call "user-flag" [.string "a_c"],
      .call "=" [.call "user-tag" [.string "due"], .string "5%"]]]) := by
    refine .matchAll (.and (List.forall_mem_cons.2 ⟨.userFlag (by decide), List.forall_mem_singleton.2 ?_⟩) (by decide))
    exact .userTag (by decide) (by decide) (by decide)
  have hcondition : IsCondition (.call "match-all" [.call "and" [.call "user-flag" [.string "a_c"],
      .call "=" [.call "user-tag" [.string "due"], .string "5%"]]]) := by
    have hlabel : IsValue (.call "user-flag" [.string "a_c"]) :=
      .call (f := .userFlag) (by decide +kernel) rfl (Nat.le_refl 1) (by simp [IsValue.string])
    have htag : IsValue (.call "user-tag" [.string "due"]) :=
      .call (f := .userTag) (by decide +kernel) rfl (Nat.le_refl 1) (by simp [IsValue.string])
    have hequal : IsValue (.call "=" [.call "user-tag" [.string "due"], .string "5%"]) :=
      .call (f := .compare .equal) (by decide +kernel) rfl (Nat.le_refl 2) (by simp [htag, IsValue.string])
    exact .matchAll (.and (List.forall_mem_cons.2 ⟨.value hlabel, List.forall_mem_singleton.2 (.value hequal)⟩))
  have hfound : (s.search { f with memoryOnly := true } text none).1 = .ok ["1"] := eq_ok_of_toOption (by decide +kernel)
  have hmore : (s.search f text none).1 = .ok ["1", "2"] := eq_ok_of_toOption (by decide +kernel)
  have hfits : s.Fits (effective text) := by decide +kernel
  have hincluded := search_found_of_memoryOnly hsynced hlegible (.start .stack 0) (fun _ => hcondition) hparse hpositive hfound
  exact ⟨hfound, hmore, hfits, hincluded.resolve_right fun hrefused => hrefused.1 hfits⟩

/-- A conjunction of 1001 constants is found in memory, and the database finds nothing as it refuses the condition. -/
theorem not_forall_search_found_of_memoryOnly :
    ¬ ∀ (s : Session) (f : Folder) (expression : String) (t : Term) (found : List String), f.Synced →
      (∀ m ∈ f.catalog.summaries, m.Legible) → s.Started → (s.compiler = .stack → IsCondition t) →
      Term.parse (effective expression) = .ok t → t.IsPositive →
      (s.search { f with memoryOnly := true } expression none).1 = .ok found →
      ∃ more, (s.searchDatabase f (effective expression)).1 = .ok more ∧ ∀ uid ∈ found, uid ∈ more := by
  intro h
  let f := ((Folder.ofMessages "in" [("1", Ascii.bytes "Subject: a\n\n")]).attachStore .empty).syncStore.2
  let s := start .tree 0
  have hsync : ((Folder.ofMessages "in" [("1", Ascii.bytes "Subject: a\n\n")]).attachStore .empty).syncStore = (.ok 1, f) :=
    Prod.ext (eq_ok_of_toOption (by decide +kernel)) rfl
  have hsynced : f.Synced := .syncStore rfl hsync
  have hlegible : ∀ m ∈ f.catalog.summaries, m.Legible := by decide +kernel
  have hstarted : s.Started := .start .tree 0
  have hparse := Term.parse_conjunction (maxHeight + 1)
  have hdatabase := searchDatabase_conjunction (s := s) hsynced rfl rfl (Nat.le_refl maxHeight)
  obtain ⟨found, hmemory⟩ := search_conjunction_memoryOnly hstarted hsynced rfl maxHeight
  have hpositive : (Term.conjunction (maxHeight + 1)).IsPositive := by
    refine .matchAll (.and (fun a ha => ?_) (List.cons_ne_nil _ _))
    rw [List.eq_of_mem_replicate ha]
    exact .bool true
  have heffective := effective_of_parse hparse
  obtain ⟨more, hmore, -⟩ := h s f _ _ found hsynced hlegible hstarted (fun hstack => by cases hstack)
    (heffective.symm ▸ hparse) hpositive hmemory
  rw [heffective, hdatabase] at hmore
  cases hmore

end Session

end MailQuery
