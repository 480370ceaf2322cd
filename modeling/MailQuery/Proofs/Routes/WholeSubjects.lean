import MailQuery.Proofs.Routes.Inclusion

/-!
# Whole subjects

`header-matches` asks whether a subject is the given text, and the evaluator compares the two as wholes. The database puts
wildcards on both sides of the text, as it does for every style but those for the start and the end. So it asks
whether the text stands anywhere in the subject, and finds subjects that are longer as well.

`Session.search_wholeSubject` says what each way of searching finds, for subjects and texts that both of them fold alike, and
when they find the same. `Session.not_forall_search_wholeSubject` has two subjects of which one starts with the other.
-/

namespace MailQuery

open Mail Sql Text Search

/-- The search for the messages with a subject. -/
def Term.wholeSubject (subject : String) : Term :=
  .call "match-all" [.call "header-matches" [.string "subject", .string subject]]

namespace Mail.Summary

/-- Whether the subject of a message is a text, regardless of case. -/
def hasSubject (m : Summary) (subject : String) : Bool := lower m.subject.toList == lower subject.toList

/-- Whether a text stands in the subject of a message, regardless of case. -/
def subjectContains (m : Summary) (text : String) : Bool := isInfix (lower text.toList) (lower m.subject.toList)

theorem subjectContains_of_hasSubject {m : Summary} {subject : String} (h : m.hasSubject subject = true) :
    m.subjectContains subject = true := by
  rw [subjectContains, beq_iff_eq.1 h]
  exact isInfix_iff.2 List.infix_rfl

end Mail.Summary

namespace Sql.Operand

variable {m : Summary} {subject : String}

/-- A text that is shorter than the pattern is turned down first, which the comparison would do as well. -/
theorem textMatches_exact {value pattern : List Char} (hvalue : IsPrintable value) (hpattern : IsPrintable pattern) :
    textMatches .exact value pattern = (lower value == lower pattern) := by
  by_cases hshort : byteLength value < byteLength pattern
  · rw [textMatches, if_pos hshort]
    refine (beq_eq_false_iff_ne.2 fun hsame => ?_).symm
    rw [lower_of_ascii hvalue.isAscii, lower_of_ascii hpattern.isAscii] at hsame
    have hlength : value.length = pattern.length := by simpa using congrArg List.length hsame
    rw [byteLength_of_ascii hvalue.isAscii, byteLength_of_ascii hpattern.isAscii, hlength] at hshort
    exact Nat.lt_irrefl _ hshort
  · rw [textMatches, if_neg hshort]

theorem not_contains_empty (hne : subject ≠ "") : ¬ [subject].contains "" = true := fun h =>
  hne (List.mem_singleton.1 (List.contains_iff_mem.1 h)).symm

/-- The evaluator compares subjects as wholes. -/
theorem subjectTest_exact (hsubject : IsPrintable subject.toList) (hne : subject ≠ "")
    (hprintable : IsPrintable m.subject.toList) (hstart : m.subject.toList.head? ≠ some ' ') :
    subjectTest .exact [subject] m = m.hasSubject subject := by
  rw [subjectTest, List.isEmpty_cons, if_neg (by decide), if_neg (not_contains_empty hne), List.any_cons, List.any_nil,
    Bool.or_false, headerMatches_subject hprintable hstart, textMatches_exact hprintable hsubject]
  rfl

/-- The condition for a whole subject is the one for a part. -/
theorem header_exact (hne : subject ≠ "") :
    header .exact [.string "subject", .string subject] =
      .ok (.condition (presentAndLike .subject ("%" ++ subject ++ "%"))) := by
  have halias : Column.ofAlias? "subject" = some .subject := by decide +kernel
  rw [header, halias]
  exact if_neg (not_contains_empty hne)

/-- A pattern is longer than its text by two wildcards. -/
theorem withinLimits_presentAndLike (hshort : byteLength subject.toList + 2 ≤ maxPattern) :
    (presentAndLike .subject ("%" ++ subject ++ "%")).WithinLimits where
  shallow := rfl
  patterns := by
    have hwildcard : '%'.utf8Size = 1 := by decide
    simp [presentAndLike, Expr.isLike, Expr.hasShortPatterns, Expr.isShortText, hwildcard]
    omega

/-- The database finds the subjects in which the text stands. The empty subject is stored as NULL; no text but the
empty one stands in it. -/
theorem presentAndLike_isTrueOf_iff (hsubject : IsPattern subject) (hne : subject ≠ "")
    (hprintable : IsPrintable m.subject.toList) :
    (presentAndLike .subject ("%" ++ subject ++ "%")).isTrueOf m.row = m.subjectContains subject := by
  have huncut : '\x00' ∉ ("%" ++ subject ++ "%").toList := nul_not_mem_hasInfix hsubject.printable.nul_not_mem
  have hlike : Cell.isLike ("%" ++ subject ++ "%").toList m.subject.toList = m.subjectContains subject := by
    rw [String.toList_append, String.toList_append, Summary.subjectContains, lower_of_ascii hprintable.isAscii,
      lower_of_ascii hsubject.printable.isAscii]
    exact Cell.isLike_any_append_any hsubject.isLiteral m.subject.toList
  rw [Expr.isTrueOf, truth?_presentAndLike huncut hprintable.nul_not_mem, hlike]
  cases hcontains : m.subjectContains subject with
  | false => rw [Bool.and_false]; rfl
  | true =>
    have hnonempty : m.subject ≠ "" := by
      intro hempty
      rw [Summary.subjectContains, isInfix_iff, hempty, lower_of_ascii hsubject.printable.isAscii] at hcontains
      exact hne (String.toList_eq_nil_iff.1 (List.map_eq_nil_iff.1 (List.infix_nil.1 hcontains)))
    rw [bne_iff_ne.2 hnonempty]
    rfl

end Sql.Operand

/-! ### Searches -/

namespace Session

variable {s : Session} {f : Folder} {expression subject : String}

theorem isCondition_headerMatches (subject : String) :
    IsCondition (.call "header-matches" [.string "subject", .string subject]) :=
  .value (.call (f := .header .exact) (by decide +kernel) rfl (Nat.le_refl 2) (by simp [IsValue.string]))

/-- **In memory, the messages with a subject are found.** -/
theorem searchMemory_wholeSubject (hnodup : f.uids.Nodup) (hs : s.Remembers) (hcancelled : s.cancelled = false)
    (hsubjects : ∀ m ∈ f.catalog.summaries, IsPrintable m.subject.toList ∧ m.subject.toList.head? ≠ some ' ')
    (hsubject : IsPrintable subject.toList) (hne : subject ≠ "")
    (hparse : Term.parse expression = .ok (.wholeSubject subject)) :
    (s.searchMemory f expression none).1 = .ok (f.found (·.hasSubject subject)) := by
  have hstyle : MatchStyle.exact ≠ .contains := by decide
  have heval := Term.exists_eval_matchAll (s := f.scope f.uids s.now) fun m =>
    Term.eval_header (f.scope f.uids s.now) (some m) hstyle [subject]
  rw [searchMemory_of_selects hs hnodup hparse heval, answer, hcancelled, if_neg (by decide)]
  refine congrArg Except.ok (Folder.found_congr fun m hm => ?_)
  exact Operand.subjectTest_exact hsubject hne (hsubjects m hm).1 (hsubjects m hm).2

/-- **In the database, the messages are found in whose subjects the text stands**, unless the text is too long for it. -/
theorem search_wholeSubject_of_database (hf : f.Synced) (hcancelled : s.cancelled = false)
    (hsubjects : ∀ m ∈ f.catalog.summaries, IsPrintable m.subject.toList) (hsubject : Operand.IsPattern subject)
    (hne : subject ≠ "") (hparse : Term.parse expression = .ok (.wholeSubject subject))
    (hroute : f.route expression none = .database) :
    (s.search f expression none).1 = .ok (f.found (·.subjectContains subject)) ∨
      maxPattern < byteLength subject.toList + 2 ∧ (s.search f expression none).1 = .error .store := by
  have hstyle : MatchStyle.exact ≠ .soundex := by decide
  have hlower : Tree.lower s.now (.call "header-matches" [.string "subject", .string subject]) =
      .ok (.condition (Operand.presentAndLike .subject ("%" ++ subject ++ "%"))) :=
    (Term.lower_header hstyle [subject]).trans (Operand.header_exact hne)
  have huncut := nul_not_mem_hasInfix hsubject.printable.nul_not_mem
  have hasks := Operand.Asks.condition (Operand.plain_presentAndLike huncut).definite
  have hcondition := isCondition_headerMatches subject
  have hnone : (Term.call "header-matches" [.string "subject", .string subject]).WritesNone :=
    Term.writesNone_strings (by decide) ["subject", subject]
  obtain hsearch | ⟨hbeyond, hrefused⟩ := search_of_asks hf hcondition hnone hcancelled hlower hasks hparse hroute
  · rw [hsearch]
    exact .inl (congrArg Except.ok (Folder.found_congr fun m hm =>
      Operand.presentAndLike_isTrueOf_iff hsubject hne (hsubjects m hm)))
  · refine .inr ⟨Nat.lt_of_not_le fun hshort => hbeyond ?_, hrefused⟩
    exact .of_compile (compile_of_asks hcondition hlower hasks hparse) (Operand.withinLimits_presentAndLike hshort)

/-- **Whole subjects are compared in memory, and parts of them in the database.** In memory the search for a subject finds
the messages with the subject, and through the database those in whose subjects it stands, both regardless of case. So
the two find the same only where it stands in no subject that is longer. A text that is too long for the database with its
wildcards may be refused. -/
theorem search_wholeSubject (hf : f.Synced) (hs : s.Started) (hcancelled : s.cancelled = false)
    (hsubjects : ∀ m ∈ f.catalog.summaries, IsPrintable m.subject.toList ∧ m.subject.toList.head? ≠ some ' ')
    (hsubject : Operand.IsPattern subject) (hne : subject ≠ "")
    (hparse : Term.parse expression = .ok (.wholeSubject subject)) (hroute : f.route expression none = .database) :
    (s.search { f with memoryOnly := true } expression none).1 = .ok (f.found (·.hasSubject subject)) ∧
    ((s.search f expression none).1 = .ok (f.found (·.subjectContains subject)) ∧
        ((s.search f expression none).1 = (s.search { f with memoryOnly := true } expression none).1 ↔
          ∀ m ∈ f.catalog.summaries, m.subjectContains subject = true → m.hasSubject subject = true) ∨
      maxPattern < byteLength subject.toList + 2 ∧ (s.search f expression none).1 = .error .store) := by
  have hmemory : (s.search { f with memoryOnly := true } expression none).1 = .ok (f.found (·.hasSubject subject)) := by
    rw [search_of_route_memory (effective_of_parse hparse) rfl]
    exact searchMemory_wholeSubject (f := { f with memoryOnly := true }) hf.ready.nodup hs.remembers hcancelled
      hsubjects hsubject.printable hne hparse
  refine ⟨hmemory, ?_⟩
  obtain hdatabase | hrefused :=
    search_wholeSubject_of_database hf hcancelled (fun m hm => (hsubjects m hm).1) hsubject hne hparse hroute
  · refine .inl ⟨hdatabase, ?_⟩
    rw [hmemory, hdatabase, Except.ok.injEq, Folder.found_eq_found_iff hf.ready.nodup]
    refine forall₂_congr fun m _ => ?_
    rw [Bool.eq_iff_iff]
    exact ⟨fun h => h.1, fun h => ⟨h, Summary.subjectContains_of_hasSubject⟩⟩
  · exact .inr hrefused

/-- Two messages, of which one has the subject in capitals and the other one a longer subject. -/
theorem search_wholeSubject_longer :
    let raws := [("1", Ascii.bytes "Subject: LUNCH\n\n"), ("2", Ascii.bytes "Subject: lunch on friday\n\n")]
    let f := ((Folder.ofMessages "in" raws).attachStore .empty).syncStore.2
    let s := Session.start .tree 0
    let text := "(match-all (header-matches \"subject\" \"lunch\"))"
    f.Synced ∧ (∀ m ∈ f.catalog.summaries, IsPrintable m.subject.toList ∧ m.subject.toList.head? ≠ some ' ') ∧
      Operand.IsPattern "lunch" ∧ Term.parse text = .ok (.wholeSubject "lunch") ∧ f.route text none = .database ∧
      (s.search { f with memoryOnly := true } text none).1 = .ok ["1"] ∧ (s.search f text none).1 = .ok ["1", "2"] := by
  intro raws f s text
  have hsync : ((Folder.ofMessages "in" raws).attachStore .empty).syncStore = (.ok 2, f) :=
    Prod.ext (eq_ok_of_toOption (by decide +kernel)) rfl
  have hsynced : f.Synced := .syncStore rfl hsync
  have hsubjects : ∀ m ∈ f.catalog.summaries, IsPrintable m.subject.toList ∧ m.subject.toList.head? ≠ some ' ' := by
    decide +kernel
  have hsubject : Operand.IsPattern "lunch" := ⟨by decide, by decide, by decide⟩
  have hparse : Term.parse text = .ok (.wholeSubject "lunch") := eq_ok_of_toOption (by decide +kernel)
  have hroute : f.route text none = .database := by decide +kernel
  obtain ⟨hmemory, hfound⟩ := search_wholeSubject (s := s) hsynced (.start .tree 0) rfl hsubjects hsubject (by decide)
    hparse hroute
  obtain ⟨hdatabase, -⟩ := hfound.resolve_right fun hrefused => absurd hrefused.1 (by decide)
  have hsame : f.found (·.hasSubject "lunch") = ["1"] := by decide +kernel
  have hcontains : f.found (·.subjectContains "lunch") = ["1", "2"] := by decide +kernel
  exact ⟨hsynced, hsubjects, hsubject, hparse, hroute, hsame ▸ hmemory, hcontains ▸ hdatabase⟩

/-- The database finds a subject that only starts with the text. -/
theorem not_forall_search_wholeSubject :
    ¬ ∀ (s : Session) (f : Folder) (expression subject : String), f.Synced → s.Started → s.cancelled = false →
      (∀ m ∈ f.catalog.summaries, IsPrintable m.subject.toList ∧ m.subject.toList.head? ≠ some ' ') →
      Operand.IsPattern subject → subject ≠ "" → Term.parse expression = .ok (.wholeSubject subject) →
      f.route expression none = .database →
      (s.search f expression none).1 = (s.search { f with memoryOnly := true } expression none).1 := by
  intro h
  let raws := [("1", Ascii.bytes "Subject: lunch\n\n"), ("2", Ascii.bytes "Subject: lunch on friday\n\n")]
  let f := ((Folder.ofMessages "in" raws).attachStore .empty).syncStore.2
  let s := Session.start .tree 0
  let text := "(match-all (header-matches \"subject\" \"lunch\"))"
  have hsync : ((Folder.ofMessages "in" raws).attachStore .empty).syncStore = (.ok 2, f) :=
    Prod.ext (eq_ok_of_toOption (by decide +kernel)) rfl
  have hmemory : (s.search { f with memoryOnly := true } text none).1 = .ok ["1"] := eq_ok_of_toOption (by decide +kernel)
  have hdatabase : (s.search f text none).1 = .ok ["1", "2"] := eq_ok_of_toOption (by decide +kernel)
  have hsame := h s f text "lunch" (.syncStore rfl hsync) (.start .tree 0) rfl (by decide +kernel)
    ⟨by decide, by decide, by decide⟩ (by decide) (eq_ok_of_toOption (by decide +kernel)) (by decide +kernel)
  rw [hmemory, hdatabase] at hsame
  cases hsame

end Session

end MailQuery
