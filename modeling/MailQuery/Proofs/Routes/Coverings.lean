import MailQuery.Proofs.Routes.Conditions

/-!
# Conditions that cover what is found

The database keeps the labels of a message in one text, and its tags in another, and looks for a label or for the value of a
tag anywhere in it. It also takes `%` and `_` in a pattern for wildcards. It may therefore find more than the evaluator, but
nothing less: what stands in a text is like itself (`Cell.isLike_append`), and so are the texts that hold it
(`Summary.infix_labelsText`, `Summary.infix_tagsText`).

`Operand.Asks` relates a lowered term to the condition that it asks for. A condition covers a test if it is true of the
row of each message which passes the test; it may be true of others, or unknown. That is kept by conjunctions and
disjunctions (`join_asks`), but not by negations.
-/

namespace MailQuery

open Mail Sql Text Search

/-- A message of which no text is cut short or trimmed in the database. -/
structure Mail.Summary.Legible (m : Summary) : Prop where
  printable : IsPrintable m.subject.toList
  start : m.subject.toList.head? ≠ some ' '
  labels : ∀ label ∈ m.userFlags, '\x00' ∉ label.toList
  tags : ∀ tag ∈ m.userTags.entries, '\x00' ∉ tag.1.toList ∧ '\x00' ∉ tag.2.toList

instance (m : Summary) : Decidable m.Legible :=
  decidable_of_iff (IsPrintable m.subject.toList ∧ m.subject.toList.head? ≠ some ' ' ∧
      (∀ label ∈ m.userFlags.toList, '\x00' ∉ label.toList) ∧
      ∀ tag ∈ m.userTags.entries, '\x00' ∉ tag.1.toList ∧ '\x00' ∉ tag.2.toList)
    ⟨fun h => ⟨h.1, h.2.1, h.2.2.1, h.2.2.2⟩, fun h => ⟨h.printable, h.start, h.labels, h.tags⟩⟩

/-! ### Texts of labels and tags -/

theorem infix_intercalate {α : Type} (sep : List α) {l : List α} {ls : List (List α)} (h : l ∈ ls) :
    l <:+: sep.intercalate ls := by
  induction ls with
  | nil => cases h
  | cons first rest ih =>
    cases rest with
    | nil =>
      obtain rfl := List.mem_singleton.1 h
      have hsingle : sep.intercalate [l] = l := List.intercalate_singleton
      exact hsingle.symm ▸ List.infix_rfl
    | cons second rest =>
      rw [List.intercalate_cons_cons]
      rcases List.mem_cons.1 h with rfl | h
      · rw [List.append_assoc]
        exact (List.prefix_append ..).isInfix
      · exact (ih h).trans (List.suffix_append ..).isInfix

theorem not_mem_intercalate {α : Type} {a : α} {sep : List α} (hsep : a ∉ sep) {ls : List (List α)}
    (h : ∀ l ∈ ls, a ∉ l) : a ∉ sep.intercalate ls := by
  induction ls with
  | nil => exact List.not_mem_nil
  | cons first rest ih =>
    obtain ⟨hfirst, hrest⟩ := List.forall_mem_cons.1 h
    cases rest with
    | nil => rwa [List.intercalate_singleton]
    | cons second rest =>
      rw [List.intercalate_cons_cons, List.mem_append, List.mem_append]
      rintro ((ha | ha) | ha)
      · exact hfirst ha
      · exact hsep ha
      · exact ih hrest ha

namespace Mail.Summary

variable {m : Summary}

/-- A label stands in the text of all labels. -/
theorem infix_labelsText {label : String} (h : label ∈ m.userFlags) : label.toList <:+: m.labelsText.toList := by
  rw [labelsText, String.toList_intercalate]
  exact infix_intercalate _ (List.mem_map_of_mem h)

/-- The value of a tag stands in the text of all tags; the empty value of a tag that is not there does anyway. -/
theorem infix_tagsText (m : Summary) (name : String) : (m.userTag name).toList <:+: m.tagsText.toList := by
  rw [userTag]
  cases hvalue : m.userTags.get? name with
  | none => exact List.nil_infix
  | some value =>
    have hmem : (name, value) ∈ m.userTags.entries := SortedMap.mem_entries_iff.2 hvalue
    have hentry : value.toList <:+: (name ++ " " ++ value).toList := by
      rw [String.toList_append]
      exact (List.suffix_append ..).isInfix
    rw [tagsText, String.toList_intercalate]
    refine hentry.trans (infix_intercalate _ (List.mem_map_of_mem ?_))
    exact List.mem_map.2 ⟨(name, value), hmem, rfl⟩

theorem Legible.nul_not_mem_labelsText (hm : m.Legible) : '\x00' ∉ m.labelsText.toList := by
  rw [labelsText, String.toList_intercalate]
  refine not_mem_intercalate (by decide) fun l hl => ?_
  obtain ⟨label, hlabel, rfl⟩ := List.mem_map.1 hl
  exact hm.labels label hlabel

theorem Legible.nul_not_mem_tagsText (hm : m.Legible) : '\x00' ∉ m.tagsText.toList := by
  rw [tagsText, String.toList_intercalate]
  refine not_mem_intercalate (by decide) fun l hl => ?_
  obtain ⟨text, htext, rfl⟩ := List.mem_map.1 hl
  obtain ⟨tag, htag, rfl⟩ := List.mem_map.1 htext
  obtain ⟨hname, hvalue⟩ := hm.tags tag htag
  simp [String.toList_append, hname, hvalue]

end Mail.Summary

namespace Sql

/-! ### Conditions on texts -/

theorem Expr.Definite.column (c : Column) : (Expr.column c).Definite := by
  have hname : ∀ c ∈ Column.all, c.name.toList.any (fun d => !isBlank d) = true := by decide +kernel
  obtain ⟨d, hd, hblank⟩ := List.any_eq_true.1 (hname c c.mem_all)
  exact ⟨⟨d, hd, (Bool.not_eq_true' _).mp hblank⟩, nul_not_mem_name c⟩

theorem Expr.Definite.string {value : String} (h : '\x00' ∉ value.toList) : (Expr.string value).Definite :=
  (Expr.Plain.string h).definite

theorem nul_not_mem_hasInfix {value : String} (h : '\x00' ∉ value.toList) : '\x00' ∉ ("%" ++ value ++ "%").toList := by
  simpa [String.toList_append] using h

theorem Expr.Definite.hasInfix (c : Column) {value : String} (h : '\x00' ∉ value.toList) :
    (Expr.hasInfix c value).Definite :=
  (Expr.Definite.column c).binary .like (Expr.Definite.string (nul_not_mem_hasInfix h))

/-- **A text is found where it stands**, with all the wildcards in it. -/
theorem hasInfix_isTrueOf {row : Row} {c : Column} {value text : String} (hcell : row c = .text text)
    (htext : '\x00' ∉ text.toList) (hvalue : '\x00' ∉ value.toList) (h : value.toList <:+: text.toList) :
    (Expr.hasInfix c value).isTrueOf row = true := by
  have hlike : Cell.like? (row c) (.text ("%" ++ value ++ "%")) = some true := by
    rw [hcell, Cell.like?_text htext (nul_not_mem_hasInfix hvalue), String.toList_append, String.toList_append]
    exact congrArg some (Cell.isLike_of_infix h)
  show ((Cell.ofTruth? (Cell.like? (row c) (.text ("%" ++ value ++ "%")))).truth? == some true) = true
  rw [hlike]
  rfl

/-! ### Operators -/

namespace Expr

variable {e : Expr} {es : List Expr} {row : Row}

theorem isTrueOf_truth {b : Bool} : (Expr.truth b).isTrueOf row = b := by
  cases b <;> rfl

theorem isTrueOf_enclosed {wide : Bool} : (Expr.enclosed wide e).isTrueOf row = e.isTrueOf row := rfl

theorem isTrueOf_and {l r : Expr} : (Expr.binary .and l r).isTrueOf row = (l.isTrueOf row && r.isTrueOf row) := by
  show ((Cell.ofTruth? (Cell.and? (l.eval row).truth? (r.eval row).truth?)).truth? == some true) = _
  rw [Cell.truth?_ofTruth?, isTrueOf, isTrueOf]
  rcases (l.eval row).truth? with _ | _ | _ <;> rcases (r.eval row).truth? with _ | _ | _ <;> rfl

/-- A disjunction is true if one side is, even where the other one is unknown. -/
theorem isTrueOf_or {l r : Expr} : (Expr.binary .or l r).isTrueOf row = (l.isTrueOf row || r.isTrueOf row) := by
  show ((Cell.ofTruth? (Cell.or? (l.eval row).truth? (r.eval row).truth?)).truth? == some true) = _
  rw [Cell.truth?_ofTruth?, isTrueOf, isTrueOf]
  rcases (l.eval row).truth? with _ | _ | _ <;> rcases (r.eval row).truth? with _ | _ | _ <;> rfl

theorem isTrueOf_foldl_and :
    (es.foldl (.binary .and) e).isTrueOf row = (e :: es).all (·.isTrueOf row) := by
  induction es generalizing e with
  | nil => simp
  | cons e' es ih => rw [List.foldl_cons, ih, List.all_cons, isTrueOf_and, List.all_cons, List.all_cons, Bool.and_assoc]

theorem isTrueOf_foldl_or :
    (es.foldl (.binary .or) e).isTrueOf row = (e :: es).any (·.isTrueOf row) := by
  induction es generalizing e with
  | nil => simp
  | cons e' es ih => rw [List.foldl_cons, ih, List.any_cons, isTrueOf_or, List.any_cons, List.any_cons, Bool.or_assoc]

theorem Definite.foldl (op : Operator) (he : e.Definite) (hes : ∀ e' ∈ es, e'.Definite) :
    (es.foldl (.binary op) e).Definite := by
  induction es generalizing e with
  | nil => exact he
  | cons e' es ih =>
    obtain ⟨hfirst, hrest⟩ := List.forall_mem_cons.1 hes
    exact ih (he.binary op hfirst) hrest

end Expr

namespace Operand

variable {o : Operand} {e : Expr}

/-- A lowered term asks for a condition if it is that condition, or a constant in its place. -/
inductive Asks : Operand → Expr → Prop where
  | condition {e : Expr} (h : e.Definite) : Asks (.condition e) e
  | bool (b : Bool) : Asks (.bool b) (.truth b)

theorem Asks.definite (h : o.Asks e) : e.Definite := by
  cases h with
  | condition h => exact h
  | bool b => exact (Expr.Plain.truth b).definite

theorem Asks.finish (h : o.Asks e) : o.finish = .ok e := by
  cases h with
  | condition => rfl
  | bool => rfl

theorem Asks.part? (h : o.Asks e) (isAnd : Bool) : o.part? isAnd = .ok (some e) := by
  cases h with
  | condition h => rw [Operand.part?, if_neg h.sql_ne_empty]
  | bool => rfl

theorem parts_of_asks (isAnd : Bool) {os : List Operand} {es : List Expr} (h : List.Forall₂ Asks os es) :
    parts isAnd os = .ok es := by
  induction h with
  | nil => rfl
  | cons ho _ ih =>
    rw [parts, ho.part? isAnd, ih]
    rfl

theorem definite_of_asks {os : List Operand} {es : List Expr} (h : List.Forall₂ Asks os es) :
    ∀ e ∈ es, e.Definite := by
  induction h with
  | nil => exact fun e he => absurd he List.not_mem_nil
  | cons ho _ ih => exact List.forall_mem_cons.2 ⟨ho.definite, ih⟩

/-- The truth of a conjunction or disjunction of conditions. -/
def joinTrue (isAnd : Bool) (es : List Expr) (row : Row) : Bool :=
  if isAnd then es.all (·.isTrueOf row) else es.any (·.isTrueOf row)

/-- Conditions are joined to one that is true where all of them are, or one of them is. -/
theorem join_asks (isAnd : Bool) {os : List Operand} {es : List Expr} (h : List.Forall₂ Asks os es) (hne : os ≠ []) :
    ∃ e, join isAnd os = .ok (.condition e) ∧ e.Definite ∧ ∀ row, e.isTrueOf row = joinTrue isAnd es row := by
  have hdefinite := definite_of_asks h
  rw [join, parts_of_asks isAnd h]
  cases es with
  | nil => exact absurd (List.forall₂_nil_right_iff.1 h) hne
  | cons e es =>
    obtain ⟨hfirst, hrest⟩ := List.forall_mem_cons.1 hdefinite
    refine ⟨_, rfl, (hfirst.foldl _ hrest).enclosed true, fun row => ?_⟩
    rw [Expr.isTrueOf_enclosed, joinTrue]
    cases isAnd with
    | true => exact Expr.isTrueOf_foldl_and
    | false => exact Expr.isTrueOf_foldl_or

/-! ### Subjects -/

/-- The styles that compare a pattern as a whole. -/
def IsWholeStyle (style : MatchStyle) : Prop := style = .exact ∨ style = .startsWith ∨ style = .endsWith

theorem IsWholeStyle.ne_soundex {style : MatchStyle} (h : IsWholeStyle style) : style ≠ .soundex := by
  rcases h with rfl | rfl | rfl <;> decide

theorem IsWholeStyle.ne_contains {style : MatchStyle} (h : IsWholeStyle style) : style ≠ .contains := by
  rcases h with rfl | rfl | rfl <;> decide

/-- **A pattern of the database is like each text that the evaluator matches**, also if there are wildcards in it. -/
theorem isLike_of_textMatches {style : MatchStyle} (hstyle : IsWholeStyle style) {pattern : String}
    (hpattern : IsPrintable pattern.toList) {value : List Char} (hvalue : IsPrintable value)
    (h : textMatches style value pattern.toList = true) :
    Cell.isLike (headerPattern style pattern).toList value = true := by
  have hlower : lower value = value.map Char.toLower := lower_of_ascii hvalue.isAscii
  have hlower' : lower pattern.toList = pattern.toList.map Char.toLower := lower_of_ascii hpattern.isAscii
  have hlong := Nat.not_lt.2 (byteLength_le_of_textMatches hstyle.ne_soundex h)
  rcases hstyle with rfl | rfl | rfl
  · rw [textMatches, if_neg hlong] at h
    have hsame : pattern.toList.map Char.toLower = value.map Char.toLower := by
      rw [← hlower, ← hlower']
      exact (beq_iff_eq.1 h).symm
    have hlike := Cell.isLike_append hsame (Cell.isLike_any [])
    rw [List.append_nil] at hlike
    show Cell.isLike ("%" ++ pattern ++ "%").toList value = true
    rw [String.toList_append, String.toList_append]
    exact Cell.isLike_any_of_suffix List.suffix_rfl hlike
  · rw [textMatches, if_neg hlong] at h
    have hprefix : pattern.toList.map Char.toLower <+: value.map Char.toLower := by
      rw [← hlower, ← hlower']
      exact List.isPrefixOf_iff_prefix.1 h
    obtain ⟨start, ⟨rest, rfl⟩, hstart⟩ := List.prefix_map_iff.1 hprefix
    show Cell.isLike (pattern ++ "%").toList (start ++ rest) = true
    rw [String.toList_append]
    exact Cell.isLike_append hstart (Cell.isLike_any rest)
  · rw [textMatches, if_neg hlong] at h
    have hsuffix : pattern.toList.map Char.toLower <:+ value.map Char.toLower := by
      rw [← hlower, ← hlower']
      exact List.isSuffixOf_iff_suffix.1 h
    obtain ⟨stop, hstop, hsame⟩ := List.suffix_map_iff.1 hsuffix
    have hlike : Cell.isLike (pattern.toList ++ []) (stop ++ []) = true := Cell.isLike_append hsame rfl
    rw [List.append_nil, List.append_nil] at hlike
    show Cell.isLike ("%" ++ pattern).toList value = true
    rw [String.toList_append]
    exact Cell.isLike_any_of_suffix hstop hlike

theorem definite_presentAndLike (style : MatchStyle) {pattern : String} (h : IsPrintable pattern.toList) :
    (presentAndLike .subject (headerPattern style pattern)).Definite :=
  (plain_presentAndLike (nul_not_mem_headerPattern style h.nul_not_mem)).definite

/-- The condition for one pattern is true of the subjects that match it. None of them is empty, so that all are there. -/
theorem presentAndLike_isTrueOf {style : MatchStyle} (hstyle : IsWholeStyle style) {pattern : String}
    (hpattern : IsPrintable pattern.toList) (hne : pattern ≠ "") {m : Summary} (hm : m.Legible)
    (h : headerMatches m.subject pattern style .plain = true) :
    (presentAndLike .subject (headerPattern style pattern)).isTrueOf m.row = true := by
  rw [headerMatches_subject hm.printable hm.start] at h
  have hlike := isLike_of_textMatches hstyle hpattern hm.printable h
  have hsubject : m.subject ≠ "" := ne_empty_of_textMatches hstyle.ne_soundex hne h
  have huncut := nul_not_mem_headerPattern style hpattern.nul_not_mem
  rw [Expr.isTrueOf, truth?_presentAndLike huncut hm.printable.nul_not_mem, hlike, bne_iff_ne.2 hsubject]
  rfl

/-- The condition for several patterns covers the test of the evaluator. -/
theorem header_asks {style : MatchStyle} (hstyle : IsWholeStyle style) {patterns : List String}
    (hpatterns : ∀ pattern ∈ patterns, IsPrintable pattern.toList) :
    ∃ o e, header style (.string "subject" :: patterns.map .string) = .ok o ∧ o.Asks e ∧
      ∀ m : Summary, m.Legible → subjectTest style patterns m = true → e.isTrueOf m.row = true := by
  have halias : Column.ofAlias? "subject" = some .subject := by decide +kernel
  rw [header, halias]
  simp only [filterMap_text?]
  by_cases hcontains : patterns.contains "" = true
  · rw [if_pos hcontains]
    exact ⟨always, _, rfl, .condition always_decides.definite, fun _ _ _ => rfl⟩
  · rw [if_neg hcontains]
    have hne : ∀ pattern ∈ patterns, pattern ≠ "" := by
      rintro pattern hpattern rfl
      exact hcontains (List.contains_iff_mem.2 hpattern)
    have hdefinite : ∀ pattern ∈ patterns, (presentAndLike .subject (headerPattern style pattern)).Definite :=
      fun pattern hpattern => definite_presentAndLike style (hpatterns pattern hpattern)
    have htrue : ∀ m : Summary, m.Legible → subjectTest style patterns m = true →
        (patterns.map fun v => presentAndLike .subject (headerPattern style v)).any (·.isTrueOf m.row) = true := by
      intro m hm htest
      rw [subjectTest, if_neg hcontains] at htest
      split at htest
      · cases htest
      · obtain ⟨pattern, hmem, hmatches⟩ := List.any_eq_true.1 htest
        rw [List.any_map, List.any_eq_true]
        exact ⟨pattern, hmem, presentAndLike_isTrueOf hstyle (hpatterns pattern hmem) (hne pattern hmem) hm hmatches⟩
    rcases patterns with _ | ⟨p, _ | ⟨p', ps⟩⟩
    · exact ⟨never, _, rfl, .condition never_decides.definite, fun m _ htest => (by cases htest)⟩
    · refine ⟨_, _, rfl, .condition (hdefinite p (List.mem_cons_self ..)), fun m hm htest => ?_⟩
      simpa using htrue m hm htest
    · obtain ⟨hfirst, hrest⟩ := List.forall_mem_cons.1 hdefinite
      refine ⟨_, _, rfl, .condition ((hfirst.foldl .or (List.forall_mem_map.2 hrest)).enclosed true),
        fun m hm htest => ?_⟩
      rw [Expr.isTrueOf_enclosed, Expr.isTrueOf_foldl_or]
      exact htrue m hm htest

end Operand

end Sql

end MailQuery
