import MailQuery.Proofs.Sql.Reading
import MailQuery.Proofs.Text.Pieces
import MailQuery.Store.Basic

/-!
# Statements that are read back

The statements that ask for uids and for a number differ in what they ask for (`Asks`) and in nothing else: both are
read with the name of the table and with the same condition, whatever the text of the condition is
(`Asks.ofText?_select`). So the answers of a store are made of one list of rows, `Store.rowsWhere`, of which a search takes
the uids and a count the length.
-/

namespace MailQuery

open Text

namespace Sql

/-! ### Texts that say something -/

/-- A text in which something else than white space stands is not trimmed to nothing. -/
theorem trim_ne_nil {cs : List Char} (h : ∃ c ∈ cs, isBlank c = false) : trim cs ≠ [] := by
  obtain ⟨c, hc, hblank⟩ := h
  obtain ⟨before, after, hbefore, hafter, hcs⟩ := exists_trim cs
  intro hnil
  rw [hcs, hnil, List.nil_append, List.mem_append] at hc
  rcases hc with hc | hc
  · rw [hbefore c hc] at hblank
    cases hblank
  · rw [hafter c hc] at hblank
    cases hblank

theorem isNoCondition_eq_false {text : String} (h : ∃ c ∈ text.toList, isBlank c = false) :
    isNoCondition text = false := by
  rw [isNoCondition, List.isEmpty_eq_false_iff]
  exact trim_ne_nil h

theorem isCut_eq_false_iff {text : String} : isCut text = false ↔ '\x00' ∉ text.toList := by
  simp [isCut]

/-- A text that says nothing is not cut, as the character 0 is no white space. -/
theorem isCut_of_isNoCondition {text : String} (h : isNoCondition text = true) : isCut text = false := by
  rw [isCut_eq_false_iff]
  intro hmem
  rw [isNoCondition_eq_false ⟨_, hmem, by decide⟩] at h
  cases h

/-! ### What statements ask for -/

/-- The condition that a statement asks with. A text that says nothing asks for all rows. -/
def conditionOf? (text : String) : Option Parsed :=
  if isNoCondition text then some (.plain (.truth true)) else readText text

/-- A text is taken for a condition on some rows if it is read as that condition, which comes to no pattern that is too
long in any of them. -/
structure IsTakenFor (text : String) (e : Expr) (rows : List Row) : Prop where
  read : conditionOf? text = some (.plain e)
  patterns : ∀ row ∈ rows, e.meetsLongPattern row false = false

/-- A text is refused on some rows if it is read as no condition, or as one that comes to a pattern that is too long in one
of them. -/
def IsRefused (text : String) (rows : List Row) : Prop :=
  ∀ p, conditionOf? text = some p → ∃ row ∈ rows, p.expr.meetsLongPattern row false = true

/-- The empty text asks for all rows. -/
theorem isTakenFor_everything (rows : List Row) : IsTakenFor Expr.everything.sql (.truth true) rows where
  read := by decide +kernel
  patterns _ _ := rfl

/-- A text asks for something if its words are read as that in front of the name of a table. -/
structure Asks (what : String) (words : List Word) (wanted : Wanted) : Prop where
  spells : Spells what.toList words
  uncut : '\x00' ∉ what.toList
  read : ∀ rest, readWanted (words ++ .name "FROM" :: rest) = some (wanted, .name "FROM" :: rest)

theorem asks_uid : Asks "uid" [.name "uid"] (.value (.plain (.column .uid))) where
  spells := .name _ (by decide)
  uncut := by decide
  read rest := by
    have hfollows : Follows 1 (.name "FROM" :: rest) :=
      .of_none rfl (by rcases rest with _ | ⟨_, _ | _⟩ <;> rfl) (by simp)
    have hread := (Expr.IsReadable.column .uid).readExpr_words hfollows
    show (readExpr ((Expr.column .uid).words ++ .name "FROM" :: rest)).map _ = _
    rw [hread]
    rfl

theorem asks_count : Asks "COUNT(*)" [.name "COUNT", .mark "(", .mark "*", .mark ")"] .count where
  spells := by
    have hstar := (Spells.nil.closing.cons_mark (c := '*') (by decide)).opening
    exact (Spells.name "COUNT" (by decide)).append hstar (.cons (by decide) _)
  uncut := by decide
  read rest := rfl

namespace Asks

variable {what : String} {words : List Word} {wanted : Wanted}

/-- A statement is cut into words up to the name of the table, and then goes on. -/
theorem wordsOf?_statement (h : Asks what words wanted) {name : String} (hname : '\x00' ∉ name.toList)
    (rest : List Char) (hrest : Parts rest) :
    wordsOf? (("SELECT " ++ what ++ " FROM " ++ quoteName name).toList ++ rest) =
      (wordsOf? rest).map fun ws => .name "SELECT" :: (words ++ .name "FROM" :: .quoted name :: ws) := by
  have htext : ("SELECT " ++ what ++ " FROM " ++ quoteName name).toList =
      "SELECT".toList ++ ' ' :: (what.toList ++ ' ' :: ("FROM".toList ++ ' ' :: (quoteName name).toList)) := by
    simp
  have hfrom := (Spells.name "FROM" (by decide)).append_blank (.quoteName hname)
  have hall := (Spells.name "SELECT" (by decide)).append_blank (h.spells.append_blank hfrom)
  rw [htext, hall rest hrest]
  simp

/-- The words of a statement are read as what is asked for, the table and the condition. -/
theorem readQuery_words (h : Asks what words wanted) (name : String) (rest : List Word) :
    readQuery (.name "SELECT" :: (words ++ .name "FROM" :: .quoted name :: rest)) =
      (readWhere rest).map fun condition => ⟨wanted, name, condition⟩ := by
  have hselect : Word.isKeyword "select" (.name "SELECT") = true := by decide
  have hfrom : Word.isKeyword "from" (.name "FROM") = true := by decide
  rw [readQuery, hselect, if_pos rfl, h.read, Option.bind_some]
  simp only [readFrom, hfrom, if_true]

theorem isCut_select (h : Asks what words wanted) (name condition : String) :
    isCut (select what name condition) = (isCut name || isCut condition) := by
  have hall : isCut ("SELECT " ++ what ++ " FROM " ++ quoteName name) = isCut name := by
    have huncut := h.uncut
    simp [isCut, quoteName, mem_doubled_iff, huncut]
  rw [select]
  split
  · next hblank => rw [hall, isCut_of_isNoCondition hblank, Bool.or_false]
  · rw [← hall]
    simp [isCut, Bool.or_assoc]

/-- **What a statement asks for is read from its text.** -/
theorem ofText?_select (h : Asks what words wanted) (name condition : String) :
    Query.ofText? (select what name condition) =
      if isCut name then none else (conditionOf? condition).map fun p => ⟨wanted, name, p⟩ := by
  rw [Query.ofText?, h.isCut_select]
  cases hname : isCut name with
  | true => rfl
  | false =>
    have hwords := h.wordsOf?_statement (isCut_eq_false_iff.1 hname)
    rw [Bool.false_or, select, conditionOf?]
    cases hblank : isNoCondition condition with
    | true =>
      have hall := hwords [] .nil
      rw [List.append_nil, wordsOf?_nil, Option.map_some] at hall
      simp only [isCut_of_isNoCondition hblank, if_true, if_false, Bool.false_eq_true, hall, Option.bind_some,
        h.readQuery_words]
      rfl
    | false =>
      have hall := hwords (" WHERE " ++ condition).toList (by rw [String.toList_append]; exact .cons (by decide) _)
      have hwhere : wordsOf? (" WHERE " ++ condition).toList =
          (wordsOf? condition.toList).map (Word.name "WHERE" :: ·) := by
        have hkeyword := Spells.name "WHERE" (by decide) (' ' :: condition.toList) (.cons (by decide) _)
        rw [wordsOf?_blank] at hkeyword
        rw [String.toList_append]
        exact (wordsOf?_blank _).trans hkeyword
      rw [hwhere, Option.map_map, ← String.toList_append] at hall
      have hcondition : ∀ ws, readWhere (.name "WHERE" :: ws) = readWhole ws := fun ws => rfl
      simp only [if_false, Bool.false_eq_true, readText]
      rw [String.append_assoc, hall]
      cases isCut condition with
      | true => rfl
      | false =>
        cases wordsOf? condition.toList with
        | none => rfl
        | some ws =>
          simp only [Option.map_some, Option.bind_some, Function.comp_apply, h.readQuery_words, hcondition,
            Bool.false_eq_true, if_false]

end Asks

end Sql

/-! ### Answers of a store -/

namespace Store

open Sql

/-- The rows that a statement with some condition asks about. -/
def rowsWhere (s : Store) (name condition : String) : Except SearchError (List Row) :=
  if isCut name then .error .store
  else
    match conditionOf? condition with
    | none => .error .store
    | some p => s.rowsFor ⟨.count, name, p⟩

variable {s : Store} {name text : String} {rows : List Row} {condition e : Expr}

/-- A statement asks about the same rows, whatever it asks for. -/
theorem run_select {what : String} {words : List Word} {wanted : Wanted} (h : Asks what words wanted)
    (hnamed : wanted.isNamed = true) (condition : String) :
    s.run (select what name condition) = (s.rowsWhere name condition).map fun rows => (wanted, rows) := by
  rw [run, h.ofText?_select, rowsWhere]
  cases isCut name with
  | true => rfl
  | false =>
    cases conditionOf? condition with
    | none => rfl
    | some p =>
      simp only [if_false, Bool.false_eq_true, Option.map_some, rowsFor, Query.isNamed, hnamed]
      rfl

/-- A condition that is taken as it is asks about the rows of which it is true. -/
theorem rowsWhere_of_isTakenFor (hname : isCut name = false) (hrows : (s.table? name).map (·.rows) = some rows)
    (h : IsTakenFor text e rows) : s.rowsWhere name text = .ok (rows.filter e.isTrueOf) := by
  obtain ⟨table, htable, rfl⟩ := Option.map_eq_some_iff.1 hrows
  have hshort : table.rows.any (e.meetsLongPattern · false) = false := by
    rw [List.any_eq_false]
    exact fun row hrow => by rw [h.patterns row hrow]; decide
  rw [rowsWhere, hname, if_neg (by decide), h.read]
  dsimp only
  rw [rowsFor, htable]
  simp only [Query.isNamed, Wanted.isNamed, Parsed.plain, hshort, Bool.and_self, Bool.not_true, Bool.or_self,
    Bool.false_eq_true, if_false]

/-- A condition that is refused has a fault as its answer. -/
theorem rowsWhere_of_isRefused (hrows : (s.table? name).map (·.rows) = some rows) (h : IsRefused text rows) :
    s.rowsWhere name text = .error .store := by
  obtain ⟨table, htable, rfl⟩ := Option.map_eq_some_iff.1 hrows
  rw [rowsWhere]
  split
  · rfl
  · split
    · rfl
    · next p hread =>
      have hlong : table.rows.any (p.expr.meetsLongPattern · false) = true := List.any_eq_true.2 (h p hread)
      rw [rowsFor, htable]
      dsimp only
      rw [hlong, Bool.or_true, if_pos rfl]

/-- A search takes the uids of the rows. -/
theorem uidsWhere_eq_map : s.uidsWhere name condition =
    (s.rowsWhere name condition.sql).map fun rows => rows.filterMap fun r => cellText? (r .uid) := by
  rw [uidsWhere, texts, run_select asks_uid rfl]
  cases s.rowsWhere name condition.sql <;> rfl

/-- A count takes the number of the rows. -/
theorem count_eq_map : s.count name condition = (s.rowsWhere name condition.sql).map List.length := by
  rw [count, number, run_select asks_count rfl]
  cases s.rowsWhere name condition.sql <;> rfl

/-- What is asked about are the rows of the table that satisfy what was read. -/
theorem exists_of_rowsWhere {condition : String} {rows : List Row} (h : s.rowsWhere name condition = .ok rows) :
    ∃ table, s.table? name = some table ∧ ∃ p : Row → Bool, rows = table.rows.filter p := by
  rw [rowsWhere] at h
  split at h
  · cases h
  · split at h
    · cases h
    · rw [rowsFor] at h
      split at h
      · cases h
      · next table htable =>
        split at h
        · cases h
        · cases h
          exact ⟨table, htable, _, rfl⟩

end Store

end MailQuery
