import MailQuery.Proofs.Folders.UpToDate
import MailQuery.Proofs.Sql.Statements

/-!
# Counts

A count is answered in one statement of its own. The database counts rows where a search collects the uids of these
rows and picks the messages of the folder that have them; both come to the same number only if each row is that of one
message (`Store.length_filter_contains`). This is so after the changes are saved, unless the table of a folder that is
not dirty was behind (`Folder.mirrored_of_saveChanges`).

`count_eq_length` is the main statement.
-/

namespace MailQuery

open Mail Sql

/-! ### Rows and their uids -/

/-- As many uids are picked by the rows that satisfy a condition as there are such rows, if the rows are those of messages
with different uids. -/
theorem Store.length_filter_contains {summaries : List Summary} {rows : List Row}
    (hnodup : (summaries.map (·.uid)).Nodup) (hrows : rows.Perm (summaries.map Summary.row)) (p : Row → Bool) :
    ((summaries.map (·.uid)).filter fun uid =>
      ((rows.filter p).filterMap fun r => cellText? (r .uid)).contains uid).length = (rows.filter p).length := by
  have huid : ((fun r : Row => cellText? (r .uid)) ∘ Summary.row) = some ∘ Summary.uid := by
    funext m
    exact congrArg some String.ofList_toList
  -- The rows are those of the messages which pass a test, in some order.
  have hchosen : (rows.filter p).Perm ((summaries.filter (p ∘ Summary.row)).map Summary.row) := by
    rw [← List.filter_map]
    exact hrows.filter p
  have hfound : ((rows.filter p).filterMap fun r => cellText? (r .uid)).Perm
      ((summaries.filter (p ∘ Summary.row)).map (·.uid)) := by
    refine (hchosen.filterMap _).trans ?_
    rw [List.filterMap_map, huid, List.filterMap_eq_map]
  have hsublist : ((summaries.filter (p ∘ Summary.row)).map (·.uid)).Sublist (summaries.map (·.uid)) :=
    List.filter_sublist.map _
  have hpicked : ((summaries.map (·.uid)).filter fun uid =>
      ((rows.filter p).filterMap fun r => cellText? (r .uid)).contains uid).Perm
      ((summaries.filter (p ∘ Summary.row)).map (·.uid)) := by
    refine (List.perm_ext_iff_of_nodup (hnodup.filter _) (hsublist.nodup hnodup)).2 fun uid => ?_
    rw [List.mem_filter, List.contains_iff_mem, hfound.mem_iff]
    exact ⟨fun h => h.2, fun h => ⟨hsublist.subset h, h⟩⟩
  rw [hpicked.length_eq, hchosen.length_eq, List.length_map, List.length_map]

namespace Folder

variable {f g : Folder}

/-- The table that a folder has in its store, if there is one, holds the rows of its summaries in some order. -/
def Mirrored (f : Folder) : Prop :=
  ∀ store, f.store = some store → ∀ table, store.table? f.table = some table →
    table.rows.Perm (f.catalog.summaries.map Summary.row)

theorem UpToDate.mirrored (h : f.UpToDate) : f.Mirrored := by
  intro store hstore table htable
  obtain ⟨store', hstore', hshows⟩ := h
  rw [hstore] at hstore'
  cases hstore'
  have hrows := Store.shows_iff.1 hshows
  rw [htable] at hrows
  exact .of_eq (Option.some.inj hrows)

theorem mirrored_of_store_eq_none (h : f.store = none) : f.Mirrored := by
  intro store hstore
  rw [h] at hstore
  cases hstore

/-- What is written is not dirty any more. -/
theorem clean_of_syncStore {store : Store} {n : Nat} (hstore : f.store = some store)
    (hsync : f.syncStore = (.ok n, g)) : g.dirty = false ∧ g.catalog = f.catalog := by
  rw [syncStore, hstore] at hsync
  dsimp only at hsync
  split at hsync
  · cases hsync
    exact ⟨rfl, rfl⟩
  · cases hsync

/-- Saving the changes leaves the messages, and brings a table up to date that was behind as the folder was dirty. -/
theorem mirrored_of_saveChanges (h : f.dirty = true ∨ f.Mirrored) (hsave : f.saveChanges = (.ok (), g)) :
    g.Mirrored ∧ g.catalog = f.catalog := by
  rw [saveChanges] at hsave
  split at hsave
  · next hdirty =>
    obtain ⟨-, hsome⟩ := Bool.and_eq_true _ _ ▸ hdirty
    obtain ⟨store, hstore⟩ := Option.isSome_iff_exists.1 hsome
    split at hsave
    · next n written hsync =>
      cases hsave
      obtain ⟨hclean, hcatalog⟩ := clean_of_syncStore hstore hsync
      exact ⟨((ready_of_syncStore hstore hsync).toRecorded.upToDate hclean).mirrored, hcatalog⟩
    · cases hsave
  · next hclean =>
    -- Nothing is written: the table is not behind, or there is none.
    cases hsave
    refine ⟨h.elim (fun hdirty => ?_) fun hrows => hrows, rfl⟩
    rw [hdirty, Bool.true_and, Bool.not_eq_true, Option.isSome_eq_false_iff, Option.isNone_iff_eq_none] at hclean
    exact mirrored_of_store_eq_none hclean

end Folder

namespace Session

variable {s : Session} {f g : Folder}

/-- The store counts what its search finds, and a table that was never written has nothing to be counted. -/
theorem orIfMissing_count {store : Store} (hnodup : f.uids.Nodup)
    (hrows : ∀ table, store.table? f.table = some table → table.rows.Perm (f.catalog.summaries.map Summary.row))
    (condition : Expr) : orIfMissing 0 (store.count f.table condition) =
      (orIfMissing [] ((store.uidsWhere f.table condition).map fun found =>
        f.uids.filter fun uid => found.contains uid)).map (·.length) := by
  rw [Store.count_eq_map, Store.uidsWhere_eq_map]
  cases hselect : store.rowsWhere f.table condition.sql with
  | error e => cases e <;> rfl
  | ok rows =>
    obtain ⟨table, htable, p, rfl⟩ := Store.exists_of_rowsWhere hselect
    exact congrArg Except.ok (Store.length_filter_contains hnodup (hrows table htable) p).symm

theorem countDatabase_eq (hnodup : f.uids.Nodup) (hrows : f.dirty = true ∨ f.Mirrored) (s : Session)
    (expression : String) : s.countDatabase f expression =
      ((s.searchDatabase f expression).1.map (·.length), (s.searchDatabase f expression).2) := by
  rw [countDatabase, searchDatabase]
  cases hplan : s.plan f expression with
  | mk plan g =>
    cases plan with
    | evaluate => rfl
    | fail e => rfl
    | ask store condition =>
      obtain ⟨hsave, hstore⟩ := store_of_plan hplan
      obtain ⟨hmirrored, hcatalog⟩ := Folder.mirrored_of_saveChanges hrows hsave
      have hnodup : g.uids.Nodup := by rwa [Folder.uids, hcatalog]
      dsimp only
      rw [orIfMissing_count hnodup (hmirrored store hstore)]

/-- **A count is the length of a search.** In a folder with different uids, of which the table in the store is not behind
unless the folder is dirty, an expression is counted if and only if it is found, and as often as there are messages in the
answer, whatever the compiler and the way in which it is answered. Both leave the same session and the same folder. -/
theorem count_eq_length (hnodup : f.uids.Nodup) (hrows : f.dirty = true ∨ f.Mirrored) (s : Session)
    (expression : String) : (s.count f expression).1 = (s.search f expression none).1.map (·.length) ∧
      (s.count f expression).2 = (s.search f expression none).2 := by
  rw [count, search]
  dsimp only
  cases f.route (effective expression) none with
  | memory => exact ⟨rfl, rfl⟩
  | database =>
    rw [countDatabase_eq hnodup hrows]
    exact ⟨rfl, rfl⟩

/-- A folder without a store, the same folder written to one, and that with a flag which is not written yet. -/
theorem count_eq_length_flagged :
    let f := Folder.ofMessages "in" [("1", Ascii.bytes "Subject: a\n\n"), ("2", Ascii.bytes "Subject: b\n\n")]
    let written := (f.attachStore .empty).syncStore.2
    let flagged := written.setFlag "2" Flags.seen true
    let s := start .stack 0
    let expression := "(system-flag \"seen\")"
    (f.uids.Nodup ∧ f.store = none ∧
      (s.count f expression).1 = (s.search f expression none).1.map (·.length)) ∧
    (written.uids.Nodup ∧ written.Mirrored ∧
      (s.count written expression).1 = (s.search written expression none).1.map (·.length)) ∧
    (flagged.uids.Nodup ∧ flagged.dirty = true ∧ (s.search flagged expression none).1 = .ok ["2"] ∧
      (s.count flagged expression).1 = .ok 1) := by
  intro f written flagged s expression
  have hnodup : f.uids.Nodup := by decide +kernel
  have hwritten : written.uids.Nodup := by decide +kernel
  have hflagged : flagged.uids.Nodup := by decide +kernel
  have hdirty : flagged.dirty = true := by decide +kernel
  have hsearch : (s.search flagged expression none).1 = .ok ["2"] := eq_ok_of_toOption (by decide +kernel)
  have hsync : (f.attachStore .empty).syncStore = (.ok 2, written) := Prod.ext (eq_ok_of_toOption (by decide +kernel)) rfl
  have hclean : written.dirty = false := by decide +kernel
  have hmirrored : written.Mirrored := ((Folder.ready_of_syncStore rfl hsync).toRecorded.upToDate hclean).mirrored
  refine ⟨⟨hnodup, rfl, ?_⟩, ⟨hwritten, hmirrored, ?_⟩, hflagged, hdirty, hsearch, ?_⟩
  · exact (count_eq_length hnodup (.inr (Folder.mirrored_of_store_eq_none rfl)) s expression).1
  · exact (count_eq_length hwritten (.inr hmirrored) s expression).1
  · rw [(count_eq_length hflagged (.inl hdirty) s expression).1, hsearch]
    rfl

end Session

end MailQuery
