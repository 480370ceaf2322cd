import Mathlib.Data.List.Forall2
import MailQuery.Proofs.Folders.Operations
import MailQuery.Proofs.Folders.Synced

/-!
# Tables that do not lag behind

A table may lag behind its folder, as summaries are changed without being written, and writing may fail. It must not lag
behind unnoticed, and not when the database has answered. `NeverBehind` is what this comes to: the table of a folder that
is not dirty shows the messages, whatever saves the changes brings the table up to date, searches of the database
included, and what fails to save them leaves the folder dirty and the rows as they were.

What a row shows of a message is written down cell by cell (`Row.Shows`). The invariant is `Recorded`, which every
operation keeps (`kept_recorded`). `neverBehind_performAll` is the main statement.
-/

namespace MailQuery

open Mail Sql Search

/-! ### What a row shows -/

/-- The columns that hold one flag each. -/
def flagColumns : List (Column × UInt32) :=
  [(.read, Flags.seen), (.deleted, Flags.deleted), (.replied, Flags.answered), (.important, Flags.flagged),
   (.junk, Flags.junk), (.attachment, Flags.attachments)]

/-- The columns that hold one header each. -/
def headerColumns : List (Column × (Summary → String)) :=
  [(.subject, Summary.subject), (.sender, Summary.sender), (.recipients, Summary.recipients), (.copies, Summary.copies),
   (.mailingList, Summary.mailingList)]

/-- A row shows a message if each cell holds what the summary says: a flag is 1 or 0, an empty header is null, and labels
and tags stand in texts with spaces between them. A size that has no 63 bits is shown as the largest number. -/
structure Sql.Row.Shows (r : Row) (m : Summary) : Prop where
  uid : r .uid = .text m.uid
  flags : r .flags = .int (Int64.ofNat m.flags.bits.toNat)
  flag : ∀ entry ∈ flagColumns, r entry.1 = .int (if m.flags.contains entry.2 then 1 else 0)
  size : r .size = .int (Int64.ofIntClamp m.size.toNat)
  sent : r .sent = .int m.sent
  received : r .received = .int m.received
  header : ∀ entry ∈ headerColumns, r entry.1 = if entry.2 m = "" then .null else .text (entry.2 m)
  labels : r .labels = .text (String.intercalate " " m.userFlags.toList)
  tags : r .tags =
    .text (String.intercalate " " (m.userTags.entries.map fun (name, value) => name ++ " " ++ value))

/-- The row of a message shows it. -/
theorem Mail.Summary.shows_row (m : Summary) : m.row.Shows m where
  uid := rfl
  flags := rfl
  flag := by simp [flagColumns, row, Cell.ofBool]
  size := rfl
  sent := rfl
  received := rfl
  header := by simp [headerColumns, row, textOrNull]
  labels := rfl
  tags := rfl

/-- No other row does. -/
theorem Sql.Row.shows_iff {r : Row} {m : Summary} : r.Shows m ↔ r = m.row := by
  refine ⟨fun h => ?_, fun h => h ▸ m.shows_row⟩
  have hm := m.shows_row
  have hflag : ∀ entry ∈ flagColumns, r entry.1 = m.row entry.1 := fun entry he =>
    (h.flag entry he).trans (hm.flag entry he).symm
  have hheader : ∀ entry ∈ headerColumns, r entry.1 = m.row entry.1 := fun entry he =>
    (h.header entry he).trans (hm.header entry he).symm
  simp only [flagColumns, List.forall_mem_cons] at hflag
  simp only [headerColumns, List.forall_mem_cons] at hheader
  obtain ⟨hread, hdeleted, hreplied, himportant, hjunk, hattachment, -⟩ := hflag
  obtain ⟨hsubject, hsender, hrecipients, hcopies, hlist, -⟩ := hheader
  funext c
  cases c with
  | uid => exact h.uid
  | flags => exact h.flags
  | read => exact hread
  | deleted => exact hdeleted
  | replied => exact hreplied
  | important => exact himportant
  | junk => exact hjunk
  | attachment => exact hattachment
  | size => exact h.size
  | sent => exact h.sent
  | received => exact h.received
  | subject => exact hsubject
  | sender => exact hsender
  | recipients => exact hrecipients
  | copies => exact hcopies
  | mailingList => exact hlist
  | labels => exact h.labels
  | tags => exact h.tags

/-- Rows show messages one by one if they are the rows of these messages. -/
theorem Sql.Row.forall₂_shows_iff {rows : List Row} {summaries : List Summary} :
    List.Forall₂ Row.Shows rows summaries ↔ rows = summaries.map Summary.row := by
  have hshows : Row.Shows = fun r m => r = Summary.row m := by
    funext r m
    exact propext Row.shows_iff
  rw [hshows, ← List.forall₂_map_right_iff (f := Summary.row) (R := Eq), List.forall₂_eq_eq_eq]

/-- A store shows the messages of a folder if its table has one row for each of them, in their order. -/
def Store.Shows (store : Store) (f : Folder) : Prop :=
  ∃ table, store.table? f.table = some table ∧ List.Forall₂ Row.Shows table.rows f.catalog.summaries

theorem Store.shows_iff {store : Store} {f : Folder} :
    store.Shows f ↔ (store.table? f.table).map (·.rows) = some (f.catalog.summaries.map Summary.row) := by
  simp only [Shows, Row.forall₂_shows_iff, Option.map_eq_some_iff]

namespace Session

variable {s : Session} {f g : Folder} {expression : String}

/-- The store that is asked is that of the folder, when all changes are saved. -/
theorem store_of_plan {store : Store} {condition : Expr}
    (hplan : s.plan f expression = (.ask store condition, g)) : f.saveChanges = (.ok (), g) ∧ g.store = some store := by
  rw [plan] at hplan
  split at hplan
  · cases hplan
  · next saved hsave =>
    split at hplan
    · cases hplan
    · cases hplan
    · cases hplan
    · next hstore =>
      split at hplan
      · cases hplan
      · cases hplan
        exact ⟨hsave, hstore⟩

/-- What cannot be saved is not searched. -/
theorem searchDatabase_of_unsaved {e : SearchError} (hsave : f.saveChanges = (.error e, g)) :
    s.searchDatabase f expression = (.error e, s, g) := by
  rw [searchDatabase, plan, hsave]

theorem countDatabase_of_unsaved {e : SearchError} (hsave : f.saveChanges = (.error e, g)) :
    s.countDatabase f expression = (.error e, s, g) := by
  rw [countDatabase, plan, hsave]

end Session

namespace Folder

variable {f g : Folder}

/-- The table of a folder shows its messages. -/
def UpToDate (f : Folder) : Prop := ∃ store, f.store = some store ∧ store.Shows f

/-- What becomes of a folder when its changes are saved: the summaries stay, and the table shows them. -/
structure Saved (f g : Folder) : Prop where
  catalog : g.catalog = f.catalog
  table : g.table = f.table
  upToDate : g.UpToDate

/-- What becomes of a folder when saving fails: it is as dirty as before, and the table keeps its rows. -/
structure Unsaved (f g : Folder) : Prop where
  catalog : g.catalog = f.catalog
  table : g.table = f.table
  dirty : g.dirty = true
  rows : ∃ store written, f.store = some store ∧ g.store = some written ∧
    written.rowsOf f.table = store.rowsOf f.table

/-- The table lags behind only while the folder is dirty, and never when the database has answered. -/
structure NeverBehind (f : Folder) : Prop where
  clean : f.dirty = false → f.UpToDate
  saved {g : Folder} : f.saveChanges = (.ok (), g) → f.Saved g
  unsaved {e : SearchError} {g : Folder} : f.saveChanges = (.error e, g) → f.Unsaved g
  /-- Saving fails only while the store takes no rows. -/
  saves : f.blocked = false → f.saveChanges.1 = .ok ()
  /-- A search that goes to the database saves the changes, also if it fails later on. -/
  searched (s : Session) (expression : String) (subset : Option (List String)) :
    f.route (effective expression) subset = .database →
      (f.saveChanges.1 = .ok () ∨ ∃ uids, (s.search f expression subset).1 = .ok uids) →
        f.Saved (s.search f expression subset).2.2
  counted (s : Session) (expression : String) :
    f.route (effective expression) none = .database →
      (f.saveChanges.1 = .ok () ∨ ∃ n, (s.count f expression).1 = .ok n) → f.Saved (s.count f expression).2.2
  /-- The store that is asked shows the messages already. -/
  asked (s : Session) (expression : String) {store : Store} {condition : Expr} :
    (s.plan f expression).1 = .ask store condition → store.Shows f

/-! ### The invariant -/

theorem kept_recorded : Kept Recorded where
  fetch uid h := h.fetch uid
  dropContent _ h := ⟨h.name, h.nodup, h.store⟩
  change hkey uid h := by
    refine h.change ?_ uid
    exact fun m => congrArg Prod.fst (hkey m)
  setWords _ h := ⟨h.name, h.nodup, h.store⟩
  setMemoryOnly _ h := ⟨h.name, h.nodup, h.store⟩
  setBlocked _ h := ⟨h.name, h.nodup, h.store⟩
  syncStore h := h.syncStore_snd

/-! ### Saving -/

theorem Saved.fetch (h : f.Saved g) (uid : String) : f.Saved (g.fetch uid).2 := by
  obtain ⟨cache, hcache⟩ := exists_cache_of_fetch g uid
  rw [hcache]
  exact ⟨h.catalog, h.table, h.upToDate⟩

theorem Ready.saved (h : f.Ready) : ∃ g, f.saveChanges = (.ok (), g) ∧ f.Saved g := by
  obtain ⟨store, hsave, hrows⟩ := h.exists_saveChanges
  exact ⟨_, hsave, rfl, rfl, store, rfl, Store.shows_iff.2 hrows⟩

namespace Recorded

theorem upToDate (h : f.Recorded) (hclean : f.dirty = false) : f.UpToDate := by
  obtain ⟨store, hstore, hrows⟩ := h.store
  exact ⟨store, hstore, Store.shows_iff.2 (hrows hclean)⟩

/-- While the store takes no rows, there is nothing to save or saving fails. -/
theorem saveChanges_of_blocked (h : f.Recorded) (hblocked : f.blocked = true) :
    (f.dirty = false ∧ f.saveChanges = (.ok (), f)) ∨ ∃ g, f.saveChanges = (.error .store, g) ∧ f.Unsaved g := by
  obtain ⟨store, hstore, -⟩ := h.store
  rw [saveChanges]
  cases hdirty : f.dirty with
  | false => exact .inl ⟨rfl, rfl⟩
  | true =>
    rw [hstore, if_pos (show (true && (some store).isSome) = true from rfl), syncStore_of_blocked hstore hblocked]
    exact .inr ⟨_, rfl, rfl, rfl, hdirty, store, _, hstore, rfl, (store.rowsOf_syncBlocked f.table).2⟩

theorem saved (h : f.Recorded) (hsave : f.saveChanges = (.ok (), g)) : f.Saved g := by
  cases hblocked : f.blocked with
  | false =>
    obtain ⟨g', hsave', hsaved⟩ := (Ready.mk h hblocked).saved
    obtain rfl : g' = g := congrArg Prod.snd (hsave'.symm.trans hsave)
    exact hsaved
  | true =>
    obtain ⟨hclean, hsame⟩ | ⟨g', herror, -⟩ := h.saveChanges_of_blocked hblocked
    · obtain rfl : f = g := congrArg Prod.snd (hsame.symm.trans hsave)
      exact ⟨rfl, rfl, h.upToDate hclean⟩
    · cases herror.symm.trans hsave

theorem unsaved (h : f.Recorded) {e : SearchError} (hsave : f.saveChanges = (.error e, g)) : f.Unsaved g := by
  cases hblocked : f.blocked with
  | false =>
    obtain ⟨g', hsave', -⟩ := (Ready.mk h hblocked).saved
    cases hsave'.symm.trans hsave
  | true =>
    obtain ⟨-, hsame⟩ | ⟨g', herror, hunsaved⟩ := h.saveChanges_of_blocked hblocked
    · cases hsame.symm.trans hsave
    · obtain rfl : g' = g := congrArg Prod.snd (herror.symm.trans hsave)
      exact hunsaved

/-! ### Plans -/

/-- A plan is made when the changes are saved. -/
theorem saved_plan (h : f.Recorded) (hsave : f.saveChanges.1 = .ok ()) (s : Session) (expression : String) :
    f.Saved (s.plan f expression).2 := by
  rw [Session.plan_snd]
  exact h.saved (Prod.ext hsave rfl)

/-- The store that is asked shows the messages, as the changes have been saved to it. -/
theorem shows_of_plan (h : f.Recorded) {s : Session} {expression : String} {store : Store} {condition : Expr}
    (hplan : s.plan f expression = (.ask store condition, g)) : store.Shows f := by
  obtain ⟨hsave, hstore⟩ := Session.store_of_plan hplan
  obtain ⟨hcatalog, htable, written, hwritten, hshows⟩ := h.saved hsave
  obtain rfl : written = store := Option.some.inj (hwritten.symm.trans hstore)
  rwa [Store.Shows, hcatalog, htable] at hshows

theorem saved_searchDatabase (h : f.Recorded) (hsave : f.saveChanges.1 = .ok ()) (s : Session) (expression : String) :
    f.Saved (s.searchDatabase f expression).2.2 := by
  have hsaved := h.saved_plan hsave s expression
  rw [Session.searchDatabase]
  cases hplan : s.plan f expression with
  | mk plan g =>
    rw [hplan] at hsaved
    cases plan with
    | evaluate =>
      exact Session.searchMemory_induction (P := f.Saved) (fun _ uid hg => hg.fetch uid) s expression none hsaved
    | ask store condition => exact hsaved
    | fail e => exact hsaved

theorem saved_countDatabase (h : f.Recorded) (hsave : f.saveChanges.1 = .ok ()) (s : Session) (expression : String) :
    f.Saved (s.countDatabase f expression).2.2 := by
  have hsaved := h.saved_plan hsave s expression
  rw [Session.countDatabase]
  cases hplan : s.plan f expression with
  | mk plan g =>
    rw [hplan] at hsaved
    cases plan with
    | evaluate => exact Session.countMemory_induction (P := f.Saved) (fun _ uid hg => hg.fetch uid) s expression hsaved
    | ask store condition => exact hsaved
    | fail e => exact hsaved

/-- What the database has answered was saved before. -/
theorem ok_saveChanges_of_answer {α : Type} {answer : Except SearchError α × Session × Folder} {s : Session} {a : α}
    (hfail : ∀ e g, f.saveChanges = (.error e, g) → answer = (.error e, s, g)) (ha : answer.1 = .ok a) :
    f.saveChanges.1 = .ok () := by
  cases hsave : f.saveChanges with
  | mk saved g =>
    cases saved with
    | ok u => rfl
    | error e =>
      rw [hfail e g hsave] at ha
      cases ha

/-- **A folder whose table is recorded is never behind.** -/
theorem neverBehind (h : f.Recorded) : f.NeverBehind where
  clean := h.upToDate
  saved := h.saved
  unsaved := h.unsaved
  saves hready := by
    obtain ⟨g, hsave, -⟩ := (Ready.mk h hready).saved
    rw [hsave]
  searched s expression subset hroute hanswer := by
    rw [Session.search] at hanswer ⊢
    dsimp only at hanswer ⊢
    rw [hroute] at hanswer ⊢
    refine h.saved_searchDatabase (hanswer.elim id fun hanswer => ?_) s (effective expression)
    obtain ⟨uids, huids⟩ := hanswer
    exact ok_saveChanges_of_answer (fun e g => Session.searchDatabase_of_unsaved) huids
  counted s expression hroute hanswer := by
    rw [Session.count] at hanswer ⊢
    dsimp only at hanswer ⊢
    rw [hroute] at hanswer ⊢
    refine h.saved_countDatabase (hanswer.elim id fun hanswer => ?_) s (effective expression)
    obtain ⟨n, hn⟩ := hanswer
    exact ok_saveChanges_of_answer (fun e g => Session.countDatabase_of_unsaved) hn
  asked _ _ _ _ hplan := h.shows_of_plan (Prod.ext hplan rfl)

end Recorded

/-- **The table never lags behind an answered search.** In every state that a folder reaches by operations after it was
written to its store, the table shows the messages unless the folder is dirty, and it does so after the changes are saved
and after every search or count that the database answers. Where they cannot be saved, the folder stays dirty. -/
theorem neverBehind_performAll {store : Store} {n : Nat} (hstore : f.store = some store)
    (hsync : f.syncStore = (.ok n, g)) (ops : List Operation) : (g.performAll ops).NeverBehind :=
  (kept_recorded.performAll ops (ready_of_syncStore hstore hsync).toRecorded).neverBehind

/-- A search that cannot be read saves the changes before it fails; the tag makes the folder dirty again. It stays so
while the store takes no rows, whatever tries to save the changes. -/
theorem neverBehind_performAll_tagged :
    let f := (ofMessages "in" [("1", Ascii.bytes "Subject: a\n\n"), ("2", Ascii.bytes "Subject: b\n\n")]).attachStore .empty
    let g := f.syncStore.2
    let flagged := [Operation.setFlag "2" Flags.seen true, .search (.start .tree 0) "(match-all" none]
    let tagged := flagged ++ [.addUserFlag "9" "late", .setUserTag "1" "name" "value", .dropContent "1"]
    let refused := tagged ++ [.setBlocked true, .saveChanges, .syncStore, .count (.start .stack 0) "(match-all)"]
    let taken := refused ++ [.setBlocked false, .saveChanges]
    (f.store = some .empty ∧ f.syncStore = (.ok 2, g)) ∧
      ((g.performAll flagged).dirty = false ∧ (g.performAll flagged).NeverBehind) ∧
      ((g.performAll tagged).dirty = true ∧ (g.performAll tagged).NeverBehind) ∧
      ((g.performAll refused).dirty = true ∧ (g.performAll refused).NeverBehind) ∧
      ((g.performAll taken).dirty = false ∧ (g.performAll taken).NeverBehind) := by
  intro f g flagged tagged refused taken
  have hsync : f.syncStore = (.ok 2, g) := Prod.ext (eq_ok_of_toOption (by decide +kernel)) rfl
  have hflagged : (g.performAll flagged).dirty = false := by decide +kernel
  have htagged : (g.performAll tagged).dirty = true := by decide +kernel
  have hrefused : (g.performAll refused).dirty = true := by decide +kernel
  have htaken : (g.performAll taken).dirty = false := by decide +kernel
  exact ⟨⟨rfl, hsync⟩, ⟨hflagged, neverBehind_performAll rfl hsync flagged⟩,
    ⟨htagged, neverBehind_performAll rfl hsync tagged⟩, ⟨hrefused, neverBehind_performAll rfl hsync refused⟩,
    htaken, neverBehind_performAll rfl hsync taken⟩

end Folder

end MailQuery
