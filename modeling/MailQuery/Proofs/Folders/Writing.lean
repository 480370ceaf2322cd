import MailQuery.Proofs.Folders.Operations
import MailQuery.Proofs.Folders.Synced

/-!
# Writing is all or nothing

A table is written row by row: it is created if it is not there, and then a transaction deletes the old rows and inserts
the new ones one after another, until one is refused because its uid is in the table already (`Store.insert`). A
transaction that breaks off leaves what was there before it (`Store.transact`). `Store.sync` says what comes of it in
one step, and is the same (`Store.sync_eq_syncByRow`).

So all rows are written if the uids are different and a table may have the name, and otherwise none
(`Store.sync_all_or_nothing`). A folder that is not written stays dirty, and saving its changes is tried again however
often, after any operations, and changes no row (`Folder.kept_unwritten`).
-/

namespace MailQuery

open Mail Sql Text

namespace Store

variable {s : Store} {name : String}

/-- Whether messages of some uids can be written to the table of a name. -/
def Accepts (name : String) (uids : List String) : Prop := isAllowedName name = true ∧ uids.Nodup

instance (name : String) (uids : List String) : Decidable (Accepts name uids) := instDecidableAnd

/-! ### Tables and their rows -/

theorem rowsOf_replaceRows (htable : (s.table? name).isSome = true) (rows : List Row) :
    (s.replaceRows name rows).rowsOf name = rows := by
  obtain ⟨t, ht⟩ := Option.isSome_iff_exists.1 htable
  refine rowsOf_of_table? ?_
  rw [table?_replaceRows, ht]
  rfl

theorem replaceRows_replaceRows (s : Store) (name : String) (rows more : List Row) :
    (s.replaceRows name rows).replaceRows name more = s.replaceRows name more := by
  rw [replaceRows, replaceRows, replaceRows, List.map_map]
  refine congrArg Store.mk (List.map_congr_left fun t _ => ?_)
  by_cases ht : t.isNamed name = true
  · have hstill : Table.isNamed { t with rows } name = true := ht
    simp only [Function.comp_apply, ht, if_true, hstill]
  · simp only [Function.comp_apply, ht, if_false, Bool.false_eq_true]

/-! ### Other tables -/

theorem isNamed_other {t : Table} {other : String} (hother : eqIgnoreAsciiCase other.toList name.toList = false)
    (ht : t.isNamed other = true) : t.isNamed name = false := by
  rw [Bool.eq_false_iff]
  intro hname
  rw [Table.isNamed, eqIgnoreAsciiCase_iff] at ht hname
  rw [eqIgnoreAsciiCase_iff.2 (ht.symm.trans hname)] at hother
  cases hother

theorem table?_replaceRows_other {other : String} (hother : eqIgnoreAsciiCase other.toList name.toList = false)
    (s : Store) (rows : List Row) : (s.replaceRows name rows).table? other = s.table? other := by
  rw [table?_replaceRows_eq_map]
  cases hfind : s.table? other with
  | none => rfl
  | some t => rw [Option.map_some, isNamed_other hother (isNamed_of_table? hfind), if_neg Bool.false_ne_true]

theorem table?_create_other {other : String} (hother : eqIgnoreAsciiCase other.toList name.toList = false)
    (s : Store) : (s.create name).table? other = s.table? other := by
  rw [create]
  split
  · rfl
  · have hnew : ¬ Table.isNamed ⟨name, []⟩ other = true := by
      intro hnamed
      have hself : Table.isNamed ⟨name, []⟩ name = false := isNamed_other hother hnamed
      rw [Table.isNamed, eqIgnoreAsciiCase_iff.2 rfl] at hself
      cases hself
    have hnone : [(⟨name, []⟩ : Table)].find? (·.isNamed other) = none :=
      List.find?_cons_of_neg (p := fun t : Table => t.isNamed other) hnew
    rw [table?, table?, List.find?_append, hnone, Option.or_none]

/-! ### Row by row -/

/-- Whether two rows have the same primary key, which is the uid. -/
def isSameKey (row other : Row) : Bool := Cell.order? (row .uid) (other .uid) == some .eq

theorem isSameKey_row {m other : Summary} : isSameKey other.row m.row = true ↔ other.uid = m.uid := by
  show (some (compareOfLessAndEq other.uid m.uid) == some .eq) = true ↔ _
  rw [beq_iff_eq, Option.some.injEq, compareOfLessAndEq]
  constructor
  · intro h
    split at h
    · cases h
    · split at h
      · next hsame => exact hsame
      · cases h
  · intro hsame
    rw [hsame, if_neg (String.lt_irrefl _), if_pos rfl]

/-- The store with one more row in the table of a name. A row whose key is there is refused. -/
def insert (s : Store) (name : String) (m : Summary) : Except SearchError Store :=
  if (s.rowsOf name).any fun row => isSameKey row m.row then .error .store
  else .ok (s.replaceRows name (s.rowsOf name ++ [m.row]))

/-- Inserts some messages, one after another, up to the first one that is refused, and counts on from `written`. -/
def insertAll (s : Store) (name : String) (written : Nat) : List Summary → Except SearchError (Nat × Store)
  | [] => .ok (written, s)
  | m :: rest =>
    match s.insert name m with
    | .ok s => insertAll s name (written + 1) rest
    | .error e => .error e

/-- What is done in a transaction stays if all of it succeeds, and otherwise the store is as it was before. -/
def transact {α : Type} (s : Store) (body : Store → Except SearchError (α × Store)) : Except SearchError α × Store :=
  match body s with
  | .ok (a, t) => (.ok a, t)
  | .error e => (.error e, s)

/-- Writes messages row by row, in a transaction behind the creation of the table. -/
def syncByRow (s : Store) (name : String) (summaries : List Summary) : Except SearchError Nat × Store :=
  if isAllowedName name then
    (s.create name).transact fun s => (s.replaceRows name []).insertAll name 0 summaries
  else (.error .store, s)

/-- A message can be inserted behind others if none of them has its uid. -/
theorem insert_replaceRows (htable : (s.table? name).isSome = true) (before : List Summary) (m : Summary) :
    (s.replaceRows name (before.map Summary.row)).insert name m =
      if m.uid ∈ before.map (·.uid) then .error .store
      else .ok (s.replaceRows name ((before ++ [m]).map Summary.row)) := by
  have hthere : ((before.map Summary.row).any fun row => isSameKey row m.row) = true ↔ m.uid ∈ before.map (·.uid) := by
    rw [List.any_map, List.any_eq_true, List.mem_map]
    exact exists_congr fun other => and_congr_right fun _ => isSameKey_row
  rw [insert, rowsOf_replaceRows htable]
  by_cases hm : m.uid ∈ before.map (·.uid)
  · rw [if_pos (hthere.2 hm), if_pos hm]
  · rw [if_neg fun h => hm (hthere.1 h), if_neg hm, replaceRows_replaceRows, List.map_append]
    rfl

/-- **The inserts succeed exactly if no uid comes twice**, and then the rows are those of the messages. Whichever of
them is refused, nothing is said about the rows that were written before it. -/
theorem insertAll_replaceRows (htable : (s.table? name).isSome = true) (before : List Summary)
    (hbefore : (before.map (·.uid)).Nodup) (written : Nat) (rest : List Summary) :
    (s.replaceRows name (before.map Summary.row)).insertAll name written rest =
      if ((before ++ rest).map (·.uid)).Nodup then
        .ok (written + rest.length, s.replaceRows name ((before ++ rest).map Summary.row))
      else .error .store := by
  induction rest generalizing before written with
  | nil =>
    rw [List.append_nil, if_pos hbefore]
    rfl
  | cons m rest ih =>
    have hmove : before ++ m :: rest = (before ++ [m]) ++ rest := by simp
    rw [insertAll, insert_replaceRows htable]
    by_cases hm : m.uid ∈ before.map (·.uid)
    · have htwice : ¬ ((before ++ m :: rest).map (·.uid)).Nodup := by
        rw [List.map_append, List.map_cons, List.nodup_append]
        intro hnodup
        exact hnodup.2.2 _ hm _ (List.mem_cons_self ..) rfl
      rw [if_pos hm, if_neg htwice]
    · have hnext : ((before ++ [m]).map (·.uid)).Nodup := by
        rw [List.map_append, List.map_singleton, List.nodup_append]
        refine ⟨hbefore, by simp, ?_⟩
        rintro uid huid other hother rfl
        exact hm (List.mem_singleton.1 hother ▸ huid)
      rw [if_neg hm]
      dsimp only
      rw [ih _ hnext, hmove, List.length_cons, Nat.add_assoc, Nat.add_comm 1]

/-- **Writing row by row is writing in one step.** -/
theorem sync_eq_syncByRow (s : Store) (name : String) (summaries : List Summary) :
    s.sync name summaries = s.syncByRow name summaries := by
  rw [sync, syncByRow]
  by_cases hname : isAllowedName name = true
  · have hinserts := insertAll_replaceRows (s.isSome_table?_create name) [] List.nodup_nil 0 summaries
    rw [List.nil_append, Nat.zero_add, List.map_nil] at hinserts
    rw [if_pos hname, if_pos hname, transact, hinserts]
    dsimp only
    split
    · rfl
    · rfl
  · rw [if_neg hname, if_neg hname]

/-! ### When nothing is written -/

theorem exists_sync_of_not_accepts {summaries : List Summary} (h : ¬ Accepts name (summaries.map (·.uid))) :
    ∃ t, s.sync name summaries = (.error .store, t) ∧ t.rowsOf name = s.rowsOf name := by
  rw [sync]
  by_cases hname : isAllowedName name = true
  · have htwice : ¬ (summaries.map (·.uid)).Nodup := fun hnodup => h ⟨hname, hnodup⟩
    refine ⟨s.create name, ?_, s.rowsOf_create name⟩
    rw [if_pos hname]
    exact if_neg htwice
  · exact ⟨s, if_neg hname, rfl⟩

/-- Messages that are refused anyway leave of a store what is left when it takes no rows. -/
theorem syncBlocked_eq_sync {summaries : List Summary} (h : ¬ Accepts name (summaries.map (·.uid))) :
    s.syncBlocked name = s.sync name summaries := by
  rw [syncBlocked, sync]
  by_cases hname : isAllowedName name = true
  · have htwice : ¬ (summaries.map (·.uid)).Nodup := fun hnodup => h ⟨hname, hnodup⟩
    rw [if_pos hname, if_pos hname]
    exact (if_neg htwice).symm
  · rw [if_neg hname, if_neg hname]

theorem rowsOf_sync_other {other : String} (hother : eqIgnoreAsciiCase other.toList name.toList = false) (s : Store)
    (summaries : List Summary) : (s.sync name summaries).2.rowsOf other = s.rowsOf other := by
  have hcreate : (s.create name).rowsOf other = s.rowsOf other := by
    rw [rowsOf, table?_create_other hother, rowsOf]
  rw [sync]
  split
  · dsimp only
    split
    · rw [rowsOf, table?_replaceRows_other hother]
      exact hcreate
    · exact hcreate
  · rfl

end Store

namespace Folder

variable {f : Folder} {name : String} {rows : List Row}

/-! ### Folders that are not written -/

theorem syncStore_of_not_accepts {s : Store} (hstore : f.store = some s) (h : ¬ Store.Accepts f.table f.uids) :
    ∃ t, s.sync f.table f.catalog.summaries = (.error .store, t) ∧ t.rowsOf f.table = s.rowsOf f.table ∧
      f.syncStore = (.error .store, { f with store := some t }) := by
  obtain ⟨t, hsync, hrows⟩ := Store.exists_sync_of_not_accepts (s := s) h
  refine ⟨t, hsync, hrows, ?_⟩
  have hwrite : f.writeTo s = (.error .store, t) := by
    rw [writeTo]
    split
    · rw [Store.syncBlocked_eq_sync h, hsync]
    · exact hsync
  rw [syncStore, hstore]
  dsimp only
  rw [hwrite]

/-- A folder with changes that its store refuses, and the rows that its table has. -/
structure Unwritten (name : String) (rows : List Row) (f : Folder) : Prop where
  table : f.table = name
  refused : ¬ Store.Accepts f.table f.uids
  dirty : f.dirty = true
  store : ∃ s, f.store = some s ∧ s.rowsOf f.table = rows

theorem Unwritten.exists_syncStore (h : f.Unwritten name rows) :
    ∃ t, f.syncStore = (.error .store, { f with store := some t }) ∧ t.rowsOf f.table = rows := by
  obtain ⟨s, hstore, hrows⟩ := h.store
  obtain ⟨t, -, hsame, hsync⟩ := syncStore_of_not_accepts hstore h.refused
  exact ⟨t, hsync, hsame.trans hrows⟩

/-- Saving the changes is tried again. -/
theorem Unwritten.exists_saveChanges (h : f.Unwritten name rows) :
    ∃ t, f.saveChanges = (.error .store, { f with store := some t }) ∧ t.rowsOf f.table = rows := by
  obtain ⟨s, hstore, -⟩ := h.store
  obtain ⟨t, hsync, hrows⟩ := h.exists_syncStore
  refine ⟨t, ?_, hrows⟩
  have htried : (f.dirty && f.store.isSome) = true := by
    rw [h.dirty, hstore]
    rfl
  rw [saveChanges, if_pos htried, hsync]

/-- **A folder that is not written stays so, and its table keeps its rows**, whatever is done with the folder. -/
theorem kept_unwritten (name : String) (rows : List Row) : Kept (Unwritten name rows) where
  fetch {f} uid h := by
    obtain ⟨cache, hcache⟩ := exists_cache_of_fetch f uid
    rw [hcache]
    exact ⟨h.table, h.refused, h.dirty, h.store⟩
  dropContent _ h := ⟨h.table, h.refused, h.dirty, h.store⟩
  change {f change} hkey uid h := by
    rw [Folder.change]
    cases hchange : changeLast uid change f.catalog.summaries with
    | none => exact h
    | some summaries =>
      have huids : summaries.map (·.uid) = f.uids :=
        map_changeLast (fun m => congrArg Prod.fst (hkey m)) hchange
      refine ⟨h.table, ?_, rfl, h.store⟩
      show ¬ Store.Accepts f.table (summaries.map (·.uid))
      rw [huids]
      exact h.refused
  setWords _ h := ⟨h.table, h.refused, h.dirty, h.store⟩
  setMemoryOnly _ h := ⟨h.table, h.refused, h.dirty, h.store⟩
  setBlocked _ h := ⟨h.table, h.refused, h.dirty, h.store⟩
  syncStore {f} h := by
    obtain ⟨t, hsync, hrows⟩ := h.exists_syncStore
    rw [hsync]
    exact ⟨h.table, h.refused, h.dirty, t, rfl, hrows⟩

end Folder

namespace Store

/-! ### All or nothing -/

/-- **Writing is all or nothing**, for every store, table and list of messages, and so is writing row by row. If the
uids are different and a table may have the name, then the messages are counted and the table has one row for each of
them and no other. If not, then writing fails and the rows are those that were there. Other tables keep their rows in
either case. A folder that could not be written is as dirty as before; if it was, then saving its changes is tried
again, after any operations, and still changes no row. -/
theorem sync_all_or_nothing (s : Store) (name : String) (summaries : List Summary) :
    s.sync name summaries = s.syncByRow name summaries ∧
    (isAllowedName name = true → (summaries.map (·.uid)).Nodup →
      ∃ t, s.sync name summaries = (.ok summaries.length, t) ∧
        (t.table? name).map (·.rows) = some (summaries.map Summary.row)) ∧
    (∀ other, eqIgnoreAsciiCase other.toList name.toList = false →
      (s.sync name summaries).2.rowsOf other = s.rowsOf other) ∧
    (¬ Accepts name (summaries.map (·.uid)) →
      ∃ t, s.sync name summaries = (.error .store, t) ∧ t.rowsOf name = s.rowsOf name ∧
        ∀ f : Folder, f.store = some s → f.table = name → f.catalog.summaries = summaries →
          f.syncStore = (.error .store, { f with store := some t }) ∧
          (f.dirty = true → ∀ ops : List Folder.Operation, ∃ u,
            (f.syncStore.2.performAll ops).saveChanges =
              (.error .store, { f.syncStore.2.performAll ops with store := some u }) ∧
            u.rowsOf name = s.rowsOf name)) := by
  refine ⟨sync_eq_syncByRow s name summaries, sync_of_nodup, ?_, ?_⟩
  · intro other hother
    exact rowsOf_sync_other hother s summaries
  · intro hrefused
    obtain ⟨t, hsync, hrows⟩ := exists_sync_of_not_accepts (s := s) hrefused
    refine ⟨t, hsync, hrows, ?_⟩
    rintro f hstore rfl rfl
    obtain ⟨t', hsync', -, hfolder⟩ := Folder.syncStore_of_not_accepts hstore hrefused
    obtain rfl : t' = t := congrArg Prod.snd (hsync'.symm.trans hsync)
    refine ⟨hfolder, fun hdirty ops => ?_⟩
    have hstart : f.Unwritten f.table (s.rowsOf f.table) := ⟨rfl, hrefused, hdirty, s, hstore, rfl⟩
    have hkept := Folder.kept_unwritten f.table (s.rowsOf f.table)
    have hlater := hkept.performAll ops (hkept.syncStore hstart)
    obtain ⟨u, hsave, hsame⟩ := hlater.exists_saveChanges
    rw [hlater.table] at hsame
    exact ⟨u, hsave, hsame⟩

/-- A table with one row, two messages that take its place, and two of one uid that do not. -/
theorem sync_all_or_nothing_twice :
    let s : Store := ⟨[⟨"in", [(Summary.ofUid "0").row]⟩]⟩
    let twice := [Summary.ofUid "1", Summary.ofUid "1"]
    let f : Folder := { Folder.ofCatalog ⟨"in", twice, none⟩ "in" (.memory []) 1 with store := some s, dirty := true }
    isAllowedName "in" = true ∧ ([Summary.ofUid "1", Summary.ofUid "2"].map (·.uid)).Nodup ∧
      (∃ t, s.sync "in" [Summary.ofUid "1", Summary.ofUid "2"] = (.ok 2, t) ∧
        (t.table? "in").map (·.rows) = some [(Summary.ofUid "1").row, (Summary.ofUid "2").row]) ∧
      eqIgnoreAsciiCase "sent".toList "in".toList = false ∧
      ¬ Accepts "in" (twice.map (·.uid)) ∧
      (∃ t, s.sync "in" twice = (.error .store, t) ∧ t.rowsOf "in" = [(Summary.ofUid "0").row]) ∧
      ∃ u, (f.syncStore.2.performAll [.setFlag "1" 1 true]).saveChanges =
          (.error .store, { f.syncStore.2.performAll [.setFlag "1" 1 true] with store := some u }) ∧
        u.rowsOf "in" = [(Summary.ofUid "0").row] := by
  intro s twice f
  have hname : isAllowedName "in" = true := by decide +kernel
  have hnodup : ([Summary.ofUid "1", Summary.ofUid "2"].map (·.uid)).Nodup := by decide
  have hother : eqIgnoreAsciiCase "sent".toList "in".toList = false := by decide +kernel
  have hrefused : ¬ Accepts "in" (twice.map (·.uid)) := by decide +kernel
  obtain ⟨-, hall, -, -⟩ := sync_all_or_nothing s "in" [Summary.ofUid "1", Summary.ofUid "2"]
  obtain ⟨-, -, -, hnothing⟩ := sync_all_or_nothing s "in" twice
  obtain ⟨t, hsync, hrows, hfolder⟩ := hnothing hrefused
  obtain ⟨-, htried⟩ := hfolder f rfl rfl rfl
  exact ⟨hname, hnodup, hall hname hnodup, hother, hrefused, ⟨t, hsync, hrows⟩, htried rfl _⟩

/-- The database keeps the names that start with `sqlite_` for itself. -/
theorem not_forall_sync_of_nodup :
    ¬ ∀ (s : Store) (name : String) (summaries : List Summary), (summaries.map (·.uid)).Nodup →
      ∃ t, s.sync name summaries = (.ok summaries.length, t) ∧ t.rowsOf name = summaries.map Summary.row := by
  intro hall
  obtain ⟨t, hsync, -⟩ := hall .empty "sqlite_x" [Summary.ofUid "1"] (by decide)
  have hrefused : isAllowedName "sqlite_x" = false := by decide +kernel
  rw [sync, hrefused] at hsync
  cases hsync

end Store

end MailQuery
