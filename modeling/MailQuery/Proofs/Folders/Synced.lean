import MailQuery.Proofs.Folders.InMemory
import MailQuery.Proofs.Text.Ascii

/-!
# Folders and their tables

A folder that was written to its store has a table of which the rows are those of its summaries, as long as no
summary is changed (`Recorded`). A change makes the folder dirty and leaves the uids alone. So saving the changes
succeeds and brings the table up to date again (`Ready.exists_saveChanges`), unless the store takes no rows for the time
being; then the folder stays as dirty as it was, and the table keeps its rows (`Recorded.syncStore_snd`).
-/

namespace MailQuery

open Mail Sql Text

/-! ### Tables -/

namespace Store

variable {s : Store} {name : String} {rows : List Row} {summaries : List Summary}

theorem isSome_table?_create (s : Store) (name : String) : ((s.create name).table? name).isSome = true := by
  rw [create]
  by_cases h : (s.table? name).isSome = true
  · rw [if_pos h, h]
  · rw [if_neg h]
    have hself : Table.isNamed ⟨name, []⟩ name = true := eqIgnoreAsciiCase_iff.2 rfl
    rw [table?, List.find?_isSome]
    exact ⟨⟨name, []⟩, List.mem_append_right _ (List.mem_singleton_self _), hself⟩

/-- New rows for the table of one name change no name, so that the table of any name is found as before. -/
theorem table?_replaceRows_eq_map (s : Store) (name other : String) (rows : List Row) :
    (s.replaceRows name rows).table? other =
      (s.table? other).map fun t => if t.isNamed name then { t with rows } else t := by
  have hnamed : ((fun t : Table => t.isNamed other) ∘ fun t : Table => if t.isNamed name then { t with rows } else t) =
      fun t => t.isNamed other := by
    funext t
    show Table.isNamed (if t.isNamed name then { t with rows } else t) other = _
    split
    · rfl
    · rfl
  rw [table?, replaceRows, List.find?_map, hnamed, table?]

theorem create_of_table? (h : (s.table? name).isSome = true) : s.create name = s := by
  rw [create, if_pos h]

theorem isNamed_of_table? {t : Table} (h : s.table? name = some t) : t.isNamed name = true := by
  simpa using List.find?_some h

theorem table?_replaceRows (s : Store) (name : String) (rows : List Row) :
    ((s.replaceRows name rows).table? name).map (·.rows) = (s.table? name).map fun _ => rows := by
  rw [table?_replaceRows_eq_map]
  cases hfind : s.table? name with
  | none => rfl
  | some t => rw [Option.map_some, Option.map_some, Option.map_some, if_pos (isNamed_of_table? hfind)]

/-- The rows of the table of a name. A table that is not there has none. -/
def rowsOf (s : Store) (name : String) : List Row := ((s.table? name).map (·.rows)).getD []

theorem rowsOf_of_table? {rows : List Row} (h : (s.table? name).map (·.rows) = some rows) : s.rowsOf name = rows := by
  rw [rowsOf, h]
  rfl

/-- A table that is created has no rows, and one that is there keeps them. -/
theorem rowsOf_create (s : Store) (name : String) : (s.create name).rowsOf name = s.rowsOf name := by
  rw [create]
  by_cases hthere : (s.table? name).isSome = true
  · rw [if_pos hthere]
  · have hnone : s.table? name = none := by simpa using hthere
    have hself : Table.isNamed ⟨name, []⟩ name = true := eqIgnoreAsciiCase_iff.2 rfl
    have hnew : (⟨s.tables ++ [⟨name, []⟩]⟩ : Store).table? name = some ⟨name, []⟩ := by
      have hfind : s.tables.find? (·.isNamed name) = none := hnone
      rw [table?, List.find?_append, hfind, Option.none_or]
      exact List.find?_cons_of_pos (p := fun t : Table => t.isNamed name) hself
    rw [if_neg hthere, rowsOf, rowsOf, hnew, hnone]
    rfl

/-- A store that takes no rows keeps those that it has. -/
theorem rowsOf_syncBlocked (s : Store) (name : String) :
    (s.syncBlocked name).1 = .error .store ∧ (s.syncBlocked name).2.rowsOf name = s.rowsOf name := by
  refine ⟨rfl, ?_⟩
  rw [syncBlocked]
  split
  · exact s.rowsOf_create name
  · rfl

/-- Writing messages of different uids under a name that is allowed succeeds and leaves their rows. -/
theorem sync_of_nodup (hname : isAllowedName name = true) (hnodup : (summaries.map (·.uid)).Nodup) :
    ∃ store, s.sync name summaries = (.ok summaries.length, store) ∧
      (store.table? name).map (·.rows) = some (summaries.map Summary.row) := by
  refine ⟨(s.create name).replaceRows name (summaries.map Summary.row), ?_, ?_⟩
  · rw [sync, if_pos hname]
    exact if_pos hnodup
  · obtain ⟨t, ht⟩ := Option.isSome_iff_exists.1 (s.isSome_table?_create name)
    rw [table?_replaceRows, ht]
    rfl

/-- Only messages of different uids are written, and only under a name that is allowed. -/
theorem nodup_of_sync {n : Nat} {store : Store} (h : s.sync name summaries = (.ok n, store)) :
    isAllowedName name = true ∧ (summaries.map (·.uid)).Nodup := by
  rw [sync] at h
  split at h
  · next hname =>
    dsimp only at h
    split at h
    · next hnodup => exact ⟨hname, hnodup⟩
    · cases h
  · cases h

end Store

namespace Folder

variable {f g : Folder}

/-! ### States after writing -/

/-- The folders that were written to a store, after any changes of summaries and any searches. -/
inductive Synced : Folder → Prop where
  | syncStore {f g : Folder} {store : Store} {n : Nat} (hstore : f.store = some store)
      (hsync : f.syncStore = (.ok n, g)) : Synced g
  | setFlag {f : Folder} (uid : String) (bit : UInt32) (on : Bool) (h : Synced f) : Synced (f.setFlag uid bit on)
  | addUserFlag {f : Folder} (uid flag : String) (h : Synced f) : Synced (f.addUserFlag uid flag)
  | setUserTag {f : Folder} (uid name value : String) (h : Synced f) : Synced (f.setUserTag uid name value)
  | setMemoryOnly {f : Folder} (memoryOnly : Bool) (h : Synced f) : Synced { f with memoryOnly }
  | search {f : Folder} (s : Session) (expression : String) (subset : Option (List String)) (h : Synced f) :
      Synced (s.search f expression subset).2.2
  | count {f : Folder} (s : Session) (expression : String) (h : Synced f) : Synced (s.count f expression).2.2

/-- What holds of a folder that was written once, also if its store refuses rows later. The table may lag behind while
the folder is dirty. -/
structure Recorded (f : Folder) : Prop where
  name : Store.isAllowedName f.table = true
  nodup : f.uids.Nodup
  store : ∃ store, f.store = some store ∧
    (f.dirty = false → (store.table? f.table).map (·.rows) = some (f.catalog.summaries.map Summary.row))

/-- A folder that was written once, and whose store takes rows. -/
structure Ready (f : Folder) : Prop extends Recorded f where
  ready : f.blocked = false

/-- Writing a folder with different uids succeeds, and its table is up to date. -/
theorem Ready.syncStore (h : f.Ready) :
    ∃ store, f.syncStore = (.ok f.catalog.summaries.length, { f with store := some store, dirty := false }) ∧
      (store.table? f.table).map (·.rows) = some (f.catalog.summaries.map Summary.row) := by
  obtain ⟨store, hstore, -⟩ := h.store
  obtain ⟨written, hsync, hrows⟩ := store.sync_of_nodup h.name h.nodup
  refine ⟨written, ?_, hrows⟩
  have hwrite : f.writeTo store = (.ok f.catalog.summaries.length, written) := by
    rw [writeTo, h.ready, if_neg (by decide), hsync]
  rw [Folder.syncStore, hstore]
  dsimp only
  rw [hwrite]

theorem ready_of_syncStore {store : Store} {n : Nat} (hstore : f.store = some store)
    (hsync : f.syncStore = (.ok n, g)) : g.Ready := by
  rw [Folder.syncStore, hstore] at hsync
  dsimp only at hsync
  cases hblocked : f.blocked with
  | true =>
    rw [writeTo, if_pos hblocked] at hsync
    cases hsync
  | false =>
    rw [writeTo, if_neg (by rw [hblocked]; decide)] at hsync
    cases hanswer : store.sync f.table f.catalog.summaries with
    | mk answer written =>
      rw [hanswer] at hsync
      cases answer with
      | error e => cases hsync
      | ok k =>
        cases hsync
        obtain ⟨hname, hnodup⟩ := Store.nodup_of_sync hanswer
        obtain ⟨written', hsync', hrows⟩ := store.sync_of_nodup hname hnodup
        obtain rfl : written = written' := congrArg Prod.snd (hanswer.symm.trans hsync')
        exact ⟨⟨hname, hnodup, written, rfl, fun _ => hrows⟩, hblocked⟩

/-- A store that takes no rows leaves the folder as dirty as it was, and the rows as they were. -/
theorem syncStore_of_blocked {store : Store} (hstore : f.store = some store) (hblocked : f.blocked = true) :
    f.syncStore = (.error .store, { f with store := some (store.syncBlocked f.table).2 }) := by
  rw [Folder.syncStore, hstore]
  dsimp only
  rw [writeTo, if_pos hblocked]
  rfl

/-- A change of a summary leaves the uids alone and makes the folder dirty. -/
theorem Recorded.change (h : f.Recorded) {change : Summary → Summary} (huid : ∀ m, (change m).uid = m.uid)
    (uid : String) : (f.change uid change).Recorded := by
  rw [Folder.change]
  cases hchange : changeLast uid change f.catalog.summaries with
  | none => exact h
  | some summaries =>
    have huids : summaries.map (·.uid) = f.catalog.summaries.map (·.uid) := map_changeLast huid hchange
    obtain ⟨store, hstore, -⟩ := h.store
    refine ⟨h.name, ?_, store, hstore, fun hclean => ?_⟩
    · show (summaries.map (·.uid)).Nodup
      rw [huids]
      exact h.nodup
    · -- The folder is dirty now, so that nothing is said about the table.
      cases hclean

theorem blocked_change (f : Folder) (uid : String) (change : Summary → Summary) :
    (f.change uid change).blocked = f.blocked := by
  rw [Folder.change]
  split <;> rfl

theorem Ready.change (h : f.Ready) {change : Summary → Summary} (huid : ∀ m, (change m).uid = m.uid)
    (uid : String) : (f.change uid change).Ready :=
  ⟨h.toRecorded.change huid uid, by rw [blocked_change, h.ready]⟩

/-- Saving the changes succeeds, and the table is up to date then. -/
theorem Ready.exists_saveChanges (h : f.Ready) :
    ∃ store, f.saveChanges = (.ok (), { f with store := some store, dirty := false }) ∧
      (store.table? f.table).map (·.rows) = some (f.catalog.summaries.map Summary.row) := by
  obtain ⟨store, hstore, hclean⟩ := h.store
  rw [saveChanges]
  cases hdirty : f.dirty with
  | true =>
    obtain ⟨written, hsync, hrows⟩ := h.syncStore
    refine ⟨written, ?_, hrows⟩
    rw [hstore, if_pos (show (true && (some store).isSome) = true from rfl), hsync]
  | false =>
    refine ⟨store, ?_, hclean hdirty⟩
    rw [if_neg (show ¬ (false && f.store.isSome) = true from Bool.false_ne_true), ← hstore, ← hdirty]

theorem Ready.syncStore_snd (h : f.Ready) : f.syncStore.2.Ready := by
  obtain ⟨store, hsync, hrows⟩ := h.syncStore
  rw [hsync]
  exact ⟨⟨h.name, h.nodup, store, rfl, fun _ => hrows⟩, h.ready⟩

/-- **Writing leaves a folder recorded, whether it succeeds or not.** -/
theorem Recorded.syncStore_snd (h : f.Recorded) : f.syncStore.2.Recorded := by
  cases hblocked : f.blocked with
  | false => exact (Ready.mk h hblocked).syncStore_snd.toRecorded
  | true =>
    obtain ⟨store, hstore, hclean⟩ := h.store
    rw [syncStore_of_blocked hstore hblocked]
    refine ⟨h.name, h.nodup, _, rfl, fun hdirty => ?_⟩
    -- The table of a folder that is not dirty is there already, so that nothing is created.
    have hrows := hclean hdirty
    have hthere : (store.table? f.table).isSome = true := by
      rw [← Option.isSome_map, hrows]
      rfl
    show (((if Store.isAllowedName f.table then store.create f.table else store).table? f.table).map (·.rows)) = _
    rw [if_pos h.name, Store.create_of_table? hthere, hrows]

theorem Recorded.fetch (h : f.Recorded) (uid : String) : (f.fetch uid).2.Recorded := by
  obtain ⟨cache, hcache⟩ := exists_cache_of_fetch f uid
  rw [hcache]
  exact ⟨h.name, h.nodup, h.store⟩

theorem Ready.fetch (h : f.Ready) (uid : String) : (f.fetch uid).2.Ready := by
  refine ⟨h.toRecorded.fetch uid, ?_⟩
  obtain ⟨cache, hcache⟩ := exists_cache_of_fetch f uid
  rw [hcache]
  exact h.ready

/-- **In every state after writing, the table holds the rows of the summaries unless the folder is dirty.** -/
theorem Synced.ready (h : f.Synced) : f.Ready := by
  induction h with
  | syncStore hstore hsync => exact ready_of_syncStore hstore hsync
  | setFlag uid bit on _ ih =>
    refine ih.change ?_ uid
    exact fun _ => rfl
  | addUserFlag uid flag _ ih =>
    refine ih.change ?_ uid
    exact fun _ => rfl
  | setUserTag uid name value _ ih =>
    refine ih.change ?_ uid
    exact fun _ => rfl
  | setMemoryOnly on _ ih => exact ⟨⟨ih.name, ih.nodup, ih.store⟩, ih.ready⟩
  | search s expression subset _ ih =>
    exact Session.search_induction (fun _ uid h => h.fetch uid) (fun _ => Ready.syncStore_snd) s expression subset ih
  | count s expression _ ih =>
    exact Session.count_induction (fun _ uid h => h.fetch uid) (fun _ => Ready.syncStore_snd) s expression ih

end Folder

end MailQuery
