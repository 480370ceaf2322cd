import MailQuery.Proofs.Folders.InMemory

/-!
# Operations on folders

`Folder.Operation` lists what can be done with a folder while its store and the name of its table stay the same. An
operation is made of few kinds of steps: messages are fetched or dropped, a summary is changed, an index of words is put
in place, the summaries are written to the store, which may refuse them for a while. `Folder.Kept` says that each of
these keeps a property; then every operation keeps it (`Kept.perform`), and so does every run of operations
(`Kept.performAll`). What is kept by all steps but dropping is `Steady`; it is kept by a run if each message that is
dropped in the run leaves it as it is (`Steady.performAll`).

The faithfulness of the cache is such a property, so that it holds in every state of an opened folder (`Opened.faithful`).
-/

namespace MailQuery

open Mail Search

namespace Folder

/-- What can be done with a folder while its store and the name of its table stay the same. Searches may be those of any
session. -/
inductive Operation where
  | fetch (uid : String)
  | evaluate (scope : Scope) (current : Option Summary) (cancelled : Bool) (t : Term)
  | dropContent (uid : String)
  | buildWordIndex
  | setFlag (uid : String) (bit : UInt32) (on : Bool)
  | addUserFlag (uid flag : String)
  | setUserTag (uid name value : String)
  | setMemoryOnly (memoryOnly : Bool)
  /-- The store stops taking rows, or takes them again. -/
  | setBlocked (blocked : Bool)
  | syncStore
  | saveChanges
  | search (s : Session) (expression : String) (subset : Option (List String))
  | count (s : Session) (expression : String)

/-- The folder after an operation, whether that succeeded or failed. -/
def perform (f : Folder) : Operation → Folder
  | .fetch uid => (f.fetch uid).2
  | .evaluate scope current cancelled t => (f.evaluate scope current cancelled t).2
  | .dropContent uid => f.dropContent uid
  | .buildWordIndex => f.buildWordIndex
  | .setFlag uid bit on => f.setFlag uid bit on
  | .addUserFlag uid flag => f.addUserFlag uid flag
  | .setUserTag uid name value => f.setUserTag uid name value
  | .setMemoryOnly memoryOnly => { f with memoryOnly }
  | .setBlocked blocked => { f with blocked }
  | .syncStore => f.syncStore.2
  | .saveChanges => f.saveChanges.2
  | .search s expression subset => (s.search f expression subset).2.2
  | .count s expression => (s.count f expression).2.2

/-- The folder after some operations, one after another. -/
def performAll (f : Folder) (ops : List Operation) : Folder := ops.foldl perform f

/-! ### What operations keep -/

/-- A property of folders that is kept by each step of an operation but for dropping. -/
structure Steady (P : Folder → Prop) : Prop where
  fetch {f : Folder} (uid : String) (h : P f) : P (f.fetch uid).2
  /-- No operation changes the uid or the span of a summary. -/
  change {f : Folder} {change : Summary → Summary} (hkey : ∀ m, locator (change m) = locator m) (uid : String)
    (h : P f) : P (f.change uid change)
  setWords {f : Folder} (words : Option WordIndex) (h : P f) : P { f with catalog := { f.catalog with words } }
  setMemoryOnly {f : Folder} (memoryOnly : Bool) (h : P f) : P { f with memoryOnly }
  setBlocked {f : Folder} (blocked : Bool) (h : P f) : P { f with blocked }
  syncStore {f : Folder} (h : P f) : P f.syncStore.2

/-- A property of folders that is kept by each step of an operation. -/
structure Kept (P : Folder → Prop) : Prop extends Steady P where
  dropContent {f : Folder} (uid : String) (h : P f) : P (f.dropContent uid)

variable {P : Folder → Prop} {f : Folder}

theorem indexBodies_induction (hfetch : ∀ f uid, P f → P (f.fetch uid).2) (index : WordIndex) (uids : List String)
    (h : P f) : P (indexBodies index f uids).2 := by
  induction uids generalizing f index with
  | nil => exact h
  | cons uid rest ih =>
    have hnext := hfetch f uid h
    rw [indexBodies]
    cases hanswer : f.fetch uid with
    | mk answer g =>
      rw [hanswer] at hnext
      cases answer with
      | error e => exact ih index hnext
      | ok m => exact ih (index.addMessage uid m.bodyText) hnext

/-- **What the steps keep, an operation keeps.** If it drops a message, that has to keep it as well. -/
theorem Steady.perform (hsteady : Steady P) (op : Operation)
    (hdrop : ∀ uid, op = .dropContent uid → P (f.dropContent uid)) (h : P f) : P (f.perform op) := by
  have hfetch : ∀ f uid, P f → P (f.fetch uid).2 := fun _ uid h => hsteady.fetch uid h
  have hsync : ∀ f, P f → P f.syncStore.2 := fun _ h => hsteady.syncStore h
  cases op with
  | fetch uid => exact hsteady.fetch uid h
  | evaluate scope current cancelled t => exact runOn_induction hfetch (Search.evaluate scope current cancelled t) h
  | dropContent uid => exact hdrop uid rfl
  | buildWordIndex => exact hsteady.setWords _ (indexBodies_induction hfetch .empty f.uids h)
  | setFlag uid bit on =>
    refine hsteady.change ?_ uid h
    exact fun _ => rfl
  | addUserFlag uid flag =>
    refine hsteady.change ?_ uid h
    exact fun _ => rfl
  | setUserTag uid name value =>
    refine hsteady.change ?_ uid h
    exact fun _ => rfl
  | setMemoryOnly memoryOnly => exact hsteady.setMemoryOnly memoryOnly h
  | setBlocked blocked => exact hsteady.setBlocked blocked h
  | syncStore => exact hsteady.syncStore h
  | saveChanges => exact saveChanges_induction hsync h
  | search s expression subset => exact Session.search_induction hfetch hsync s expression subset h
  | count s expression => exact Session.count_induction hfetch hsync s expression h

theorem Kept.perform (hkept : Kept P) (op : Operation) (h : P f) : P (f.perform op) :=
  hkept.toSteady.perform op (fun uid _ => hkept.dropContent uid h) h

/-- **What the steps keep holds after every run of operations** in which no drop breaks it. -/
theorem Steady.performAll (hsteady : Steady P) (ops : List Operation)
    (hdrop : ∀ g uid, .dropContent uid ∈ ops → P g → P (g.dropContent uid)) (h : P f) : P (f.performAll ops) := by
  induction ops generalizing f with
  | nil => exact h
  | cons op ops ih =>
    refine ih (fun g uid hmem => hdrop g uid (List.mem_cons_of_mem _ hmem)) (hsteady.perform op (fun uid hop => ?_) h)
    exact hdrop f uid (hop ▸ List.mem_cons_self ..) h

theorem Kept.performAll (hkept : Kept P) (ops : List Operation) (h : P f) : P (f.performAll ops) :=
  hkept.toSteady.performAll ops (fun _ uid _ hg => hkept.dropContent uid hg) h

/-! ### The cache -/

theorem faithful_syncStore (h : f.Faithful) : f.syncStore.2.Faithful := by
  rw [syncStore]
  split
  · exact h
  · split <;> exact h

theorem kept_faithful : Kept Faithful where
  fetch uid h := (fetch_eq_content h uid).2
  dropContent uid h := h.dropContent uid
  change hkey uid h := h.change hkey uid
  setWords _ h := h
  setMemoryOnly _ h := h
  setBlocked _ h := h
  syncStore h := faithful_syncStore h

/-- The folders that were opened, with nothing in their caches, after any operations on them. -/
inductive Opened : Folder → Prop where
  | start {f : Folder} (hcache : f.cache.entries = []) : Opened f
  | perform {f : Folder} (op : Operation) (h : Opened f) : Opened (f.perform op)
  | attachStore {f : Folder} (store : Store) (h : Opened f) : Opened (f.attachStore store)
  | setTable {f : Folder} (table : String) (h : Opened f) : Opened { f with table }

/-- **The cache is faithful in every state of an opened folder.** -/
theorem Opened.faithful (h : f.Opened) : f.Faithful := by
  induction h with
  | start hcache =>
    intro uid m hm
    rw [Cache.find?, hcache] at hm
    cases hm
  | perform op _ ih => exact kept_faithful.perform op ih
  | attachStore store _ ih => exact ih
  | setTable table _ ih => exact ih

end Folder

end MailQuery
