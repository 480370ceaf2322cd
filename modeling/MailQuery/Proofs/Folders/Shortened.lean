import MailQuery.Proofs.Folders.Fetches

/-!
# Folders whose mailbox file is cut short

A mailbox file can lose its end while the folder is open. Messages that were read before are still in the cache then, and
can be had as long as they stay there. So a fetch does not only depend on the content, and may fail later than it would have
to.

`Folder.Coherent` is what is left of the faithfulness of the cache: what it holds is the content, or else the content cannot
be read any more. It is kept in all these states (`Surviving.coherent`). In them a computation that succeeds has the result
that it has on fixed answers (`run_of_explains`), those that the folder gives at the start (`Coherent.explains_answer`); and a
message that was just fetched can be fetched again, with nothing changed (`fetch_fetch`).
-/

namespace MailQuery

open Mail Search

/-! ### The cache -/

namespace Cache

variable {c : Cache} {uid : String} {m : Message}

theorem length_use (c : Cache) (uid : String) (m : Message) : (c.use uid m).entries.length ≤ (c.use uid m).capacity :=
  List.length_take_le ..

/-- The message that was used last is in the cache, if there is room for one. -/
theorem find?_use (hroom : 0 < c.capacity) : (c.use uid m).find? uid = some m := by
  obtain ⟨n, hn⟩ := Nat.exists_eq_succ_of_ne_zero (Nat.pos_iff_ne_zero.1 hroom)
  rw [find?, use]
  dsimp only
  rw [hn, List.take_succ_cons, List.lookup_cons_self]

theorem find?_use_of_capacity_zero (hroom : c.capacity = 0) : (c.use uid m).find? uid = none := by
  rw [find?, use]
  dsimp only
  rw [hroom]
  rfl

/-- Using a message twice is using it once. -/
theorem use_use (c : Cache) (uid : String) (m : Message) : (c.use uid m).use uid m = c.use uid m := by
  have hothers : ∀ e ∈ (c.erase uid).entries, (e.1 != uid) = true := fun e he => (List.mem_filter.1 he).2
  have hentries : (((c.use uid m).erase uid).entries) = (c.erase uid).entries.take (c.capacity - 1) := by
    rw [erase, use]
    dsimp only
    cases hroom : c.capacity with
    | zero => rfl
    | succ n =>
      rw [List.take_succ_cons, List.filter_cons_of_neg (by simp), Nat.add_sub_cancel, List.filter_eq_self]
      exact fun e he => hothers e (List.mem_of_mem_take he)
  have hcapacity : (c.use uid m).capacity = c.capacity := rfl
  rw [use, hentries, hcapacity]
  unfold use
  cases c.capacity with
  | zero => rfl
  | succ n => rw [List.take_succ_cons, List.take_succ_cons, Nat.add_sub_cancel, List.take_take, Nat.min_self]

end Cache

/-! ### Losing the end of a file -/

/-- The source when its file is cut. Raw messages are in no file. -/
def Source.shorten (count : Nat) : Source → Source
  | .memory raws => .memory raws
  | .mailbox file => .mailbox (file.take count)

namespace Folder

/-- The folder when its mailbox file is cut. -/
def shorten (f : Folder) (count : Nat) : Folder := { f with source := f.source.shorten count }

/-- The folders that were opened, with nothing in their caches, after any operations on them and any cuts of their files. -/
inductive Surviving : Folder → Prop where
  | start {f : Folder} (hcache : f.cache.entries = []) : Surviving f
  | perform {f : Folder} (op : Operation) (h : Surviving f) : Surviving (f.perform op)
  | attachStore {f : Folder} (store : Store) (h : Surviving f) : Surviving (f.attachStore store)
  | setTable {f : Folder} (table : String) (h : Surviving f) : Surviving { f with table }
  | shorten {f : Folder} (count : Nat) (h : Surviving f) : Surviving (f.shorten count)

/-- An opened folder is one whose file was never cut. -/
theorem Opened.surviving {f : Folder} (h : f.Opened) : f.Surviving := by
  induction h with
  | start hcache => exact .start hcache
  | perform op _ ih => exact .perform op ih
  | attachStore store _ ih => exact .attachStore store ih
  | setTable table _ ih => exact .setTable table ih

variable {f : Folder} {uid : String}

theorem readSpan_take (data : Bytes) (count : Nat) (span : Span) :
    Mailbox.readSpan (data.take count) span = Mailbox.readSpan data span ∨
      Mailbox.readSpan (data.take count) span = .error .io := by
  unfold Mailbox.readSpan
  dsimp only
  by_cases hlength : (((data.take count).drop span.offset.toNat).take span.length.toNat).length = span.length.toNat
  · -- A span that lies within what is left has the same bytes as before.
    left
    have hbytes : ((data.take count).drop span.offset.toNat).take span.length.toNat =
        (data.drop span.offset.toNat).take span.length.toNat := by
      rw [List.drop_take, List.take_take] at hlength ⊢
      have hshort : span.length.toNat ≤ count - span.offset.toNat := by
        have hle := List.length_take_le (min span.length.toNat (count - span.offset.toNat)) (data.drop span.offset.toNat)
        rw [hlength] at hle
        omega
      rw [Nat.min_eq_left hshort]
    rw [hbytes]
  · right
    rw [if_neg hlength]

theorem content_shorten (f : Folder) (count : Nat) (uid : String) :
    (f.shorten count).content uid = f.content uid ∨ (f.shorten count).content uid = .error .io := by
  have hsummary : (f.shorten count).summary? uid = f.summary? uid := rfl
  have hdropped : (f.shorten count).dropped = f.dropped := rfl
  unfold content
  rw [hsummary, hdropped]
  split
  · exact .inl rfl
  · cases f.summary? uid with
    | none => exact .inl rfl
    | some m =>
      have hread : (f.shorten count).source.read m = f.source.read m ∨ (f.shorten count).source.read m = .error .io := by
        show (f.source.shorten count).read m = _ ∨ (f.source.shorten count).read m = _
        cases f.source with
        | memory raws => exact .inl rfl
        | mailbox file =>
          unfold Source.shorten Source.read
          dsimp only
          cases m.span with
          | none => exact .inl rfl
          | some span => exact readSpan_take file count span
      dsimp only
      obtain hread | hread := hread
      · left
        rw [hread]
      · right
        rw [hread]

/-! ### What is left of faithfulness -/

theorem fetch_of_cached (hkept : ¬ f.dropped.contains uid = true) {m : Message} (hm : f.cache.find? uid = some m) :
    f.fetch uid = (.ok m, { f with cache := f.cache.use uid m }) := by
  rw [Folder.fetch, if_neg hkept]
  split
  · next n hn =>
    obtain rfl : n = m := Option.some.inj (hn.symm.trans hm)
    rfl
  · next hnone =>
    rw [hm] at hnone
    cases hnone

theorem fetch_of_not_cached (hkept : ¬ f.dropped.contains uid = true) (hnone : f.cache.find? uid = none) :
    f.fetch uid = match f.content uid with
      | .ok m => (.ok m, { f with cache := f.cache.use uid m })
      | .error e => (.error e, f) := by
  rw [Folder.fetch, content, if_neg hkept, if_neg hkept]
  split
  · next m hm =>
    rw [hm] at hnone
    cases hnone
  · cases f.summary? uid with
    | none => rfl
    | some s =>
      dsimp only
      cases f.source.read s with
      | error e => rfl
      | ok raw => rfl

/-- A cache within its capacity, which holds contents and messages that cannot be read any more. -/
structure Coherent (f : Folder) : Prop where
  fits : f.cache.entries.length ≤ f.cache.capacity
  cached : ∀ uid m, f.cache.find? uid = some m → f.content uid = .ok m ∨ f.content uid = .error .io

theorem Coherent.use (h : f.Coherent) {m : Message} (hm : f.content uid = .ok m ∨ f.content uid = .error .io) :
    Coherent { f with cache := f.cache.use uid m } where
  fits := f.cache.length_use uid m
  cached u n hn := by
    rcases Cache.find?_of_find?_use hn with ⟨rfl, rfl⟩ | hn
    · exact hm
    · exact h.cached u n hn

theorem Coherent.fetch (h : f.Coherent) (uid : String) : (f.fetch uid).2.Coherent := by
  by_cases hdropped : f.dropped.contains uid = true
  · rw [Folder.fetch, if_pos hdropped]
    exact h
  · cases hcached : f.cache.find? uid with
    | some m =>
      rw [fetch_of_cached hdropped hcached]
      exact h.use (h.cached uid m hcached)
    | none =>
      rw [fetch_of_not_cached hdropped hcached]
      cases hcontent : f.content uid with
      | ok m => exact h.use (.inl hcontent)
      | error e => exact h

theorem Coherent.of_content {g : Folder} (h : f.Coherent) (hcache : g.cache = f.cache) (hcontent : g.content = f.content) :
    g.Coherent := by
  refine ⟨hcache ▸ h.fits, fun uid m hm => ?_⟩
  rw [hcache] at hm
  rw [hcontent]
  exact h.cached uid m hm

theorem cache_change (f : Folder) (uid : String) (change : Summary → Summary) : (f.change uid change).cache = f.cache := by
  rw [Folder.change]
  split <;> rfl

theorem cache_syncStore (f : Folder) : f.syncStore.2.cache = f.cache := by
  rw [syncStore]
  split
  · rfl
  · split <;> rfl

theorem Coherent.dropContent (h : f.Coherent) (uid : String) : (f.dropContent uid).Coherent where
  fits := Nat.le_trans (List.length_filter_le _ _) h.fits
  cached u m hm := by
    have herase : (f.cache.erase uid).find? u = some m := hm
    rw [Cache.find?_erase] at herase
    by_cases hu : u = uid
    · rw [if_pos hu] at herase
      cases herase
    · rw [if_neg hu] at herase
      rw [content_dropContent, if_neg hu]
      exact h.cached u m herase

theorem kept_coherent : Kept Coherent where
  fetch uid h := h.fetch uid
  dropContent uid h := h.dropContent uid
  change {f change} hkey uid h := h.of_content (f.cache_change uid change) (content_change hkey f uid)
  setWords _ h := h.of_content rfl rfl
  setMemoryOnly _ h := h.of_content rfl rfl
  setBlocked _ h := h.of_content rfl rfl
  syncStore {f} h := h.of_content f.cache_syncStore (content_syncStore f)

theorem Coherent.shorten (h : f.Coherent) (count : Nat) : (f.shorten count).Coherent where
  fits := h.fits
  cached uid m hm := by
    obtain hcontent | hcontent := f.content_shorten count uid
    · rw [hcontent]
      exact h.cached uid m hm
    · exact .inr hcontent

/-- **The cache is coherent in every state**, whatever became of the file. -/
theorem Surviving.coherent (h : f.Surviving) : f.Coherent := by
  induction h with
  | start hcache =>
    refine ⟨by rw [hcache]; exact Nat.zero_le _, fun uid m hm => ?_⟩
    rw [Cache.find?, hcache] at hm
    cases hm
  | perform op _ ih => exact kept_coherent.perform op ih
  | attachStore store _ ih => exact ih.of_content rfl rfl
  | setTable table _ ih => exact ih.of_content rfl rfl
  | shorten count _ ih => exact ih.shorten count

/-! ### Fetching twice -/

/-- A message that was just fetched can be fetched again, with the same answer and with nothing changed. -/
theorem fetch_fetch (hfits : f.cache.entries.length ≤ f.cache.capacity) (uid : String) :
    (f.fetch uid).2.fetch uid = f.fetch uid := by
  by_cases hdropped : f.dropped.contains uid = true
  · have hfetch : f.fetch uid = (.error (.unavailable uid), f) := by rw [Folder.fetch, if_pos hdropped]
    rw [hfetch]
    exact hfetch
  · -- The message is used once more, which changes nothing.
    have hagain : ∀ m, 0 < f.cache.capacity → ({ f with cache := f.cache.use uid m } : Folder).fetch uid =
        (.ok m, { f with cache := f.cache.use uid m }) := by
      intro m hroom
      rw [fetch_of_cached (f := { f with cache := f.cache.use uid m }) hdropped (Cache.find?_use hroom), Cache.use_use]
    cases hcached : f.cache.find? uid with
    | some m =>
      have hroom : 0 < f.cache.capacity := by
        refine Nat.lt_of_lt_of_le (List.length_pos_iff.2 fun hnil => ?_) hfits
        rw [Cache.find?, hnil] at hcached
        cases hcached
      rw [fetch_of_cached hdropped hcached, hagain m hroom]
    | none =>
      have hfetch := fetch_of_not_cached hdropped hcached
      cases hcontent : f.content uid with
      | error e =>
        rw [hcontent] at hfetch
        rw [hfetch, hfetch]
      | ok m =>
        rw [hcontent] at hfetch
        rw [hfetch]
        by_cases hroom : f.cache.capacity = 0
        · -- Without room the message is read again.
          have hread : ({ f with cache := f.cache.use uid m } : Folder).content uid = .ok m := hcontent
          rw [fetch_of_not_cached (f := { f with cache := f.cache.use uid m }) hdropped
            (Cache.find?_use_of_capacity_zero hroom), hread]
          dsimp only
          rw [Cache.use_use]
        · exact hagain m (Nat.pos_of_ne_zero hroom)

/-! ### Fixed answers -/

/-- Answers that do not change, of which those of a folder are some: all that are in the cache or can be read, and that a
message cannot be had. -/
structure Explains (f : Folder) (answers : String → Except SearchError Message) : Prop where
  cached : ∀ uid m, ¬ f.dropped.contains uid = true → f.cache.find? uid = some m → answers uid = .ok m
  read : ∀ uid m, f.content uid = .ok m → answers uid = .ok m
  missing : ∀ uid, f.content uid = .error (.unavailable uid) → answers uid = .error (.unavailable uid)

theorem error_of_content {e : SearchError} (h : f.content uid = .error e) : e = .unavailable uid ∨ e = .io := by
  unfold content at h
  split at h
  · cases h
    exact .inl rfl
  · split at h
    · cases h
      exact .inl rfl
    · next s hs =>
      have huid : s.uid = uid := by simpa using List.find?_some hs
      split at h
      · next e' hread =>
        cases h
        unfold Source.read at hread
        split at hread
        · split at hread
          · cases hread
          · cases hread
            exact .inl (congrArg _ huid)
        · split at hread
          · unfold Mailbox.readSpan at hread
            dsimp only at hread
            split at hread
            · cases hread
            · cases hread
              exact .inr rfl
          · cases hread
            exact .inl (congrArg _ huid)
      · cases h

/-- What a folder answers now, where everything that fails counts as a message that cannot be had. -/
def answer (f : Folder) (uid : String) : Except SearchError Message :=
  match (f.fetch uid).1 with
  | .ok m => .ok m
  | .error _ => .error (.unavailable uid)

theorem optional_answer (f : Folder) (uid : String) : Reading.optional (f.answer uid) = .ok (f.answer uid).toOption := by
  unfold answer
  split <;> rfl

theorem Coherent.explains_answer (h : f.Coherent) : f.Explains f.answer where
  cached uid m hkept hm := by rw [answer, fetch_of_cached hkept hm]
  read uid m hm := by
    have hkept : ¬ f.dropped.contains uid = true := by
      intro hdropped
      rw [content, if_pos hdropped] at hm
      cases hm
    cases hcached : f.cache.find? uid with
    | some n =>
      obtain hn | hn := h.cached uid n hcached
      · obtain rfl : m = n := Except.ok.inj (hm.symm.trans hn)
        rw [answer, fetch_of_cached hkept hcached]
      · rw [hm] at hn
        cases hn
    | none => rw [answer, fetch_of_not_cached hkept hcached, hm]
  missing uid hm := by
    by_cases hdropped : f.dropped.contains uid = true
    · rw [answer, Folder.fetch, if_pos hdropped]
    · cases hcached : f.cache.find? uid with
      | some n =>
        obtain hn | hn := h.cached uid n hcached
        · rw [hm] at hn
          cases hn
        · rw [hm] at hn
          cases hn
      | none => rw [answer, fetch_of_not_cached hdropped hcached, hm]

theorem Explains.fetch {answers : String → Except SearchError Message} (h : f.Explains answers) (uid : String) :
    (f.fetch uid).2.Explains answers ∧ ∀ m?, Reading.optional (f.fetch uid).1 = .ok m? →
      Reading.optional (answers uid) = .ok m? := by
  have huse : ∀ m, answers uid = .ok m → ({ f with cache := f.cache.use uid m } : Folder).Explains answers := by
    intro m hm
    refine ⟨fun u n hkept hn => ?_, h.read, h.missing⟩
    rcases Cache.find?_of_find?_use hn with ⟨rfl, rfl⟩ | hn
    · exact hm
    · exact h.cached u n hkept hn
  by_cases hdropped : f.dropped.contains uid = true
  · have hcontent : f.content uid = .error (.unavailable uid) := by rw [content, if_pos hdropped]
    have hfetch : f.fetch uid = (.error (.unavailable uid), f) := by rw [Folder.fetch, if_pos hdropped]
    rw [hfetch, h.missing uid hcontent]
    exact ⟨h, fun m? hm => hm⟩
  · cases hcached : f.cache.find? uid with
    | some m =>
      have hm := h.cached uid m hdropped hcached
      rw [fetch_of_cached hdropped hcached, hm]
      exact ⟨huse m hm, fun m? hm => hm⟩
    | none =>
      rw [fetch_of_not_cached hdropped hcached]
      cases hcontent : f.content uid with
      | ok m =>
        have hm := h.read uid m hcontent
        rw [hm]
        exact ⟨huse m hm, fun m? hm => hm⟩
      | error e =>
        refine ⟨h, fun m? hm => ?_⟩
        obtain rfl | rfl := error_of_content hcontent
        · rw [h.missing uid hcontent]
          exact hm
        · cases hm

/-- **A computation that succeeds has the result that it has on fixed answers.** -/
theorem run_of_explains {answers : String → Except SearchError Message} {α : Type} {x : Reading α} {a : α}
    (h : f.Explains answers) (hrun : (x.runOn fetch f).1 = .ok a) : x.run answers = .ok a := by
  induction x generalizing f with
  | done r => exact hrun
  | read uid next ih =>
    obtain ⟨hnext, hanswer⟩ := h.fetch uid
    rw [Reading.runOn] at hrun
    rw [Reading.run]
    cases hfetch : f.fetch uid with
    | mk answer g =>
      rw [hfetch] at hnext hanswer hrun
      dsimp only at hrun hanswer hnext
      cases hoptional : Reading.optional answer with
      | error e =>
        rw [hoptional] at hrun
        cases hrun
      | ok m? =>
        rw [hoptional] at hrun
        rw [hanswer m? hoptional]
        exact ih m? hnext hrun

end Folder

end MailQuery
