import MailQuery.Folder.Mailbox
import MailQuery.Proofs.Folders.Operations
import MailQuery.Proofs.Index.Staleness
import MailQuery.Proofs.Mailbox.Partition

/-!
# What is fetched does not depend on what was done before

A folder is opened on raw messages or on a mailbox file through its index (`Folder.Fresh`). What is stored for a uid is then
given, or for a mailbox file the bytes of its span (`Folder.stored?`). Operations change neither the source nor the spans of
the summaries, and the cache holds nothing but contents whatever its capacity is. So a fetch gives the stored message
decoded as long as it was not dropped, whatever was fetched, evicted or searched before (`fetch_performAll`).

For a mailbox file the spans have to lie within the file. Those of an index that is built do, as the file is cut
without loss (`Index.fitsIn_ofPieces`), so that only an index that is there already has to be known to fit.
-/

namespace MailQuery

open Mail Search

/-! ### Spans within a file -/

/-- Each summary has a span, which lies within a file. -/
def Index.FitsIn (index : Index) (data : Bytes) : Prop :=
  ∀ m ∈ index.summaries, ∃ span, m.span = some span ∧ span.offset.toNat + span.length.toNat ≤ data.length

theorem Index.fitsIn_ofPieces {limit : Nat} {data : Bytes} {pieces : List Piece} (hsize : data.length < UInt64.size)
    (hsplit : Mailbox.split limit data = .ok pieces) (wantsWords : Bool) :
    (Index.ofPieces wantsWords pieces).FitsIn data := by
  intro m hm
  obtain ⟨⟨uid, p⟩, hnumbered, rfl⟩ := List.mem_map.1 hm
  obtain ⟨⟨p, n⟩, hzip, hnumber⟩ := List.mem_map.1 hnumbered
  obtain ⟨rfl, rfl⟩ := Prod.mk.inj hnumber
  have hp : p ∈ pieces := List.fst_mem_of_mem_zipIdx hzip
  have hcontiguous := Mailbox.contiguous_of_split hsize hsplit
  exact ⟨p.span, rfl, hcontiguous.end_le (List.mem_map_of_mem hp)⟩

namespace Site

variable {s : Site} {file : File} {options : Index.Options} {force : Bool}

/-- A build that is no new one leaves everything as it is, and gives the index that is there, if it gives one. -/
theorem build_eq_rebuild_or (s : Site) (options : Index.Options) (force : Bool) :
    s.build options force = s.rebuild options ∨
      (s.build options force).site = s ∧
        ∀ index, (s.build options force).answer = .ok index → s.load = .ok (some index) := by
  cases force with
  | true => exact .inl rfl
  | false =>
    cases hload : s.load with
    | error e =>
      rw [build_of_load_error hload]
      exact .inr ⟨rfl, fun _ h => by cases h⟩
    | ok found =>
      obtain ⟨old, hsettled⟩ | hnew := build_cases options hload
      · rw [hsettled.build, ← hload, hsettled.load]
        exact .inr ⟨rfl, fun _ h => by cases h; rfl⟩
      · exact .inl hnew

/-- An index that is built anew fits, so that a build gives one that fits unless it finds another one. -/
theorem fitsIn_build (hmailbox : s.mailbox = some file) (hsize : file.data.length < UInt64.size)
    (hloaded : ∀ index, s.load = .ok (some index) → index.FitsIn file.data) {index : Index}
    (hbuilt : (s.build options force).answer = .ok index) : index.FitsIn file.data := by
  obtain hnew | ⟨-, hold⟩ := s.build_eq_rebuild_or options force
  · rw [hnew, answer_rebuild hmailbox] at hbuilt
    cases hsplit : Mailbox.split options.limit file.data with
    | error e =>
      rw [hsplit] at hbuilt
      cases hbuilt
    | ok pieces =>
      rw [hsplit] at hbuilt
      cases hbuilt
      exact Index.fitsIn_ofPieces hsize hsplit options.wantsWords
  · exact hloaded _ (hold _ hbuilt)

end Site

namespace Folder

variable {f : Folder} {uid : String}

/-! ### What is stored -/

/-- The folders as they are opened, with an empty cache of any capacity. A mailbox file is opened through an index that is
built or, if one is there already, through that one, whose spans have to lie within the file. -/
inductive Fresh : Folder → Prop where
  | memory (location : String) (raws : List (String × Bytes)) (capacity : Nat) :
      Fresh { ofMessages location raws with cache := .empty capacity }
  | mailbox {f : Folder} {path : String} {site : Site} {file : File} {config : Config} {store : Option Store}
      (hmailbox : site.mailbox = some file) (hsize : file.data.length < UInt64.size)
      (hloaded : ∀ index, site.load = .ok (some index) → index.FitsIn file.data)
      (hopened : (openMailbox path site config store).1 = .ok f) : Fresh f

section

variable {path : String} {site : Site} {file : File} {config : Config} {store : Option Store}

theorem openMailbox_fst (hmailbox : site.mailbox = some file) :
    (openMailbox path site config store).1 = (site.build config.indexOptions false).answer.map fun index =>
      ofIndex path file.data index config store := by
  rw [openMailbox, hmailbox]
  dsimp only
  cases (site.build config.indexOptions false).answer <;> rfl

/-- A mailbox file is opened through the index that is built. -/
theorem exists_ofIndex_of_openMailbox (hmailbox : site.mailbox = some file)
    (hopened : (openMailbox path site config store).1 = .ok f) :
    ∃ index, (site.build config.indexOptions false).answer = .ok index ∧
      f = ofIndex path file.data index config store := by
  rw [openMailbox_fst hmailbox] at hopened
  cases hbuilt : (site.build config.indexOptions false).answer with
  | error e =>
    rw [hbuilt] at hopened
    cases hopened
  | ok index =>
    rw [hbuilt] at hopened
    cases hopened
    exact ⟨index, rfl, rfl⟩

end

/-- The raw message that is stored for a uid. Of several the last one counts. -/
def stored? (f : Folder) (uid : String) : Option Bytes :=
  match f.source with
  | .memory raws => raws.reverse.lookup uid
  | .mailbox file => do
    let m ← f.summary? uid
    let span ← m.span
    pure ((file.drop span.offset.toNat).take span.length.toNat)

theorem exists_summary?_of_mem_uids (huid : uid ∈ f.uids) :
    ∃ m ∈ f.catalog.summaries, f.summary? uid = some m ∧ m.uid = uid := by
  obtain ⟨m, hm⟩ := Option.isSome_iff_exists.1 (isSome_summary?_iff.2 huid)
  exact ⟨m, List.mem_reverse.1 (List.mem_of_find?_eq_some hm), hm, by simpa using List.find?_some hm⟩

theorem exists_lookup_reverse {raws : List (String × Bytes)} (huid : uid ∈ raws.map (·.1)) :
    ∃ raw, raws.reverse.lookup uid = some raw := by
  have hmem : uid ∈ raws.reverse.map (·.1) := by
    rw [List.map_reverse]
    exact List.mem_reverse.2 huid
  cases hlookup : raws.reverse.lookup uid with
  | some raw => exact ⟨raw, rfl⟩
  | none =>
    obtain ⟨entry, hentry, rfl⟩ := List.mem_map.1 hmem
    have hne := List.lookup_eq_none_iff.1 hlookup entry hentry
    exact absurd hne (by simp)

theorem readSpan_of_le {data : Bytes} {span : Span} (h : span.offset.toNat + span.length.toNat ≤ data.length) :
    Mailbox.readSpan data span = .ok ((data.drop span.offset.toNat).take span.length.toNat) := by
  rw [Mailbox.readSpan]
  refine if_pos ?_
  rw [List.length_take, List.length_drop]
  omega

/-- The content of a message that was not dropped is what its raw bytes are decoded to. -/
theorem content_of_read {m : Summary} {raw : Bytes} (hdropped : f.dropped = ∅) (hm : f.summary? uid = some m)
    (hraw : f.source.read m = .ok raw) : f.content uid = .ok (Message.ofRaw raw) := by
  have hkept : ¬ f.dropped.contains uid = true := by
    rw [hdropped, TextSet.contains_iff]
    exact TextSet.not_mem_empty uid
  simp only [content, if_neg hkept, hm, hraw]

theorem exists_stored_ofIndex {path : String} {data : Bytes} {index : Index} {config : Config} {store : Option Store}
    (hfits : index.FitsIn data) (huid : uid ∈ (ofIndex path data index config store).uids) :
    ∃ raw, (ofIndex path data index config store).stored? uid = some raw ∧
      (ofIndex path data index config store).content uid = .ok (Message.ofRaw raw) := by
  obtain ⟨m, hmem, hm, -⟩ := exists_summary?_of_mem_uids huid
  obtain ⟨span, hspan, hle⟩ := hfits m hmem
  refine ⟨(data.drop span.offset.toNat).take span.length.toNat, ?_, content_of_read rfl hm ?_⟩
  · show ((ofIndex path data index config store).summary? uid).bind _ = _
    simp [hm, hspan]
  · show Source.read (.mailbox data) m = _
    simp only [Source.read, hspan, readSpan_of_le hle]

/-- For each message of a folder that is opened something is stored, and its content is that decoded. -/
theorem Fresh.exists_stored (h : f.Fresh) (huid : uid ∈ f.uids) :
    ∃ raw, f.stored? uid = some raw ∧ f.content uid = .ok (Message.ofRaw raw) := by
  cases h with
  | memory location raws capacity =>
    obtain ⟨m, -, hm, rfl⟩ := exists_summary?_of_mem_uids huid
    have hraws : m.uid ∈ raws.map (·.1) := by
      have huids : raws.map (·.1) = (ofMessages location raws).uids := by
        show _ = (raws.map _).map _
        rw [List.map_map]
        rfl
      rw [huids]
      exact huid
    obtain ⟨raw, hraw⟩ := exists_lookup_reverse hraws
    refine ⟨raw, hraw, content_of_read rfl hm ?_⟩
    show Source.read (.memory raws) m = _
    simp only [Source.read, hraw]
  | mailbox hmailbox hsize hloaded hopened =>
    obtain ⟨index, hbuilt, rfl⟩ := exists_ofIndex_of_openMailbox hmailbox hopened
    exact exists_stored_ofIndex (Site.fitsIn_build hmailbox hsize hloaded hbuilt) huid

theorem Fresh.faithful (h : f.Fresh) : f.Faithful := by
  have hempty : f.cache.entries = [] := by
    cases h with
    | memory location raws capacity => rfl
    | mailbox hmailbox hsize hloaded hopened =>
      obtain ⟨index, -, rfl⟩ := exists_ofIndex_of_openMailbox hmailbox hopened
      rfl
  exact (Opened.start hempty).faithful

/-! ### What operations keep of it -/

theorem content_syncStore (f : Folder) : f.syncStore.2.content = f.content := by
  rw [syncStore]
  split
  · rfl
  · split <;> rfl

theorem dropped_syncStore (f : Folder) : f.syncStore.2.dropped = f.dropped := by
  rw [syncStore]
  split
  · rfl
  · split <;> rfl

theorem dropped_change (f : Folder) (uid : String) (change : Summary → Summary) :
    (f.change uid change).dropped = f.dropped := by
  rw [Folder.change]
  split <;> rfl

/-- Only dropping changes a content. -/
theorem steady_content (answer : Except SearchError Message) (uid : String) : Steady (·.content uid = answer) where
  fetch u h := by rwa [content_fetch]
  change hkey u h := by rwa [content_change hkey]
  setWords _ h := h
  setMemoryOnly _ h := h
  setBlocked _ h := h
  syncStore h := by rwa [content_syncStore]

theorem kept_dropped (uid : String) : Kept (uid ∈ ·.dropped) where
  fetch {f} u h := by
    obtain ⟨cache, hcache⟩ := exists_cache_of_fetch f u
    rw [hcache]
    exact h
  dropContent _ h := TextSet.mem_insert.2 (.inr h)
  change _ u h := by rwa [dropped_change]
  setWords _ h := h
  setMemoryOnly _ h := h
  setBlocked _ h := h
  syncStore h := by rwa [dropped_syncStore]

/-- A run in which a message is not dropped keeps its content. -/
theorem content_performAll {ops : List Operation} (hops : .dropContent uid ∉ ops) :
    (f.performAll ops).content uid = f.content uid := by
  refine (steady_content (f.content uid) uid).performAll ops (fun g u hmem hg => ?_) rfl
  have hu : uid ≠ u := fun h => hops (h ▸ hmem)
  rw [content_dropContent, if_neg hu, hg]

theorem mem_dropped_performAll {ops : List Operation} (hops : .dropContent uid ∈ ops) :
    uid ∈ (f.performAll ops).dropped := by
  induction ops generalizing f with
  | nil => cases hops
  | cons op ops ih =>
    rcases List.mem_cons.1 hops with rfl | hops
    · exact (kept_dropped uid).performAll ops (TextSet.mem_insert.2 (.inl rfl))
    · exact ih hops

theorem content_of_mem_dropped (h : uid ∈ f.dropped) : f.content uid = .error (.unavailable uid) := by
  rw [content, if_pos (TextSet.contains_iff.2 h)]

theorem content_of_not_mem_uids (h : uid ∉ f.uids) : f.content uid = .error (.unavailable uid) := by
  have hnone : f.summary? uid = none := Option.not_isSome_iff_eq_none.1 (mt isSome_summary?_iff.1 h)
  rw [content]
  split
  · rfl
  · rw [hnone]

/-- **The cache cannot be noticed.** In every state that a folder reaches by operations after it was opened, a fetch fails
for messages that were dropped and for uids that the folder does not have, and gives the stored message decoded for all
others. Neither the capacity of the cache nor what was fetched and evicted before matters. -/
theorem fetch_performAll (h : f.Fresh) (ops : List Operation) (uid : String) :
    ((.dropContent uid ∈ ops ∨ uid ∉ f.uids) →
      ((f.performAll ops).fetch uid).1 = .error (.unavailable uid)) ∧
    (.dropContent uid ∉ ops → uid ∈ f.uids →
      ∃ raw, f.stored? uid = some raw ∧ ((f.performAll ops).fetch uid).1 = .ok (Message.ofRaw raw)) := by
  have hfetch : ((f.performAll ops).fetch uid).1 = (f.performAll ops).content uid :=
    (fetch_eq_content (kept_faithful.performAll ops h.faithful) uid).1
  by_cases hops : .dropContent uid ∈ ops
  · refine ⟨fun _ => ?_, fun hnot => absurd hops hnot⟩
    rw [hfetch, content_of_mem_dropped (mem_dropped_performAll hops)]
  · have hcontent : (f.performAll ops).content uid = f.content uid := content_performAll hops
    rw [hfetch, hcontent]
    refine ⟨?_, fun _ huid => h.exists_stored huid⟩
    rintro (hdropped | huid)
    · exact absurd hdropped hops
    · exact content_of_not_mem_uids huid

/-- A cache of no capacity has room for one message, so that the fetches evict each other's messages. -/
theorem fetch_performAll_evicted :
    let file : File := ⟨Ascii.bytes "From a\n\nHi\nFrom b\n\nHo\n", 5⟩
    let ops : List Operation := [.fetch "2", .fetch "1", .buildWordIndex, .dropContent "1", .fetch "1", .fetch "2"]
    ∃ f, (openMailbox "/m/in" (Site.ofMailbox file) { Config.default with cacheSize := 0 } none).1 = .ok f ∧
      f.cache.capacity = 1 ∧ f.Fresh ∧ .dropContent "1" ∈ ops ∧ .dropContent "2" ∉ ops ∧ "2" ∈ f.uids ∧
      ((f.performAll ops).fetch "1").1 = .error (.unavailable "1") ∧
      ((f.performAll ops).fetch "2").1 = .ok (Message.ofRaw (Ascii.bytes "From b\n\nHo\n")) := by
  intro file ops
  let config : Config := { Config.default with cacheSize := 0 }
  let pieces : List Piece := [⟨⟨0, 11⟩, Ascii.bytes "From a\n\nHi\n"⟩, ⟨⟨11, 11⟩, Ascii.bytes "From b\n\nHo\n"⟩]
  have hsplit : Mailbox.split config.indexOptions.limit file.data = .ok pieces := by rfl
  have hrebuilt : ((Site.ofMailbox file).rebuild config.indexOptions).answer = .ok (Index.ofPieces true pieces) :=
    (Site.rebuild_of_split rfl hsplit).1
  have hbuilt : ((Site.ofMailbox file).build config.indexOptions false).answer = .ok (Index.ofPieces true pieces) :=
    hrebuilt
  have hopened : (openMailbox "/m/in" (Site.ofMailbox file) config none).1 =
      .ok (ofIndex "/m/in" file.data (Index.ofPieces true pieces) config none) := by
    rw [openMailbox_fst rfl, hbuilt]
    rfl
  have hfresh := Fresh.mailbox rfl (by decide) (fun _ hload => by cases hload) hopened
  have hdropped : .dropContent "1" ∈ ops := by simp [ops]
  have hkept : .dropContent "2" ∉ ops := by simp [ops]
  obtain ⟨raw, hraw, hfetched⟩ := (fetch_performAll hfresh ops "2").2 hkept (by decide +kernel)
  obtain rfl : Ascii.bytes "From b\n\nHo\n" = raw := Option.some.inj (.trans (by decide +kernel) hraw)
  refine ⟨_, hopened, rfl, hfresh, hdropped, hkept, by decide +kernel, ?_, hfetched⟩
  exact (fetch_performAll hfresh ops "1").1 (.inl hdropped)

end Folder

end MailQuery
