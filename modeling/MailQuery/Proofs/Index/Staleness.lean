import MailQuery.Proofs.Index.Persistence

/-!
# Index files that are out of date

A build leaves an index file whose header has the stamp of the mailbox file (`exists_indexFile_build`). When the mailbox
file is replaced by one with another stamp, the index file is passed over, whatever follows its header
(`loadFrom_of_stamp_ne`), and the next build is like one that is forced.

Two mailbox files have different stamps if they differ in length, in time, or at the start (`stamp_ne_of_differ`). For
the start it has to be assumed that the digests differ as well.

`build_after_replacement` is the main statement.
-/

namespace MailQuery

open Mail

namespace Site

variable {s : Site} {file file' : File} {options : Index.Options} {index : Index} {data : Bytes}

/-- The site after the mailbox file was replaced. The index files stay where they are. -/
def replaceMailbox (s : Site) (file : File) : Site := { s with mailbox := some file }

/-! ### Stamps -/

/-- How a mailbox file can be told from another one without reading all of it. -/
inductive Differ (file file' : File) : Prop where
  | length (h : file.data.length ≠ file'.data.length)
  /-- Times count in seconds, and those before 1970 do not count. -/
  | time (h : max file.modified.toInt 0 ≠ max file'.modified.toInt 0)
  | start (h : file.data.take digestedSize ≠ file'.data.take digestedSize)

theorem toNat_size_stamp (h : file.data.length < UInt64.size) : (stamp file).size.toNat = file.data.length :=
  UInt64.toNat_ofNat_of_lt' h

theorem toInt_modified_stamp (file : File) : (stamp file).modified.toInt = max file.modified.toInt 0 := by
  rw [stamp]
  by_cases hbefore : file.modified < 0
  · have hneg : file.modified.toInt < 0 := Int64.lt_iff_toInt_lt.1 hbefore
    rw [if_pos hbefore, Int.max_eq_right (Int.le_of_lt hneg)]
    rfl
  · have hnonneg : 0 ≤ file.modified.toInt := Int.not_lt.1 fun hneg => hbefore (Int64.lt_iff_toInt_lt.2 hneg)
    rw [if_neg hbefore, Int.max_eq_left hnonneg]

/-- Mailbox files that differ have different stamps. -/
theorem stamp_ne_of_differ (h : Differ file file') (hsize : file.data.length < UInt64.size)
    (hsize' : file'.data.length < UInt64.size)
    (hdigest : Digest.sha256 (file.data.take digestedSize) = Digest.sha256 (file'.data.take digestedSize) →
      file.data.take digestedSize = file'.data.take digestedSize) :
    stamp file ≠ stamp file' := by
  intro hstamp
  cases h with
  | length h =>
    have hlength : (stamp file).size.toNat = (stamp file').size.toNat := by rw [hstamp]
    rw [toNat_size_stamp hsize, toNat_size_stamp hsize'] at hlength
    exact h hlength
  | time h =>
    have htime : (stamp file).modified.toInt = (stamp file').modified.toInt := by rw [hstamp]
    rw [toInt_modified_stamp, toInt_modified_stamp] at htime
    exact h htime
  | start h => exact h (hdigest (congrArg Index.Stamp.digest hstamp))

/-! ### Index files -/

/-- An index file has a complete header with a stamp. -/
def HasStamp (data : Bytes) (stamp : Index.Stamp) : Prop :=
  Index.headerSize ≤ data.length ∧ ∃ header rest, Index.readHeader data = some (header, rest) ∧ header.stamp = stamp

theorem hasStamp_file (index : Index) (file : File) : HasStamp (index.file (stamp file)) (stamp file) := by
  have hsized := isSized_header index file
  obtain ⟨rest, hheader⟩ := hsized.readHeader_write index.write
  refine ⟨?_, Index.Header.ofIndex index (stamp file), rest, hheader, rfl⟩
  rw [length_file]
  exact Nat.le_add_right ..

/-- An index is only loaded from a file with the stamp of the mailbox file. -/
theorem hasStamp_of_loadFrom (h : loadFrom (some file) data = .ok (some index)) : HasStamp data (stamp file) := by
  rw [loadFrom] at h
  by_cases hshort : data.length < Index.headerSize
  · rw [if_pos hshort] at h
    cases h
  · rw [if_neg hshort] at h
    cases hheader : Index.readHeader data with
    | none =>
      rw [hheader] at h
      cases h
    | some found =>
      obtain ⟨header, rest⟩ := found
      rw [hheader] at h
      dsimp only at h
      split at h
      · by_cases hstamp : header.stamp = stamp file
        · exact ⟨Nat.le_of_not_lt hshort, header, rest, hheader, hstamp⟩
        · rw [if_neg hstamp] at h
          cases h
      · cases h

/-- **A file with another stamp is passed over.** What follows its header is not looked at. -/
theorem loadFrom_of_stamp_ne (h : HasStamp data (stamp file)) (hne : stamp file ≠ stamp file') :
    loadFrom (some file') data = .ok none := by
  obtain ⟨hlong, header, rest, hheader, hstamp⟩ := h
  have hother : header.stamp ≠ stamp file' := by
    rw [hstamp]
    exact hne
  rw [loadFrom, if_neg (Nat.not_lt_of_le hlong), hheader]
  dsimp only
  rw [if_neg hother, ite_self]

/-! ### Sites -/

/-- The index file that is loaded. -/
def indexFile? (s : Site) : Option Bytes :=
  (s.beside.read?.orElse fun _ => s.cached.read?).bind (·.toOption)

theorem load_of_indexFile? (h : s.indexFile? = some data) : s.load = loadFrom s.mailbox data := by
  rw [indexFile?, Option.bind_eq_some_iff] at h
  obtain ⟨found, hfound, hdata⟩ := h
  rw [load, hfound]
  cases found with
  | error e => cases hdata
  | ok data' =>
    cases hdata
    rfl

theorem exists_indexFile_of_load (h : s.load = .ok (some index)) :
    ∃ data, s.indexFile? = some data ∧ loadFrom s.mailbox data = .ok (some index) := by
  rw [load] at h
  split at h
  · cases h
  · next found hfound =>
    cases found with
    | error e => cases h
    | ok data => exact ⟨data, by rw [indexFile?, hfound]; rfl, h⟩

theorem HasIndexFile.indexFile? (h : s.HasIndexFile data) : s.indexFile? = some data := by
  obtain hbeside | ⟨hbeside, hcached⟩ := h
  · rw [Site.indexFile?, hbeside]
    rfl
  · rw [Site.indexFile?, hbeside, hcached]
    rfl

/-- The index that is built anew, or why there is none. -/
theorem answer_rebuild (hmailbox : s.mailbox = some file) :
    (s.rebuild options).answer =
      (Mailbox.split options.limit file.data).map (Index.ofPieces options.wantsWords) := by
  rw [rebuild, hmailbox]
  dsimp only
  cases Mailbox.split options.limit file.data with
  | error e => rfl
  | ok pieces => rfl

theorem exists_indexFile_rebuild (hmailbox : s.mailbox = some file) (hplace : s.HasPlace)
    (hbuilt : (s.rebuild options).answer = .ok index) :
    ∃ data, (s.rebuild options).site.indexFile? = some data ∧ HasStamp data (stamp file) := by
  rw [answer_rebuild hmailbox] at hbuilt
  cases hsplit : Mailbox.split options.limit file.data with
  | error e =>
    rw [hsplit] at hbuilt
    cases hbuilt
  | ok pieces =>
    exact ⟨_, (hasIndexFile_rebuild hmailbox hplace hsplit).2.indexFile?,
      hasStamp_file (Index.ofPieces options.wantsWords pieces) file⟩

/-- **A build leaves an index file with the stamp of the mailbox file**, whether it writes the file or finds it. -/
theorem exists_indexFile_build {force : Bool} (hmailbox : s.mailbox = some file) (hplace : s.HasPlace)
    (hbuilt : (s.build options force).answer = .ok index) :
    ∃ data, (s.build options force).site.indexFile? = some data ∧ HasStamp data (stamp file) := by
  cases force with
  | true => exact exists_indexFile_rebuild hmailbox hplace hbuilt
  | false =>
    cases hload : s.load with
    | error e =>
      rw [build_of_load_error hload] at hbuilt
      cases hbuilt
    | ok found =>
      obtain ⟨old, hsettled⟩ | hnew := build_cases options hload
      · obtain ⟨data, hfile, hdata⟩ := exists_indexFile_of_load hsettled.load
        rw [hmailbox] at hdata
        rw [hsettled.build]
        exact ⟨data, hfile, hasStamp_of_loadFrom hdata⟩
      · rw [hnew] at hbuilt ⊢
        exact exists_indexFile_rebuild hmailbox hplace hbuilt

/-- **An index that is out of date is not served.** After a build for one mailbox file, and with another one in its
place that differs in length, in time or at the start, there is no index to load. A build is like one that is forced,
and gives the index of the new file or says why there is none. Sizes take eight bytes, so that no file is longer than
that. -/
theorem build_after_replacement {force : Bool} (hmailbox : s.mailbox = some file) (hplace : s.HasPlace)
    (hbuilt : (s.build options force).answer = .ok index) (hdiffer : Differ file file')
    (hsize : file.data.length < UInt64.size) (hsize' : file'.data.length < UInt64.size)
    (hdigest : Digest.sha256 (file.data.take digestedSize) = Digest.sha256 (file'.data.take digestedSize) →
      file.data.take digestedSize = file'.data.take digestedSize) :
    ((s.build options force).site.replaceMailbox file').load = .ok none ∧
      ∀ options',
        ((s.build options force).site.replaceMailbox file').build options' false =
          ((s.build options force).site.replaceMailbox file').build options' true ∧
        (((s.build options force).site.replaceMailbox file').build options' true).answer =
          (Mailbox.split options'.limit file'.data).map (Index.ofPieces options'.wantsWords) := by
  obtain ⟨data, hfile, hdata⟩ := exists_indexFile_build hmailbox hplace hbuilt
  have hstamp := stamp_ne_of_differ hdiffer hsize hsize' hdigest
  have hload : ((s.build options force).site.replaceMailbox file').load = .ok none := by
    have hkept : ((s.build options force).site.replaceMailbox file').indexFile? = some data := hfile
    rw [load_of_indexFile? hkept]
    exact loadFrom_of_stamp_ne hdata hstamp
  refine ⟨hload, fun options' => ⟨build_of_load_none hload, ?_⟩⟩
  exact answer_rebuild (s := (s.build options force).site.replaceMailbox file') rfl

/-- One letter of a mailbox file was changed, but neither its length nor its time. -/
theorem build_after_replacement_letter :
    let file : File := ⟨Ascii.bytes "From a\n\nHi\n", 5⟩
    let file' : File := ⟨Ascii.bytes "From a\n\nHo\n", 5⟩
    let built := (ofMailbox file).build ⟨true, 100⟩ false
    Differ file file' ∧ (∃ index, built.site.load = .ok (some index)) ∧
      (built.site.replaceMailbox file').load = .ok none ∧
      (built.site.replaceMailbox file').build ⟨true, 100⟩ false =
        (built.site.replaceMailbox file').build ⟨true, 100⟩ true := by
  intro file file' built
  have hsplit : Mailbox.split 100 file.data = .ok [⟨⟨0, 11⟩, Ascii.bytes "From a\n\nHi\n"⟩] := by rfl
  have hplace : (ofMailbox file).HasPlace := by decide
  have hsize : ((ofMailbox file).rebuild ⟨true, 100⟩).site.indexSize < UInt64.size := by
    rw [indexSize_rebuild rfl hplace hsplit]
    decide +kernel
  have hrebuilt : ((ofMailbox file).rebuild ⟨true, 100⟩).answer = .ok _ := (rebuild_of_split rfl hsplit).1
  have hbuilt : built.answer = .ok _ := hrebuilt
  have hdiffer : Differ file file' := .start (by decide)
  have hdigest : Digest.sha256 (file.data.take digestedSize) ≠ Digest.sha256 (file'.data.take digestedSize) := by
    decide +kernel
  have hstale := build_after_replacement rfl hplace hbuilt hdiffer (by decide) (by decide) fun h => absurd h hdigest
  exact ⟨hdiffer, ⟨_, (settled_rebuild rfl hplace hsplit hsize).load⟩, hstale.1, (hstale.2 ⟨true, 100⟩).1⟩

end Site

end MailQuery
