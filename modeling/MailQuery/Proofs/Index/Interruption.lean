import MailQuery.Index.Site
import MailQuery.Proofs.Index.Coding

/-!
# Index files whose writing broke off

What `Site.load` makes of a part of an index file depends on where the file breaks off. A part of the header is too
small to be looked at, so that there is no index and a new one is built (`loadFrom_take_of_lt`). A complete header still
vouches for the mailbox file, and then the index behind it has to be readable; as it is not (`Index.reads_index`), the
load fails (`loadFrom_take_of_le`).

`build_breakOff` is the main statement. A file that breaks off behind its header is in the way of every build that is
not forced, and stays there (`not_forall_build_breakOff`).
-/

namespace MailQuery

open Mail

/-- What is left in a place when the writing of its file breaks off. -/
def IndexPlace.cut (n : Nat) : IndexPlace → IndexPlace
  | file data => file (data.take n)
  | place => place

namespace Site

variable {s : Site} {file : File} {options : Index.Options} {pieces : List Piece} {index : Index} {n : Nat}

/-- The site with only the first bytes of its index file. -/
def breakOff (s : Site) (n : Nat) : Site :=
  if s.beside.read?.isSome then { s with beside := s.beside.cut n } else { s with cached := s.cached.cut n }

/-- The index file of a site, which stands beside the mailbox file or, if nothing can stand there, in the cache
directory. -/
def HasIndexFile (s : Site) (data : Bytes) : Prop :=
  s.beside = .file data ∨ s.beside = .shut ∧ s.cached = .file data

/-- Whether an index that is written is found again: there is a place for it beside the mailbox file, or no file can
stand there and there is one in the cache directory. -/
def HasPlace (s : Site) : Prop :=
  s.beside.isOpen = true ∨ s.beside = .shut ∧ s.cached.isOpen = true ∧ s.cacheBlocked = false

instance (s : Site) : Decidable s.HasPlace := inferInstanceAs (Decidable (_ ∨ _))

/-! ### Loading a part of an index file -/

theorem isSized_header (index : Index) (file : File) : (Index.Header.ofIndex index (stamp file)).IsSized :=
  Index.isSized_ofIndex index (Digest.length_sha256 _)

theorem length_file (index : Index) (file : File) :
    (index.file (stamp file)).length = Index.headerSize + index.write.length := by
  rw [Index.file, List.length_append, (isSized_header index file).length_write]

/-- Less than a header is no index. -/
theorem loadFrom_take_of_lt (mailbox : Option File) (data : Bytes) (hn : n < Index.headerSize) :
    loadFrom mailbox (data.take n) = .ok none := by
  have hshort : (data.take n).length < Index.headerSize := Nat.lt_of_le_of_lt (List.length_take_le n data) hn
  rw [loadFrom, if_pos hshort]

/-- Behind a header that was written for the mailbox file, it is what follows that decides. -/
theorem loadFrom_header_append (index : Index) (file : File) (payload : Bytes) :
    loadFrom (some file) ((Index.Header.ofIndex index (stamp file)).write ++ payload) =
      (Index.read payload).elim (.error .badIndex) fun (found, _) =>
        .ok (if (Index.Header.ofIndex index (stamp file)).describes found then some found else none) := by
  have hlength := (isSized_header index file).length_write
  have hlong : ¬ ((Index.Header.ofIndex index (stamp file)).write ++ payload).length < Index.headerSize := by
    rw [List.length_append, hlength]
    omega
  have hpayload : ((Index.Header.ofIndex index (stamp file)).write ++ payload).drop Index.headerSize = payload := by
    rw [← hlength, List.drop_left]
  have hstamp : (Index.Header.ofIndex index (stamp file)).stamp = stamp file := rfl
  obtain ⟨rest, hheader⟩ := (isSized_header index file).readHeader_write payload
  rw [loadFrom, if_neg hlong, hheader]
  simp only [Index.isKnown_ofIndex, if_true]
  rw [if_pos hstamp, hpayload]
  cases Index.read payload <;> rfl

/-- The header and a part of the index are an index that cannot be read. -/
theorem loadFrom_take_of_le (hn : Index.headerSize ≤ n)
    (hread : Index.read (index.write.take (n - Index.headerSize)) = none) :
    loadFrom (some file) ((index.file (stamp file)).take n) = .error .badIndex := by
  have hlength := (isSized_header index file).length_write
  have hdata : (index.file (stamp file)).take n =
      (Index.Header.ofIndex index (stamp file)).write ++ index.write.take (n - Index.headerSize) := by
    rw [Index.file, List.take_append, hlength, List.take_of_length_le (by rw [hlength]; exact hn)]
  rw [hdata, loadFrom_header_append, hread, Option.elim_none]

/-! ### Saving, loading and building -/

theorem mailbox_save (s : Site) (data : Bytes) : (s.save data).mailbox = s.mailbox := by
  rw [save]
  split
  · rfl
  · split <;> rfl

theorem HasPlace.save (h : s.HasPlace) (data : Bytes) : (s.save data).HasIndexFile data := by
  rw [Site.save]
  obtain hopen | ⟨hshut, hcached, hfree⟩ := h
  · rw [if_pos hopen]
    exact .inl rfl
  · have hclosed : ¬ s.beside.isOpen = true := by
      rw [hshut]
      exact Bool.false_ne_true
    have hcache : (s.cached.isOpen && !s.cacheBlocked) = true := by
      rw [hcached, hfree]
      rfl
    rw [if_neg hclosed, if_pos hcache]
    exact .inr ⟨hshut, rfl⟩

theorem rebuild_of_split (hmailbox : s.mailbox = some file)
    (hsplit : Mailbox.split options.limit file.data = .ok pieces) :
    (s.rebuild options).answer = .ok (Index.ofPieces options.wantsWords pieces) ∧
    (s.rebuild options).site = s.save ((Index.ofPieces options.wantsWords pieces).file (stamp file)) := by
  rw [rebuild, hmailbox]
  simp only [hsplit, and_self]

namespace HasIndexFile

variable {data : Bytes}

theorem load (h : s.HasIndexFile data) : s.load = loadFrom s.mailbox data := by
  obtain hbeside | ⟨hbeside, hcached⟩ := h
  · rw [Site.load, hbeside]
    rfl
  · rw [Site.load, hbeside, hcached]
    rfl

theorem indexSize (h : s.HasIndexFile data) : s.indexSize = data.length := by
  obtain hbeside | ⟨hbeside, hcached⟩ := h
  · rw [Site.indexSize, hbeside]
    rfl
  · rw [Site.indexSize, hbeside, hcached]
    rfl

theorem breakOff (h : s.HasIndexFile data) (n : Nat) :
    (s.breakOff n).mailbox = s.mailbox ∧ (s.breakOff n).HasIndexFile (data.take n) := by
  rw [Site.breakOff]
  obtain hbeside | ⟨hbeside, hcached⟩ := h
  · have hthere : s.beside.read?.isSome = true := by
      rw [hbeside]
      rfl
    rw [if_pos hthere]
    exact ⟨rfl, .inl (congrArg (IndexPlace.cut n) hbeside)⟩
  · have hnothing : ¬ s.beside.read?.isSome = true := by
      rw [hbeside]
      exact Bool.false_ne_true
    rw [if_neg hnothing]
    exact ⟨rfl, .inr ⟨hbeside, congrArg (IndexPlace.cut n) hcached⟩⟩

end HasIndexFile

theorem build_of_load_none (h : s.load = .ok none) : s.build options false = s.build options true := by
  rw [build, build, h]
  rfl

theorem build_of_load_error {e : SearchError} (h : s.load = .error e) :
    s.build options false = ⟨.error e, [], s⟩ := by
  rw [build, h]
  rfl

/-! ### A build after a build that was interrupted -/

section

variable (hmailbox : s.mailbox = some file) (hplace : s.HasPlace)
  (hsplit : Mailbox.split options.limit file.data = .ok pieces)

include hmailbox hplace hsplit

theorem hasIndexFile_rebuild :
    (s.rebuild options).site.mailbox = some file ∧
    (s.rebuild options).site.HasIndexFile ((Index.ofPieces options.wantsWords pieces).file (stamp file)) := by
  rw [(rebuild_of_split hmailbox hsplit).2, mailbox_save, hmailbox]
  exact ⟨rfl, hplace.save _⟩

/-- The site after a build whose writing broke off. -/
theorem breakOff_rebuild (n : Nat) :
    ((s.rebuild options).site.breakOff n).mailbox = some file ∧
    ((s.rebuild options).site.breakOff n).HasIndexFile
      (((Index.ofPieces options.wantsWords pieces).file (stamp file)).take n) := by
  obtain ⟨hmailbox', hfile⟩ := hasIndexFile_rebuild hmailbox hplace hsplit
  rw [← hmailbox']
  exact hfile.breakOff n

theorem indexSize_rebuild :
    (s.rebuild options).site.indexSize =
      Index.headerSize + (Index.ofPieces options.wantsWords pieces).write.length := by
  rw [(hasIndexFile_rebuild hmailbox hplace hsplit).2.indexSize, length_file]

/-- A build that is forced does not look at what is left of the index file. -/
theorem answer_forced (n : Nat) :
    (((s.rebuild options).site.breakOff n).build options true).answer =
      .ok (Index.ofPieces options.wantsWords pieces) :=
  (rebuild_of_split (breakOff_rebuild hmailbox hplace hsplit n).1 hsplit).1

theorem build_breakOff_of_lt (hn : n < Index.headerSize) :
    ((s.rebuild options).site.breakOff n).build options false =
      ((s.rebuild options).site.breakOff n).build options true := by
  obtain ⟨-, hfile⟩ := breakOff_rebuild hmailbox hplace hsplit n
  have hload := hfile.load
  rw [loadFrom_take_of_lt _ _ hn] at hload
  exact build_of_load_none hload

theorem build_breakOff_of_le (hn : Index.headerSize ≤ n)
    (hread : Index.read ((Index.ofPieces options.wantsWords pieces).write.take (n - Index.headerSize)) = none) :
    ((s.rebuild options).site.breakOff n).build options false =
      ⟨.error .badIndex, [], (s.rebuild options).site.breakOff n⟩ := by
  obtain ⟨hmailbox', hfile⟩ := breakOff_rebuild hmailbox hplace hsplit n
  have hload := hfile.load
  rw [hmailbox', loadFrom_take_of_le hn hread] at hload
  exact build_of_load_error hload

end

/-- **What an interrupted write leaves behind.** If the index file breaks off in its header, a build is like one that is
forced and gives the index. If it breaks off behind its header, a build fails and leaves the file where it is. -/
theorem build_breakOff (hmailbox : s.mailbox = some file) (hplace : s.HasPlace)
    (hsplit : Mailbox.split options.limit file.data = .ok pieces)
    (hcut : n < (s.rebuild options).site.indexSize)
    (hsize : (s.rebuild options).site.indexSize < UInt64.size) :
    (n < Index.headerSize →
      ((s.rebuild options).site.breakOff n).build options false =
        ((s.rebuild options).site.breakOff n).build options true ∧
      (((s.rebuild options).site.breakOff n).build options true).answer =
        .ok (Index.ofPieces options.wantsWords pieces)) ∧
    (Index.headerSize ≤ n →
      ((s.rebuild options).site.breakOff n).build options false =
        ⟨.error .badIndex, [], (s.rebuild options).site.breakOff n⟩) := by
  rw [indexSize_rebuild hmailbox hplace hsplit] at hcut hsize
  constructor
  · intro hn
    exact ⟨build_breakOff_of_lt hmailbox hplace hsplit hn, answer_forced hmailbox hplace hsplit n⟩
  · intro hn
    have hread := (Index.reads_index (Index.ofPieces options.wantsWords pieces)).cut (by omega)
      (n - Index.headerSize) (by omega)
    exact build_breakOff_of_le hmailbox hplace hsplit hn hread

/-- An index file that breaks off in its header or behind it, first beside the mailbox file and then in the cache
directory. -/
theorem build_breakOff_one_message :
    ∃ s : Site, ∃ options : Index.Options, s.HasPlace ∧ { s with beside := .shut }.HasPlace ∧
      ((s.rebuild options).site.breakOff 127).build options false =
        ((s.rebuild options).site.breakOff 127).build options true ∧
      ((s.rebuild options).site.breakOff 200).build options false =
        ⟨.error .badIndex, [], (s.rebuild options).site.breakOff 200⟩ ∧
      (({ s with beside := .shut }.rebuild options).site.breakOff 200).build options false =
        ⟨.error .badIndex, [], ({ s with beside := .shut }.rebuild options).site.breakOff 200⟩ := by
  let s := ofMailbox ⟨Ascii.bytes "From a\n", 0⟩
  have hsplit : Mailbox.split 100 (Ascii.bytes "From a\n") =
      .ok [⟨⟨0, 7⟩, Ascii.bytes "From a\n"⟩] := by rfl
  have hplace : s.HasPlace := by decide
  have hplace' : { s with beside := .shut }.HasPlace := by decide
  have hsize : (s.rebuild ⟨false, 100⟩).site.indexSize = 264 := by
    rw [indexSize_rebuild rfl hplace hsplit]
    decide +kernel
  have hsize' : ({ s with beside := .shut }.rebuild ⟨false, 100⟩).site.indexSize = 264 := by
    rw [indexSize_rebuild rfl hplace' hsplit]
    decide +kernel
  have hheader := (build_breakOff rfl hplace hsplit (by rw [hsize]; decide : 127 < _) (by rw [hsize]; decide)).1
    (by decide)
  have hpayload := (build_breakOff rfl hplace hsplit (by rw [hsize]; decide : 200 < _) (by rw [hsize]; decide)).2
    (by decide)
  have hcached := (build_breakOff rfl hplace' hsplit (by rw [hsize']; decide : 200 < _) (by rw [hsize']; decide)).2
    (by decide)
  exact ⟨s, ⟨false, 100⟩, hplace, hplace', hheader.1, hpayload, hcached⟩

/-- A file that breaks off right behind its header stands in the way of a build. -/
theorem not_forall_build_breakOff :
    ¬ ∀ (s : Site) (file : File) (options : Index.Options) (pieces : List Piece) (n : Nat),
      s.mailbox = some file → s.HasPlace → Mailbox.split options.limit file.data = .ok pieces →
      n < (s.rebuild options).site.indexSize →
      (((s.rebuild options).site.breakOff n).build options false).answer =
        (((s.rebuild options).site.breakOff n).build options true).answer := by
  intro h
  have hsplit : Mailbox.split 100 (Ascii.bytes "From a\n") =
      .ok [⟨⟨0, 7⟩, Ascii.bytes "From a\n"⟩] := by rfl
  have hplace : (ofMailbox ⟨Ascii.bytes "From a\n", 0⟩).HasPlace := by decide
  have hcut : 128 < ((ofMailbox ⟨Ascii.bytes "From a\n", 0⟩).rebuild ⟨false, 100⟩).site.indexSize := by
    rw [indexSize_rebuild rfl hplace hsplit, Index.headerSize]
    have hpos := List.length_pos_iff.2 (Index.write_ne_nil (Index.ofPieces false [⟨⟨0, 7⟩, Ascii.bytes "From a\n"⟩]))
    dsimp only
    omega
  have hsame := h _ _ ⟨false, 100⟩ _ 128 rfl hplace hsplit hcut
  have hread : Index.read ((Index.ofPieces false [⟨⟨0, 7⟩, Ascii.bytes "From a\n"⟩]).write.take
      (128 - Index.headerSize)) = none := by
    rw [show 128 - Index.headerSize = 0 from rfl, List.take_zero]
    rfl
  have hbehind : Index.headerSize ≤ 128 := Nat.le_refl 128
  rw [build_breakOff_of_le rfl hplace hsplit hbehind hread, answer_forced rfl hplace hsplit] at hsame
  cases hsame

end Site

end MailQuery
