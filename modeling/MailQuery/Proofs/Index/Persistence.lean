import MailQuery.Proofs.Index.Interruption

/-!
# Index files that come back

Whatever index is written for a mailbox file is loaded again from its file, as long as the mailbox file is the same
(`load_save`): the header vouches for the mailbox file and describes the index, and the index is read as it was written.
A build that finds an index which will do has nothing left to do (`settled_of_load`).

`settled_build` is the main statement. It is about all builds, those that write an index and those that find one.
-/

namespace MailQuery

open Mail

namespace Index

variable {index : Index}

theorem length_summaries_le_write (index : Index) : index.summaries.length ≤ index.write.length := by
  have hcount : index.summaries.length ≤ (Binary.writeList writeSummary index.summaries).length :=
    Binary.length_le_writeList fun m _ => writeSummary_ne_nil m
  rw [write, List.length_append]
  omega

/-- The header that is written with an index belongs to it. -/
theorem describes_ofIndex (hcount : index.summaries.length < UInt64.size) (stamp : Stamp) :
    (Header.ofIndex index stamp).describes index = true := by
  have hlength : index.summaries.length.toUInt64.toNat = index.summaries.length := UInt64.toNat_ofNat_of_lt' hcount
  have hflags : ∀ b : Bool, (b == ((if b then wordsFlag else 0) &&& wordsFlag != 0)) = true := by decide
  rw [Header.describes, Header.ofIndex, Bool.and_eq_true]
  exact ⟨beq_iff_eq.2 hlength.symm, hflags _⟩

theorem isSome_words_ofPieces (wantsWords : Bool) (pieces : List Piece) :
    (ofPieces wantsWords pieces).words.isSome = wantsWords := by
  cases wantsWords <;> rfl

end Index

namespace Site

variable {s : Site} {file : File} {options : Index.Options} {pieces : List Piece} {index : Index}

/-! ### Loading what was written -/

/-- **An index comes back from its file.** -/
theorem loadFrom_file (hsize : (index.file (stamp file)).length < UInt64.size) :
    loadFrom (some file) (index.file (stamp file)) = .ok (some index) := by
  rw [length_file] at hsize
  have hwrite : index.write.length < UInt64.size := Nat.lt_of_le_of_lt (Nat.le_add_left ..) hsize
  have hcount := Nat.lt_of_le_of_lt (Index.length_summaries_le_write index) hwrite
  have hread := (Index.reads_index index).whole hwrite []
  rw [List.append_nil] at hread
  rw [Index.file, loadFrom_header_append, hread, Option.elim_some]
  dsimp only
  rw [if_pos (Index.describes_ofIndex hcount _)]

theorem load_save (hmailbox : s.mailbox = some file) (hplace : s.HasPlace)
    (hsize : (index.file (stamp file)).length < UInt64.size) :
    (s.save (index.file (stamp file))).load = .ok (some index) := by
  rw [(hplace.save _).load, mailbox_save, hmailbox, loadFrom_file hsize]

/-! ### Building once more -/

/-- There is an index that will do, and a build that is not forced gives it: nothing is read again, so that there is no
progress, and nothing is written. -/
structure Settled (s : Site) (options : Index.Options) (index : Index) : Prop where
  load : s.load = .ok (some index)
  build : s.build options false = ⟨.ok index, [], s⟩

theorem settled_of_load (hload : s.load = .ok (some index))
    (hwords : (index.words.isSome || !options.wantsWords) = true) : s.Settled options index := by
  refine ⟨hload, ?_⟩
  rw [build, if_neg (by decide), hload]
  exact if_pos hwords

theorem settled_rebuild (hmailbox : s.mailbox = some file) (hplace : s.HasPlace)
    (hsplit : Mailbox.split options.limit file.data = .ok pieces)
    (hsize : (s.rebuild options).site.indexSize < UInt64.size) :
    (s.rebuild options).site.Settled options (Index.ofPieces options.wantsWords pieces) := by
  rw [indexSize_rebuild hmailbox hplace hsplit, ← length_file _ file] at hsize
  rw [(rebuild_of_split hmailbox hsplit).2]
  refine settled_of_load (load_save hmailbox hplace hsize) ?_
  rw [Index.isSome_words_ofPieces]
  exact Bool.or_not_self _

/-- A build gives the index that is there, if there is one that will do, or else what a new build gives. -/
theorem build_cases (options : Index.Options) {found : Option Index} (hload : s.load = .ok found) :
    (∃ index, s.Settled options index) ∨ s.build options false = s.rebuild options := by
  cases found with
  | none => exact .inr (build_of_load_none hload)
  | some index =>
    by_cases hwords : (index.words.isSome || !options.wantsWords) = true
    · exact .inl ⟨index, settled_of_load hload hwords⟩
    · refine .inr ?_
      rw [build, if_neg (by decide), hload]
      exact if_neg hwords

/-- **An index that was built comes back.** A build for a mailbox file that can be split gives an index, unless it is not
forced and there is an index file that cannot be read. After that the index is loaded as it is, and a build with the same
options gives it without any progress. The lengths in a file take eight bytes, so that none is longer than that. -/
theorem settled_build (hmailbox : s.mailbox = some file) (hplace : s.HasPlace)
    (hsplit : Mailbox.split options.limit file.data = .ok pieces)
    (hsize : (s.rebuild options).site.indexSize < UInt64.size) :
    (s.build options true).answer = .ok (Index.ofPieces options.wantsWords pieces) ∧
      ∀ force, (force = true ∨ ∃ found, s.load = .ok found) →
        ∃ index, (s.build options force).answer = .ok index ∧ (s.build options force).site.Settled options index := by
  have hrebuild : (s.rebuild options).answer = .ok (Index.ofPieces options.wantsWords pieces) ∧
      (s.rebuild options).site.Settled options (Index.ofPieces options.wantsWords pieces) :=
    ⟨(rebuild_of_split hmailbox hsplit).1, settled_rebuild hmailbox hplace hsplit hsize⟩
  refine ⟨hrebuild.1, fun force hload => ?_⟩
  cases force with
  | true => exact ⟨_, hrebuild⟩
  | false =>
    obtain ⟨found, hfound⟩ := hload.resolve_left Bool.false_ne_true
    obtain ⟨index, hsettled⟩ | hnew := build_cases options hfound
    · rw [hsettled.build]
      exact ⟨index, rfl, hsettled⟩
    · rw [hnew]
      exact ⟨_, hrebuild⟩

/-- One message, whose words are indexed, where there was no index before. -/
theorem settled_build_words :
    let s := ofMailbox ⟨Ascii.bytes "From a\n\nHi\n", 0⟩
    s.HasPlace ∧ (s.rebuild ⟨true, 100⟩).site.indexSize < UInt64.size ∧ s.load = .ok none ∧
      ∃ index, (s.build ⟨true, 100⟩ false).answer = .ok index ∧
        (s.build ⟨true, 100⟩ false).site.Settled ⟨true, 100⟩ index := by
  intro s
  have hsplit : Mailbox.split 100 (Ascii.bytes "From a\n\nHi\n") =
      .ok [⟨⟨0, 11⟩, Ascii.bytes "From a\n\nHi\n"⟩] := by rfl
  have hplace : s.HasPlace := by decide
  have hsize : (s.rebuild ⟨true, 100⟩).site.indexSize < UInt64.size := by
    rw [indexSize_rebuild rfl hplace hsplit]
    decide +kernel
  exact ⟨hplace, hsize, rfl, (settled_build rfl hplace hsplit hsize).2 false (.inr ⟨none, rfl⟩)⟩

end Site

end MailQuery
