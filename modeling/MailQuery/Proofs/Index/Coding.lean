import MailQuery.Index.Format
import MailQuery.Proofs.Files.Coding

/-!
# The format of index files

Each part of an index file is read back from what was written of it, and not from less (`Binary.Reads`). Sets and maps
are written as lists in ascending order, from which they are built again (`TextSet.ofList_toList`,
`SortedMap.ofList_entries`).

The header is fixed in size (`Header.IsSized.length_write`), so that the file can be cut in its header or behind it.
-/

namespace MailQuery

theorem TextSet.ofList_toList (s : TextSet) : TextSet.ofList s.toList = s :=
  TextSet.ext fun _ => TextSet.mem_ofList

theorem SortedMap.get?_foldl_insert {β : Type} {es : List (String × β)} (h : es.Pairwise fun a b => a.1 < b.1)
    (m : SortedMap β) (k : String) :
    (es.foldl (fun m e => m.insert e.1 e.2) m).get? k = (es.lookup k).or (m.get? k) := by
  induction es generalizing m with
  | nil => rfl
  | cons e es ih =>
    obtain ⟨he, hes⟩ := List.pairwise_cons.1 h
    rw [List.foldl_cons, ih hes, SortedMap.get?_insert, SortedMap.lookup_cons_eq_if]
    by_cases hk : k = e.1
    · rw [if_pos hk, if_pos hk, hk, SortedMap.lookup_eq_none_of_lt he]
      rfl
    · rw [if_neg hk, if_neg hk]

theorem SortedMap.ofList_entries {β : Type} (m : SortedMap β) : SortedMap.ofList m.entries = m := by
  refine SortedMap.ext fun k => ?_
  rw [SortedMap.ofList, SortedMap.get?_foldl_insert m.sorted, SortedMap.get?_empty, Option.or_none]
  rfl

namespace Index

open Binary Mail Search

theorem reads_span (s : Span) : Reads readSpan (writeSpan s) s := .bind (.nat _) (.bind_pure (.nat _) rfl)

theorem reads_pair (p : String × String) : Reads readPair (writePair p) p := .bind (.text _) (.bind_pure (.text _) rfl)

theorem writePair_ne_nil (p : String × String) : writePair p ≠ [] :=
  List.append_ne_nil_of_left_ne_nil (writeText_ne_nil _) _

theorem reads_texts (ss : List String) : Reads (readList readText) (writeList writeText ss) ss :=
  .list (fun s _ => writeText_ne_nil s) (fun s _ => .text s)

theorem reads_pairs (ps : List (String × String)) : Reads (readList readPair) (writeList writePair ps) ps :=
  .list (fun p _ => writePair_ne_nil p) (fun p _ => reads_pair p)

theorem reads_summary (s : Summary) : Reads readSummary (writeSummary s) s := by
  have hset : { s with userFlags := .ofList s.userFlags.toList, userTags := .ofList s.userTags.entries } = s := by
    rw [TextSet.ofList_toList, SortedMap.ofList_entries]
  exact .bind (.text _) <| .bind (.word _) <| .bind (reads_texts _) <| .bind (reads_pairs _) <| .bind (.text _) <|
    .bind (.text _) <| .bind (.text _) <| .bind (.text _) <| .bind (.text _) <| .bind (.int _) <| .bind (.int _) <|
    .bind (.nat _) <| .bind (.text _) <| .bind (.option fun _ _ => .text _) <| .bind (reads_texts _) <|
    .bind_pure (.option fun _ _ => reads_span _) hset

theorem writeSummary_ne_nil (s : Summary) : writeSummary s ≠ [] :=
  List.append_ne_nil_of_left_ne_nil (writeText_ne_nil _) _

theorem reads_entry (e : String × List String) : Reads readEntry (writeEntry e) e :=
  .bind (.text _) (.bind_pure (reads_texts _) rfl)

theorem writeEntry_ne_nil (e : String × List String) : writeEntry e ≠ [] :=
  List.append_ne_nil_of_left_ne_nil (writeText_ne_nil _) _

theorem reads_words (w : WordIndex) : Reads readWords (writeWords w) w := by
  refine .bind_pure (.list (fun e _ => writeEntry_ne_nil e) fun e _ => reads_entry e) ?_
  rw [SortedMap.ofList_entries]

/-- An index is read from what was written of it, and from nothing less. -/
theorem reads_index (index : Index) : Reads read index.write index :=
  .bind (.list (fun s _ => writeSummary_ne_nil s) fun s _ => reads_summary s)
    (.bind_pure (.option fun w _ => reads_words w) rfl)

theorem write_ne_nil (index : Index) : index.write ≠ [] :=
  List.append_ne_nil_of_left_ne_nil (List.cons_ne_nil _ _) _

/-! ### Headers -/

/-- The parts of a header whose size the format does not fix have the size that is read. -/
structure Header.IsSized (h : Header) : Prop where
  magic : h.magic.length = 8
  digest : h.stamp.digest.length = 32

theorem isSized_ofIndex (index : Index) {stamp : Stamp} (h : stamp.digest.length = 32) :
    (Header.ofIndex index stamp).IsSized := by
  have hmagic : Index.magic.length = 8 := by decide
  exact ⟨hmagic, h⟩

namespace Header

variable {h : Header}

/-- The bytes of a header without those that fill it up, in the order in which they are read. -/
def fields (h : Header) : Bytes :=
  h.magic ++ (writeWord h.version ++ (writeWord h.flags ++ (writeNat h.count ++ (writeNat h.stamp.size ++
  (writeInt h.stamp.modified ++ h.stamp.digest)))))

theorem write_eq_fields (h : Header) : h.write = h.fields ++ List.replicate (headerSize - h.fields.length) 0 := by
  simp only [write, fields, List.append_assoc]

theorem IsSized.length_fields (hsized : h.IsSized) : h.fields.length = 72 := by
  simp [fields, writeWord, writeNat, writeInt, length_littleEndian, hsized.magic, hsized.digest]

theorem IsSized.length_write (hsized : h.IsSized) : h.write.length = headerSize := by
  rw [write_eq_fields, List.length_append, List.length_replicate, hsized.length_fields, headerSize]

theorem IsSized.reads_fields (hsized : h.IsSized) : Reads readHeader h.fields h := by
  have hmagic : Reads (readBytes 8) h.magic h.magic := hsized.magic ▸ .bytes _
  have hdigest : Reads (readBytes 32) h.stamp.digest h.stamp.digest := hsized.digest ▸ .bytes _
  exact .bind hmagic <| .bind (.word _) <| .bind (.word _) <| .bind (.nat _) <| .bind (.nat _) <| .bind (.int _) <|
    .bind_pure hdigest rfl

theorem IsSized.readHeader_write (hsized : h.IsSized) (rest : Bytes) :
    ∃ rest', readHeader (h.write ++ rest) = some (h, rest') := by
  have hsmall : h.fields.length < UInt64.size := by
    rw [hsized.length_fields]
    decide
  rw [write_eq_fields, List.append_assoc]
  exact ⟨_, hsized.reads_fields.whole hsmall _⟩

end Header

theorem isKnown_ofIndex (index : Index) (stamp : Stamp) : (Header.ofIndex index stamp).isKnown = true := by
  rw [Header.isKnown, Header.ofIndex, beq_self_eq_true, beq_self_eq_true]
  rfl

end Index

end MailQuery
