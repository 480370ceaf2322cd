import MailQuery.Proofs.Folders.Fetches
import MailQuery.Proofs.Index.Interruption
import MailQuery.Proofs.Mailbox.Lines

/-!
# An index describes its file

A build goes once through the mailbox file, and a fetch reads a message again later by its span. `Index.Describes` says that
both meet: there is a record for each separator line, numbered in their order, the spans fill the file, and a record is the
summary of the bytes of its span. So a fetch finds the bytes that the record was made of (`build_describes`), and the
reports of the build rise to the size of the file (`Site.Rises`).
-/

namespace MailQuery

open Mail

namespace Mail

variable {data : Bytes} {span : Span} {spans : List Span} {first last : Nat}

/-! ### Spans -/

/-- The offset behind a span. -/
def Span.stop (span : Span) : Nat := span.offset.toNat + span.length.toNat

theorem Span.length_slice (h : span.stop ≤ data.length) : (span.slice data).length = span.length.toNat := by
  rw [stop] at h
  rw [slice, List.length_take, List.length_drop]
  omega

namespace Mailbox

theorem Contiguous.pairwise_stop (h : Contiguous first last spans) : (first :: spans.map Span.stop).Pairwise (· < ·) := by
  induction spans generalizing first with
  | nil => exact List.pairwise_singleton ..
  | cons span spans ih =>
    obtain ⟨hoffset, hlength, hrest⟩ := h
    have hstop : span.stop = first + span.length.toNat := by rw [Span.stop, hoffset]
    have hlater : (span.stop :: spans.map Span.stop).Pairwise (· < ·) := hstop ▸ ih hrest
    refine List.pairwise_cons.2 ⟨fun n hn => ?_, hlater⟩
    rcases List.mem_cons.1 hn with rfl | hn
    · omega
    · have := List.rel_of_pairwise_cons hlater hn
      omega

theorem Contiguous.stop_getLast (h : Contiguous first last spans) (hspan : span ∈ spans.getLast?) : span.stop = last := by
  induction spans generalizing first with
  | nil => cases hspan
  | cons span' spans ih =>
    obtain ⟨hoffset, -, hrest⟩ := h
    cases spans with
    | nil =>
      obtain rfl : span' = span := Option.some.inj hspan
      rw [Span.stop, hoffset]
      exact hrest
    | cons next spans => exact ih hrest (by rwa [List.getLast?_cons_cons] at hspan)

/-! ### Separator lines -/

/-- The number of separator lines of a file. A byte-order mark may stand before the first line. -/
def separatorCount (data : Bytes) : Nat := ((lines data).modifyHead dropMark).countP isSeparator

theorem length_place (limit offset : Nat) (messages : List (List Bytes)) :
    (place limit offset messages).length = messages.length := by
  induction messages generalizing offset with
  | nil => rfl
  | cons message messages ih => rw [place, List.length_cons, ih, List.length_cons]

/-- The first line starts a message, and each later one that is a separator line. -/
theorem length_group (line : Bytes) (rest : List Bytes) :
    (group (line :: rest)).length = rest.countP isSeparator + 1 := by
  match rest with
  | [] => rfl
  | next :: rest =>
    have ih := length_group next rest
    by_cases h : isSeparator next = true
    · rw [group_cons_of_isSeparator h, List.length_cons, ih, List.countP_cons_of_pos h]
    · obtain ⟨message, messages, hgroup⟩ := exists_group_cons next rest
      rw [hgroup] at ih
      rw [group_cons_of_not_isSeparator h hgroup, List.countP_cons_of_neg h]
      exact ih

/-- A file is cut into as many pieces as it has separator lines. -/
theorem length_of_split {limit : Nat} {pieces : List Piece} (h : split limit data = .ok pieces) :
    pieces.length = separatorCount data := by
  obtain ⟨rfl, rfl⟩ | ⟨line, rest, hlines, hline, rfl⟩ := split_cases h
  · rfl
  · rw [separatorCount, hlines, length_place, length_group, List.modifyHead_cons, List.countP_cons_of_pos hline]

theorem isPartition_of_split {limit : Nat} {pieces : List Piece} (hsize : data.length < UInt64.size)
    (h : split limit data = .ok pieces) (hdata : data ≠ []) : IsPartition limit data pieces := by
  obtain ⟨rfl, -⟩ | ⟨line, rest, hlines, -, rfl⟩ := split_cases h
  · exact absurd rfl hdata
  · exact isPartition_place hsize hlines

end Mailbox

end Mail

/-! ### Records -/

/-- An index with a record for each separator line of a file, numbered in their order. The spans fill the file and start at
the separator lines, and each record is the summary of the bytes of its span. -/
structure Index.Describes (index : Index) (data : Bytes) : Prop where
  count : index.summaries.length = Mailbox.separatorCount data
  spans : ∃ spans, index.summaries.map (·.span) = spans.map some ∧ Mailbox.Contiguous 0 data.length spans ∧
    (data ≠ [] → ∀ n, n ∈ spans.map (·.offset.toNat) ↔ Mailbox.IsStart data n)
  record : ∀ i m, index.summaries[i]? = some m →
    ∃ span, m = Summary.ofRaw (toString (i + 1)) (span.slice data) (some span) ∧ m.size = span.length

namespace Index

variable {data : Bytes} {index : Index} {limit : Nat} {pieces : List Piece}

theorem getElem?_summaries_ofPieces (wantsWords : Bool) (pieces : List Piece) (i : Nat) :
    (ofPieces wantsWords pieces).summaries[i]? =
      pieces[i]?.map fun p => Summary.ofRaw (toString (i + 1)) p.bytes (some p.span) := by
  show (((pieces.zipIdx 1).map _).map _)[i]? = _
  rw [List.getElem?_map, List.getElem?_map, List.getElem?_zipIdx, Option.map_map, Option.map_map, Nat.add_comm 1]
  rfl

theorem map_span_ofPieces (wantsWords : Bool) (pieces : List Piece) :
    (ofPieces wantsWords pieces).summaries.map (·.span) = (pieces.map (·.span)).map some := by
  refine List.ext_getElem? fun i => ?_
  simp only [List.getElem?_map, getElem?_summaries_ofPieces, Option.map_map]
  rfl

theorem describes_ofPieces (hsize : data.length < UInt64.size) (hsplit : Mailbox.split limit data = .ok pieces)
    (hlimit : ∀ p ∈ pieces, p.span.length.toNat ≤ limit) (wantsWords : Bool) :
    (ofPieces wantsWords pieces).Describes data where
  count := by
    have hlength := congrArg List.length (map_span_ofPieces wantsWords pieces)
    rw [List.length_map, List.length_map, List.length_map] at hlength
    rw [hlength, Mailbox.length_of_split hsplit]
  spans := by
    refine ⟨pieces.map (·.span), map_span_ofPieces .., Mailbox.contiguous_of_split hsize hsplit, fun hdata => ?_⟩
    have hstarts := (Mailbox.isPartition_of_split hsize hsplit hdata).starts
    rwa [List.map_map]
  record i m hm := by
    rw [getElem?_summaries_ofPieces] at hm
    obtain ⟨p, hp, rfl⟩ := Option.map_eq_some_iff.1 hm
    have hmem := List.mem_of_getElem? hp
    have hdata : data ≠ [] := by
      rintro rfl
      cases hsplit
      cases hmem
    have hbytes : p.bytes = p.span.slice data :=
      ((Mailbox.isPartition_of_split hsize hsplit hdata).whole p hmem (hlimit p hmem)).1
    have hstop := (Mailbox.contiguous_of_split hsize hsplit).end_le (List.mem_map_of_mem hmem)
    refine ⟨p.span, by rw [hbytes], ?_⟩
    show p.bytes.length.toUInt64 = _
    rw [hbytes, Span.length_slice hstop]
    exact UInt64.ofNat_toNat

/-- A uid stands for one record only. -/
theorem Describes.eq_of_uid_eq (h : index.Describes data) {m m' : Summary} (hm : m ∈ index.summaries)
    (hm' : m' ∈ index.summaries) (huid : m.uid = m'.uid) : m = m' := by
  obtain ⟨i, hi⟩ := List.mem_iff_getElem?.1 hm
  obtain ⟨j, hj⟩ := List.mem_iff_getElem?.1 hm'
  obtain ⟨_, rfl, -⟩ := h.record i m hi
  obtain ⟨_, rfl, -⟩ := h.record j m' hj
  have hdigits : Nat.toDigits 10 (i + 1) = Nat.toDigits 10 (j + 1) := by
    rw [← Nat.toList_repr, ← Nat.toList_repr]
    exact congrArg String.toList huid
  have heq : i + 1 = j + 1 := calc
    i + 1 = Nat.ofDigitChars 10 (Nat.toDigits 10 (i + 1)) 0 := (Nat.ofDigitChars_toDigits (by omega) (by omega)).symm
    _ = Nat.ofDigitChars 10 (Nat.toDigits 10 (j + 1)) 0 := by rw [hdigits]
    _ = j + 1 := Nat.ofDigitChars_toDigits (by omega) (by omega)
  obtain rfl := Nat.succ.inj heq
  exact Option.some.inj (hi.symm.trans hj)

/-- The span of a record lies within the file. -/
theorem Describes.stop_le (h : index.Describes data) {m : Summary} {span : Span} (hm : m ∈ index.summaries)
    (hspan : m.span = some span) : span.stop ≤ data.length := by
  obtain ⟨spans, hspans, hcontiguous, -⟩ := h.spans
  have hmap : some span ∈ spans.map some := by
    rw [← hspans, ← hspan]
    exact List.mem_map_of_mem hm
  obtain ⟨_, hmem, heq⟩ := List.mem_map.1 hmap
  obtain rfl := Option.some.inj heq
  exact hcontiguous.end_le hmem

/-- What the folder of an index has for a record is the bytes of its span decoded. -/
theorem Describes.content_ofIndex (h : index.Describes data) {m : Summary} {span : Span} (hm : m ∈ index.summaries)
    (hspan : m.span = some span) (path : String) (config : Config) (store : Option Store) :
    (Folder.ofIndex path data index config store).content m.uid = .ok (Message.ofRaw (span.slice data)) := by
  have huids : m.uid ∈ (Folder.ofIndex path data index config store).uids := List.mem_map_of_mem hm
  obtain ⟨m', hm', hfound, huid⟩ := Folder.exists_summary?_of_mem_uids huids
  obtain rfl := h.eq_of_uid_eq hm' hm huid
  refine Folder.content_of_read rfl hfound ?_
  show Source.read (.mailbox data) m' = _
  simp only [Source.read, hspan, Folder.readSpan_of_le (h.stop_le hm hspan)]
  rfl

/-- A fetch gives that in every state that the folder reaches, unless the message was dropped. -/
theorem Describes.fetch_ofIndex (h : index.Describes data) {m : Summary} {span : Span} (hm : m ∈ index.summaries)
    (hspan : m.span = some span) (path : String) (config : Config) (store : Option Store) {ops : List Folder.Operation}
    (hops : .dropContent m.uid ∉ ops) :
    (((Folder.ofIndex path data index config store).performAll ops).fetch m.uid).1 =
      .ok (Message.ofRaw (span.slice data)) := by
  have hopened : (Folder.ofIndex path data index config store).Opened := .start rfl
  have hfaithful := Folder.kept_faithful.performAll ops hopened.faithful
  rw [(Folder.fetch_eq_content hfaithful m.uid).1, Folder.content_performAll hops, h.content_ofIndex hm hspan]

end Index

/-! ### Builds -/

namespace Site

/-- Reports of a build, one for each of some messages, that rise to the number of all bytes. -/
structure Rises (reports : List Progress) (count total : Nat) : Prop where
  length : reports.length = count
  increasing : (reports.map (·.done)).Pairwise (· < ·)
  totals : ∀ r ∈ reports, r.total = total
  complete : ∀ r ∈ reports.getLast?, r.done = total

variable {s : Site} {file : File} {options : Index.Options} {pieces : List Piece}

theorem progress_rebuild (hmailbox : s.mailbox = some file) (hsplit : Mailbox.split options.limit file.data = .ok pieces) :
    (s.rebuild options).progress = pieces.map fun p => ⟨p.span.stop, file.data.length⟩ := by
  rw [rebuild, hmailbox]
  simp only [hsplit]
  rfl

theorem rises_progress_rebuild (hmailbox : s.mailbox = some file) (hsize : file.data.length < UInt64.size)
    (hsplit : Mailbox.split options.limit file.data = .ok pieces) :
    Rises (s.rebuild options).progress pieces.length file.data.length := by
  have hcontiguous := Mailbox.contiguous_of_split hsize hsplit
  rw [progress_rebuild hmailbox hsplit]
  refine ⟨List.length_map .., ?_, fun r hr => ?_, fun r hr => ?_⟩
  · rw [List.map_map]
    have hstops := List.Pairwise.of_cons hcontiguous.pairwise_stop
    rwa [List.map_map] at hstops
  · obtain ⟨p, -, rfl⟩ := List.mem_map.1 hr
    rfl
  · rw [List.getLast?_map] at hr
    obtain ⟨p, hp, rfl⟩ := Option.map_eq_some_iff.1 hr
    have hlast : p.span ∈ (pieces.map (·.span)).getLast? := by
      rw [List.getLast?_map, hp]
      rfl
    exact hcontiguous.stop_getLast hlast

/-- **A build describes the file.** A forced build succeeds for each file that can be cut into messages that are not too
long. It gives an index that describes the file, and it reports a rise to the number of all bytes, with one report for each
message. In every state that the folder of the index reaches by operations, a fetch gives the bytes of the message's span
decoded, unless the message was dropped. -/
theorem build_describes (hmailbox : s.mailbox = some file) (hsize : file.data.length < UInt64.size)
    (hsplit : Mailbox.split options.limit file.data = .ok pieces)
    (hlimit : ∀ p ∈ pieces, p.span.length.toNat ≤ options.limit) :
    ∃ index, (s.build options true).answer = .ok index ∧ index.Describes file.data ∧
      Rises (s.build options true).progress index.summaries.length file.data.length ∧
      ∀ m ∈ index.summaries, ∃ span, m.span = some span ∧
        ∀ path config store (ops : List Folder.Operation), .dropContent m.uid ∉ ops →
          (((Folder.ofIndex path file.data index config store).performAll ops).fetch m.uid).1 =
            .ok (Message.ofRaw (span.slice file.data)) := by
  have hdescribes := Index.describes_ofPieces hsize hsplit hlimit options.wantsWords
  refine ⟨_, (rebuild_of_split hmailbox hsplit).1, hdescribes, ?_, fun m hm => ?_⟩
  · rw [hdescribes.count, ← Mailbox.length_of_split hsplit]
    exact rises_progress_rebuild hmailbox hsize hsplit
  · obtain ⟨i, hi⟩ := List.mem_iff_getElem?.1 hm
    obtain ⟨span, hrecord, -⟩ := hdescribes.record i m hi
    have hspan : m.span = some span := by rw [hrecord]; rfl
    exact ⟨span, hspan, fun path config store ops hops => hdescribes.fetch_ofIndex hm hspan path config store hops⟩

/-- The longer of two messages is as long as the limit. -/
theorem build_describes_two_messages :
    let file : File := ⟨Ascii.bytes "From a\n\nHi\nFrom b\nSubject: b\n\nHo\n", 5⟩
    let options : Index.Options := ⟨true, 22⟩
    let built := (Site.ofMailbox file).build options true
    built.progress = [⟨11, 33⟩, ⟨33, 33⟩] ∧ ∃ index, built.answer = .ok index ∧ index.Describes file.data ∧
      index.summaries.map (·.span) = [some ⟨0, 11⟩, some ⟨11, 22⟩] ∧
      (((Folder.ofIndex "/m/in" file.data index Config.default none).performAll [.dropContent "1"]).fetch "2").1 =
        .ok (Message.ofRaw (Ascii.bytes "From b\nSubject: b\n\nHo\n")) := by
  intro file options built
  let pieces : List Piece :=
    [⟨⟨0, 11⟩, Ascii.bytes "From a\n\nHi\n"⟩, ⟨⟨11, 22⟩, Ascii.bytes "From b\nSubject: b\n\nHo\n"⟩]
  have hmailbox : (Site.ofMailbox file).mailbox = some file := rfl
  have hsplit : Mailbox.split options.limit file.data = .ok pieces := by rfl
  obtain ⟨index, hbuilt, hdescribes, -, hfetch⟩ := build_describes hmailbox (by decide) hsplit (by decide)
  obtain rfl : Index.ofPieces true pieces = index :=
    Except.ok.inj ((rebuild_of_split hmailbox hsplit).1.symm.trans hbuilt)
  refine ⟨progress_rebuild hmailbox hsplit, _, hbuilt, hdescribes, Index.map_span_ofPieces true pieces, ?_⟩
  obtain ⟨span, hspan, hfetched⟩ := hfetch _ (List.mem_of_getElem (i := 1) (h := by decide) rfl)
  obtain rfl := Option.some.inj hspan
  have hkept : .dropContent "2" ∉ [Folder.Operation.dropContent "1"] := by simp
  exact hfetched "/m/in" Config.default none _ hkept

end Site

end MailQuery
