import MailQuery.Mail.Header
import MailQuery.Proofs.Headers.Addresses
import MailQuery.Proofs.Headers.Matching

/-!
# Stored addresses

The addresses of a message are kept as text, with the names bare (`addressHeader`), and are read from it again whenever
they are compared with a pattern. They are those of the header exactly if that text says what they are (`ReadsBack`). It
does when no name and no address has a quote, a comma or an angle bracket in it (`readsBack_of_isPlain`). A name with a
comma does not come back (`not_forall_parseList_formatList`), though the header had it in quotes.
-/

namespace MailQuery.Mail

open Text Search

namespace Address

/-! ### Names and addresses without marks -/

/-- A text without the characters that quote, part and enclose the mailboxes of a list. -/
def IsUnmarked (cs : List Char) : Prop := ∀ c ∈ cs, c ∉ ['"', ',', '<', '>']

instance (cs : List Char) : Decidable (IsUnmarked cs) := List.decidableBAll _ _

/-- A mailbox with neither in its name nor in its address a quote, a comma or an angle bracket. -/
structure IsPlain (a : Address) : Prop where
  name : IsUnmarked a.name.toList
  email : IsUnmarked a.email.toList

instance (a : Address) : Decidable a.IsPlain :=
  decidable_of_iff (IsUnmarked a.name.toList ∧ IsUnmarked a.email.toList)
    ⟨fun h => ⟨h.1, h.2⟩, fun h => ⟨h.name, h.email⟩⟩

theorem unquote_of_isUnmarked {cs : List Char} (h : IsUnmarked cs) (htrimmed : IsTrimmed cs) : unquote cs = cs := by
  rcases unquote_cases cs with hsame | ⟨inner, hinner, -⟩
  · rw [hsame, htrimmed.trim_eq]
  · have hquote : '"' ∈ cs := by
      rw [← htrimmed.trim_eq, hinner]
      exact List.mem_cons_self ..
    exact absurd (h '"' hquote) (by decide)

/-- An unmarked text is one entry, or a part of one, and leaves everything as it is. -/
theorem splitEntries_of_isUnmarked {cs : List Char} (h : IsUnmarked cs) (quoted : Bool) (angles : Nat) :
    splitEntries quoted angles cs = [cs] ∧ scanned quoted angles cs = (quoted, angles) := by
  induction cs with
  | nil => exact ⟨rfl, rfl⟩
  | cons c cs ih =>
    obtain ⟨hc, hcs⟩ := List.forall_mem_cons.1 h
    obtain ⟨hsplit, hscanned⟩ := ih hcs
    simp only [List.mem_cons, List.not_mem_nil, or_false, not_or] at hc
    obtain ⟨hquote, hcomma, hopen, hclose⟩ := hc
    have hstep : step quoted angles c = (quoted, angles) := by simp [step, hquote, hopen, hclose]
    constructor
    · rw [splitEntries_cons, if_neg fun hyes => hcomma hyes.1, hstep, hsplit, List.modifyHead_cons]
    · rw [scanned, hstep, hscanned]

/-- A text is one entry with another one behind it that goes on in the same. -/
theorem splitEntries_append_self {quoted : Bool} {angles : Nat} {xs ys : List Char}
    (hxs : splitEntries quoted angles xs = [xs])
    (hys : splitEntries (scanned quoted angles xs).1 (scanned quoted angles xs).2 ys = [ys]) :
    splitEntries quoted angles (xs ++ ys) = [xs ++ ys] := by
  rw [splitEntries_append hxs, hys, List.modifyHead_cons]

theorem scanned_append (quoted : Bool) (angles : Nat) (xs ys : List Char) :
    scanned quoted angles (xs ++ ys) = scanned (scanned quoted angles xs).1 (scanned quoted angles xs).2 ys := by
  induction xs generalizing quoted angles with
  | nil => rfl
  | cons c xs ih => exact ih (step quoted angles c).1 (step quoted angles c).2

/-- The text of a plain mailbox is one entry and leaves nothing open. -/
theorem splitEntries_format {a : Address} (h : a.IsPlain) :
    splitEntries false 0 a.format.toList = [a.format.toList] ∧ scanned false 0 a.format.toList = (false, 0) := by
  by_cases hname : a.name = ""
  · rw [format, if_pos hname]
    exact splitEntries_of_isUnmarked h.email false 0
  · obtain ⟨hnameSplit, hnameScanned⟩ := splitEntries_of_isUnmarked h.name false 0
    -- Inside the brackets one of them is open.
    obtain ⟨hemailSplit, hemailScanned⟩ := splitEntries_of_isUnmarked h.email false 1
    have hparts : a.format.toList = a.name.toList ++ ([' ', '<'] ++ (a.email.toList ++ ['>'])) := by
      rw [toList_format hname, List.append_assoc]
      rfl
    have hbehind : splitEntries false 1 (a.email.toList ++ ['>']) = [a.email.toList ++ ['>']] := by
      refine splitEntries_append_self hemailSplit ?_
      rw [hemailScanned]
      rfl
    have hbracket : splitEntries false 0 ([' ', '<'] ++ (a.email.toList ++ ['>'])) =
        [[' ', '<'] ++ (a.email.toList ++ ['>'])] :=
      splitEntries_append_self rfl hbehind
    rw [hparts]
    constructor
    · refine splitEntries_append_self hnameSplit ?_
      rw [hnameScanned]
      exact hbracket
    · rw [scanned_append, hnameScanned, scanned_append, scanned_append]
      show scanned (scanned false 1 a.email.toList).1 (scanned false 1 a.email.toList).2 ['>'] = (false, 0)
      rw [hemailScanned]
      rfl

/-- **The text of plain mailboxes says what they are.** -/
theorem readsBack_of_isPlain {as : List Address} (hread : ∀ a ∈ as, IsRead a) (h : ∀ a ∈ as, a.IsPlain) :
    ReadsBack as := by
  refine ⟨fun a ha => unquote_of_isUnmarked (h a ha).name (hread a ha).name, ?_, ?_⟩
  · intro cs hcs
    obtain ⟨a, ha, rfl⟩ := List.mem_map.1 hcs
    exact (splitEntries_format (h a ha)).1
  · intro cs hcs
    obtain ⟨a, ha, rfl⟩ := List.mem_map.1 ((List.dropLast_sublist _).subset hcs)
    exact (splitEntries_format (h a ha)).2

/-! ### The stored text as a header -/

theorem isTrimmed_formatList {as : List Address} (h : ∀ a ∈ as, IsRead a) : IsTrimmed (formatList as).toList := by
  rw [formatList, String.toList_ofList]
  refine isTrimmed_joinWith ?_ ?_
  · intro cs hcs
    obtain ⟨a, ha, rfl⟩ := List.mem_map.1 hcs
    exact (h a ha).format_ne_nil
  · intro cs hcs
    obtain ⟨a, ha, rfl⟩ := List.mem_map.1 hcs
    exact (h a ha).isTrimmed_format

end Address

theorem isInfixMark_iff {cs : List Char} : decodeWords.isInfixMark cs = true ↔ ['=', '?'] <:+: cs := by
  fun_induction decodeWords.isInfixMark cs with
  | case1 cs => exact ⟨fun _ => ⟨[], cs, rfl⟩, fun _ => rfl⟩
  | case2 c cs hno ih =>
    rw [ih, List.infix_cons_iff]
    refine ⟨.inr, fun h => h.resolve_left fun hprefix => ?_⟩
    obtain ⟨rest, hrest⟩ := hprefix
    obtain ⟨rfl, rfl⟩ := List.cons.inj hrest
    exact hno rest rfl rfl
  | case3 => simp

/-- A text without white space at its ends in which no encoded word starts is decoded to itself. -/
theorem decodeWords_eq_self {value : String} (htrimmed : IsTrimmed value.toList)
    (hmark : ¬ ['=', '?'] <:+: value.toList) : decodeWords value = value := by
  have hself : trimmed value = value := by
    rw [trimmed, htrimmed.trim_eq, String.ofList_toList]
  have hnone : decodeWords.isInfixMark value.toList = false := by
    rw [Bool.eq_false_iff, Ne, isInfixMark_iff]
    exact hmark
  rw [decodeWords, hself, hnone]
  rfl

/-- A stored text that is neither folded nor decoded when it is read as a header. -/
structure IsStoredAsIs (stored : String) : Prop where
  unfolded : ∀ c ∈ stored.toList, c ≠ '\r' ∧ c ≠ '\n'
  decoded : ¬ ['=', '?'] <:+: stored.toList

theorem unfolded_eq_self {value : String} (hhead : ∀ c ∈ value.toList.head?, isBlank c = false)
    (h : ∀ c ∈ value.toList, c ≠ '\r' ∧ c ≠ '\n') : unfolded value = value.toList := by
  have hkept : value.toList.filter (fun c => c != '\r' && c != '\n') = value.toList := by
    rw [List.filter_eq_self]
    intro c hc
    obtain ⟨hreturn, hfeed⟩ := h c hc
    simp [hreturn, hfeed]
  rw [unfolded, hkept, trimStart_eq_self hhead]

/-- What is compared of a stored text: the text, and the parts of the mailboxes that are read from it. -/
theorem headerMatches_formatList {as : List Address} (hread : ∀ a ∈ as, a.IsRead)
    (hasis : IsStoredAsIs (Address.formatList as)) (pattern : String) (style : MatchStyle) :
    headerMatches (Address.formatList as) pattern style .addresses =
      (textMatches style (Address.formatList as).toList pattern.toList ||
        (Address.parseList (Address.formatList as)).any fun a =>
          a.parts.any fun part => textMatches style part pattern.toList) := by
  have htrimmed : IsTrimmed (Address.formatList as).toList := Address.isTrimmed_formatList hread
  have hunfolded : unfolded (Address.formatList as) = (Address.formatList as).toList :=
    unfolded_eq_self htrimmed.head hasis.unfolded
  have htexts : comparedTexts (Address.formatList as) .addresses =
      (Address.formatList as).toList :: (Address.parseList (Address.formatList as)).flatMap Address.parts := by
    rw [comparedTexts, hunfolded, String.ofList_toList, decodeWords_eq_self htrimmed hasis.decoded]
  rw [headerMatches_eq_any, htexts, List.any_cons, List.any_flatMap]
  rfl

/-! ### Stored and read again -/

namespace Address

/-- **The mailboxes of a text come back from their own text exactly if it says what they are**, which it does if no name
and no address has a quote, a comma or an angle bracket in it. Then a pattern is compared with the names and addresses
of the header itself, whatever the style, if the stored text has no line ends and no encoded words in it. -/
theorem parseList_formatList_parseList (text : String) :
    (parseList (formatList (parseList text)) = parseList text ↔ ReadsBack (parseList text)) ∧
    ((∀ a ∈ parseList text, a.IsPlain) → ReadsBack (parseList text)) ∧
    (∀ value, decodeWords value = text → ReadsBack (parseList text) → IsStoredAsIs (addressHeader value) →
      ∀ pattern style, headerMatches (addressHeader value) pattern style .addresses =
        (textMatches style (addressHeader value).toList pattern.toList ||
          (parseList text).any fun a => a.parts.any fun part => textMatches style part pattern.toList)) := by
  have hread : ∀ a ∈ parseList text, IsRead a := fun a ha => isRead_of_mem_parseList ha
  refine ⟨parseList_formatList_iff hread, readsBack_of_isPlain hread, ?_⟩
  intro value hvalue hback hasis pattern style
  have hstored : addressHeader value = formatList (parseList text) := by rw [addressHeader, hvalue]
  have hsame : parseList (formatList (parseList text)) = parseList text := (parseList_formatList_iff hread).2 hback
  rw [hstored] at hasis ⊢
  rw [headerMatches_formatList hread hasis, hsame]

/-- A name in quotes without a comma, and an address alone. -/
theorem parseList_formatList_parseList_two :
    let text := "\"Ana Ruiz\" <ana@example.org>, bo@example.org"
    (∀ a ∈ parseList text, a.IsPlain) ∧ decodeWords text = text ∧ IsStoredAsIs (addressHeader text) ∧
      parseList (formatList (parseList text)) = parseList text ∧
      headerMatches (addressHeader text) "ana ruiz" .exact .addresses = true := by
  intro text
  have hlist : parseList text = [⟨"Ana Ruiz", "ana@example.org"⟩, ⟨"", "bo@example.org"⟩] := by decide +kernel
  have hplain : ∀ a ∈ parseList text, a.IsPlain := by
    rw [hlist]
    decide +kernel
  have hdecoded : decodeWords text = text := by decide +kernel
  have hstored : addressHeader text = "Ana Ruiz <ana@example.org>, bo@example.org" := by
    rw [addressHeader, hdecoded, hlist]
    decide +kernel
  have hasis : IsStoredAsIs (addressHeader text) := by
    rw [hstored]
    exact ⟨by decide +kernel, by decide +kernel⟩
  obtain ⟨hiff, hback, hmatches⟩ := parseList_formatList_parseList text
  refine ⟨hplain, hdecoded, hasis, hiff.2 (hback hplain), ?_⟩
  rw [hmatches text hdecoded (hback hplain) hasis, hlist]
  decide +kernel

/-- The quotes around a name with a comma are lost, and the comma parts the name. -/
theorem not_forall_parseList_formatList :
    ¬ ∀ text : String, parseList (formatList (parseList text)) = parseList text := by
  intro hall
  have hlist : parseList "\"Ruiz, Ana\" <ana@example.org>" = [⟨"Ruiz, Ana", "ana@example.org"⟩] := by decide +kernel
  have hback := hall "\"Ruiz, Ana\" <ana@example.org>"
  rw [hlist] at hback
  have hparted : parseList (formatList [⟨"Ruiz, Ana", "ana@example.org"⟩]) =
      [⟨"", "Ruiz"⟩, ⟨"Ana", "ana@example.org"⟩] := by decide +kernel
  rw [hparted] at hback
  exact absurd hback (by decide)

end Address

end MailQuery.Mail
