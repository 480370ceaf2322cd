import Mathlib.Algebra.Order.BigOperators.Group.List
import Mathlib.Algebra.Order.Group.Nat
import MailQuery.Mail.Address
import MailQuery.Proofs.Text.Pieces

/-!
# Lists of addresses, written and read again

A list of mailboxes is written with commas between the mailboxes, and each of them with its name as it is, without
quotes. When it is read, quotes and angle brackets are scanned for the commas that stand outside of them
(`splitEntries_cons`), and each entry is read by itself (`ofEntry_cases`).

So two things have to be known of mailboxes that were read from some text (`IsRead`). A mailbox is read from its own
text but for quotes around the name (`ofEntry_format`), and the texts are the entries of the list exactly if each of
them is one entry and leaves nothing open (`splitEntries_joinWith_iff`). There is no third way in which the list could
come back: the characters of the text are as many as those of its mailboxes, and reading adds none
(`map_ofEntry_of_count`), so that no mailbox can be read from anything but its own text. Hence the two together decide
whether the list comes back (`parseList_formatList_iff`).
-/

namespace MailQuery.Mail.Address

open Text

/-! ### Single entries -/

theorem stripQuote_eq_some_iff {cs rest : List Char} : stripStart? ['"'] cs = some rest ↔ cs = '"' :: rest := by
  cases cs with
  | nil => simp [stripStart?]
  | cons c cs =>
    by_cases hc : c = '"'
    · subst hc
      simp [stripStart?]
    · have hquote : ¬ '"' = c := fun h => hc h.symm
      simp [stripStart?, hc, hquote]

/-- A name is a text without the white space at its ends, or what stands in quotes in there. -/
theorem unquote_cases (cs : List Char) : unquote cs = trim cs ∨
    ∃ inner, trim cs = '"' :: (inner ++ ['"']) ∧ unquote cs = trim inner := by
  rw [unquote]
  cases hstrip : stripStart? ['"'] (trim cs) with
  | none => exact .inl rfl
  | some rest =>
    dsimp only
    by_cases hlast : rest.getLast? = some '"'
    · rw [if_pos hlast]
      obtain ⟨inner, rfl⟩ := List.getLast?_eq_some_iff.1 hlast
      exact .inr ⟨inner, stripQuote_eq_some_iff.1 hstrip, by rw [List.dropLast_concat]⟩
    · rw [if_neg hlast]
      exact .inl rfl

theorem isTrimmed_unquote (cs : List Char) : IsTrimmed (unquote cs) := by
  rcases unquote_cases cs with h | ⟨inner, -, h⟩
  · rw [h]
    exact isTrimmed_trim cs
  · rw [h]
    exact isTrimmed_trim inner

theorem unquote_congr {cs ds : List Char} (h : trim cs = trim ds) : unquote cs = unquote ds := by
  rw [unquote, unquote, h]

theorem ofEntry_congr {cs ds : List Char} (h : trim cs = trim ds) : ofEntry cs = ofEntry ds := by
  rw [ofEntry, ofEntry, h]

/-- An entry is an address alone, or a name before an address in angle brackets. -/
theorem ofEntry_cases (entry : List Char) : ofEntry entry = ⟨"", String.ofList (trim entry)⟩ ∨
    ∃ before inside after, trim entry = before ++ '<' :: (inside ++ '>' :: after) ∧ '<' ∉ inside ∧
      ofEntry entry = ⟨String.ofList (unquote before), String.ofList (trim inside)⟩ := by
  rw [ofEntry]
  cases hopen : cutWhereLast? (· == '<') (trim entry) with
  | none => exact .inl rfl
  | some cut =>
    obtain ⟨before, behind⟩ := cut
    cases hclose : cutWhereLast? (· == '>') behind with
    | none =>
      left
      simp only [hclose]
    | some cut =>
      obtain ⟨inside, after⟩ := cut
      obtain ⟨c, hentry, hc, hnone⟩ := exists_of_cutWhereLast? hopen
      obtain ⟨d, hbehind, hd, -⟩ := exists_of_cutWhereLast? hclose
      obtain rfl : c = '<' := by simpa using hc
      obtain rfl : d = '>' := by simpa using hd
      refine .inr ⟨before, inside, after, by rw [hentry, hbehind], fun hmem => ?_, by simp only [hclose]⟩
      have hfound := hnone '<' (by rw [hbehind]; exact List.mem_append_left _ hmem)
      simp at hfound

/-- What holds of the mailboxes that are read. -/
structure IsRead (a : Address) : Prop where
  name : IsTrimmed a.name.toList
  email : IsTrimmed a.email.toList
  email_ne : a.email ≠ ""
  /-- An address that had a name before it stood inside angle brackets. -/
  bracket : a.name ≠ "" → '<' ∉ a.email.toList
  bare : a.name = "" → ofEntry a.email.toList = a

theorem isRead_ofEntry {entry : List Char} (h : (ofEntry entry).email ≠ "") : IsRead (ofEntry entry) := by
  rcases ofEntry_cases entry with hbare | ⟨before, inside, after, -, hinside, hbracket⟩
  · rw [hbare] at h ⊢
    refine ⟨⟨by simp, by simp⟩, ?_, h, fun hname => absurd rfl hname, fun _ => ?_⟩
    · rw [String.toList_ofList]
      exact isTrimmed_trim entry
    · show ofEntry (String.ofList (trim entry)).toList = _
      rw [String.toList_ofList, ← hbare]
      exact ofEntry_congr (trim_trim entry)
  · rw [hbracket] at h ⊢
    have hemail : '<' ∉ trim inside := fun hmem => hinside (mem_of_mem_trim hmem)
    refine ⟨?_, ?_, h, fun _ => ?_, fun hname => ?_⟩
    · rw [String.toList_ofList]
      exact isTrimmed_unquote before
    · rw [String.toList_ofList]
      exact isTrimmed_trim inside
    · rw [String.toList_ofList]
      exact hemail
    · have hopen : cutWhereLast? (· == '<') (trim (trim inside)) = none := by
        rw [trim_trim, cutWhereLast?_eq_none_iff]
        intro c hc
        rw [beq_eq_false_iff_ne]
        rintro rfl
        exact hemail hc
      have hname : String.ofList (unquote before) = "" := hname
      rw [String.toList_ofList, ofEntry, hopen, hname, trim_trim]

theorem isRead_of_mem_parseList {a : Address} {text : String} (h : a ∈ parseList text) : IsRead a := by
  rw [parseList, List.mem_filter] at h
  obtain ⟨entry, -, rfl⟩ := List.mem_map.1 h.1
  exact isRead_ofEntry (by simpa using h.2)

theorem toList_format {a : Address} (h : a.name ≠ "") :
    a.format.toList = a.name.toList ++ [' '] ++ '<' :: (a.email.toList ++ ['>']) := by
  rw [format, if_neg h]
  simp

theorem IsRead.format_ne_nil {a : Address} (h : IsRead a) : a.format.toList ≠ [] := by
  by_cases hname : a.name = ""
  · rw [format, if_pos hname]
    exact fun hnil => h.email_ne (String.toList_eq_nil_iff.1 hnil)
  · rw [toList_format hname]
    simp

theorem IsRead.isTrimmed_format {a : Address} (h : IsRead a) : IsTrimmed a.format.toList := by
  by_cases hname : a.name = ""
  · rw [format, if_pos hname]
    exact h.email
  · obtain ⟨c, cs, hlist⟩ := List.exists_cons_of_ne_nil fun hnil => hname (String.toList_eq_nil_iff.1 hnil)
    have hlast : a.format.toList = (a.name.toList ++ [' '] ++ '<' :: a.email.toList) ++ ['>'] := by
      rw [toList_format hname]
      simp
    constructor
    · intro d hd
      rw [toList_format hname, hlist] at hd
      refine h.name.head d ?_
      rw [hlist]
      exact hd
    · intro d hd
      rw [hlast, List.getLast?_concat] at hd
      cases hd
      decide

/-- **The text of a mailbox that was read names the same address**, and the same name but for quotes around it. -/
theorem ofEntry_format {a : Address} (h : IsRead a) :
    ofEntry a.format.toList = ⟨String.ofList (unquote a.name.toList), a.email⟩ := by
  by_cases hname : a.name = ""
  · rw [format, if_pos hname, h.bare hname, hname]
    obtain ⟨name, email⟩ := a
    obtain rfl : name = "" := hname
    rfl
  · have hne : a.name.toList ≠ [] := fun hnil => hname (String.toList_eq_nil_iff.1 hnil)
    have hopen : cutWhereLast? (· == '<') a.format.toList = some (a.name.toList ++ [' '], a.email.toList ++ ['>']) := by
      rw [toList_format hname]
      refine cutWhereLast?_append rfl fun d hd => ?_
      rw [beq_eq_false_iff_ne]
      rintro rfl
      have hbracket := h.bracket hname
      simp_all
    have hclose : cutWhereLast? (· == '>') (a.email.toList ++ ['>']) = some (a.email.toList, []) :=
      cutWhereLast?_append rfl fun d hd => by cases hd
    rw [ofEntry, h.isTrimmed_format.trim_eq, hopen]
    dsimp only
    rw [hclose]
    dsimp only
    rw [h.email.trim_eq, String.ofList_toList,
      unquote_congr ((trim_append_blank h.name hne (by decide)).trans h.name.trim_eq.symm)]

/-! ### Scanning a list -/

/-- Whether quotes are open, and how many angle brackets are, behind a character. -/
def step (quoted : Bool) (angles : Nat) (c : Char) : Bool × Nat :=
  if c = '"' then (!quoted, angles)
  else if quoted then (quoted, angles)
  else if c = '<' then (quoted, angles + 1)
  else if c = '>' then (quoted, angles - 1)
  else (quoted, angles)

/-- Whether quotes are open, and how many angle brackets are, behind a text. -/
def scanned (quoted : Bool) (angles : Nat) : List Char → Bool × Nat
  | [] => (quoted, angles)
  | c :: cs => scanned (step quoted angles c).1 (step quoted angles c).2 cs

theorem splitEntries_ne_nil (quoted : Bool) (angles : Nat) (cs : List Char) : splitEntries quoted angles cs ≠ [] := by
  cases cs with
  | nil => simp [splitEntries]
  | cons c cs =>
    rw [splitEntries]
    split
    · simp
    · dsimp only
      split <;> simp

/-- A comma outside quotes and angle brackets starts a new entry, and every other character goes to the entry in which
it stands. -/
theorem splitEntries_cons (quoted : Bool) (angles : Nat) (c : Char) (cs : List Char) :
    splitEntries quoted angles (c :: cs) =
      if c = ',' ∧ quoted = false ∧ angles = 0 then [] :: splitEntries quoted angles cs
      else (splitEntries (step quoted angles c).1 (step quoted angles c).2 cs).modifyHead (c :: ·) := by
  rw [splitEntries]
  simp only [Bool.not_eq_true']
  split
  · rfl
  · have hmore : (if c = '"' then splitEntries (!quoted) angles cs
        else if c = '<' ∧ quoted = false then splitEntries quoted (angles + 1) cs
        else if c = '>' ∧ quoted = false then splitEntries quoted (angles - 1) cs
        else splitEntries quoted angles cs) =
        splitEntries (step quoted angles c).1 (step quoted angles c).2 cs := by
      rw [step]
      cases quoted <;> split_ifs <;> simp_all
    obtain ⟨entry, entries, hsplit⟩ :=
      List.exists_cons_of_ne_nil (splitEntries_ne_nil (step quoted angles c).1 (step quoted angles c).2 cs)
    rw [hmore, hsplit]
    rfl

/-- The entries make up the text again, with commas between them. -/
theorem joinWith_splitEntries (quoted : Bool) (angles : Nat) (cs : List Char) :
    joinWith [','] (splitEntries quoted angles cs) = cs := by
  induction cs generalizing quoted angles with
  | nil => rfl
  | cons c cs ih =>
    rw [splitEntries_cons]
    split
    · next hcomma =>
      obtain ⟨rfl, -⟩ := hcomma
      rw [joinWith_cons _ _ (splitEntries_ne_nil _ _ _), ih]
      rfl
    · have hrest := ih (step quoted angles c).1 (step quoted angles c).2
      cases hsplit : splitEntries (step quoted angles c).1 (step quoted angles c).2 cs with
      | nil => exact absurd hsplit (splitEntries_ne_nil _ _ _)
      | cons entry entries =>
        rw [hsplit] at hrest
        rw [List.modifyHead_cons, ← hrest]
        cases entries with
        | nil => rfl
        | cons => rfl

/-- Behind a text that is one entry the list goes on as if it had started there, in the state that the text leaves. -/
theorem splitEntries_append {quoted : Bool} {angles : Nat} {xs : List Char} (h : splitEntries quoted angles xs = [xs])
    (ys : List Char) : splitEntries quoted angles (xs ++ ys) =
      (splitEntries (scanned quoted angles xs).1 (scanned quoted angles xs).2 ys).modifyHead (xs ++ ·) := by
  induction xs generalizing quoted angles with
  | nil =>
    obtain ⟨entry, entries, hsplit⟩ := List.exists_cons_of_ne_nil (splitEntries_ne_nil quoted angles ys)
    rw [scanned, hsplit]
    simpa using hsplit
  | cons c xs ih =>
    rw [splitEntries_cons] at h
    split at h
    · cases h
    · next hcomma =>
      obtain ⟨entry, entries, hsplit⟩ :=
        List.exists_cons_of_ne_nil (splitEntries_ne_nil (step quoted angles c).1 (step quoted angles c).2 xs)
      have hxs : splitEntries (step quoted angles c).1 (step quoted angles c).2 xs = [xs] := by
        rw [hsplit] at h ⊢
        simp_all
      rw [List.cons_append, splitEntries_cons, if_neg hcomma, ih hxs, scanned, List.modifyHead_modifyHead]
      rfl

/-- The first entry is one also when it stands alone, and the others are those of what follows the comma behind it. -/
theorem exists_of_splitEntries {quoted : Bool} {angles : Nat} {cs entry : List Char} {entries : List (List Char)}
    (h : splitEntries quoted angles cs = entry :: entries) :
    splitEntries quoted angles entry = [entry] ∧
      (entries = [] ∧ cs = entry ∨ ∃ rest, cs = entry ++ ',' :: rest ∧ scanned quoted angles entry = (false, 0) ∧
        splitEntries false 0 rest = entries) := by
  induction cs generalizing quoted angles entry with
  | nil =>
    cases h
    exact ⟨rfl, .inl ⟨rfl, rfl⟩⟩
  | cons c cs ih =>
    rw [splitEntries_cons] at h
    split at h
    · next hcomma =>
      obtain ⟨rfl, rfl, rfl⟩ := hcomma
      cases h
      exact ⟨rfl, .inr ⟨cs, rfl, rfl, rfl⟩⟩
    · next hcomma =>
      obtain ⟨first, others, hsplit⟩ :=
        List.exists_cons_of_ne_nil (splitEntries_ne_nil (step quoted angles c).1 (step quoted angles c).2 cs)
      rw [hsplit, List.modifyHead_cons] at h
      cases h
      obtain ⟨hfirst, hothers⟩ := ih hsplit
      refine ⟨by rw [splitEntries_cons, if_neg hcomma, hfirst, List.modifyHead_cons], ?_⟩
      rcases hothers with ⟨hnil, rfl⟩ | ⟨rest, rfl, hscanned, hrest⟩
      · exact .inl ⟨hnil, rfl⟩
      · exact .inr ⟨rest, rfl, hscanned, hrest⟩

/-- Texts that stay apart when they are written with commas between them: each of them is one entry, and no quotes or
angle brackets are open behind any but the last. -/
structure Apart (texts : List (List Char)) : Prop where
  entry : ∀ cs ∈ texts, splitEntries false 0 cs = [cs]
  closed : ∀ cs ∈ texts.dropLast, scanned false 0 cs = (false, 0)

/-- **The entries of joined texts are the texts exactly if these stay apart.** -/
theorem splitEntries_joinWith_iff {texts : List (List Char)} (hne : texts ≠ []) :
    splitEntries false 0 (joinWith [','] texts) = texts ↔ Apart texts := by
  induction texts with
  | nil => exact absurd rfl hne
  | cons cs texts ih =>
    cases texts with
    | nil =>
      rw [joinWith]
      exact ⟨fun h => ⟨by simpa using h, by simp⟩, fun h => h.entry cs (List.mem_singleton_self cs)⟩
    | cons ds texts =>
      have ih := ih (List.cons_ne_nil ds texts)
      rw [joinWith_cons _ _ (List.cons_ne_nil ds texts), List.append_assoc, List.singleton_append]
      constructor
      · intro h
        obtain ⟨hentry, ⟨hnil, -⟩ | ⟨rest, hrest, hscanned, hsplit⟩⟩ := exists_of_splitEntries h
        · cases hnil
        · obtain rfl := List.cons.inj (List.append_cancel_left hrest) |>.2
          obtain ⟨hentries, hclosed⟩ := ih.1 hsplit
          refine ⟨List.forall_mem_cons.2 ⟨hentry, hentries⟩, ?_⟩
          rw [List.dropLast_cons_of_ne_nil (List.cons_ne_nil ds texts)]
          exact List.forall_mem_cons.2 ⟨hscanned, hclosed⟩
      · rintro ⟨hentries, hclosed⟩
        obtain ⟨hentry, hentries⟩ := List.forall_mem_cons.1 hentries
        rw [List.dropLast_cons_of_ne_nil (List.cons_ne_nil ds texts)] at hclosed
        obtain ⟨hscanned, hclosed⟩ := List.forall_mem_cons.1 hclosed
        rw [splitEntries_append hentry, hscanned, splitEntries_cons, if_pos ⟨rfl, rfl, rfl⟩, ih.2 ⟨hentries, hclosed⟩]
        simp

/-! ### Spaces behind the commas -/

/-- Texts with a space before each of them but the first. -/
def spaced : List (List Char) → List (List Char)
  | [] => []
  | cs :: texts => cs :: texts.map (' ' :: ·)

theorem joinWith_space (cs : List Char) (texts : List (List Char)) :
    joinWith [','] ((' ' :: cs) :: texts) = ' ' :: joinWith [','] (cs :: texts) := by
  cases texts with
  | nil => rfl
  | cons => rfl

theorem joinWith_spaced (texts : List (List Char)) : joinWith [','] (spaced texts) = joinWith [',', ' '] texts := by
  induction texts with
  | nil => rfl
  | cons cs texts ih =>
    cases texts with
    | nil => rfl
    | cons ds texts =>
      rw [joinWith_cons _ _ (List.cons_ne_nil ds texts), ← ih, spaced, spaced, List.map_cons,
        joinWith_cons _ _ (List.cons_ne_nil _ _), joinWith_space]
      simp

theorem splitEntries_space_iff {cs : List Char} :
    splitEntries false 0 (' ' :: cs) = [' ' :: cs] ↔ splitEntries false 0 cs = [cs] := by
  obtain ⟨entry, entries, hsplit⟩ := List.exists_cons_of_ne_nil (splitEntries_ne_nil false 0 cs)
  rw [splitEntries_cons, if_neg (by decide)]
  show (splitEntries false 0 cs).modifyHead (' ' :: ·) = _ ↔ _
  rw [hsplit, List.modifyHead_cons]
  simp

/-- A space in front of a text does not matter. -/
theorem apart_spaced_iff {texts : List (List Char)} : Apart (spaced texts) ↔ Apart texts := by
  have hspace : ∀ cs, scanned false 0 (' ' :: cs) = scanned false 0 cs := fun _ => rfl
  cases texts with
  | nil => rfl
  | cons cs texts =>
    have hentry : (∀ ds ∈ spaced (cs :: texts), splitEntries false 0 ds = [ds]) ↔
        ∀ ds ∈ cs :: texts, splitEntries false 0 ds = [ds] := by
      rw [spaced, List.forall_mem_cons, List.forall_mem_cons, List.forall_mem_map]
      simp only [splitEntries_space_iff]
    have hclosed : (∀ ds ∈ (spaced (cs :: texts)).dropLast, scanned false 0 ds = (false, 0)) ↔
        ∀ ds ∈ (cs :: texts).dropLast, scanned false 0 ds = (false, 0) := by
      cases texts with
      | nil => rfl
      | cons ds texts =>
        rw [spaced, List.dropLast_cons_of_ne_nil (List.cons_ne_nil ds texts),
          List.dropLast_cons_of_ne_nil (by simp), ← List.map_dropLast, List.forall_mem_cons, List.forall_mem_cons,
          List.forall_mem_map]
        simp only [hspace]
    exact ⟨fun h => ⟨hentry.1 h.entry, hclosed.1 h.closed⟩, fun h => ⟨hentry.2 h.entry, hclosed.2 h.closed⟩⟩

/-! ### Nothing is added by reading -/

/-- Whether a character is none of white space. -/
def solid (c : Char) : Bool := !isBlank c

theorem countP_solid_trim (cs : List Char) : (trim cs).countP solid = cs.countP solid :=
  countP_trim (fun c hc => by rw [solid, hc]; rfl) cs

theorem countP_solid_unquote_le (cs : List Char) : (unquote cs).countP solid ≤ cs.countP solid := by
  rcases unquote_cases cs with h | ⟨inner, hinner, h⟩
  · rw [h, countP_solid_trim]
  · rw [h, ← countP_solid_trim cs, hinner, countP_solid_trim, List.countP_cons, List.countP_append]
    omega

/-- The text of what is read from an entry has no characters but white space that the entry has not. -/
theorem countP_format_ofEntry_le (entry : List Char) :
    (ofEntry entry).format.toList.countP solid ≤ entry.countP solid := by
  rw [← countP_solid_trim entry]
  rcases ofEntry_cases entry with h | ⟨before, inside, after, hentry, -, h⟩
  · rw [h, format, if_pos rfl, String.toList_ofList]
  · have hname := countP_solid_unquote_le before
    have hemail := countP_solid_trim inside
    have hopen : solid '<' = true := by decide
    have hclose : solid '>' = true := by decide
    have hbefore : (" <".toList).countP solid = 1 := by decide
    have hbehind : (">".toList).countP solid = 1 := by decide
    rw [h, hentry, format, List.countP_append, List.countP_cons_of_pos hopen, List.countP_append,
      List.countP_cons_of_pos hclose]
    dsimp only
    split
    · rw [String.toList_ofList]
      omega
    · simp only [String.toList_append, String.toList_ofList, List.countP_append, hbefore, hbehind]
      omega

theorem map_eq_of_sum_eq {α : Type} {f g : α → Nat} (xs : List α) (hle : ∀ x ∈ xs, f x ≤ g x) :
    (xs.map f).sum ≤ (xs.map g).sum ∧ ((xs.map f).sum = (xs.map g).sum → xs.map f = xs.map g) := by
  induction xs with
  | nil => simp
  | cons x xs ih =>
    obtain ⟨hx, hxs⟩ := List.forall_mem_cons.1 hle
    obtain ⟨hsum, heq⟩ := ih hxs
    simp only [List.map_cons, List.sum_cons]
    refine ⟨by omega, fun h => ?_⟩
    rw [heq (by omega), show f x = g x by omega]

/-- The texts of mailboxes. -/
def texts (as : List Address) : List (List Char) := as.map (·.format.toList)

/-- If the entries of a text have no more than the texts of the mailboxes read from them, then no entry is left out, and
each has as much as its mailbox. -/
theorem map_ofEntry_of_count {entries : List (List Char)} {as : List Address}
    (hread : (entries.map ofEntry).filter (·.email != "") = as) (hne : as ≠ [])
    (hcount : (entries.map (List.countP solid)).sum + (entries.length - 1) =
      ((texts as).map (List.countP solid)).sum + (as.length - 1)) :
    entries.map ofEntry = as ∧ entries.map (List.countP solid) = (texts as).map (List.countP solid) := by
  rw [List.filter_map] at hread
  generalize hkept : entries.filter ((·.email != "") ∘ ofEntry) = kept at hread
  have hsub : kept.Sublist entries := hkept ▸ List.filter_sublist
  have htexts : (texts as).map (List.countP solid) =
      kept.map fun entry => (ofEntry entry).format.toList.countP solid := by
    rw [← hread, texts, List.map_map, List.map_map]
    rfl
  obtain ⟨hfewer, hsame⟩ := map_eq_of_sum_eq kept (g := List.countP solid)
    (f := fun entry => (ofEntry entry).format.toList.countP solid) fun entry _ => countP_format_ofEntry_le entry
  have hsum : (kept.map (List.countP solid)).sum ≤ (entries.map (List.countP solid)).sum :=
    (hsub.map _).sum_le_sum (by simp)
  have hlength : kept.length = as.length := by rw [← hread, List.length_map]
  have hpos : as.length ≠ 0 := fun hzero => hne (List.length_eq_zero_iff.1 hzero)
  have hle := hsub.length_le
  rw [htexts] at hcount ⊢
  obtain rfl : kept = entries := hsub.eq_of_length (by omega)
  exact ⟨hread, (hsame (by omega)).symm⟩

/-! ### Written and read again -/

/-- Mailboxes whose text says what they are: no name stands in quotes any more, and the texts stay apart. -/
structure ReadsBack (as : List Address) : Prop where
  name : ∀ a ∈ as, unquote a.name.toList = a.name.toList
  apart : Apart (texts as)

theorem toList_formatList (as : List Address) : (formatList as).toList = joinWith [','] (spaced (texts as)) := by
  rw [formatList, String.toList_ofList, joinWith_spaced, texts]

theorem map_ofEntry_spaced (css : List (List Char)) : (spaced css).map ofEntry = css.map ofEntry := by
  cases css with
  | nil => rfl
  | cons cs css =>
    have hspace : ∀ ds : List Char, ofEntry (' ' :: ds) = ofEntry ds := fun ds =>
      ofEntry_congr (trim_cons_of_blank (by decide) ds)
    simp [spaced, Function.comp_def, hspace]

theorem map_countP_spaced (css : List (List Char)) :
    (spaced css).map (List.countP solid) = css.map (List.countP solid) := by
  cases css with
  | nil => rfl
  | cons cs css =>
    have hspace : solid ' ' = false := by decide
    simp [spaced, Function.comp_def, hspace]

/-- Every mailbox that was read is read from its own text exactly if no name stands in quotes. -/
theorem map_ofEntry_texts_iff {as : List Address} (h : ∀ a ∈ as, IsRead a) :
    (texts as).map ofEntry = as ↔ ∀ a ∈ as, unquote a.name.toList = a.name.toList := by
  have hself : ∀ a ∈ as, (ofEntry a.format.toList = a ↔ unquote a.name.toList = a.name.toList) := by
    intro a ha
    have hformat := ofEntry_format (h a ha)
    obtain ⟨name, email⟩ := a
    rw [hformat, Address.mk.injEq, and_iff_left rfl, ← String.toList_inj, String.toList_ofList]
  rw [texts, List.map_map, Function.comp_def]
  constructor
  · intro hmap a ha
    refine (hself a ha).1 ?_
    exact List.map_eq_map_iff.1 (hmap.trans (List.map_id as).symm) a ha
  · intro hnames
    refine (List.map_eq_map_iff.2 fun a ha => ?_).trans (List.map_id as)
    exact (hself a ha).2 (hnames a ha)

/-- **What was read is read again from its text exactly if the text says what it is.** -/
theorem parseList_formatList_iff {as : List Address} (h : ∀ a ∈ as, IsRead a) :
    parseList (formatList as) = as ↔ ReadsBack as := by
  cases as with
  | nil => exact ⟨fun _ => ⟨by simp, ⟨by simp [texts], by simp [texts]⟩⟩, fun _ => by decide⟩
  | cons a rest =>
  generalize has : a :: rest = as at h ⊢
  have hne : as ≠ [] := by
    rw [← has]
    exact List.cons_ne_nil a rest
  have hspaced : spaced (texts as) ≠ [] := by simp [← has, texts, spaced]
  rw [parseList, toList_formatList]
  constructor
  · intro hread
    -- The text is counted once by its mailboxes and once by its entries.
    have hjoined := joinWith_splitEntries false 0 (joinWith [','] (spaced (texts as)))
    have hcount := congrArg (List.countP solid) hjoined
    rw [countP_joinWith, countP_joinWith, map_countP_spaced] at hcount
    have hlength : (spaced (texts as)).length = as.length := by simp [← has, texts, spaced]
    have hcomma : [','].countP solid = 1 := by decide
    rw [hlength, hcomma, Nat.mul_one, Nat.mul_one] at hcount
    obtain ⟨hentries, hsolid⟩ := map_ofEntry_of_count hread hne hcount
    have hsplit : splitEntries false 0 (joinWith [','] (spaced (texts as))) = spaced (texts as) :=
      eq_of_joinWith_eq (p := solid) (by decide) hjoined (by rw [hsolid, map_countP_spaced])
    rw [hsplit, map_ofEntry_spaced] at hentries
    exact ⟨(map_ofEntry_texts_iff h).1 hentries, apart_spaced_iff.1 ((splitEntries_joinWith_iff hspaced).1 hsplit)⟩
  · rintro ⟨hnames, hapart⟩
    rw [(splitEntries_joinWith_iff hspaced).2 (apart_spaced_iff.2 hapart), map_ofEntry_spaced,
      (map_ofEntry_texts_iff h).2 hnames, List.filter_eq_self]
    intro b hb
    rw [bne_iff_ne]
    exact (h b hb).email_ne

end MailQuery.Mail.Address
