import Mathlib.Data.List.Forall2
import MailQuery.Proofs.Routes.Rows
import MailQuery.Proofs.Sql.Texts
import MailQuery.Search.MessageTest

/-!
# What lowered terms decide

A condition decides a test of messages if it is true of the row of each message that passes the test, and false of
all others. It is never unknown then, so that it can be negated. `Operand.Decides` is kept by the operators of the
compilers: `join_decides` and `negate_decides`. At the leaves it holds of the conditions for flags
(`flagSet_decides`), for subjects (`header_decides`), and of comparisons (`compare_decides`).

All this is about messages whose subjects are printable ASCII texts, since the database folds no other letters, and
which are not trimmed on reading.
-/

namespace MailQuery

open Mail Sql Text Search

/-- A message that is read alike by the evaluator and from its row. The size is the number of bytes that a message had
when it was read as a whole, and no text in memory has more than `2^63 - 1` of them. -/
structure Mail.Summary.Searchable (m : Summary) : Prop where
  printable : IsPrintable m.subject.toList
  start : m.subject.toList.head? ≠ some ' '
  size : m.size.toNat < 9223372036854775808

instance (m : Summary) : Decidable m.Searchable :=
  decidable_of_iff (IsPrintable m.subject.toList ∧ m.subject.toList.head? ≠ some ' ' ∧ m.size.toNat < 9223372036854775808)
    ⟨fun h => ⟨h.1, h.2.1, h.2.2⟩, fun h => ⟨h.printable, h.start, h.size⟩⟩

namespace Sql

/-- A plain condition that is true of the rows of the messages which pass a test, and false of all others. -/
structure Expr.Decides (e : Expr) (test : Summary → Bool) : Prop extends e.Plain where
  truth : ∀ {m : Summary}, m.Searchable → (e.eval m.row).truth? = some (test m)

/-- A lowered term stands for a test if it is a condition that decides it, or the constant that it always gives. -/
def Operand.Decides : Operand → (Summary → Bool) → Prop
  | .condition e, test => e.Decides test
  | .bool b, test => ∀ {m : Summary}, m.Searchable → test m = b
  | _, _ => False

/-! ### Logical operators -/

/-- The conjunction or disjunction of truth values. -/
def joinTruths (isAnd : Bool) : List Bool → Bool
  | [] => isAnd
  | b :: bs => if b = isAnd then joinTruths isAnd bs else b

theorem joinTruths_singleton (isAnd b : Bool) : joinTruths isAnd [b] = b := by
  cases isAnd <;> cases b <;> rfl

/-- The first two of some truth values can be joined by themselves. -/
theorem joinTruths_cons_cons (isAnd a b : Bool) (bs : List Bool) :
    joinTruths isAnd (joinTruths isAnd [a, b] :: bs) = joinTruths isAnd (a :: b :: bs) := by
  cases isAnd <;> cases a <;> cases b <;> rfl

namespace Expr.Decides

variable {e : Expr} {test : Summary → Bool}

theorem ofTruth (b : Bool) : (Expr.truth b).Decides fun _ => b where
  toPlain := .truth b
  truth _ := Cell.truth?_ofBool b

theorem enclosed (h : e.Decides test) (wide : Bool) : (Expr.enclosed wide e).Decides test where
  toPlain := h.toPlain.enclosed wide
  truth hm := h.truth hm

theorem negated (h : e.Decides test) : (Expr.negated false e).Decides fun m => !test m where
  toPlain := h.toPlain.negated
  truth hm := by
    show (Cell.ofTruth? ((e.eval _).truth?.map (!·))).truth? = _
    rw [h.truth hm, Cell.truth?_ofTruth?]
    rfl

/-- The two operators decide two tests together. Neither side is unknown, so that the result is not. -/
theorem binary (isAnd : Bool) {e' : Expr} {test' : Summary → Bool} (h : e.Decides test) (h' : e'.Decides test') :
    (Expr.binary (if isAnd then .and else .or) e e').Decides fun m => joinTruths isAnd [test m, test' m] := by
  refine ⟨.binary _ h.toPlain h'.toPlain, fun {m} hm => ?_⟩
  cases isAnd with
  | true =>
    show (Cell.ofTruth? (Cell.and? (e.eval m.row).truth? (e'.eval m.row).truth?)).truth? = _
    rw [h.truth hm, h'.truth hm, Cell.truth?_ofTruth?, Cell.and?_some]
    cases test m <;> cases test' m <;> rfl
  | false =>
    show (Cell.ofTruth? (Cell.or? (e.eval m.row).truth? (e'.eval m.row).truth?)).truth? = _
    rw [h.truth hm, h'.truth hm, Cell.truth?_ofTruth?, Cell.or?_some]
    cases test m <;> cases test' m <;> rfl

/-- Conditions that are put together from left to right decide what their tests come to. -/
theorem foldl (isAnd : Bool) {es : List Expr} {tests : List (Summary → Bool)}
    (hes : List.Forall₂ Expr.Decides es tests) (h : e.Decides test) :
    (es.foldl (.binary (if isAnd then .and else .or)) e).Decides
      fun m => joinTruths isAnd (test m :: tests.map (· m)) := by
  -- What has been put together so far is the first condition of what is left.
  induction hes generalizing e test with
  | nil =>
    refine ⟨h.toPlain, fun {m} hm => ?_⟩
    rw [List.foldl_nil, h.truth hm, List.map_nil, joinTruths_singleton]
  | @cons e' test' es tests h' _ ih =>
    have hboth := h.binary isAnd h'
    refine ⟨(ih hboth).toPlain, fun {m} hm => ?_⟩
    rw [List.foldl_cons, (ih hboth).truth hm, List.map_cons, joinTruths_cons_cons]

end Expr.Decides

namespace Operand

variable {o : Operand} {test : Summary → Bool}

theorem Decides.finish (h : o.Decides test) : ∃ e, o.finish = .ok e ∧ e.Decides test := by
  cases o with
  | condition e => exact ⟨e, rfl, h⟩
  | bool b => exact ⟨.truth b, rfl, .truth b, fun hm => by rw [h hm]; exact Cell.truth?_ofBool b⟩
  | scalar _ | string _ | int _ => exact h.elim

/-- An operand that stands for a test adds a condition that decides it. -/
theorem Decides.part? (h : o.Decides test) (isAnd : Bool) :
    ∃ e, o.part? isAnd = .ok (some e) ∧ e.Decides test := by
  cases o with
  | condition e =>
    refine ⟨e, ?_, h⟩
    rw [Operand.part?, if_neg h.sql_ne_empty]
  | bool b => exact ⟨.truth b, rfl, .truth b, fun hm => by rw [h hm]; exact Cell.truth?_ofBool b⟩
  | scalar _ | string _ | int _ => exact h.elim

theorem exists_parts (isAnd : Bool) {os : List Operand} {tests : List (Summary → Bool)}
    (h : List.Forall₂ Operand.Decides os tests) :
    ∃ es, parts isAnd os = .ok es ∧ List.Forall₂ Expr.Decides es tests := by
  induction h with
  | nil => exact ⟨[], rfl, .nil⟩
  | cons ho _ ih =>
    obtain ⟨e, hpart, he⟩ := ho.part? isAnd
    obtain ⟨es, hparts, hes⟩ := ih
    refine ⟨e :: es, ?_, .cons he hes⟩
    rw [parts, hpart, hparts]
    rfl

/-- Operands that stand for tests are joined to a condition that decides what the tests come to. -/
theorem join_decides (isAnd : Bool) {os : List Operand} {tests : List (Summary → Bool)}
    (h : List.Forall₂ Operand.Decides os tests) (hne : os ≠ []) :
    ∃ e, join isAnd os = .ok (.condition e) ∧ e.Decides fun m => joinTruths isAnd (tests.map (· m)) := by
  obtain ⟨es, hparts, hes⟩ := exists_parts isAnd h
  rw [join, hparts]
  cases hes with
  | nil =>
    cases h with
    | nil => exact absurd rfl hne
  | cons he hes => exact ⟨_, rfl, (he.foldl isAnd hes).enclosed true⟩

/-- The negation of an operand that stands for a test decides the opposite. No condition for completed tasks is
met here, which has a negation of its own. -/
theorem negate_decides (h : o.Decides test) :
    ∃ e, negate (some o) = .ok (.condition e) ∧ e.Decides fun m => !test m := by
  cases o with
  | condition e =>
    refine ⟨_, ?_, (h.enclosed false).negated.enclosed false⟩
    rw [negate, if_neg h.sql_ne_empty, if_neg h.sql_ne_completedOn]
  | bool b =>
    refine ⟨.truth !b, rfl, .truth !b, fun hm => ?_⟩
    rw [h hm]
    exact Cell.truth?_ofBool !b
  | scalar _ | string _ | int _ => exact h.elim

/-! ### Constants and flags -/

theorem never_decides : never.Decides fun _ => false :=
  ⟨(Expr.Plain.int 0).enclosed false, fun _ => rfl⟩

theorem always_decides : always.Decides fun _ => true :=
  ⟨(Expr.Plain.int 1).enclosed false, fun _ => rfl⟩

/-- The condition for a flag is true of the rows in which it is set, in whatever column it is looked up. -/
theorem exists_flagSet (name : String) :
    ∃ e, flagSet name = .condition e ∧ e.Plain ∧ ∀ m : Summary, (e.eval m.row).truth? = some (m.flags.isSet name) := by
  rw [flagSet]
  -- A flag has a column of its own, or a bit in the number of all flags, or it is not known at all.
  split
  · next c hcolumn =>
    have hflag : c.isFlag = true := (Option.filter_eq_some_iff.1 hcolumn).2
    have hplain : (Expr.column c).Plain := .column (by rintro rfl; cases hflag) (by rintro rfl; cases hflag)
    refine ⟨_, rfl, (hplain.binary .equal (.int 1)).enclosed false, fun m => ?_⟩
    show (Cell.compareWith (· == .eq) _ (m.row c) (.int 1)).truth? = _
    rw [m.row_of_isFlag hflag, Flags.isSet, Column.bitForName_of_alias hcolumn, Cell.ofBool, Cell.compareWith_int,
      Cell.truth?_ofBool]
    cases m.flags.contains c.flag <;> rfl
  · show ∃ e, (if Flags.bitForName name = 0 then never else _) = _ ∧ _
    by_cases hbit : Flags.bitForName name = 0
    · rw [if_pos hbit]
      refine ⟨_, rfl, (Expr.Plain.int 0).enclosed false, fun m => ?_⟩
      rw [Flags.isSet, hbit]
      rfl
    · rw [if_neg hbit]
      have hplain : (Expr.column .flags).Plain := .column (by decide) (by decide)
      refine ⟨_, rfl, (((hplain.binary .bitAnd (.int _)).enclosed false).binary .notEqual (.int 0)).enclosed false,
        fun m => ?_⟩
      show (Operator.notEqual.apply .none
        (Cell.bitAnd (m.row .flags) (.int (Int64.ofNat (Flags.bitForName name).toNat))) (.int 0)).truth? = _
      rw [m.eval_bit hbit, Cell.truth?_ofBool]
      rfl

/-- The condition for a flag decides whether it is set. -/
theorem flagSet_decides (name : String) : (flagSet name).Decides fun m => m.flags.isSet name := by
  obtain ⟨e, he, hplain, htruth⟩ := exists_flagSet name
  rw [he]
  exact ⟨hplain, fun {m} _ => htruth m⟩

/-! ### Subjects -/

/-- A printable pattern in which every character stands for itself in the database. -/
structure IsPattern (pattern : String) : Prop where
  printable : IsPrintable pattern.toList
  any_not_mem : '%' ∉ pattern.toList
  one_not_mem : '_' ∉ pattern.toList

theorem IsPattern.isLiteral {pattern : String} (h : IsPattern pattern) : Cell.IsLiteral pattern.toList := fun _ hc =>
  ⟨fun heq => h.any_not_mem (heq ▸ hc), fun heq => h.one_not_mem (heq ▸ hc),
    fun heq => h.printable.nul_not_mem (heq ▸ hc)⟩

/-- The two styles in which the database and the evaluator compare the ends of texts. -/
def IsEndStyle (style : MatchStyle) : Prop := style = .startsWith ∨ style = .endsWith

theorem IsEndStyle.ne_soundex {style : MatchStyle} (h : IsEndStyle style) : style ≠ .soundex := by
  rcases h with rfl | rfl <;> decide

theorem IsEndStyle.ne_contains {style : MatchStyle} (h : IsEndStyle style) : style ≠ .contains := by
  rcases h with rfl | rfl <;> decide

/-- A subject is compared as it stands: nothing is trimmed or removed from it. -/
theorem headerMatches_subject {m : Summary} (hprintable : IsPrintable m.subject.toList)
    (hstart : m.subject.toList.head? ≠ some ' ') (style : MatchStyle) (pattern : String) :
    headerMatches m.subject pattern style .plain = textMatches style m.subject.toList pattern.toList := by
  have hkept : m.subject.toList.filter (fun c => c != '\r' && c != '\n') = m.subject.toList := by
    refine List.filter_eq_self.2 fun c hc => ?_
    have hlow := (hprintable c hc).1
    have hreturn : c ≠ '\r' := by rintro rfl; exact absurd hlow (by decide)
    have hfeed : c ≠ '\n' := by rintro rfl; exact absurd hlow (by decide)
    rw [bne_iff_ne.2 hreturn, bne_iff_ne.2 hfeed]
    rfl
  have htrim : trimStart m.subject.toList = m.subject.toList := by
    cases hsubject : m.subject.toList with
    | nil => rfl
    | cons c cs =>
      have hc := hprintable c (hsubject ▸ List.mem_cons_self ..)
      have hspace : c ≠ ' ' := by
        rintro rfl
        exact hstart (by rw [hsubject]; rfl)
      exact trimStart_cons_of_not_blank cs (isBlank_of_printable hc.1 hc.2 hspace)
  show textMatches style (trimStart (m.subject.toList.filter fun c => c != '\r' && c != '\n')) _ = _
  rw [hkept, htrim]

theorem nul_not_mem_headerPattern (style : MatchStyle) {pattern : String} (h : '\x00' ∉ pattern.toList) :
    '\x00' ∉ (headerPattern style pattern).toList := by
  cases style <;> simpa [headerPattern, String.toList_append] using h

/-- A text that matches is not shorter than the pattern, unless sounds are compared. -/
theorem byteLength_le_of_textMatches {style : MatchStyle} (hstyle : style ≠ .soundex) {value pattern : List Char}
    (h : textMatches style value pattern = true) : byteLength pattern ≤ byteLength value := by
  refine Nat.not_lt.1 fun hlt => Bool.false_ne_true ?_
  rw [← h]
  cases style <;> first | exact (if_pos hlt).symm | exact absurd rfl hstyle

/-- The empty subject matches no pattern but the empty one. -/
theorem ne_empty_of_textMatches {style : MatchStyle} (hstyle : style ≠ .soundex) {subject pattern : String}
    (hne : pattern ≠ "") (h : textMatches style subject.toList pattern.toList = true) : subject ≠ "" := by
  rintro rfl
  have hlength : byteLength pattern.toList ≤ 0 := byteLength_le_of_textMatches hstyle h
  cases hpattern : pattern.toList with
  | nil => exact hne (String.toList_eq_nil_iff.1 hpattern)
  | cons c cs =>
    have hpos := c.utf8Size_pos
    rw [hpattern, byteLength_cons] at hlength
    omega

/-- A pattern of the database for the start or end of a text matches as the evaluator does. -/
theorem isLike_headerPattern {style : MatchStyle} (hstyle : IsEndStyle style) {pattern : String}
    (hpattern : IsPattern pattern) {value : List Char} (hvalue : IsPrintable value) :
    Cell.isLike (headerPattern style pattern).toList value = textMatches style value pattern.toList := by
  -- A pattern that is longer than the text is turned down first, which the comparison would do as well.
  have hlength : ∀ {test : Bool}, (test = true → pattern.toList.length ≤ value.length) →
      (if byteLength value < byteLength pattern.toList then false else test) = test := by
    intro test htest
    rw [byteLength_of_ascii hvalue.isAscii, byteLength_of_ascii hpattern.printable.isAscii]
    by_cases hlt : value.length < pattern.toList.length
    · rw [if_pos hlt]
      cases test with
      | true => exact absurd (htest rfl) (Nat.not_le_of_lt hlt)
      | false => rfl
    · rw [if_neg hlt]
  rcases hstyle with rfl | rfl
  · show Cell.isLike (pattern ++ "%").toList value =
      if byteLength value < byteLength pattern.toList then false else (lower pattern.toList).isPrefixOf (lower value)
    rw [lower_of_ascii hvalue.isAscii, lower_of_ascii hpattern.printable.isAscii, String.toList_append, hlength]
    · exact Cell.isLike_append_any hpattern.isLiteral value
    · intro htest
      simpa using (List.isPrefixOf_iff_prefix.1 htest).length_le
  · show Cell.isLike ("%" ++ pattern).toList value =
      if byteLength value < byteLength pattern.toList then false else (lower pattern.toList).isSuffixOf (lower value)
    rw [lower_of_ascii hvalue.isAscii, lower_of_ascii hpattern.printable.isAscii, String.toList_append, hlength]
    · exact Cell.isLike_any_literal hpattern.isLiteral value
    · intro htest
      simpa using (List.isSuffixOf_iff_suffix.1 htest).length_le

theorem plain_presentAndLike {pattern : String} (h : '\x00' ∉ pattern.toList) :
    (presentAndLike .subject pattern).Plain := by
  have hsubject : (Expr.column .subject).Plain := .column (by decide) (by decide)
  exact (hsubject.notNull.binary .and (hsubject.binary .like (.string h))).enclosed false

/-- The condition that a subject is like a pattern is never unknown. An empty subject is stored as NULL, so that it is not
true of one. -/
theorem truth?_presentAndLike {pattern : String} (hpattern : '\x00' ∉ pattern.toList) {m : Summary}
    (hsubject : '\x00' ∉ m.subject.toList) :
    ((presentAndLike .subject pattern).eval m.row).truth? =
      some (m.subject != "" && Cell.isLike pattern.toList m.subject.toList) := by
  show (Cell.ofTruth? (Cell.and? (Cell.ofBool !(m.row .subject).isNull).truth?
    (Cell.ofTruth? (Cell.like? (m.row .subject) (.text pattern))).truth?)).truth? = _
  rw [Cell.truth?_ofTruth?, Cell.truth?_ofTruth?, Cell.truth?_ofBool]
  show Cell.and? (some !(textOrNull m.subject).isNull) (Cell.like? (textOrNull m.subject) (.text pattern)) = _
  by_cases hempty : m.subject = ""
  · rw [textOrNull, if_pos hempty, bne_eq_false_iff_eq.2 hempty, Bool.false_and]
    exact Cell.and?_false _
  · rw [textOrNull, if_neg hempty, Cell.like?_text hsubject hpattern, bne_iff_ne.2 hempty]
    exact Cell.and?_some true _

/-- The condition for one pattern decides whether the subject matches it. An empty subject is too short for the pattern. -/
theorem presentAndLike_decides {style : MatchStyle} (hstyle : IsEndStyle style) {pattern : String}
    (hpattern : IsPattern pattern) (hne : pattern ≠ "") :
    (presentAndLike .subject (headerPattern style pattern)).Decides
      fun m => headerMatches m.subject pattern style .plain := by
  have huncut := nul_not_mem_headerPattern style hpattern.printable.nul_not_mem
  refine ⟨plain_presentAndLike huncut, fun {m} hm => ?_⟩
  rw [headerMatches_subject hm.printable hm.start, truth?_presentAndLike huncut hm.printable.nul_not_mem,
    isLike_headerPattern hstyle hpattern hm.printable]
  cases hmatches : textMatches style m.subject.toList pattern.toList with
  | false => rw [Bool.and_false]
  | true => rw [bne_iff_ne.2 (ne_empty_of_textMatches hstyle.ne_soundex hne hmatches), Bool.and_true]

/-- The test of the evaluator for the start or end of a subject. -/
def subjectTest (style : MatchStyle) (patterns : List String) (m : Summary) : Bool :=
  if patterns.isEmpty then false
  else if patterns.contains "" then true
  else patterns.any fun pattern => headerMatches m.subject pattern style .plain

/-- The test of a subject reads nothing but the summary, and takes each pattern as a whole unless it looks for words. -/
theorem headerTest_subject {style : MatchStyle} (hstyle : style ≠ .contains) (patterns : List String) (m : Summary) :
    headerTest style "subject" patterns m = pure (subjectTest style patterns m) := by
  rw [headerTest, subjectTest]
  split
  · rfl
  · split
    · rfl
    · cases style <;> first | rfl | exact absurd rfl hstyle

theorem joinTruths_eq_any (bs : List Bool) : joinTruths false bs = bs.any id := by
  induction bs with
  | nil => rfl
  | cons b bs ih => cases b <;> simp [joinTruths, ih]

theorem filterMap_text? (patterns : List String) : (patterns.map Operand.string).filterMap text? = patterns := by
  rw [List.filterMap_map]
  exact List.filterMap_some

/-- The condition for several patterns decides whether the subject matches one of them. -/
theorem header_decides {style : MatchStyle} (hstyle : IsEndStyle style) {patterns : List String}
    (hpatterns : ∀ pattern ∈ patterns, IsPattern pattern) :
    ∃ o, header style (.string "subject" :: patterns.map .string) = .ok o ∧
      o.Decides (subjectTest style patterns) := by
  have halias : Column.ofAlias? "subject" = some .subject := by decide +kernel
  rw [header, halias]
  simp only [filterMap_text?]
  by_cases hcontains : patterns.contains "" = true
  · refine ⟨always, by rw [if_pos hcontains], always_decides.toPlain, fun {m} hm => ?_⟩
    have htest : subjectTest style patterns m = true := by
      cases patterns with
      | nil => cases hcontains
      | cons p ps => rw [subjectTest, List.isEmpty_cons, if_neg (by decide), if_pos hcontains]
    rw [htest]
    exact always_decides.truth hm
  · rw [if_neg hcontains]
    have hne : ∀ pattern ∈ patterns, pattern ≠ "" := by
      rintro pattern hpattern rfl
      exact hcontains (List.contains_iff_mem.2 hpattern)
    -- Without an empty pattern the test is a disjunction of one test for each pattern.
    let matching : String → Summary → Bool := fun pattern m => headerMatches m.subject pattern style .plain
    have htest : ∀ m, subjectTest style patterns m = joinTruths false ((patterns.map matching).map (· m)) := by
      intro m
      rw [subjectTest, if_neg hcontains, joinTruths_eq_any, List.map_map, List.any_map]
      cases patterns with
      | nil => rfl
      | cons p ps => rfl
    have hdecides : List.Forall₂ Expr.Decides
        (patterns.map fun v => presentAndLike .subject (headerPattern style v)) (patterns.map matching) := by
      rw [List.forall₂_map_left_iff, List.forall₂_map_right_iff, List.forall₂_same]
      exact fun pattern hmem => presentAndLike_decides hstyle (hpatterns pattern hmem) (hne pattern hmem)
    rw [show subjectTest style patterns = _ from funext htest]
    generalize patterns.map matching = tests at hdecides ⊢
    generalize (patterns.map fun v => presentAndLike .subject (headerPattern style v)) = es at hdecides
    cases hdecides with
    | nil => exact ⟨never, rfl, never_decides⟩
    | @cons e test es tests he hes =>
      cases es with
      | nil =>
        cases hes with
        | nil => exact ⟨.condition e, rfl, he.foldl false .nil⟩
      | cons e' es => exact ⟨_, rfl, (he.foldl false hes).enclosed true⟩

/-! ### Numbers -/

/-- A lowered term stands for a number of each message if it is an expression over its columns that gives the
number, or a constant. Tags are no numbers. -/
def Gives : Operand → (Summary → Int64) → Prop
  | .scalar e, get => e.Plain ∧ e ≠ .column .tags ∧ ∀ {m : Summary}, m.Searchable → e.eval m.row = .int (get m)
  | .int n, get => ∀ {m : Summary}, m.Searchable → get m = n
  | _, _ => False

theorem Gives.comparable? {o : Operand} {get : Summary → Int64} (h : o.Gives get) :
    ∃ e, o.comparable? = some e ∧ (Operand.scalar e).Gives get := by
  cases o with
  | scalar e => exact ⟨e, rfl, h⟩
  | int n => exact ⟨.int n, rfl, .int n, Expr.noConfusion, fun hm => by rw [h hm]; rfl⟩
  | condition _ | string _ | bool _ => exact h.elim

/-- A comparison of numbers decides whether they are in one of the orders that are asked for. -/
theorem compare_decides (c : Comparison) {l r : Operand} {get get' : Summary → Int64} (hl : l.Gives get)
    (hr : r.Gives get') :
    ∃ e, compare c [l, r] = .ok (.condition e) ∧
      e.Decides fun m => comparisonHolds c (compareOfLessAndEq (get m) (get' m)) := by
  obtain ⟨el, hel, hplain, htags, hvalue⟩ := hl.comparable?
  obtain ⟨er, her, hplain', -, hvalue'⟩ := hr.comparable?
  refine ⟨.enclosed true (.binary (operator c) el er), ?_,
    (hplain.binary _ hplain').enclosed true, fun {m} hm => ?_⟩
  · have hwith : compareWith c el r = .ok (.condition (.enclosed true (.binary (operator c) el er))) := by
      rw [compareWith, if_neg htags, her]
    cases l with
    | condition _ => exact hl.elim
    | scalar _ | string _ | int _ | bool _ =>
      rw [compare, hel]
      · exact hwith
      · rintro e ⟨⟩
  · show ((operator c).apply _ (el.eval m.row) (er.eval m.row)).truth? = _
    rw [hvalue hm, hvalue' hm, apply_operator, Cell.truth?_ofBool]

end Operand

end Sql

end MailQuery
