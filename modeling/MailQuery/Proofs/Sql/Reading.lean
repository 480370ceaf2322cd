import MailQuery.Proofs.Sql.Spelling

/-!
# Reading expressions back

Readable expressions are read back from their words, but for the blanks inside of parentheses, which no word keeps
(`Expr.narrow`). The induction is on the expression, for any level that does not pass its own and in front of any
words with which it does not go on (`Follows`): what is read is the expression, and reading goes on with what follows
(`Expr.IsReadable.exists_readTail`).
-/

namespace MailQuery.Sql

open Text

/-! ### Expressions as they are read -/

/-- An expression without blanks inside of its parentheses. -/
def Expr.narrow : Expr → Expr
  | enclosed _ e => enclosed false e.narrow
  | binary op l r => binary op l.narrow r.narrow
  | negated small e => negated small e.narrow
  | minus e => minus e.narrow
  | isNull e => isNull e.narrow
  | notNull long e => notNull long e.narrow
  | cast type e => cast type e.narrow
  | monthsLater e months => monthsLater e.narrow months
  | packedDay e => packedDay e.narrow
  | e => e

namespace Expr

variable (e : Expr)

theorem affinity_narrow : e.narrow.affinity = e.affinity := by
  induction e with
  | enclosed _ e ih => exact ih
  | cast type _ _ => cases type <;> rfl
  | _ => rfl

/-- The blanks do not matter for the value. -/
theorem eval_narrow (row : Row) : e.narrow.eval row = e.eval row := by
  induction e with
  | enclosed _ e ih => exact ih
  | binary op l r ihl ihr =>
    show op.apply _ (l.narrow.eval row) (r.narrow.eval row) = _
    rw [ihl, ihr, affinity_narrow, affinity_narrow]
    rfl
  | cast type e ih =>
    cases type with
    | integer => exact congrArg Cell.asInt ih
    | text => exact congrArg Cell.asText ih
  | negated _ e ih | minus e ih | isNull e ih | notNull _ e ih | monthsLater e _ ih | packedDay e ih =>
    simp only [narrow, eval, ih]
  | _ => rfl

theorem isTrueOf_narrow (row : Row) : e.narrow.isTrueOf row = e.isTrueOf row := by
  rw [isTrueOf, isTrueOf, eval_narrow]

theorem shape?_narrow : e.narrow.shape? = e.shape? := by
  induction e with
  | enclosed _ e ih => exact ih
  | binary op l r ihl ihr => simp only [narrow, shape?, ihl, ihr]
  | negated _ e ih | minus e ih | isNull e ih | notNull _ e ih | cast _ e ih | monthsLater e _ ih | packedDay e ih =>
    simp only [narrow, shape?, ih]
  | _ => rfl

theorem isShallow_narrow : e.narrow.isShallow = e.isShallow := by
  rw [isShallow, isShallow, shape?_narrow]

theorem knownTruth?_narrow : e.narrow.knownTruth? = e.knownTruth? := by
  induction e with
  | enclosed _ e ih => exact ih
  | binary op l r ihl ihr => cases op <;> simp only [narrow, knownTruth?, ihl, ihr]
  | _ => rfl

theorem meetsLongPattern_narrow (row : Row) (unknown : Bool) :
    e.narrow.meetsLongPattern row unknown = e.meetsLongPattern row unknown := by
  induction e generalizing unknown with
  | enclosed _ e ih => simp only [narrow, meetsLongPattern, ih]
  | binary op l r ihl ihr =>
    have hknown := (binary op l r).knownTruth?_narrow
    rw [narrow] at hknown
    cases op <;> simp only [narrow, meetsLongPattern, hknown, ihl, ihr, eval_narrow]
  | negated _ e ih | minus e ih | isNull e ih | notNull _ e ih | cast _ e ih | monthsLater e _ ih | packedDay e ih =>
    simp only [narrow, meetsLongPattern, ih]
  | _ => rfl

end Expr

/-! ### What follows an expression -/

/-- Some words with which an expression of a level does not go on. -/
structure Follows (level : Nat) (rest : List Word) : Prop where
  operator : ∀ op behind, operator? rest = some (op, behind) → op.level < level
  test : ∀ test, nullTest? rest = some test → 4 < level
  call : rest.head? ≠ some (.mark "(")

variable {level fuel : Nat} {rest : List Word}

theorem Follows.mono {other : Nat} (h : Follows level rest) (hle : level ≤ other) : Follows other rest :=
  ⟨fun op behind hop => Nat.lt_of_lt_of_le (h.operator op behind hop) hle,
    fun test htest => Nat.lt_of_lt_of_le (h.test test htest) hle, h.call⟩

theorem Follows.of_none (hop : operator? rest = none) (htest : nullTest? rest = none)
    (hcall : rest.head? ≠ some (.mark "(")) : Follows level rest where
  operator _ _ h := nomatch hop.symm.trans h
  test _ h := nomatch htest.symm.trans h
  call := hcall

theorem Follows.nil : Follows level [] := .of_none rfl rfl nofun

theorem Follows.closing : Follows level (.mark ")" :: rest) :=
  .of_none rfl (by rcases rest with _ | ⟨_, _ | _⟩ <;> rfl) (by simp)

theorem Follows.comma : Follows level (.mark "," :: rest) :=
  .of_none rfl (by rcases rest with _ | ⟨_, _ | _⟩ <;> rfl) (by simp)

theorem Follows.as : Follows level (.name "AS" :: rest) :=
  .of_none rfl (by rcases rest with _ | ⟨_, _ | _⟩ <;> rfl) (by simp)

/-- `NOT` binds as strongly as no operator. -/
theorem Follows.negated (h : Follows 4 rest) : Follows 3 rest := by
  have hlevel : ∀ op : Operator, op.level < 4 → op.level < 3 := by
    intro op
    cases op <;> decide
  exact ⟨fun op behind hop => hlevel op (h.operator op behind hop), fun test htest => absurd (h.test test htest) (by decide),
    h.call⟩

theorem operator?_words (op : Operator) (rest : List Word) : operator? (op.words ++ rest) = some (op, rest) := by
  cases op <;> rfl

theorem Follows.operator_words {op : Operator} (h : op.level < level) (rest : List Word) :
    Follows level (op.words ++ rest) := by
  refine ⟨fun op' behind hop' => ?_, fun test htest => ?_, ?_⟩
  · rw [operator?_words] at hop'
    cases hop'
    exact h
  · have hnone : nullTest? (op.words ++ rest) = none := by
      cases op <;> rcases rest with _ | ⟨_, _ | _⟩ <;> rfl
    rw [hnone] at htest
    cases htest
  · cases op <;> simp [Operator.words, Operator.sql]

/-- The words of the test that something is there. -/
def notNullWords (long : Bool) : List Word :=
  if long then [.name "IS", .name "NOT", .name "NULL"] else [.name "NOTNULL"]

theorem nullTest?_words (long : Bool) (rest : List Word) :
    nullTest? (notNullWords long ++ rest) = some (.notNull long, rest) := by
  cases long <;> rfl

theorem operator?_notNullWords (long : Bool) (rest : List Word) : operator? (notNullWords long ++ rest) = none := by
  cases long <;> rfl

theorem Follows.notNullWords (h : 4 < level) (long : Bool) (rest : List Word) :
    Follows level (Sql.notNullWords long ++ rest) := by
  refine ⟨fun op behind hop => ?_, fun _ _ => h, by cases long <;> simp [Sql.notNullWords]⟩
  rw [operator?_notNullWords] at hop
  cases hop

theorem readTail_of_follows (h : Follows level rest) (left : Parsed) :
    readTail level (fuel + 1) left rest = some (left, rest) := by
  rw [readTail]
  split
  · next op behind hop => rw [if_neg (Nat.not_le.2 (h.operator op behind hop))]
  · split
    · next test behind htest => rw [if_neg (Nat.not_le.2 (h.test _ htest))]
    · rfl

/-! ### Atoms -/

theorem readOperand_column (c : Column) (hrest : rest.head? ≠ some (.mark "(")) :
    readOperand (fuel + 1) (.name c.name :: rest) = some (.plain (.column c), rest) := by
  have hnone : ∀ c ∈ Column.all, ((Word.name c.name).isKeyword "not" = false ∧
      (Word.name c.name).isKeyword "null" = false ∧ (Word.name c.name).isKeyword "cast" = false) ∧
      (keywords.any fun k => (Word.name c.name).isKeyword k) = false ∧ named c.name = .plain (.column c) := by
    decide +kernel
  obtain ⟨⟨hnot, hnull, hcast⟩, hkeyword, hnamed⟩ := hnone c c.mem_all
  rw [readOperand]
  · simp only [hnot, hnull, hcast, hkeyword, hnamed, if_false, Bool.false_eq_true]
  · rintro behind rfl
    exact hrest rfl

theorem readOperand_int (n : Int64) (rest : List Word) :
    readOperand (fuel + 1) ((Expr.int n).words ++ rest) = some (.plain (.int n), rest) := by
  have hread : literal? n.toInt = some (.plain (.int n)) := by rw [literal?, int64?_toInt, Option.map_some]
  have hneg : n < 0 ↔ n.toInt < 0 := Int64.lt_iff_toInt_lt
  rw [Expr.words]
  split
  · next h =>
    have habs : -(n.toInt.natAbs : Int) = n.toInt := by have := hneg.1 h; omega
    rw [List.cons_append, List.singleton_append, readOperand]
    simp only [habs, hread, Option.map_some]
  · next h =>
    have habs : (n.toInt.natAbs : Int) = n.toInt := by have := mt hneg.2 h; omega
    rw [List.singleton_append, readOperand, habs, hread, Option.map_some]

/-- The text of a number of months: a sign, the digits and the unit. -/
theorem toList_months (n : Int64) :
    (signed n ++ " months").toList =
      (if n < 0 then '-' else '+') :: (Nat.toDigits 10 n.toInt.natAbs ++ " months".toList) := by
  have hneg : n < 0 ↔ n.toInt < 0 := Int64.lt_iff_toInt_lt
  have hnonneg : 0 ≤ n ↔ 0 ≤ n.toInt := Int64.le_iff_toInt_le
  rw [signed, String.toList_append, String.toList_append, toList_decimal]
  by_cases h : n < 0
  · rw [if_neg (by rw [hnonneg]; have := hneg.1 h; omega), if_pos h, if_pos h]
    rfl
  · rw [if_pos (by rw [hnonneg]; have := mt hneg.2 h; omega), if_neg h, if_neg h]
    rfl

/-- A number of months is read back from its text. -/
theorem months?_signed (n : Int64) : months? (signed n ++ " months") = some n := by
  have hneg : n < 0 ↔ n.toInt < 0 := Int64.lt_iff_toInt_lt
  have hall : ∀ c ∈ Nat.toDigits 10 n.toInt.natAbs, c.isDigit = true := fun c hc =>
    Nat.isDigit_of_mem_toDigits (by decide) (by decide) hc
  have hunit : ∀ c ∈ " months".toList.head?, c.isDigit = false := by decide
  obtain ⟨hdigits, -⟩ := takeWhile_append_of_head (p := Char.isDigit) hall hunit
  have hne : (Nat.toDigits 10 n.toInt.natAbs).isEmpty = false := by simp [Nat.toDigits_ne_nil]
  rw [months?, toList_months]
  simp only [List.head?_cons, List.drop_succ_cons, List.drop_zero, hdigits, hne, List.drop_left,
    Nat.ofDigitChars_ten_toDigits]
  by_cases h : n < 0
  · have habs : -(n.toInt.natAbs : Int) = n.toInt := by have := hneg.1 h; omega
    rw [if_pos h, if_pos ⟨.inr rfl, rfl, trivial⟩, if_pos rfl, habs, int64?_toInt]
  · have habs : (n.toInt.natAbs : Int) = n.toInt := by have := mt hneg.2 h; omega
    rw [if_neg h, if_pos ⟨.inl rfl, rfl, trivial⟩, if_neg (by decide), habs, int64?_toInt]

theorem readStrings_closing (modifiers : List String) (rest : List Word) :
    readStrings (modifiers.flatMap (fun m => [.mark ",", .string m]) ++ .mark ")" :: rest) = some (modifiers, rest) := by
  induction modifiers with
  | nil => rfl
  | cons m ms ih =>
    rw [List.flatMap_cons, List.append_assoc, List.cons_append, List.singleton_append, readStrings, ih]

/-! ### Whole expressions -/

theorem Operator.level_pos (op : Operator) : 1 ≤ op.level := by
  cases op <;> decide

theorem Expr.level_pos (e : Expr) : 1 ≤ e.level := by
  cases e with
  | binary op _ _ => exact op.level_pos
  | _ => simp [level]

theorem readOperand_negated (small : Bool) (words : List Word) :
    readOperand (fuel + 1) (.name (if small then "not" else "NOT") :: words) =
      (readLevel 3 fuel words).map fun (p, rest) => (p.map (.negated small), rest) := by
  cases small <;> rfl

theorem readOperand_cast (type : CastType) {words : List Word} {p : Parsed}
    (h : readLevel 1 fuel words = some (p, .name "AS" :: .name type.sql :: .mark ")" :: rest)) :
    readOperand (fuel + 1) (.name "CAST" :: .mark "(" :: words) = some (p.map (.cast type), rest) := by
  have has : Word.isKeyword "as" (.name "AS") = true := by decide
  have htype : castType? (.name type.sql) = some type := by cases type <;> decide
  show (readLevel 1 fuel words).bind endCast? = _
  rw [h, Option.bind_some, endCast?, if_pos has, htype, Option.map_some]

/-- A call of `strftime` is read from its format, its argument and its modifiers. -/
theorem readOperand_strftime {format : String} {modifiers : List String} {f : Expr → Expr} {words : List Word}
    {p : Parsed} (hf : dateText? format modifiers = some f)
    (h : readLevel 1 fuel words = some (p, modifiers.flatMap (fun m => [.mark ",", .string m]) ++ .mark ")" :: rest)) :
    readOperand (fuel + 1) (.name "strftime" :: .mark "(" :: .string format :: .mark "," :: words) =
      some (p.map f, rest) := by
  show (readLevel 1 fuel words).bind (endStrftime? format) = _
  rw [h, Option.bind_some, endStrftime?, readStrings_closing, Option.bind_some]
  dsimp only
  rw [hf, Option.map_some]

theorem readLevel_of_readOperand {words : List Word} {p : Parsed} (h : readOperand fuel words = some (p, rest)) :
    readLevel level (fuel + 1) words = readTail level fuel p rest := by
  rw [readLevel, h]

/-- Reading an expression of any level goes on behind an operand at its start. -/
theorem exists_readTail_of_readOperand {words : List Word} {p : Parsed} (hpos : 0 < words.length)
    (hfuel : 2 * words.length < fuel)
    (h : ∀ n, 2 * words.length < n + 2 → readOperand (n + 1) (words ++ rest) = some (p, rest)) :
    ∃ left, fuel ≤ left + words.length ∧ readLevel level fuel (words ++ rest) = readTail level left p rest := by
  obtain ⟨fuel, rfl⟩ : ∃ n, fuel = n + 2 := ⟨fuel - 2, by omega⟩
  exact ⟨fuel + 1, by omega, readLevel_of_readOperand (h fuel hfuel)⟩

/-- Reading comes to an end behind an expression that does not go on. -/
theorem readLevel_of_exists {e : Expr} (h : ∃ left, fuel ≤ left + e.words.length ∧
      readLevel level fuel (e.words ++ rest) = readTail level left (.plain e.narrow) rest)
    (hrest : Follows level rest) (hfuel : e.words.length < fuel) :
    readLevel level fuel (e.words ++ rest) = some (.plain e.narrow, rest) := by
  obtain ⟨left, hleft, hread⟩ := h
  obtain ⟨left, rfl⟩ : ∃ n, left = n + 1 := ⟨left - 1, by omega⟩
  rw [hread, readTail_of_follows hrest]

namespace Expr.IsReadable

variable {e : Expr}

/-- **An expression is read from its words, and reading goes on with what follows.** -/
theorem exists_readTail (h : e.IsReadable) (level fuel : Nat) (rest : List Word) (hlevel : level ≤ e.level)
    (hrest : Follows (e.level + 1) rest) (hfuel : 2 * e.words.length < fuel) :
    ∃ left, fuel ≤ left + e.words.length ∧
      readLevel level fuel (e.words ++ rest) = readTail level left (.plain e.narrow) rest := by
  induction h generalizing level fuel rest with
  | column c => exact exists_readTail_of_readOperand Nat.one_pos hfuel fun _ _ => readOperand_column c hrest.call
  | int n =>
    have hpos : 0 < (Expr.int n).words.length := by rw [words]; split <;> simp
    exact exists_readTail_of_readOperand hpos hfuel fun _ _ => readOperand_int n rest
  | string value =>
    refine exists_readTail_of_readOperand Nat.one_pos hfuel fun n _ => ?_
    rw [words, List.singleton_append, readOperand]
    rfl
  | @enclosed e wide _ ih =>
    refine exists_readTail_of_readOperand (by simp [words]) hfuel fun n hn => ?_
    simp only [words, List.length_cons, List.length_append] at hn
    have hinner := readLevel_of_exists (ih 1 n (.mark ")" :: rest) e.level_pos .closing (by omega)) .closing (by omega)
    rw [words, List.cons_append, List.append_assoc, List.singleton_append, readOperand]
    simp only [hinner]
    rfl
  | @binary op l r _ hleft hright _ _ ihl ihr =>
    have hpos : 0 < op.words.length := by cases op <;> simp [Operator.words]
    simp only [words, List.length_append] at hfuel ⊢
    obtain ⟨left, hle, hl⟩ := ihl level fuel (op.words ++ (r.words ++ rest)) (Nat.le_trans hlevel hleft)
      (.operator_words (Nat.lt_succ_of_le hleft) _) (by omega)
    obtain ⟨left, rfl⟩ : ∃ n, left = n + 1 := ⟨left - 1, by omega⟩
    have hr := readLevel_of_exists (ihr (op.level + 1) left rest hright
      (hrest.mono (by exact Nat.succ_le_succ (Nat.le_of_lt hright))) (by omega)) hrest (by omega)
    refine ⟨left, by omega, ?_⟩
    rw [List.append_assoc, List.append_assoc, hl, readTail, operator?_words]
    have hle : level ≤ op.level := hlevel
    simp only [hr, if_pos hle]
    rfl
  | @negated e small hnegated _ ih =>
    refine exists_readTail_of_readOperand (by simp [words]) hfuel fun n hn => ?_
    simp only [words, List.length_cons] at hn
    have hinner := readLevel_of_exists
      (ih 3 n rest hnegated (hrest.mono (Nat.succ_le_succ hnegated)) (by omega)) hrest.negated (by omega)
    rw [words, List.cons_append, readOperand_negated, hinner]
    rfl
  | @notNull e long hnotNull _ ih =>
    have hpos : 0 < (notNullWords long).length := by cases long <;> simp [notNullWords]
    have hwords : (Expr.notNull long e).words = e.words ++ notNullWords long := rfl
    rw [hwords, List.length_append] at hfuel ⊢
    obtain ⟨left, hle, he⟩ := ih level fuel (notNullWords long ++ rest) (Nat.le_trans hlevel hnotNull)
      (.notNullWords (Nat.lt_succ_of_le hnotNull) long _) (by omega)
    obtain ⟨left, rfl⟩ : ∃ n, left = n + 1 := ⟨left - 1, by omega⟩
    refine ⟨left, by omega, ?_⟩
    have hle : level ≤ 4 := hlevel
    rw [List.append_assoc, he, readTail, operator?_notNullWords, nullTest?_words]
    simp only [if_pos hle]
    rfl
  | @cast e type _ ih =>
    refine exists_readTail_of_readOperand (by simp [words]) hfuel fun n hn => ?_
    simp only [words, List.length_cons, List.length_append] at hn
    have hinner := readLevel_of_exists
      (ih 1 n (.name "AS" :: .name type.sql :: .mark ")" :: rest) e.level_pos .as (by omega)) .as (by omega)
    rw [words, List.cons_append, List.cons_append, List.append_assoc]
    exact readOperand_cast type hinner
  | @monthsLater e months _ ih =>
    refine exists_readTail_of_readOperand (by simp [words]) hfuel fun n hn => ?_
    simp only [words, List.length_cons, List.length_append] at hn
    have hinner := readLevel_of_exists (ih 1 n
      (["unixepoch", signed months ++ " months"].flatMap (fun m => [.mark ",", .string m]) ++ .mark ")" :: rest)
      e.level_pos .comma (by omega)) .comma (by omega)
    have hf : dateText? "%s" ["unixepoch", signed months ++ " months"] = some fun e => .monthsLater e months := by
      rw [dateText?, months?_signed, Option.map_some]
    simp only [words, List.cons_append, List.append_assoc]
    exact readOperand_strftime hf hinner
  | @packedDay e _ ih =>
    refine exists_readTail_of_readOperand (by simp [words]) hfuel fun n hn => ?_
    simp only [words, List.length_cons, List.length_append] at hn
    have hinner := readLevel_of_exists (ih 1 n
      (["unixepoch", "localtime"].flatMap (fun m => [.mark ",", .string m]) ++ .mark ")" :: rest)
      e.level_pos .comma (by omega)) .comma (by omega)
    simp only [words, List.cons_append, List.append_assoc]
    exact readOperand_strftime rfl hinner

/-- An expression is read whole in front of words with which none goes on. -/
theorem readExpr_words (h : e.IsReadable) (hrest : Follows 1 rest) :
    readExpr (e.words ++ rest) = some (.plain e.narrow, rest) := by
  have hread := h.exists_readTail 1 (3 * (e.words ++ rest).length + 3) rest e.level_pos
    (hrest.mono (Nat.succ_le_succ (Nat.zero_le _))) (by rw [List.length_append]; omega)
  exact readLevel_of_exists hread hrest (by rw [List.length_append]; omega)

theorem readWhole_words (h : e.IsReadable) :
    readWhole e.words = if e.isShallow then some (.plain e.narrow) else none := by
  have hread := h.readExpr_words .nil
  rw [List.append_nil] at hread
  rw [readWhole, hread]
  simp only [Parsed.plain, e.isShallow_narrow]

/-- **The text of an expression is read as this expression**, unless its tree is too high or its text is cut. -/
theorem readText_sql (h : e.IsReadable) :
    readText e.sql = if !isCut e.sql && e.isShallow then some (.plain e.narrow) else none := by
  rw [readText]
  cases hcut : isCut e.sql with
  | true => rfl
  | false =>
    have huncut : '\x00' ∉ e.sql.toList := by simpa [isCut] using hcut
    rw [(h.spells huncut).wordsOf?_eq, Option.bind_some, h.readWhole_words]
    rfl

end Expr.IsReadable

end MailQuery.Sql
