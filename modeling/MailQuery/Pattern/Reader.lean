import MailQuery.Pattern.Match
import MailQuery.Text.Find

/-!
# The notation of patterns

Patterns are written in the usual notation: alternatives, groups, repetitions, classes of characters,
anchors and escapes. There are no back references and no look-around. Every function that reads takes
the characters from where it starts and gives back those that it has not read.
-/

namespace MailQuery.Pattern

open Text

/-- How the notation is read from some point on. -/
structure Options where
  ignoreCase : Bool
  /-- Whether `^` and `$` match at every line. -/
  multiLine : Bool
  /-- Whether `.` matches line feeds. -/
  dotAll : Bool
  /-- Whether white space and comments are passed over. -/
  spaced : Bool
deriving DecidableEq, Repr

/-- What a backslash and the characters behind it stand for. -/
inductive Escape where
  | char (c : Char)
  | set (s : CharSet)
  | assertion (a : Assertion)
deriving DecidableEq, Repr

/-- The digit of a hexadecimal number. -/
def hexValue? (c : Char) : Option Nat :=
  if c.isDigit then some (c.toNat - 48)
  else if 'a' ≤ c ∧ c ≤ 'f' then some (c.toNat - 87)
  else if 'A' ≤ c ∧ c ≤ 'F' then some (c.toNat - 55)
  else none

/-- The character whose code hexadecimal digits write. -/
def codedChar? (digits : List Char) : Option Char := do
  let values ← digits.mapM hexValue?
  let code := values.foldl (fun n d => n * 16 + d) 0
  if !digits.isEmpty && code.isValidChar then some (Char.ofNat code) else none

/-- A character by its code, which is written with `width` digits or in braces. -/
def readCode (width : Nat) : List Char → Option (Escape × List Char)
  | '\x7b' :: cs => do
    let (digits, rest) ← cutWhere? (· == '\x7d') cs
    (codedChar? digits).map fun c => (.char c, rest)
  | cs =>
    if cs.length < width then none
    else (codedChar? (cs.take width)).map fun c => (.char c, cs.drop width)

/-- The assertions on words that are written with a name in braces. -/
def namedBoundaries : List (String × Assertion) :=
  [("start", .wordStart), ("end", .wordEnd), ("start-half", .noWordBefore),
   ("end-half", .noWordAfter)]

/-- What follows the escape of a word boundary: nothing, or a name in braces. -/
def readBoundary (cs : List Char) : Option (Escape × List Char) :=
  match cs with
  | '\x7b' :: inner =>
    if inner.head?.any fun c => c.isAlpha || c == '-' then do
      let (name, rest) ← cutWhere? (· == '\x7d') inner
      let a ← namedBoundaries.lookup (String.ofList name)
      some (.assertion a, rest)
    else some (.assertion .wordBoundary, cs)
  | _ => some (.assertion .wordBoundary, cs)

/-- The escapes that are one letter. -/
def letterEscapes : List (Char × Escape) :=
  [('d', .set .digit), ('D', .set (.complement .digit)), ('s', .set .blank),
   ('S', .set (.complement .blank)), ('w', .set .word), ('W', .set (.complement .word)),
   ('a', .char '\x07'), ('f', .char '\x0c'), ('t', .char '\t'), ('n', .char '\n'),
   ('r', .char '\r'), ('v', .char '\x0b'), ('A', .assertion .textStart), ('z', .assertion .textEnd),
   ('B', .assertion .noWordBoundary), ('<', .assertion .wordStart), ('>', .assertion .wordEnd)]

/-- What the characters behind a backslash stand for. Punctuation stands for itself. -/
def readEscape : List Char → Option (Escape × List Char)
  | [] => none
  | 'b' :: cs => readBoundary cs
  | 'x' :: cs => readCode 2 cs
  | 'u' :: cs => readCode 4 cs
  | 'U' :: cs => readCode 8 cs
  | c :: cs =>
    match letterEscapes.lookup c with
    | some e => some (e, cs)
    | none => if c.toNat < 128 && !c.isAlphanum then some (.char c, cs) else none

/-! ### Classes in brackets -/

/-- The operators between the sets of a class. -/
inductive SetOperator where
  | inter
  | diff
  | symDiff
deriving DecidableEq, Repr

/-- The value of an operator. -/
def SetOperator.apply (s t : CharSet) : SetOperator → CharSet
  | inter => .inter s t
  | diff => .diff s t
  | symDiff => .union (.diff s t) (.diff t s)

/-- A class that is not closed yet. -/
structure OpenClass where
  negated : Bool
  /-- What stands to the left of the last operator. -/
  left : Option (CharSet × SetOperator)
  /-- The union of what has been read since. -/
  items : CharSet
deriving DecidableEq, Repr

/-- The class with one more item. -/
def OpenClass.push (k : OpenClass) (s : CharSet) : OpenClass := { k with items := .union k.items s }

/-- A set, together with the characters that differ from its own in case only, if case is
ignored. -/
def foldedIf (ignoreCase : Bool) (s : CharSet) : CharSet := if ignoreCase then .caseless s else s

/-- The set of all items, with the operator to their left. -/
def OpenClass.value (ignoreCase : Bool) (k : OpenClass) : CharSet :=
  match k.left with
  | none => k.items
  | some (s, op) => op.apply (foldedIf ignoreCase s) (foldedIf ignoreCase k.items)

/-- The class after an operator. -/
def OpenClass.operate (ignoreCase : Bool) (op : SetOperator) (k : OpenClass) : OpenClass :=
  { k with left := some (k.value ignoreCase, op), items := .none }

/-- The set of a class that is closed. -/
def OpenClass.close (ignoreCase : Bool) (k : OpenClass) : CharSet :=
  let s := foldedIf ignoreCase (k.value ignoreCase)
  if k.negated then .complement s else s

/-- The start of a class behind its bracket: a circumflex for its complement, hyphens that stand for
themselves, and else a closing bracket that stands for itself. -/
def openClass (cs : List Char) : OpenClass × List Char :=
  let negated := cs.head? = some '^'
  let cs := if negated then cs.drop 1 else cs
  let k : OpenClass := ⟨negated, none, .none⟩
  match cs with
  | '-' :: _ => (k.push (.single '-'), cs.dropWhile (· == '-'))
  | ']' :: rest => (k.push (.single ']'), rest)
  | _ => (k, cs)

/-- The named class behind an opening bracket. A circumflex before the name stands for the complement. -/
def readNamedClass (ignoreCase : Bool) : List Char → Option (CharSet × List Char)
  | ':' :: cs => do
    let (name, rest) ← cutAt? [':', ']'] cs
    let negated := name.head? = some '^'
    let s ← CharSet.asciiClasses.lookup (String.ofList (if negated then name.drop 1 else name))
    let s := foldedIf ignoreCase s
    some (if negated then .complement s else s, rest)
  | _ => none

/-- A character or an escape in a class. -/
def readClassAtom : List Char → Option (Escape × List Char)
  | [] => none
  | '\\' :: cs => readEscape cs
  | c :: cs => some (.char c, cs)

/-- An item of a class: a character, an escaped set, or a range between two characters. -/
def readClassItem (cs : List Char) : Option (CharSet × List Char) := do
  let (first, rest) ← readClassAtom cs
  let ranged :=
    match rest with
    | '-' :: after => !(after.head? == some ']' || after.head? == some '-')
    | _ => false
  if ranged then
    let (last, rest) ← readClassAtom (rest.drop 1)
    match first, last with
    | .char a, .char b => if a ≤ b then some (.range a b, rest) else none
    | _, _ => none
  else
    match first with
    | .char c => some (.single c, rest)
    | .set s => some (s, rest)
    | .assertion _ => none

/-- Reads on in a class, of which classes are open outside it, to the bracket that closes the outermost
one. -/
def readClass (ignoreCase : Bool) :
    (fuel : Nat) → OpenClass → List OpenClass → List Char → Option (CharSet × List Char)
  | 0, _, _, _ => none
  | _, _, _, [] => none
  | fuel + 1, k, outer, '[' :: cs =>
    match readNamedClass ignoreCase cs with
    | some (s, rest) => readClass ignoreCase fuel (k.push s) outer rest
    | none => readClass ignoreCase fuel (openClass cs).1 (k :: outer) (openClass cs).2
  | fuel + 1, k, outer, ']' :: cs =>
    match outer with
    | [] => some (k.close ignoreCase, cs)
    | o :: outer => readClass ignoreCase fuel (o.push (k.close ignoreCase)) outer cs
  | fuel + 1, k, outer, '&' :: '&' :: cs =>
    readClass ignoreCase fuel (k.operate ignoreCase .inter) outer cs
  | fuel + 1, k, outer, '-' :: '-' :: cs =>
    readClass ignoreCase fuel (k.operate ignoreCase .diff) outer cs
  | fuel + 1, k, outer, '~' :: '~' :: cs =>
    readClass ignoreCase fuel (k.operate ignoreCase .symDiff) outer cs
  | fuel + 1, k, outer, cs =>
    match readClassItem cs with
    | some (s, rest) => readClass ignoreCase fuel (k.push s) outer rest
    | none => none

/-! ### Repetitions -/

/-- A decimal number of 32 bits, with white space around it. -/
def readCount (cs : List Char) : Option (Nat × List Char) :=
  let cs := trimStart cs
  let digits := cs.takeWhile Char.isDigit
  let n := Nat.ofDigitChars 10 digits 0
  if digits.isEmpty || Nat.pow 2 32 ≤ n then none
  else some (n, trimStart (cs.drop digits.length))

/-- The bounds of a counted repetition behind its brace. -/
def readBounds (cs : List Char) : Option ((Nat × Option Nat) × List Char) := do
  let (least, rest) ← readCount cs
  match rest with
  | '\x7d' :: rest => some ((least, some least), rest)
  | ',' :: '\x7d' :: rest => some ((least, none), rest)
  | ',' :: rest =>
    let (most, rest) ← readCount rest
    match rest with
    | '\x7d' :: rest => if least ≤ most then some ((least, some most), rest) else none
    | _ => none
  | _ => none

/-- The bounds of the repetition that starts with `c`. -/
def readRepetition (c : Char) (cs : List Char) : Option ((Nat × Option Nat) × List Char) :=
  match c with
  | '*' => some ((0, none), cs)
  | '+' => some ((1, none), cs)
  | '?' => some ((0, some 1), cs)
  | _ => readBounds cs

/-- What follows a repetition without the mark that makes it lazy, which does not change what is
found. -/
def skipLazyMark : List Char → List Char
  | '?' :: cs => cs
  | cs => cs

/-! ### Groups -/

/-- A group that is not closed yet. -/
structure Group where
  /-- The options that hold again behind the group. -/
  outside : Options
  /-- The alternatives that are complete, last first. -/
  branches : List Pattern
  /-- What has been read of the current alternative, last first. A change of options is `none`. -/
  items : List (Option Pattern)
deriving DecidableEq, Repr

namespace Group

/-- The start of a group. -/
def start (outside : Options) : Group := ⟨outside, [], []⟩

/-- The group with one more item. -/
def push (g : Group) (p : Pattern) : Group := { g with items := some p :: g.items }

/-- The current alternative. -/
def sequence (g : Group) : Pattern := g.items.foldl (fun q p => (p.getD empty).andThen q) empty

/-- The group after a bar. -/
def nextBranch (g : Group) : Group := { g with branches := g.sequence :: g.branches, items := [] }

/-- The pattern of the whole group. -/
def body (g : Group) : Pattern := g.branches.foldl (fun q p => alt p q) g.sequence

/-- The group in which the last item is repeated. -/
def repeatLast? (g : Group) (bounds : Nat × Option Nat) : Option Group :=
  match g.items with
  | some p :: items => some { g with items := some (repeated p bounds.1 bounds.2) :: items }
  | _ => none

end Group

/-- The options after a letter that turns one on or off. -/
def Options.set (o : Options) (letter : Char) (on : Bool) : Option Options :=
  match letter with
  | 'i' => some { o with ignoreCase := on }
  | 'm' => some { o with multiLine := on }
  | 's' => some { o with dotAll := on }
  | 'x' => some { o with spaced := on }
  | 'U' => some o
  | 'u' => if on then some o else none
  | _ => none

/-- The options after letters, of which those behind a hyphen are turned off. -/
def Options.setAll (o : Options) (on : Bool) : List Char → Option Options
  | [] => some o
  | '-' :: rest => if on && !rest.isEmpty then o.setAll false rest else none
  | c :: rest =>
    if rest.contains c then none else (o.set c on).bind fun o => o.setAll on rest

/-- Whether a text can name a group. -/
def isGroupName : List Char → Bool
  | [] => false
  | c :: cs =>
    (c == '_' || isAlphanumeric c && !isDecimalDigit c) &&
      cs.all fun d => isAlphanumeric d || d == '_' || d == '.' || d == '[' || d == ']'

/-- What the head of a group says. -/
inductive GroupHead where
  /-- A group in which the given options hold. -/
  | group (inside : Options)
  /-- No group, but a change of options from here on. -/
  | change (options : Options)
deriving DecidableEq, Repr

/-- The head of a named group. -/
def readGroupName (o : Options) (cs : List Char) : Option (GroupHead × List Char) :=
  match cutWhere? (· == '>') cs with
  | some (name, rest) => if isGroupName name then some (.group o, rest) else none
  | none => none

/-- The head of a group behind its parenthesis. -/
def readGroupHead (o : Options) : List Char → Option (GroupHead × List Char)
  | '?' :: 'P' :: '<' :: cs => readGroupName o cs
  | '?' :: '<' :: cs => readGroupName o cs
  | '?' :: cs => do
    let letters := cs.takeWhile fun c => c != ':' && c != ')'
    let inside ← o.setAll true letters
    match cs.drop letters.length with
    | ':' :: rest => some (.group inside, rest)
    | ')' :: rest => if letters.isEmpty then none else some (.change inside, rest)
    | _ => none
  | cs => some (.group o, cs)

/-- The pattern of one character. -/
def Options.char (o : Options) (c : Char) : Pattern := one (foldedIf o.ignoreCase (.single c))

/-- The pattern of an escape. -/
def Options.escape (o : Options) : Escape → Pattern
  | .char c => o.char c
  | .set s => one s
  | .assertion a => assertion a

/-- The pattern of a character that is no part of a group, a repetition, a class or an escape. -/
def Options.plain (o : Options) (c : Char) : Pattern :=
  if c = '.' then one (if o.dotAll then .any else .inLine)
  else if c = '^' then assertion (if o.multiLine then .lineStart else .textStart)
  else if c = '$' then assertion (if o.multiLine then .lineEnd else .textEnd)
  else o.char c

/-- Reads on in a group, of which groups are open outside it, to the end of the text. -/
def readFrom : (fuel : Nat) → Options → Group → List Group → List Char → Option Pattern
  | 0, _, _, _, _ => none
  | _, _, g, outer, [] => if outer.isEmpty then some g.body else none
  | fuel + 1, o, g, outer, c :: cs =>
    if o.spaced && isBlank c then readFrom fuel o g outer cs
    else if o.spaced && c == '#' then readFrom fuel o g outer (cs.dropWhile (· != '\n'))
    else if c = '(' then
      match readGroupHead o cs with
      | some (.group inside, rest) => readFrom fuel inside (.start o) (g :: outer) rest
      | some (.change options, rest) =>
        readFrom fuel options { g with items := none :: g.items } outer rest
      | none => none
    else if c = ')' then
      match outer with
      | [] => none
      | h :: outer => readFrom fuel g.outside (h.push g.body) outer cs
    else if c = '|' then readFrom fuel o g.nextBranch outer cs
    else if c = '*' ∨ c = '+' ∨ c = '?' ∨ c = '\x7b' then
      match readRepetition c cs with
      | some (bounds, rest) =>
        match g.repeatLast? bounds with
        | some g => readFrom fuel o g outer (skipLazyMark rest)
        | none => none
      | none => none
    else if c = '[' then
      match readClass o.ignoreCase fuel (openClass cs).1 [] (openClass cs).2 with
      | some (s, rest) => readFrom fuel o (g.push (one s)) outer rest
      | none => none
    else if c = '\\' then
      match readEscape cs with
      | some (e, rest) => readFrom fuel o (g.push (o.escape e)) outer rest
      | none => none
    else readFrom fuel o (g.push (o.plain c)) outer cs

/-- The pattern that a text writes, if the text is well formed. -/
def read (o : Options) (text : String) : Option Pattern :=
  readFrom (text.toList.length + 1) o (.start o) [] text.toList

end MailQuery.Pattern
