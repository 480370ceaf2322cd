import MailQuery.Pattern.CharSet

/-!
# Patterns

A pattern is found in a text by going once through it. The residuals of a pattern by a character are the
patterns that may match what follows the character; their list is the whole state of the search.
Assertions look at the characters on both sides of a place, so that what a pattern can do there depends
on that place.
-/

namespace MailQuery

/-- A test of a place in a text. -/
inductive Assertion where
  | textStart
  | textEnd
  | lineStart
  | lineEnd
  | wordBoundary
  | noWordBoundary
  | wordStart
  | wordEnd
  | noWordBefore
  | noWordAfter
deriving DecidableEq, Repr

/-- A place in a text, by the characters around it. -/
structure Place where
  before : Option Char
  after : Option Char
deriving DecidableEq, Repr

/-- Whether a word character is before a place. -/
def Place.wordBefore (p : Place) : Bool := p.before.any Text.isWordChar

/-- Whether a word character is after a place. -/
def Place.wordAfter (p : Place) : Bool := p.after.any Text.isWordChar

/-- Whether a place passes a test. -/
def Assertion.holds (p : Place) : Assertion → Bool
  | textStart => p.before.isNone
  | textEnd => p.after.isNone
  | lineStart => p.before.all (· == '\n')
  | lineEnd => p.after.all (· == '\n')
  | wordBoundary => p.wordBefore != p.wordAfter
  | noWordBoundary => p.wordBefore == p.wordAfter
  | wordStart => !p.wordBefore && p.wordAfter
  | wordEnd => p.wordBefore && !p.wordAfter
  | noWordBefore => !p.wordBefore
  | noWordAfter => !p.wordAfter

/-- A regular expression. -/
inductive Pattern where
  /-- Matches nowhere. -/
  | never
  /-- Matches the empty text. -/
  | empty
  | one (s : CharSet)
  | assertion (a : Assertion)
  | seq (p q : Pattern)
  | alt (p q : Pattern)
  /-- At least `least` and at most `most` matches after each other, without upper bound for `none`. -/
  | repeated (p : Pattern) (least : Nat) (most : Option Nat)
deriving DecidableEq, Repr

namespace Pattern

/-- Whether a pattern matches the empty text at a place. -/
def isEmptyAt (place : Place) : Pattern → Bool
  | never => false
  | empty => true
  | one _ => false
  | assertion a => a.holds place
  | seq p q => p.isEmptyAt place && q.isEmptyAt place
  | alt p q => p.isEmptyAt place || q.isEmptyAt place
  | repeated p least _ => least == 0 || p.isEmptyAt place

/-- A pattern and then another one. -/
def andThen (p q : Pattern) : Pattern := if p = empty then q else if q = empty then p else seq p q

/-- What is left of a repetition after one match. Matches that are empty at this place can be had
as often as they are needed. -/
def remaining (p : Pattern) (least : Nat) (most : Option Nat) (canBeEmpty : Bool) : Pattern :=
  repeated p (if canBeEmpty then 0 else least - 1) (most.map (· - 1))

/-- The residuals of a pattern by a character at a place that it follows. -/
def residuals (place : Place) (c : Char) : Pattern → List Pattern
  | never => []
  | empty => []
  | one s => if s.contains c then [empty] else []
  | assertion _ => []
  | seq p q =>
    (p.residuals place c).map (·.andThen q) ++
      if p.isEmptyAt place then q.residuals place c else []
  | alt p q => p.residuals place c ++ q.residuals place c
  | repeated p least most =>
    if most = some 0 then []
    else
      (p.residuals place c).map (·.andThen (p.remaining least most (p.isEmptyAt place)))

/-- A list with an element that is not there yet. -/
def add (p : Pattern) (ps : List Pattern) : List Pattern := if ps.contains p then ps else p :: ps

/-- Whether a pattern matches somewhere in a text, or one of `open` matches what starts it. The last
character before the text is `before`. -/
def searchFrom (p : Pattern) (before : Option Char) (opened : List Pattern) : List Char → Bool
  | [] => (p :: opened).any (·.isEmptyAt ⟨before, none⟩)
  | c :: cs =>
    let place : Place := ⟨before, some c⟩
    let current := add p opened
    current.any (·.isEmptyAt place) ||
      searchFrom p (some c) ((current.flatMap (·.residuals place c)).foldr add []) cs

/-- Whether a pattern matches somewhere in a text. -/
def isFoundIn (p : Pattern) (text : String) : Bool := searchFrom p none [] text.toList

end Pattern

end MailQuery
