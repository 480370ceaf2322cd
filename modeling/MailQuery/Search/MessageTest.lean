import MailQuery.Pattern.Reader
import MailQuery.Search.HeaderMatch
import MailQuery.Search.Scope

/-!
# Tests of headers and bodies

The headers that a summary holds are compared without reading the message; for all others, and for
bodies, the message is read. A message that cannot be had passes no test.
-/

namespace MailQuery.Search

open Text Mail

/-- The value of a header in a summary, and what kind of header it is. -/
def summaryHeader? (m : Summary) (header : String) : Option (String × HeaderKind) :=
  let named := fun (name : String) => eqIgnoreAsciiCase name.toList header.toList
  if named "subject" then some (m.subject, .plain)
  else if named "date" then some (toString m.sent.toInt, .plain)
  else if named "from" then some (m.sender, .addresses)
  else if named "to" then some (m.recipients, .addresses)
  else if named "cc" then some (m.copies, .addresses)
  else if named "x-camel-mlist" then some (m.mailingList, .mailingList)
  else none

/-- Whether a pattern passes a test: as a whole, or, for the style that looks for a substring, word by
word. -/
def patternPasses (style : MatchStyle) (test : String → Bool) (pattern : String) : Bool :=
  match style with
  | .contains => (splitWords pattern.toList).all fun w => test (String.ofList w.text)
  | _ => test pattern

/-- Whether one of the patterns matches a header of a message. An empty pattern always does. -/
def headerTest (style : MatchStyle) (header : String) (patterns : List String) (m : Summary) :
    Reading Bool :=
  if patterns.isEmpty then pure false
  else if patterns.contains "" then pure true
  else
    match summaryHeader? m header with
    | some (value, kind) =>
      pure (patterns.any (patternPasses style fun p => headerMatches value p style kind))
    | none => do
      let message? ← Reading.message? m.uid
      pure <| message?.any fun message =>
        patterns.any <| patternPasses style fun p =>
          (message.headersNamed header).any fun value => headerMatches value p style .encoded

/-- Whether a message can be had and passes a test. -/
def contentTest (test : Message → Bool) (uid : String) : Reading Bool := do
  let message? ← Reading.message? uid
  pure (message?.any test)

/-- The text of the pattern that any of some patterns makes. -/
def joinPatterns : List String → String
  | [p] => p
  | ps => String.intercalate "|" (ps.map fun p => "(?:" ++ p ++ ")")

/-- The pattern that any of some patterns makes, regardless of case. -/
def readPatterns (function : String) (multiLine : Bool) (patterns : List String) :
    Except SearchError Pattern :=
  if patterns.isEmpty then .error (.arity function .pattern)
  else
    match Pattern.read ⟨true, multiLine, false, false⟩ (joinPatterns patterns) with
    | some p => .ok p
    | none => .error (.badPattern (joinPatterns patterns))

/-- Whether all words of a query stand in a body, regardless of case. -/
def bodyHasWords (query : Query) (message : Message) : Bool :=
  let body := lower message.bodyText.toList
  query.all fun w => isInfix (lower w.text) body

/-- The word index, if it can answer a query by itself. -/
def indexFor? (s : Scope) (query : Query) : Option WordIndex :=
  if query.complex then none else s.catalog.words

/-- Whether all words of a query stand in the body of one message. -/
def hasQuery (s : Scope) (query : Query) (m : Summary) : Reading Bool :=
  match indexFor? s query with
  | some index => pure (query.all fun w => index.mentions m.uid w.text)
  | none => contentTest (bodyHasWords query) m.uid

/-- Whether one of some queries is found in the body of one message. -/
def hasAnyQuery (s : Scope) (m : Summary) : List Query → Reading Bool
  | [] => pure false
  | q :: qs => do
    let hit ← hasQuery s q m
    if hit then pure true else hasAnyQuery s m qs

/-- The uids of a list whose bodies have all words of a query. -/
def scanBodies (query : Query) : List String → Reading UidSet
  | [] => pure ∅
  | uid :: rest => do
    let hit ← contentTest (bodyHasWords query) uid
    let hits ← scanBodies query rest
    pure (if hit then hits.insert uid else hits)

/-- The messages that may have a query by the simple words in it. -/
def candidates (s : Scope) (query : Query) : Except SearchError (List String) :=
  match s.catalog.words with
  | some index =>
    let simple := simpleWords query
    if simple.isEmpty then .ok s.working
    else (index.lookup simple false).map fun uids => s.working.filter uids.contains
  | none => .ok s.working

/-- The messages whose bodies have all words of a query. An index that can answer it by itself does
so for the whole folder. -/
def findQuery (s : Scope) (query : Query) : Reading UidSet :=
  match indexFor? s query with
  | some index => .done (index.lookup query false)
  | none =>
    match candidates s query with
    | .error e => .fail e
    | .ok uids => scanBodies query uids

/-- The messages in whose bodies one of some queries is found. -/
def findAnyQuery (s : Scope) : List Query → Reading UidSet
  | [] => pure ∅
  | q :: qs => do
    let hits ← findQuery s q
    let rest ← findAnyQuery s qs
    pure (hits.union rest)

/-- The test that one of some phrases stands in the body. The empty phrase alone stands in every
body. -/
def bodyContains (s : Scope) (current : Option Summary) (phrases : List String) : Reading Value :=
  if phrases = [""] then s.judge current fun _ => pure true
  else
    let queries := (phrases.map fun p => splitWords p.toList).filter (!·.isEmpty)
    match current with
    | some m => do
      let verdict ← hasAnyQuery s m queries
      pure (.bool verdict)
    | none => do
      let hits ← findAnyQuery s queries
      pure (.uids hits)

end MailQuery.Search
