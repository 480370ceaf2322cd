import MailQuery.Data.SortedMap
import MailQuery.Mail.Summary
import MailQuery.Text.Blank

/-!
# Links between messages

A message names the messages before it: `References` lists them from the first one on, and
`In-Reply-To` names the last. `Links` collects these links by message ids, also of ids that no message
has. A link that would close a circle is not made.
-/

namespace MailQuery.Search

open Text Mail

/-- A message id without blanks and angle brackets around it. -/
def normalizeId (id : String) : String :=
  let inner := (trim id.toList).dropWhile (· == '<')
  String.ofList (trim (inner.reverse.dropWhile (· == '>')).reverse)

/-- What is known of a message id. -/
structure Container where
  /-- The message that has the id, by its place in the list of messages. -/
  entry : Option Nat
  /-- The id of the message that this one answers. -/
  parent : Option String
deriving DecidableEq, Repr

/-- A container of which nothing is known. -/
def Container.unknown : Container := ⟨none, none⟩

/-- What is known of all ids so far, and the ids of the messages so far. -/
structure Links where
  containers : SortedMap Container
  ids : List String

namespace Links

/-- Before the first message. -/
def start : Links := ⟨∅, []⟩

/-- The id of the message that the message of an id answers. -/
def parent? (l : Links) (id : String) : Option String := (l.containers.get? id).bind (·.parent)

/-- The message that has an id. -/
def place? (l : Links) (id : String) : Option Nat := (l.containers.get? id).bind (·.entry)

/-- The links with something changed about an id. -/
def modify (l : Links) (id : String) (f : Container → Container) : Links :=
  { l with containers := l.containers.alter id fun c? => some (f (c?.getD .unknown)) }

/-- Whether an id is among the given one and those that its message answers, directly or not. The
search gives up after `fuel` steps and says yes. -/
def leadsTo (l : Links) (target : String) : Nat → Option String → Bool
  | _, none => false
  | fuel, some id =>
    id == target ||
      match fuel with
      | 0 => true
      | fuel + 1 => l.leadsTo target fuel (l.parent? id)

/-- The greatest number of steps in the search for a circle. -/
def maxSteps : Nat := 1000

/-- Links the message of `child` to that of `parent`, unless that would close a circle. -/
def connect (l : Links) (parent child : String) : Links :=
  if parent = child || l.leadsTo child maxSteps (some parent) then l
  else l.modify child fun c => { c with parent := some parent }

/-- The ids that a message names, from the first message of the thread on. -/
def references (s : Summary) : List String :=
  let ids := (s.references.map normalizeId).filter (· != "")
  match s.inReplyTo.map normalizeId with
  | none => ids
  | some id =>
    if id = "" ∨ ids.getLast? = some id then ids else ids.filter (· != id) ++ [id]

/-- The id of the next message: its own, or a made-up one where it has none or that of an earlier
message. -/
def freshId (l : Links) (s : Summary) : String :=
  let id := normalizeId s.messageId
  if id = "" ∨ (l.place? id).isSome then "__synth_" ++ toString l.ids.length ++ "__" else id

/-- The links with those of one more message. -/
def addMessage (l : Links) (s : Summary) : Links :=
  let id := l.freshId s
  let chain := references s ++ [id]
  let named : Links := { l with ids := l.ids ++ [id] }
  let entered := named.modify id fun c => { c with entry := some l.ids.length }
  (chain.zip (chain.drop 1)).foldl (fun l pair => l.connect pair.1 pair.2) entered

/-- The links of a list of messages. -/
def ofSummaries (summaries : List Summary) : Links := summaries.foldl addMessage start

/-- The nearest message at or above an id that is in the list, in at most `fuel` steps up. -/
def nearest? (l : Links) : Nat → Option String → Option Nat
  | _, none => none
  | fuel, some id =>
    match l.place? id, fuel with
    | some entry, _ => some entry
    | none, 0 => none
    | none, fuel + 1 => l.nearest? fuel (l.parent? id)

/-- For each message, the nearest one above it that is in the list. -/
def parents (l : Links) : List (Option Nat) :=
  l.ids.map fun id => l.nearest? (l.ids.length + 100) (l.parent? id)

end Links

end MailQuery.Search
