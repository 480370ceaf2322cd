import MailQuery.Mail.Summary
import MailQuery.Search.Reading
import MailQuery.Search.WordIndex

/-!
# What an evaluation works on

A catalog is what is known of a folder without reading messages. A scope adds the messages that a
search is about, in their order, and the clock.
-/

namespace MailQuery.Search

open Mail

/-- What is known of a folder without reading messages. -/
structure Catalog where
  location : String
  summaries : List Summary
  /-- The index of the words of the bodies, if it is built. -/
  words : Option WordIndex

/-- The summary of a uid. Of several the last one counts. -/
def Catalog.find? (c : Catalog) (uid : String) : Option Summary :=
  c.summaries.reverse.find? (·.uid == uid)

/-- The uids of all messages in their order. -/
def Catalog.uids (c : Catalog) : List String := c.summaries.map (·.uid)

/-- What an evaluation works on. -/
structure Scope where
  catalog : Catalog
  /-- The messages that the search is about. -/
  working : List String
  now : Int64

namespace Scope

/-- The uids of a list whose messages pass a test. Uids without message are passed over. -/
def selectFrom (s : Scope) (test : Summary → Reading Bool) : List String → Reading UidSet
  | [] => pure ∅
  | uid :: rest =>
    match s.catalog.find? uid with
    | none => s.selectFrom test rest
    | some m => do
      let hit ← test m
      let hits ← s.selectFrom test rest
      pure (if hit then hits.insert uid else hits)

/-- The messages that pass a test. -/
def select (s : Scope) (test : Summary → Reading Bool) : Reading Value := do
  let hits ← s.selectFrom test s.working
  pure (.uids hits)

/-- The verdict on one message, or the messages for which the verdict is yes. -/
def judge (s : Scope) (current : Option Summary) (test : Summary → Reading Bool) : Reading Value :=
  match current with
  | some m => do
    let verdict ← test m
    pure (.bool verdict)
  | none => s.select test

end Scope

end MailQuery.Search
