import MailQuery.Text.Blank
import MailQuery.Text.Find

/-!
# Addresses

The mailboxes of an address header: display name and bare address. Names lose the quotes around them
when they are read and are written bare.
-/

namespace MailQuery.Mail

open Text

/-- A mailbox. -/
structure Address where
  name : String
  email : String
deriving DecidableEq, Repr

namespace Address

/-- A display name without white space and quotes around it. -/
def unquote (cs : List Char) : List Char :=
  let cs := trim cs
  match stripStart? ['"'] cs with
  | some rest => if rest.getLast? = some '"' then trim rest.dropLast else cs
  | none => cs

/-- The mailbox that one entry of an address list names: a name before the last angle brackets and
an address inside them, or an address alone. -/
def ofEntry (entry : List Char) : Address :=
  let entry := trim entry
  let bare : Address := ⟨"", String.ofList entry⟩
  match cutWhereLast? (· == '<') entry with
  | none => bare
  | some (before, after) =>
    match cutWhereLast? (· == '>') after with
    | none => bare
    | some (inside, _) => ⟨String.ofList (unquote before), String.ofList (trim inside)⟩

/-- The mailbox that a text names. -/
def parse (text : String) : Address := ofEntry text.toList

/-- Splits a list of addresses at the commas outside quotes and angle brackets. `angles` counts the
angle brackets that are open. -/
def splitEntries (quoted : Bool) (angles : Nat) : List Char → List (List Char)
  | [] => [[]]
  | c :: cs =>
    if c = ',' ∧ !quoted ∧ angles = 0 then [] :: splitEntries quoted angles cs
    else
      let more :=
        if c = '"' then splitEntries (!quoted) angles cs
        else if c = '<' ∧ !quoted then splitEntries quoted (angles + 1) cs
        else if c = '>' ∧ !quoted then splitEntries quoted (angles - 1) cs
        else splitEntries quoted angles cs
      match more with
      | [] => [[c]]
      | entry :: entries => (c :: entry) :: entries

/-- The mailboxes of a list of addresses. Entries without an address are left out. -/
def parseList (text : String) : List Address :=
  ((splitEntries false 0 text.toList).map ofEntry).filter (·.email != "")

/-- The text of a mailbox. -/
def format (a : Address) : String :=
  if a.name = "" then a.email else a.name ++ " <" ++ a.email ++ ">"

/-- The text of a list of mailboxes. -/
def formatList (addresses : List Address) : String :=
  String.ofList (joinWith [',', ' '] (addresses.map fun a => a.format.toList))

end Address

end MailQuery.Mail
