import MailQuery.Data.SortedMap
import MailQuery.Data.TextSet
import MailQuery.Mail.Flags
import MailQuery.Text.Find

/-!
# Summary records

What a folder knows of a message without reading it.
-/

namespace MailQuery.Mail

/-- Where a message lies in its mailbox file, in bytes. -/
structure Span where
  offset : UInt64
  length : UInt64
deriving DecidableEq, Repr

/-- The summary of a message. -/
structure Summary where
  uid : String
  flags : Flags
  userFlags : TextSet
  userTags : SortedMap String
  subject : String
  sender : String
  recipients : String
  copies : String
  mailingList : String
  /-- The moment in the `Date` field. -/
  sent : Int64
  /-- The moment in the separator line. -/
  received : Int64
  /-- The number of bytes of the raw message. -/
  size : UInt64
  messageId : String
  inReplyTo : Option String
  references : List String
  span : Option Span
deriving DecidableEq

namespace Summary

/-- A summary that says nothing but the uid. -/
def ofUid (uid : String) : Summary :=
  { uid, flags := .none, userFlags := ∅, userTags := ∅, subject := "", sender := ""
    recipients := "", copies := "", mailingList := "", sent := 0, received := 0, size := 0
    messageId := "", inReplyTo := none, references := [], span := none }

instance : Inhabited Summary := ⟨ofUid ""⟩

/-- Whether a message carries a label. -/
def hasUserFlag (s : Summary) (name : String) : Bool := s.userFlags.contains name

/-- The value of a tag, empty where there is none. -/
def userTag (s : Summary) (name : String) : String := (s.userTags.get? name).getD ""

/-- The labels with a space between them. -/
def labelsText (s : Summary) : String := String.intercalate " " s.userFlags.toList

/-- The names and values of the tags with spaces between them. -/
def tagsText (s : Summary) : String :=
  String.intercalate " " (s.userTags.entries.map fun (name, value) => name ++ " " ++ value)

end Summary

end MailQuery.Mail
