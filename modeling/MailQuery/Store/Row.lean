import MailQuery.Mail.Summary
import MailQuery.Sql.Eval

/-!
# Rows of messages

A folder table has one row per message, which holds what the summary says. A header without text is
stored as null, so that a test for null is a test for the header; labels and tags are always texts, so
that tests on them are never unknown.
-/

namespace MailQuery.Mail

open Sql

/-- A text that may be missing, as a cell. -/
def textOrNull (s : String) : Cell := if s = "" then .null else .text s

/-- The row of a message. -/
def Summary.row (s : Summary) : Row
  | .uid => .text s.uid
  | .flags => .int (Int64.ofNat s.flags.bits.toNat)
  | .read => .ofBool (s.flags.contains Flags.seen)
  | .deleted => .ofBool (s.flags.contains Flags.deleted)
  | .replied => .ofBool (s.flags.contains Flags.answered)
  | .important => .ofBool (s.flags.contains Flags.flagged)
  | .junk => .ofBool (s.flags.contains Flags.junk)
  | .attachment => .ofBool (s.flags.contains Flags.attachments)
  | .size => .int (Int64.ofIntClamp s.size.toNat)
  | .sent => .int s.sent
  | .received => .int s.received
  | .subject => textOrNull s.subject
  | .sender => textOrNull s.sender
  | .recipients => textOrNull s.recipients
  | .copies => textOrNull s.copies
  | .mailingList => textOrNull s.mailingList
  | .labels => .text s.labelsText
  | .tags => .text s.tagsText

end MailQuery.Mail
