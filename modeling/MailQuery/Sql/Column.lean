import MailQuery.Text.Case

/-!
# Columns of a folder table

A folder table has one row per message. Expressions call its columns by the names of headers, flags
and labels.
-/

namespace MailQuery.Sql

open Text

/-- A column of a folder table. -/
inductive Column where
  | uid
  /-- All system flags, as the number of their bits. -/
  | flags
  | read
  | deleted
  | replied
  | important
  | junk
  | attachment
  | size
  | sent
  | received
  | subject
  | sender
  | recipients
  | copies
  | mailingList
  | labels
  | tags
deriving DecidableEq, Repr

namespace Column

/-- All columns, in the order of the table. -/
def all : List Column :=
  [uid, flags, read, deleted, replied, important, junk, attachment, size, sent, received, subject,
   sender, recipients, copies, mailingList, labels, tags]

theorem mem_all (c : Column) : c ∈ all := by cases c <;> decide

/-- The name of a column in statements. -/
def name : Column → String
  | uid => "uid"
  | flags => "flags"
  | read => "read"
  | deleted => "deleted"
  | replied => "replied"
  | important => "important"
  | junk => "junk"
  | attachment => "attachment"
  | size => "size"
  | sent => "dsent"
  | received => "dreceived"
  | subject => "subject"
  | sender => "mail_from"
  | recipients => "mail_to"
  | copies => "mail_cc"
  | mailingList => "mlist"
  | labels => "labels"
  | tags => "usertags"

/-- The column of a name in a statement, which may be in any case. -/
def ofName? (name : String) : Option Column :=
  all.find? fun c => eqIgnoreAsciiCase c.name.toList name.toList

/-- Whether a column holds text; the others hold integers. -/
def isText : Column → Bool
  | uid | subject | sender | recipients | copies | mailingList | labels | tags => true
  | _ => false

/-- The columns of headers, flags and labels, by the names that expressions use. -/
def aliases : List (String × Column) :=
  [("subject", subject), ("from", sender), ("cc", copies), ("to", recipients),
   ("flagged", important), ("deleted", deleted), ("junk", junk), ("answered", replied),
   ("seen", read), ("user-tag", tags), ("user-flag", labels), ("attachments", attachment),
   ("x-camel-mlist", mailingList)]

/-- The column that an expression means by a name, which may be in any case. -/
def ofAlias? (name : String) : Option Column :=
  (aliases.find? fun e => eqIgnoreAsciiCase e.1.toList name.toList).map (·.2)

/-- Whether a column holds one flag. -/
def isFlag : Column → Bool
  | important | deleted | junk | replied | read | attachment => true
  | _ => false

end Column

end MailQuery.Sql
