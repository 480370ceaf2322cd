import MailQuery.Text.Case

/-!
# System flags

The flags that every message carries, as bits of a word, and their names.
-/

namespace MailQuery.Mail

/-- A set of system flags. -/
structure Flags where
  bits : UInt32
deriving DecidableEq, Repr, Inhabited

namespace Flags

/-- The message was answered. -/
def answered : UInt32 := 0x1

/-- The message is marked for deletion. -/
def deleted : UInt32 := 0x2

/-- The message is a draft. -/
def draft : UInt32 := 0x4

/-- The message is marked as important. -/
def flagged : UInt32 := 0x8

/-- The message was read. -/
def seen : UInt32 := 0x10

/-- The message has attachments. -/
def attachments : UInt32 := 0x20

/-- The message is junk. -/
def junk : UInt32 := 0x80

/-- The message is signed or encrypted. -/
def secure : UInt32 := 0x100

/-- The message is known not to be junk. -/
def notJunk : UInt32 := 0x200

/-- The message is to be learned as junk. -/
def junkLearn : UInt32 := 0x8000

/-- The names of the flags. -/
def names : List (String × UInt32) :=
  [("answered", answered), ("deleted", deleted), ("draft", draft), ("flagged", flagged),
   ("seen", seen), ("attachments", attachments), ("junk", junk), ("notjunk", notJunk),
   ("secure", secure), ("junklearn", junkLearn)]

/-- No flag at all. -/
def none : Flags := ⟨0⟩

/-- The bit of a flag, whose name may be in any case; zero for what is no flag. -/
def bitForName (name : String) : UInt32 :=
  ((names.find? fun e => Text.eqIgnoreAsciiCase e.1.toList name.toList).map (·.2)).getD 0

/-- Whether one of the given bits is set. -/
def contains (f : Flags) (bit : UInt32) : Bool := bit != 0 && f.bits &&& bit != 0

/-- Whether the flag of a name is set. -/
def isSet (f : Flags) (name : String) : Bool := f.contains (bitForName name)

/-- The flags with some bits set or cleared. -/
def set (f : Flags) (bit : UInt32) (on : Bool) : Flags :=
  ⟨if on then f.bits ||| bit else f.bits &&& ~~~bit⟩

end Flags

end MailQuery.Mail
