import MailQuery.Mail.Message

/-!
# The cache of decoded messages

A cache keeps the messages that were asked for last, no more than its capacity.
-/

namespace MailQuery

open Mail

/-- Decoded messages by their uids, the one that was used last in front. -/
structure Cache where
  capacity : Nat
  entries : List (String × Message)

namespace Cache

/-- The empty cache, which has room for at least one message. -/
def empty (capacity : Nat) : Cache := ⟨max 1 capacity, []⟩

instance : Inhabited Cache := ⟨empty 1⟩

/-- The message of a uid. -/
def find? (c : Cache) (uid : String) : Option Message := c.entries.lookup uid

/-- The cache without the message of a uid. -/
def erase (c : Cache) (uid : String) : Cache :=
  { c with entries := c.entries.filter (·.1 != uid) }

/-- The cache after a message was used. Where there is no more room the message goes that has not been
used for the longest time. -/
def use (c : Cache) (uid : String) (m : Message) : Cache :=
  { c with entries := ((uid, m) :: (c.erase uid).entries).take c.capacity }

end Cache

end MailQuery
