import MailQuery.Mail.Mailbox
import MailQuery.Mail.Message
import MailQuery.Search.WordIndex

/-!
# Indexes of mailbox files

An index holds what is known of a mailbox file without reading it again: the summaries of its messages,
whose uids count from one, and, if it is wanted, the index of their words.
-/

namespace MailQuery

open Mail Search

/-- The index of a mailbox file. -/
structure Index where
  summaries : List Summary
  words : Option WordIndex
deriving DecidableEq

namespace Index

instance : Inhabited Index := ⟨⟨[], none⟩⟩

/-- What an index is built with. -/
structure Options where
  /-- Whether the words of the bodies are indexed. -/
  wantsWords : Bool
  /-- The number of bytes that are kept of a message. -/
  limit : Nat
deriving DecidableEq, Repr

/-- The messages of a mailbox with their uids. -/
def numbered (pieces : List Piece) : List (String × Piece) :=
  (pieces.zipIdx 1).map fun (p, n) => (toString n, p)

/-- The word index of some messages. -/
def wordsOf (pieces : List (String × Piece)) : WordIndex :=
  pieces.foldl (fun words (uid, p) => words.addMessage uid (Message.ofRaw p.bytes).bodyText) .empty

/-- The index of the messages of a mailbox. -/
def ofPieces (wantsWords : Bool) (pieces : List Piece) : Index :=
  let messages := numbered pieces
  { summaries := messages.map fun (uid, p) => Summary.ofRaw uid p.bytes (some p.span)
    words := if wantsWords then some (wordsOf messages) else none }

end Index

end MailQuery
