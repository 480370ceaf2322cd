import MailQuery.Files.Binary
import MailQuery.Index.Basic

/-!
# The file format of indexes

An index file starts with a header of 128 bytes, which says for what mailbox file it was written. The
index itself follows; what stands behind it is ignored.
-/

namespace MailQuery.Index

open Binary Mail Search

/-- The bytes that index files start with. -/
def magic : Bytes := Text.bytesOf "MSRCHIX\x00"

/-- The version of the format. -/
def version : UInt32 := 1

/-- The flag of a header that says that the words of the bodies are indexed. -/
def wordsFlag : UInt32 := 1

/-- The number of bytes of a header. -/
def headerSize : Nat := 128

/-- What an index says of the mailbox file for which it was written. -/
structure Stamp where
  size : UInt64
  /-- When the file was last changed, in seconds since the start of 1970. -/
  modified : Int64
  /-- The digest of the start of the file. -/
  digest : Bytes
deriving DecidableEq, Repr

/-- The header of an index file. -/
structure Header where
  magic : Bytes
  version : UInt32
  flags : UInt32
  /-- The number of summaries. -/
  count : UInt64
  stamp : Stamp
deriving DecidableEq, Repr

/-- The header of an index for a mailbox file. -/
def Header.ofIndex (index : Index) (stamp : Stamp) : Header :=
  { magic := Index.magic, version := Index.version
    flags := if index.words.isSome then wordsFlag else 0
    count := index.summaries.length.toUInt64, stamp }

/-- Whether a header was written in this format. -/
def Header.isKnown (h : Header) : Bool := h.magic == Index.magic && h.version == Index.version

/-- Whether a header belongs to an index. -/
def Header.describes (h : Header) (index : Index) : Bool :=
  index.summaries.length == h.count.toNat && index.words.isSome == (h.flags &&& wordsFlag != 0)

/-! ### Writing -/

/-- The bytes of a header. -/
def Header.write (h : Header) : Bytes :=
  let bs := h.magic ++ writeWord h.version ++ writeWord h.flags ++ writeNat h.count ++
    writeNat h.stamp.size ++ writeInt h.stamp.modified ++ h.stamp.digest
  bs ++ List.replicate (headerSize - bs.length) 0

/-- The bytes of a span. -/
def writeSpan (s : Span) : Bytes := writeNat s.offset ++ writeNat s.length

/-- The bytes of a pair of texts. -/
def writePair (p : String × String) : Bytes := writeText p.1 ++ writeText p.2

/-- The bytes of a summary. -/
def writeSummary (s : Summary) : Bytes :=
  writeText s.uid ++ (writeWord s.flags.bits ++ (writeList writeText s.userFlags.toList ++
  (writeList writePair s.userTags.entries ++ (writeText s.subject ++ (writeText s.sender ++
  (writeText s.recipients ++ (writeText s.copies ++ (writeText s.mailingList ++ (writeInt s.sent ++
  (writeInt s.received ++ (writeNat s.size ++ (writeText s.messageId ++
  (writeOption writeText s.inReplyTo ++ (writeList writeText s.references ++
  writeOption writeSpan s.span))))))))))))))

/-- The bytes of a word with its uids. -/
def writeEntry (e : String × List String) : Bytes := writeText e.1 ++ writeList writeText e.2

/-- The bytes of a word index. -/
def writeWords (w : WordIndex) : Bytes := writeList writeEntry w.vocabulary.entries

/-- The bytes of an index. -/
def write (index : Index) : Bytes :=
  writeList writeSummary index.summaries ++ writeOption writeWords index.words

/-- The bytes of an index file for a mailbox file. -/
def file (index : Index) (stamp : Stamp) : Bytes := (Header.ofIndex index stamp).write ++ index.write

/-! ### Reading -/

/-- Reads a header. -/
def readHeader : Reader Header := do
  let magic ← readBytes 8
  let version ← readWord
  let flags ← readWord
  let count ← readNat
  let size ← readNat
  let modified ← readInt
  let digest ← readBytes 32
  pure { magic, version, flags, count, stamp := { size, modified, digest } }

/-- Reads a span. -/
def readSpan : Reader Span := do
  let offset ← readNat
  let length ← readNat
  pure ⟨offset, length⟩

/-- Reads a pair of texts. -/
def readPair : Reader (String × String) := do
  let first ← readText
  let second ← readText
  pure (first, second)

/-- Reads a summary. -/
def readSummary : Reader Summary := do
  let uid ← readText
  let bits ← readWord
  let userFlags ← readList readText
  let userTags ← readList readPair
  let subject ← readText
  let sender ← readText
  let recipients ← readText
  let copies ← readText
  let mailingList ← readText
  let sent ← readInt
  let received ← readInt
  let size ← readNat
  let messageId ← readText
  let inReplyTo ← readOption readText
  let references ← readList readText
  let span ← readOption readSpan
  pure { uid, flags := ⟨bits⟩, userFlags := .ofList userFlags, userTags := .ofList userTags, subject
         sender, recipients, copies, mailingList, sent, received, size, messageId, inReplyTo
         references, span }

/-- Reads a word with its uids. -/
def readEntry : Reader (String × List String) := do
  let word ← readText
  let uids ← readList readText
  pure (word, uids)

/-- Reads a word index. -/
def readWords : Reader WordIndex := do
  let entries ← readList readEntry
  pure ⟨.ofList entries⟩

/-- Reads an index. -/
def read : Reader Index := do
  let summaries ← readList readSummary
  let words ← readOption readWords
  pure { summaries, words }

end MailQuery.Index
