import MailQuery.Data.SortedMap
import MailQuery.Search.HeaderMatch
import MailQuery.Value

/-!
# Word indexes

A word index lists the words of message bodies and for each of them the messages that it stands in.
A search word is found in a message if some word of the message contains it, so that a look-up has to
go through the whole vocabulary. It does so once for all words of a query: `WordIndex.marks` notes for each
message which of them were found.
-/

namespace MailQuery.Search

open Text

/-- The vocabulary of some messages, and the uids of each word in the order of the messages. -/
structure WordIndex where
  vocabulary : SortedMap (List String)
deriving DecidableEq

namespace WordIndex

/-- The index of no messages. -/
def empty : WordIndex := ⟨∅⟩

instance : Inhabited WordIndex := ⟨empty⟩

/-- The number of words of the vocabulary. -/
def size (index : WordIndex) : Nat := index.vocabulary.entries.length

/-- The uids of a word of the vocabulary. -/
def postings (index : WordIndex) (word : String) : List String :=
  (index.vocabulary.get? word).getD []

/-- A list of uids with one more, which is not repeated. -/
def post (uid : String) (uids : List String) : List String :=
  if uids.getLast? = some uid then uids else uids ++ [uid]

/-- The index with one more occurrence of a word. -/
def addWord (index : WordIndex) (uid word : String) : WordIndex :=
  ⟨index.vocabulary.alter word fun uids? => some (post uid (uids?.getD []))⟩

/-- The words of a text: its longest runs of letters and numbers, in lower case. -/
def bodyWords (text : String) : List String :=
  (runsWithout (!isAlphanumeric ·) text.toList).map fun run => String.ofList (lower run)

/-- The index with the words of one more message. -/
def addMessage (index : WordIndex) (uid text : String) : WordIndex :=
  (bodyWords text).foldl (·.addWord uid) index

/-- Whether a message is listed under a word that contains `word`. -/
def mentions (index : WordIndex) (uid : String) (word : List Char) : Bool :=
  index.vocabulary.entries.any fun (entry, uids) =>
    containsFolded entry.toList word && uids.contains uid

/-- The greatest number of words of a query that are looked up. -/
def maxQueryWords : Nat := 32

/-- The words of a query that were found in each message, as the bits of a number. -/
abbrev Marks := SortedMap UInt64

/-- The bit of a word of a query. -/
def wordBit (place : Nat) : UInt64 := 1 <<< place.toUInt64

/-- The bits of the first words of a query. -/
def allBits (count : Nat) : UInt64 := wordBit count - 1

/-- The marks with one more bit for a message. -/
def mark (bit : UInt64) (marks : Marks) (uid : String) : Marks :=
  marks.alter uid fun bits? => some (bits?.getD 0 ||| bit)

/-- The marks after a word of the vocabulary was compared with the words of a query, which have a place
each. -/
def markWord (query : List (List Char × Nat)) (marks : Marks) (entry : String × List String) : Marks :=
  query.foldl (fun marks (word, place) =>
    if containsFolded entry.1.toList word then entry.2.foldl (mark (wordBit place)) marks
    else marks) marks

/-- The marks of a query after one pass through the vocabulary. -/
def marks (index : WordIndex) (words : List (List Char)) : Marks :=
  index.vocabulary.entries.foldl (markWord words.zipIdx) ∅

/-- The messages in which all words of a query are found. Of a long query only the first words count.
The look-up can be cancelled once there is something to look through. -/
def lookup (index : WordIndex) (query : Query) (cancelled : Bool) : Except SearchError UidSet :=
  let words := (query.map Word.text).take maxQueryWords
  if words.isEmpty then .ok ∅
  else if cancelled && index.size != 0 then .error .cancelled
  else
    .ok (TextSet.ofList
      (((index.marks words).entries.filter (·.2 == allBits words.length)).map (·.1)))

end WordIndex

end MailQuery.Search
