import MailQuery.Mail.Body
import MailQuery.Mail.Header

/-!
# Decoded messages

A message that has been read: its headers and the text of its body.
-/

namespace MailQuery.Mail

open Text

/-- A message that has been read and decoded. -/
structure Message where
  headers : List Header
  texts : List String
deriving DecidableEq, Repr

namespace Message

/-- Reads a raw message. -/
def ofRaw (raw : Bytes) : Message :=
  let bs := skipFromLine raw
  let (block, body) := splitMessage bs
  { headers := rawHeaders block
    texts := (bodyTexts? bs).getD [String.ofList (utf8Lenient body)] }

/-- The value of the first header of a name. -/
def header? (m : Message) (name : String) : Option String := headerValue? m.headers name

/-- The values of the headers of a name; of all headers for the empty name. -/
def headersNamed (m : Message) (name : String) : List String :=
  (m.headers.filter fun h => name == "" || h.isNamed name).map (·.value)

/-- A header as a line, with a space after the colon where the value does not start with one. -/
def headerLine (h : Header) : String :=
  h.name ++ ":" ++ (if h.value.toList.head?.any isBlank then "" else " ") ++ h.value ++ "\n"

/-- The headers as lines. -/
def headerBlock (m : Message) : String := String.join (m.headers.map headerLine)

/-- The text of the body, part after part. -/
def bodyText (m : Message) : String := String.intercalate "\n" m.texts

end Message

end MailQuery.Mail
