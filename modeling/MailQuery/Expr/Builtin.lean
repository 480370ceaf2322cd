/-!
# Functions of the expression language

The functions by what they do, and the names under which expressions call them.
-/

namespace MailQuery

/-- A style in which a header value is compared with a pattern. -/
inductive MatchStyle where
  | exact
  | contains
  /-- Every word of the pattern is a word of the value. -/
  | words
  | startsWith
  | endsWith
  /-- Some word of the value sounds like the pattern. -/
  | soundex
deriving DecidableEq, Repr

/-- The comparisons of values. -/
inductive Comparison where
  | equal
  | less
  | greater
deriving DecidableEq, Repr

/-- A function of the expression language. -/
inductive Builtin where
  | and
  | or
  | not
  | compare (comparison : Comparison)
  | add
  | subtract
  | ifThen
  | castInt
  | castString
  | matchAll
  | matchThreads
  | header (style : MatchStyle)
  | headerExists
  | headerRegex
  | headerFullRegex
  | bodyContains
  | bodyRegex
  | userTag
  | userFlag
  | systemFlag
  | sentDate
  | receivedDate
  | currentDate
  | relativeMonths
  | size
  | uid
  | messageLocation
  | makeTime
  | compareDate
  /-- A condition that is written in the language of the database. -/
  | sqlExp
deriving DecidableEq, Repr

/-- The name of a comparison, in expressions and in conditions of the database. -/
def Comparison.name : Comparison → String
  | equal => "="
  | less => "<"
  | greater => ">"

/-- The name under which expressions call a function. -/
def Builtin.name : Builtin → String
  | and => "and"
  | or => "or"
  | not => "not"
  | compare c => c.name
  | add => "+"
  | subtract => "-"
  | ifThen => "if"
  | castInt => "cast-int"
  | castString => "cast-string"
  | matchAll => "match-all"
  | matchThreads => "match-threads"
  | header .contains => "header-contains"
  | header .exact => "header-matches"
  | header .startsWith => "header-starts-with"
  | header .endsWith => "header-ends-with"
  | header .soundex => "header-soundex"
  | header .words => "header-has-words"
  | headerExists => "header-exists"
  | headerRegex => "header-regex"
  | headerFullRegex => "header-full-regex"
  | bodyContains => "body-contains"
  | bodyRegex => "body-regex"
  | userTag => "user-tag"
  | userFlag => "user-flag"
  | systemFlag => "system-flag"
  | sentDate => "get-sent-date"
  | receivedDate => "get-received-date"
  | currentDate => "get-current-date"
  | relativeMonths => "get-relative-months"
  | size => "get-size"
  | uid => "uid"
  | messageLocation => "message-location"
  | makeTime => "make-time"
  | compareDate => "compare-date"
  | sqlExp => "sql-exp"

/-- All functions. -/
def Builtin.all : List Builtin :=
  [and, or, not, compare .equal, compare .less, compare .greater, add, subtract, ifThen, castInt,
   castString, matchAll, matchThreads, header .contains, header .exact, header .startsWith,
   header .endsWith, header .soundex, header .words, headerExists, headerRegex, headerFullRegex,
   bodyContains, bodyRegex, userTag, userFlag, systemFlag, sentDate, receivedDate, currentDate,
   relativeMonths, size, uid, messageLocation, makeTime, compareDate, sqlExp]

/-- The function of a name. -/
def Builtin.ofName? (name : String) : Option Builtin := all.find? (·.name == name)

theorem Builtin.name_of_ofName? {name : String} {f : Builtin} (h : ofName? name = some f) :
    f.name = name := by
  simpa using List.find?_some h

end MailQuery
