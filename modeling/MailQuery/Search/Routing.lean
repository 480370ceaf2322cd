import MailQuery.Expr.Builtin
import MailQuery.Text.Find

/-!
# Which expressions need messages

Some functions read more of a message than its row in the folder table says, or compare it in a way
that the database does not know. An expression that names one of them is evaluated on the messages.
-/

namespace MailQuery.Search

/-- The functions that are never left to the database. -/
def memoryOnly : List Builtin :=
  [.bodyContains, .bodyRegex, .matchThreads, .messageLocation, .header .soundex, .headerRegex,
   .headerFullRegex, .header .contains, .header .words]

/-- Whether the name of one of these functions stands anywhere in the text of an expression, even
in a string. -/
def needsMemory (expression : String) : Bool :=
  memoryOnly.any fun f => Text.isInfix f.name.toList expression.toList

end MailQuery.Search
