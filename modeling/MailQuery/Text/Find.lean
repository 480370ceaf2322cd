/-!
# Finding a text in a text

Substring tests and cuts on lists. Every test is characterised by the relation of core that it
decides: `isInfix_iff`.
-/

namespace MailQuery.Text

variable {α : Type} [BEq α]

/-- Whether `needle` stands somewhere in a list. -/
def isInfix (needle : List α) : List α → Bool
  | [] => needle.isEmpty
  | c :: cs => needle.isPrefixOf (c :: cs) || isInfix needle cs

theorem isInfix_iff [LawfulBEq α] {needle cs : List α} :
    isInfix needle cs = true ↔ needle <:+: cs := by
  induction cs with
  | nil => simp [isInfix]
  | cons c cs ih => simp [isInfix, ih, List.infix_cons_iff]

/-- The list before and after the first place where `mark` stands. -/
def cutAt? (mark : List α) : List α → Option (List α × List α)
  | [] => if mark.isEmpty then some ([], []) else none
  | c :: cs =>
    if mark.isPrefixOf (c :: cs) then some ([], (c :: cs).drop mark.length)
    else (cutAt? mark cs).map fun (before, after) => (c :: before, after)

/-- The list before and after the first element that `p` marks. -/
def cutWhere? {α : Type} (p : α → Bool) (cs : List α) : Option (List α × List α) :=
  match cs.dropWhile (!p ·) with
  | [] => none
  | _ :: after => some (cs.takeWhile (!p ·), after)

/-- The list before and after the last element that `p` marks. -/
def cutWhereLast? {α : Type} (p : α → Bool) (cs : List α) : Option (List α × List α) :=
  (cutWhere? p cs.reverse).map fun (after, before) => (before.reverse, after.reverse)

/-- What follows `mark` at the start of a list. -/
def stripStart? (mark cs : List α) : Option (List α) :=
  if mark.isPrefixOf cs then some (cs.drop mark.length) else none

/-- The lists joined with `glue` between them. -/
def joinWith {α : Type} (glue : List α) : List (List α) → List α
  | [] => []
  | [xs] => xs
  | xs :: ys :: rest => xs ++ glue ++ joinWith glue (ys :: rest)

end MailQuery.Text
