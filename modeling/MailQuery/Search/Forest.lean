import MailQuery.Search.References
import MailQuery.Search.Subject
import MailQuery.Value

/-!
# Threads

The messages of a folder form a forest, in which the parent of a message is the nearest message before
it that is in the folder. A reply of which no such message is known belongs to the first message with
its subject that is no reply itself.

A message is linked to its parent, to its first child and to the next child of its parent. Walks
through the forest follow these links: `Forest.lineage` upwards, `Forest.children` along the siblings, and
`Forest.subtree` downwards with a stack. They take as many steps as there are messages, which is
enough in a forest.

`Expansion` says which messages of their threads are added to a set of messages.
-/

namespace MailQuery.Search

open Mail

/-- A message in the forest, linked to others by their places. -/
structure Node where
  uid : String
  parent : Option Nat
  firstChild : Option Nat
  nextSibling : Option Nat
deriving DecidableEq, Repr

/-- The messages of a folder in their order, and the places of those without parent. -/
structure Forest where
  nodes : List Node
  roots : List Nat
deriving DecidableEq, Repr

/-- The places that are passed when `next` is followed from a start, at most `fuel` of them. -/
def follow (next : Nat → Option Nat) : Nat → Option Nat → List Nat
  | 0, _ => []
  | _ + 1, none => []
  | fuel + 1, some i => i :: follow next fuel (next i)

namespace Forest

/-- The number of messages. -/
def size (f : Forest) : Nat := f.nodes.length

/-- The parent of the message at a place. -/
def parent? (f : Forest) (i : Nat) : Option Nat := f.nodes[i]?.bind (·.parent)

/-- The first child of the message at a place. -/
def firstChild? (f : Forest) (i : Nat) : Option Nat := f.nodes[i]?.bind (·.firstChild)

/-- The next child of the parent of the message at a place. -/
def nextSibling? (f : Forest) (i : Nat) : Option Nat := f.nodes[i]?.bind (·.nextSibling)

/-- The uid of the message at a place. -/
def uid? (f : Forest) (i : Nat) : Option String := f.nodes[i]?.map (·.uid)

/-- The place of the first message of a uid. -/
def find? (f : Forest) (uid : String) : Option Nat := f.nodes.findIdx? (·.uid == uid)

/-- The places of the children of the message at a place. -/
def children (f : Forest) (i : Nat) : List Nat := follow f.nextSibling? f.size (f.firstChild? i)

/-- The place and those above it, upwards. -/
def lineage (f : Forest) (i : Nat) : List Nat := follow f.parent? f.size (some i)

/-- The places that are taken from a stack, when each of them gives way to its children, at most
`fuel` of them. -/
def drain (f : Forest) : Nat → List Nat → List Nat
  | _, [] => []
  | 0, _ :: _ => []
  | fuel + 1, i :: stack => i :: f.drain fuel ((f.children i).reverse ++ stack)

/-- The place and those below it. -/
def subtree (f : Forest) (i : Nat) : List Nat := f.drain f.size [i]

/-- The place of the first message of the thread. -/
def root (f : Forest) (i : Nat) : Nat := (f.lineage i).getLastD i

/-- Whether the message at a place is alone in its thread. -/
def isAlone (f : Forest) (i : Nat) : Bool := (f.parent? i).isNone && (f.firstChild? i).isNone

end Forest

/-- A forest that is being linked. -/
structure Linking extends Forest where
  /-- The last child of each message so far. -/
  lastChild : List (Option Nat)

namespace Linking

/-- Messages without links. -/
def start (uids : List String) : Linking :=
  ⟨⟨uids.map fun uid => ⟨uid, none, none, none⟩, []⟩, uids.map fun _ => none⟩

/-- The links with those of the message at a place to its parent, of which it becomes the last
child. -/
def add (l : Linking) (i : Nat) : Option Nat → Linking
  | none => { l with roots := l.roots ++ [i] }
  | some p =>
    let nodes := l.nodes.modify i fun n => { n with parent := some p }
    let nodes :=
      match l.lastChild[p]?.join with
      | some before => nodes.modify before fun n => { n with nextSibling := some i }
      | none => nodes.modify p fun n => { n with firstChild := some i }
    { l with nodes, lastChild := l.lastChild.set p (some i) }

/-- The links after those of some messages, given by parent and place. -/
def addAll (l : Linking) (parents : List (Option Nat × Nat)) : Linking :=
  parents.foldl (fun l (parent, i) => l.add i parent) l

end Linking

namespace Forest

/-- The messages that start a subject, with the subject. -/
def subjectRoots (summaries : List Summary) (parents : List (Option Nat)) : List (String × Nat) :=
  (summaries.zip parents).zipIdx.filterMap fun ((s, parent), i) =>
    if parent.isNone && !isReplySubject s.subject then some (baseSubject s.subject, i) else none

/-- The parent of a message, which for a reply without one is the first message of its subject. -/
def adopt (roots : List (String × Nat)) (s : Summary) (parent : Option Nat) : Option Nat :=
  match parent with
  | some p => some p
  | none => if isReplySubject s.subject then roots.lookup (baseSubject s.subject) else none

/-- The parents of a list of messages. -/
def parentsOf (summaries : List Summary) : List (Option Nat) :=
  let parents := (Links.ofSummaries summaries).parents
  summaries.zipWith (adopt (subjectRoots summaries parents)) parents

/-- The forest of messages whose parents are known. -/
def ofParents (uids : List String) (parents : List (Option Nat)) : Forest :=
  ((Linking.start uids).addAll parents.zipIdx).toForest

/-- The forest of a list of messages. -/
def ofSummaries (summaries : List Summary) : Forest :=
  ofParents (summaries.map (·.uid)) (parentsOf summaries)

end Forest

/-- Which messages of their threads are added to a set of messages, its seeds. -/
inductive Expansion where
  /-- None: the set stays as it is. -/
  | none
  /-- The whole thread of each seed. -/
  | all
  /-- What is below each seed. -/
  | replies
  /-- What is below and above each seed. -/
  | repliesAndParents
  /-- No message; only the seeds that are alone in their thread stay. -/
  | single
deriving DecidableEq, Repr

namespace Expansion

/-- The expansion of a name. Unknown names mean that the set stays as it is. -/
def ofName (name : String) : Expansion :=
  if name = "all" then all
  else if name = "replies" then replies
  else if name = "replies_parents" then repliesAndParents
  else if name = "single" then single
  else none

/-- The places of the messages that a seed brings in. -/
def related (e : Expansion) (f : Forest) (i : Nat) : List Nat :=
  match e with
  | none => []
  | all => f.subtree (f.root i)
  | replies => f.subtree i
  | repliesAndParents => f.lineage i ++ f.subtree i
  | single => if f.isAlone i then [i] else []

/-- The uids of the messages that a seed brings in. -/
def relatedUids (e : Expansion) (f : Forest) (seed : String) : List String :=
  match f.find? seed with
  | some i => (e.related f i).filterMap f.uid?
  | Option.none => []

/-- A set of messages, expanded. -/
def expand (e : Expansion) (f : Forest) (seeds : UidSet) : UidSet :=
  let kept := if e = single then ∅ else seeds
  kept.insertAll (seeds.toList.flatMap (e.relatedUids f))

end Expansion

end MailQuery.Search
