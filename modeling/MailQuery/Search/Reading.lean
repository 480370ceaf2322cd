import MailQuery.Error
import MailQuery.Mail.Message

/-!
# Computations that read messages

An evaluation may ask for messages by their uids. What it asks for is part of its result, so that it
can be run on any source of messages: `Reading.run` takes a source that never changes, and
`Reading.runOn` one with a state, such as a cache. A message that cannot be had is `none`; other
failures of the source end the computation.
-/

namespace MailQuery.Search

open Mail

/-- A computation that may read messages. -/
inductive Reading (α : Type) where
  | done (result : Except SearchError α)
  | read (uid : String) (next : Option Message → Reading α)

namespace Reading

variable {α β : Type}

/-- The computation that fails. -/
def fail (e : SearchError) : Reading α := done (.error e)

/-- A computation and what is to be done with its result. -/
def bind : Reading α → (α → Reading β) → Reading β
  | done (.ok a), f => f a
  | done (.error e), _ => done (.error e)
  | read uid next, f => read uid fun m => (next m).bind f

instance : Monad Reading where
  pure a := done (.ok a)
  bind := bind

instance : Inhabited (Reading α) := ⟨done (.error .cancelled)⟩

/-- Asks for a message. -/
def message? (uid : String) : Reading (Option Message) := read uid pure

/-- What a source gives for a message: one that cannot be had is none. -/
def optional : Except SearchError Message → Except SearchError (Option Message)
  | .ok m => .ok (some m)
  | .error (.unavailable _) => .ok none
  | .error e => .error e

/-- The result of a computation on a source of messages. -/
def run (fetch : String → Except SearchError Message) : Reading α → Except SearchError α
  | done result => result
  | read uid next =>
    match optional (fetch uid) with
    | .error e => .error e
    | .ok m? => (next m?).run fetch

/-- The result of a computation on a source of messages that changes, and the source afterwards. -/
def runOn {σ : Type} (fetch : String → σ → Except SearchError Message × σ) :
    Reading α → σ → Except SearchError α × σ
  | done result, s => (result, s)
  | read uid next, s =>
    match fetch uid s with
    | (answer, s) =>
      match optional answer with
      | .error e => (.error e, s)
      | .ok m? => (next m?).runOn fetch s

@[simp] theorem run_pure (fetch : String → Except SearchError Message) (a : α) :
    (pure a : Reading α).run fetch = .ok a := rfl

@[simp] theorem run_fail (fetch : String → Except SearchError Message) (e : SearchError) :
    (fail e : Reading α).run fetch = .error e := rfl

theorem pure_bind (a : α) (f : α → Reading β) : (pure a : Reading α) >>= f = f a := rfl

theorem run_bind (fetch : String → Except SearchError Message) (x : Reading α)
    (f : α → Reading β) : (x >>= f).run fetch = x.run fetch >>= fun a => (f a).run fetch := by
  show (x.bind f).run fetch = _
  induction x with
  | done r => cases r <;> rfl
  | read uid next ih =>
    simp only [bind, run]
    cases optional (fetch uid) with
    | error e => rfl
    | ok m? => exact ih m?

end Reading

end MailQuery.Search
