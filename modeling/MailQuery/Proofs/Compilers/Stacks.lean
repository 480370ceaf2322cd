import MailQuery.Proofs.Compilers.Malformed

/-!
# The stacks of the first pass

The compiler of tokens takes calls and operands off its stacks wherever a call is reduced, and a value may go outward through
several calls at once while other parentheses inside them are still open. `Consistent` is what holds of the stacks after every
move: the calls that wait are those of the frames that wait, in the same order, and the operands of each lie above those of the
calls around it.

`Checked` is the first pass with a check of everything that it takes for granted: that the call which is reduced is the one of
the frame that asks for it, and that no height and no depth becomes negative. On consistent stacks a checked move comes to the
same as the move itself and leaves consistent stacks (`Safe`, `Consistent.step`), so that no run ever fails a check
(`Consistent.run`). `consistent_of_run` is the main statement.
-/

namespace MailQuery.Sql.Stack

variable {now : Int64}

/-! ### Checks -/

/-- Why a run with checks stops. -/
inductive Stop where
  /-- A stack does not have what is taken off it, or a number would be negative. -/
  | fault
  | error (e : SearchError)
deriving DecidableEq, Repr

/-- The result of what needs no check. -/
def Stop.lift {α : Type} (x : Except SearchError α) : Except Stop α := x.mapError .error

@[simp] theorem Stop.lift_ok {α : Type} (a : α) : Stop.lift (.ok a) = .ok a := rfl

namespace Checked

/-- The value of the innermost waiting call, which is to be the given one and to have its operands on the stack. -/
def reduce (now : Int64) (id : Nat) (w : Work) : Except Stop (Operand × Work) :=
  match w.nodes with
  | [] => .error .fault
  | node :: nodes =>
    if node.id = id ∧ node.base ≤ w.operands.length then do
      let value ← Stop.lift (Operand.call now node.function (w.operands.drop node.base))
      return (value, { w with nodes, operands := w.operands.take node.base })
    else .error .fault

/-- Whether the innermost waiting call is the given one and has the operands that it takes. -/
def isReady (id : Nat) (w : Work) : Except Stop Bool :=
  match w.nodes with
  | [] => .ok false
  | node :: _ =>
    match node.take with
    | .untilClose => .ok false
    | .operands count =>
      if node.id = id then
        if node.base ≤ w.operands.length then .ok (count ≤ w.operands.length - node.base) else .error .fault
      else .ok false

/-- Hands a value to the innermost frame. -/
def deliver (now : Int64) : List Frame → Work → Operand → Except Stop State
  | .call _ true :: _, _, _ => .error (.error (.arity "sql" .tooManyValues))
  | .call id false :: frames, w, o => do
    let w := w.push o
    if ← isReady id w then
      let (value, w) ← reduce now id w
      let s ← deliver now frames w value
      return ⟨.call id true :: s.frames, s.work⟩
    else return ⟨.call id false :: frames, w⟩
  | frames, w, o => .ok ⟨frames, w.emit o⟩

/-- Reduces the waiting call of a frame and hands its value to the frames around it. -/
def reduceInto (now : Int64) (id : Nat) (frames : List Frame) (w : Work) : Except Stop State := do
  let (value, w) ← reduce now id w
  deliver now frames w value

/-- Opens a call. -/
def openCall (now : Int64) (s : State) (f : Builtin) (take : Take) : Except Stop State :=
  let w := s.work
  let node := ⟨w.nextId, f, take, w.operands.length⟩
  let w := { w with nodes := node :: w.nodes, nextId := w.nextId + 1 }
  if take = .operands 0 then do
    let t ← reduceInto now node.id s.frames w
    return ⟨.call node.id true :: t.frames, t.work⟩
  else return ⟨.call node.id false :: s.frames, w⟩

/-- Opens `match-all`. Its mark is the length of the output without the truth value that has just been written. -/
def openMatchAll (s : State) (literal : Option Bool) : Except Stop State :=
  let w := literal.elim s.work fun b => s.work.emit (.condition (.truth b))
  let written := if literal.isSome then 1 else 0
  if written ≤ w.output.length then .ok ⟨.matchAll (w.output.length - written) :: s.frames, w⟩ else .error .fault

/-- Closes the innermost frame. -/
def close (now : Int64) (s : State) (offset : Nat) : Except Stop State :=
  match s.frames with
  | .logic :: frames =>
    if 0 < s.work.level then .ok ⟨frames, { s.work with level := s.work.level - 1 }⟩ else .error .fault
  | .call id false :: frames => reduceInto now id frames s.work
  | _ => Stop.lift (Stack.close now s offset)

/-- The state after a move. -/
def step (now : Int64) (s : State) : Move → Except Stop State
  | .openMatchAll literal => openMatchAll s literal
  | .openCall f take => openCall now s f take
  | .close offset => close now s offset
  | .value o => deliver now s.frames s.work o
  | m => Stop.lift (Stack.step now s m)

/-- The state after a list of moves. -/
def run (now : Int64) (s : State) : List Move → Except Stop State
  | [] => .ok s
  | m :: ms => do run now (← step now s m) ms

/-- The condition of an expression. -/
def compile (now : Int64) (text : String) : Except Stop Expr := do
  let lexemes ← Stop.lift (tokenize text)
  let s ← run now .start (moves lexemes)
  Stop.lift (conclude (Text.byteLength text.toList) s)

end Checked

/-! ### The invariant -/

/-- The call of a frame that waits for operands. -/
def Frame.waiting? : Frame → Option Nat
  | call id false => some id
  | _ => none

/-- The stacks fit the frames. -/
structure Consistent (frames : List Frame) (w : Work) : Prop where
  /-- The waiting calls are those of the frames that wait, in the same order. -/
  ids : w.nodes.map (·.id) = frames.filterMap Frame.waiting?
  /-- No number is given to two calls: calls that were opened later have larger ones. -/
  numbered : (w.nextId :: w.nodes.map (·.id)).Pairwise (· > ·)
  /-- The operands of a call start above those of the calls around it, and not above the top of the stack. -/
  bases : (w.operands.length :: w.nodes.map (·.base)).Pairwise (· ≥ ·)
  /-- The level counts the open logical operators. -/
  level : w.level = frames.countP Frame.isLogic

/-- A frame of another kind does not matter. -/
theorem Consistent.cons_iff {frames : List Frame} {w : Work} {frame : Frame} (hwaiting : frame.waiting? = none)
    (hlogic : frame.isLogic = false) : Consistent (frame :: frames) w ↔ Consistent frames w := by
  have hids : (frame :: frames).filterMap Frame.waiting? = frames.filterMap Frame.waiting? :=
    List.filterMap_cons_none hwaiting
  have hlevel : (frame :: frames).countP Frame.isLogic = frames.countP Frame.isLogic :=
    List.countP_cons_of_neg (by rw [hlogic]; decide)
  constructor
  · exact fun h => ⟨hids ▸ h.ids, h.numbered, h.bases, hlevel ▸ h.level⟩
  · exact fun h => ⟨hids ▸ h.ids, h.numbered, h.bases, hlevel ▸ h.level⟩

/-- A computation with checks comes to the same as without, and leaves consistent stacks. -/
structure Safe (checked : Except Stop State) (plain : Except SearchError State) : Prop where
  eq : checked = Stop.lift plain
  consistent : ∀ s, plain = .ok s → Consistent s.frames s.work

namespace Safe

theorem ok {s : State} (h : Consistent s.frames s.work) : Safe (.ok s) (.ok s) :=
  ⟨rfl, fun t ht => by cases ht; exact h⟩

theorem error (e : SearchError) : Safe (.error (.error e)) (.error e) := ⟨rfl, fun _ h => nomatch h⟩

/-- A call that is reduced does not matter to the stacks. -/
theorem reduced {checked : Except Stop State} {plain : Except SearchError State} (id : Nat) : Safe checked plain →
    Safe (do let s ← checked; return ⟨.call id true :: s.frames, s.work⟩)
      (match plain with
        | .error e => .error e
        | .ok s => .ok ⟨.call id true :: s.frames, s.work⟩) := by
  intro h
  rw [h.eq]
  cases plain with
  | error e => exact .error e
  | ok s => exact .ok ((Consistent.cons_iff rfl rfl).2 (h.consistent s rfl))

end Safe

namespace Consistent

variable {frames : List Frame} {w : Work} {s : State} {id : Nat}

theorem start : Consistent [] .start :=
  ⟨rfl, List.pairwise_singleton _ _, List.pairwise_singleton _ _, rfl⟩

theorem emit (h : Consistent frames w) (o : Operand) : Consistent frames (w.emit o) :=
  ⟨h.ids, h.numbered, h.bases, h.level⟩

theorem push (h : Consistent frames w) (o : Operand) : Consistent frames (w.push o) := by
  refine ⟨h.ids, h.numbered, ?_, h.level⟩
  obtain ⟨hbelow, hbases⟩ := List.pairwise_cons.1 h.bases
  refine List.pairwise_cons.2 ⟨fun base hbase => ?_, hbases⟩
  rw [Work.push, List.length_append]
  exact Nat.le_add_right_of_le (hbelow base hbase)

/-- The call of the innermost frame that waits is the innermost waiting call, and its operands are on the stack. -/
theorem exists_node (h : Consistent (.call id false :: frames) w) :
    ∃ node nodes, w.nodes = node :: nodes ∧ node.id = id ∧ node.base ≤ w.operands.length := by
  obtain ⟨node, nodes, hnodes, hid, -⟩ := List.map_eq_cons_iff.1 h.ids
  refine ⟨node, nodes, hnodes, hid, ?_⟩
  have hbases := h.bases
  rw [hnodes] at hbases
  exact (List.pairwise_cons.1 hbases).1 node.base (List.mem_cons_self ..)

/-- Without the waiting call of the innermost frame, and without its operands, the stacks fit the frames around it. -/
theorem of_reduce {node : Node} {nodes : List Node} (h : Consistent (.call id false :: frames) w)
    (hnodes : w.nodes = node :: nodes) (hbase : node.base ≤ w.operands.length) :
    Consistent frames { w with nodes, operands := w.operands.take node.base } := by
  have hids := h.ids
  have hnumbered := h.numbered
  have hbases := h.bases
  rw [hnodes] at hids hnumbered hbases
  refine ⟨(List.cons.inj hids).2, ?_, ?_, h.level⟩
  · exact hnumbered.sublist ((List.sublist_cons_self _ _).cons_cons _)
  · -- The operands that are left are those below the call.
    have htop : (w.operands.take node.base).length = node.base := by rw [List.length_take, Nat.min_eq_left hbase]
    rw [htop]
    exact (List.pairwise_cons.1 hbases).2

/-- A call is reduced with checks as it is without, and the stacks that are left fit the frames around it. -/
theorem reduce (now : Int64) (h : Consistent (.call id false :: frames) w) :
    (∃ e, w.reduce? now = .error e ∧ Checked.reduce now id w = .error (.error e)) ∨
    ∃ value w', w.reduce? now = .ok (some (value, w')) ∧ Checked.reduce now id w = .ok (value, w') ∧
      Consistent frames w' := by
  obtain ⟨node, nodes, hnodes, hid, hbase⟩ := h.exists_node
  rw [Work.reduce?, Checked.reduce, hnodes]
  dsimp only
  rw [if_pos ⟨hid, hbase⟩]
  cases Operand.call now node.function (w.operands.drop node.base) with
  | error e => exact .inl ⟨e, rfl, rfl⟩
  | ok value => exact .inr ⟨value, _, rfl, rfl, h.of_reduce hnodes hbase⟩

theorem isReady (h : Consistent (.call id false :: frames) w) : Checked.isReady id w = .ok (w.isReady id) := by
  obtain ⟨node, nodes, hnodes, hid, hbase⟩ := h.exists_node
  rw [Work.isReady, Checked.isReady, hnodes]
  dsimp only
  cases htake : node.take with
  | untilClose => simp
  | operands count => simp [hid, hbase]

/-! ### Moves -/

/-- **A value goes outward through consistent stacks**, and leaves consistent ones. -/
theorem deliver (h : Consistent frames w) (o : Operand) :
    Safe (Checked.deliver now frames w o) (Stack.deliver now frames w o) := by
  induction frames generalizing w o with
  | nil => exact .ok (h.emit o)
  | cons frame frames ih =>
    cases frame with
    | logic | matchAll => exact .ok (h.emit o)
    | call id reduced =>
      cases reduced with
      | true => exact .error _
      | false =>
        have hpush := h.push o
        rw [Checked.deliver, Stack.deliver, hpush.isReady, ok_bind]
        cases (w.push o).isReady id with
        | false => exact .ok hpush
        | true =>
          -- The call has its operands, and its value goes to the frames around it.
          obtain ⟨e, hplain, hchecked⟩ | ⟨value, w', hplain, hchecked, hleft⟩ := hpush.reduce now
          · simp only [hplain, hchecked, if_true, error_bind]
            exact .error e
          · simp only [hplain, hchecked, if_true, ok_bind]
            exact .reduced id (ih hleft value)

/-- **A waiting call that is reduced leaves consistent stacks.** -/
theorem reduceInto (h : Consistent (.call id false :: frames) w) :
    Safe (Checked.reduceInto now id frames w) (Stack.reduceInto now frames w) := by
  obtain ⟨e, hplain, hchecked⟩ | ⟨value, w', hplain, hchecked, hleft⟩ := h.reduce now
  · simp only [Checked.reduceInto, Stack.reduceInto, hplain, hchecked, error_bind]
    exact .error e
  · simp only [Checked.reduceInto, Stack.reduceInto, hplain, hchecked, ok_bind]
    exact hleft.deliver value

/-- A call that is opened waits above all others. -/
theorem open_call (h : Consistent frames w) (f : Builtin) (take : Take) :
    Consistent (.call w.nextId false :: frames)
      { w with nodes := ⟨w.nextId, f, take, w.operands.length⟩ :: w.nodes, nextId := w.nextId + 1 } := by
  refine ⟨congrArg (w.nextId :: ·) h.ids, ?_, ?_, h.level⟩
  · refine List.pairwise_cons.2 ⟨fun id hid => ?_, h.numbered⟩
    cases hid with
    | head => exact Nat.lt_succ_self _
    | tail _ hid => exact Nat.lt_succ_of_lt ((List.pairwise_cons.1 h.numbered).1 id hid)
  · refine List.pairwise_cons.2 ⟨fun base hbase => ?_, h.bases⟩
    cases hbase with
    | head => exact Nat.le_refl _
    | tail _ hbase => exact (List.pairwise_cons.1 h.bases).1 base hbase

theorem openCall (h : Consistent s.frames s.work) (f : Builtin) (take : Take) :
    Safe (Checked.openCall now s f take) (Stack.openCall now s f take) := by
  have hopen := h.open_call f take
  rw [Checked.openCall, Stack.openCall]
  split
  · -- Without operands the call is reduced at once.
    exact .reduced _ hopen.reduceInto
  · exact .ok hopen

theorem openMatchAll (h : Consistent s.frames s.work) (literal : Option Bool) :
    Safe (Checked.openMatchAll s literal) (Stack.step now s (.openMatchAll literal)) := by
  cases literal with
  | none => exact .ok ((cons_iff rfl rfl).2 h)
  | some b =>
    -- The truth value is in the output, so that one entry can be left out of the count.
    exact .ok ((cons_iff rfl rfl).2 (h.emit _))

theorem open_logic (h : Consistent frames w) (op : Logic) :
    Consistent (.logic :: frames) { w with output := .op op w.level :: w.output, level := w.level + 1 } :=
  ⟨h.ids, h.numbered, h.bases, by rw [List.countP_cons_of_pos rfl, ← h.level]⟩

/-- Where a logical operator is open the level is positive. -/
theorem close_logic (h : Consistent (.logic :: frames) w) :
    0 < w.level ∧ Consistent frames { w with level := w.level - 1 } := by
  have hlevel : w.level = frames.countP Frame.isLogic + 1 := h.level.trans (List.countP_cons_of_pos rfl)
  exact ⟨hlevel ▸ Nat.succ_pos _, h.ids, h.numbered, h.bases, Nat.sub_eq_of_eq_add hlevel⟩

theorem close (h : Consistent s.frames s.work) (offset : Nat) :
    Safe (Checked.close now s offset) (Stack.close now s offset) := by
  obtain ⟨frames, w⟩ := s
  cases frames with
  | nil => exact .error _
  | cons frame frames =>
    cases frame with
    | logic =>
      obtain ⟨hpos, hclosed⟩ := close_logic h
      simp only [Checked.close, hpos, if_true]
      exact .ok hclosed
    | matchAll mark =>
      have hinner := (cons_iff rfl rfl).1 h
      refine .ok ?_
      dsimp only
      split
      · exact hinner.emit _
      · exact hinner
    | call id reduced =>
      cases reduced with
      | true => exact .ok ((cons_iff rfl rfl).1 h)
      | false => exact h.reduceInto

/-- **A move leaves consistent stacks**, and passes every check on the way. -/
theorem step (now : Int64) (h : Consistent s.frames s.work) (m : Move) : Safe (Checked.step now s m) (Stack.step now s m) := by
  cases m with
  | openLogic op => exact .ok (h.open_logic op)
  | openMatchAll literal => exact h.openMatchAll literal
  | openCall f take => exact h.openCall f take
  | close offset => exact h.close offset
  | value o => exact h.deliver o
  | fault e => exact .error e

/-- **A run leaves consistent stacks**, and passes every check on the way. -/
theorem run (now : Int64) (h : Consistent s.frames s.work) (ms : List Move) :
    Safe (Checked.run now s ms) (Stack.run now s ms) := by
  induction ms generalizing s with
  | nil => exact .ok h
  | cons m ms ih =>
    have hstep := h.step now m
    rw [Checked.run, hstep.eq, Stack.run]
    cases hnext : Stack.step now s m with
    | error e => exact .error e
    | ok t => exact ih (hstep.consistent t hnext)

end Consistent

/-- **The compiler passes every check.** -/
theorem Checked.compile_eq (now : Int64) (text : String) :
    Checked.compile now text = Stop.lift (Stack.compile now text) := by
  rw [Checked.compile, Stack.compile]
  cases tokenize text with
  | error e => rfl
  | ok lexemes =>
    have hrun := (Consistent.start.run (s := .start) now (moves lexemes)).eq
    simp only [Stop.lift_ok, ok_bind, hrun]
    cases Stack.run now .start (moves lexemes) with
    | error e => rfl
    | ok s => rfl

/-- **The stacks of the first pass are consistent on every input.** After every move that the tokens make, whether they form
an expression or not, the waiting calls are those of the frames that wait, their operands are on the stack one above the
other, and the level counts the open logical operators. So no check ever fails: with every check the moves come to the same,
and so does the whole compiler, which ends with a condition or with an error on every text. -/
theorem consistent_of_run (now : Int64) :
    (∀ lexemes k s, run now .start ((moves lexemes).take k) = .ok s → Consistent s.frames s.work) ∧
      (∀ lexemes k, Checked.run now .start ((moves lexemes).take k) = Stop.lift (run now .start ((moves lexemes).take k))) ∧
      ∀ text, (∃ condition, Checked.compile now text = .ok condition ∧ compile now text = .ok condition) ∨
        ∃ e, Checked.compile now text = .error (.error e) ∧ compile now text = .error e := by
  refine ⟨fun lexemes k s hrun => ?_, fun lexemes k => ?_, fun text => ?_⟩
  · exact (Consistent.start.run (s := .start) now ((moves lexemes).take k)).consistent s hrun
  · exact (Consistent.start.run (s := .start) now ((moves lexemes).take k)).eq
  · rw [Checked.compile_eq]
    cases compile now text with
    | error e => exact .inr ⟨e, rfl, rfl⟩
    | ok condition => exact .inl ⟨condition, rfl, rfl⟩

/-- No parenthesis is closed, and two calls are reduced already: the value of the inner one went through the outer one to
the logical operator, which is open in a sum. -/
theorem consistent_of_run_unclosed :
    ∃ s, run 0 .start ((moves [⟨.openParen, 0⟩, ⟨.symbol "+", 1⟩, ⟨.int 1, 3⟩, ⟨.openParen, 5⟩, ⟨.symbol "not", 6⟩,
        ⟨.openParen, 10⟩, ⟨.symbol "=", 11⟩, ⟨.int 1, 13⟩, ⟨.openParen, 15⟩, ⟨.symbol "cast-int", 16⟩,
        ⟨.string "2", 25⟩]).take 8) = .ok s ∧
      s.frames = [.call 2 true, .call 1 true, .logic, .call 0 false] ∧ Consistent s.frames s.work := by
  have hframes : (run 0 .start ((moves [⟨.openParen, 0⟩, ⟨.symbol "+", 1⟩, ⟨.int 1, 3⟩, ⟨.openParen, 5⟩,
      ⟨.symbol "not", 6⟩, ⟨.openParen, 10⟩, ⟨.symbol "=", 11⟩, ⟨.int 1, 13⟩, ⟨.openParen, 15⟩, ⟨.symbol "cast-int", 16⟩,
      ⟨.string "2", 25⟩]).take 8)).toOption.map (·.frames) = some [.call 2 true, .call 1 true, .logic, .call 0 false] := by
    decide +kernel
  obtain ⟨s, hs, hsframes⟩ := Option.map_eq_some_iff.1 hframes
  have hrun := eq_ok_of_toOption hs
  exact ⟨s, hrun, hsframes, (consistent_of_run 0).1 _ 8 s hrun⟩

end MailQuery.Sql.Stack
