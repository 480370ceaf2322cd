import MailQuery.Proofs.Compilers.Conditions
import MailQuery.Proofs.Compilers.Confinement

/-!
# Malformed texts

The compiler of tokens makes no term, and yet it takes no text that is no expression. It fails at once on tokens that
cannot stand where they are, and its frames are the open calls of the parser; what is left is a text of several
expressions, or of none, which it finds by counting what the second pass leaves.

The count is that of the entries of the outermost level: the second pass keeps their number (`countP_fold`), and in the
first pass each expression comes to have one at least. `promised` counts those that are there, and the one that the
outermost open call still owes. No move lowers the number, and a move with nothing open raises it (`Counted.step`), so
that whatever follows a whole expression makes it two (`Counted.eq_nil_of_run`). A run that ends with one has gone through
an expression, of which the parser makes a term (`Ends.exists_build`).

The invariant that carries this is small: open logical operators make up the level, and calls that wait for operands are
on the stack of calls (`Counted`). `Compiler.compile_of_malformed` is the main statement.
-/

namespace MailQuery.Sql.Stack

variable {now : Int64}

/-! ### The outermost level -/

/-- The depth of an entry of the flat list. -/
def Item.level : Item → Nat
  | op _ level | operand _ level => level

/-- The number of the entries of the outermost level. -/
def outermost (items : List Item) : Nat := items.countP (·.level == 0)

theorem outermost_cons (item : Item) (items : List Item) :
    outermost (item :: items) = outermost items + if item.level == 0 then 1 else 0 := List.countP_cons

/-- What an operator takes is deeper than itself, and so none of the outermost level. -/
theorem countP_dropWhile (stack : List (Operand × Nat)) (level : Nat) :
    (stack.dropWhile fun v => level < v.2).countP (·.2 == 0) = stack.countP (·.2 == 0) := by
  induction stack with
  | nil => rfl
  | cons v stack ih =>
    rw [List.dropWhile_cons]
    split
    · next h =>
      have hdeep : v.2 ≠ 0 := Nat.ne_of_gt (Nat.lt_of_le_of_lt (Nat.zero_le level) (of_decide_eq_true h))
      rw [ih, List.countP_cons, if_neg (by simpa using hdeep), Nat.add_zero]
    · rfl

theorem countP_foldItem {stack folded : List (Operand × Nat)} {item : Item} (h : foldItem stack item = .ok folded) :
    folded.countP (·.2 == 0) = stack.countP (·.2 == 0) + if item.level == 0 then 1 else 0 := by
  cases item with
  | operand o level =>
    cases h
    exact List.countP_cons
  | op op level =>
    simp only [foldItem] at h
    split at h
    · cases h
    · cases h
      rw [List.countP_cons, countP_dropWhile, Item.level]

/-- **The second pass keeps the number of entries of the outermost level.** -/
theorem countP_fold {stack folded : List (Operand × Nat)} {items : List Item} (h : fold stack items = .ok folded) :
    folded.countP (·.2 == 0) = stack.countP (·.2 == 0) + outermost items := by
  induction items generalizing stack with
  | nil =>
    cases h
    rfl
  | cons item items ih =>
    rw [fold] at h
    split at h
    · cases h
    · next next hnext =>
      rw [ih h, countP_foldItem hnext, outermost_cons]
      omega

/-! ### What is promised -/

/-- The entry of the outermost level that the outermost open call still owes: an unreduced call owes one, and so does a
`match-all` behind which nothing has been written. -/
def owed (frames : List Frame) (w : Work) : Nat :=
  match frames.getLast? with
  | some (.call _ false) => 1
  | some (.matchAll mark) => if w.output.length = mark ∧ w.level = 0 then 1 else 0
  | _ => 0

/-- The number of entries of the outermost level, with the one that is still owed. -/
def promised (frames : List Frame) (w : Work) : Nat := outermost w.output + owed frames w

theorem promised_nil (w : Work) : promised [] w = outermost w.output := rfl

/-- What is owed is a matter of the outermost frame. -/
theorem promised_cons {frames : List Frame} (h : frames ≠ []) (frame : Frame) (w : Work) :
    promised (frame :: frames) w = promised frames w := by
  obtain ⟨next, frames, rfl⟩ := List.exists_cons_of_ne_nil h
  rw [promised, promised, owed, owed, List.getLast?_cons_cons]

/-- The stacks of calls and operands have no part in it. -/
theorem promised_congr {frames : List Frame} {w w' : Work} (houtput : w'.output = w.output)
    (hlevel : w'.level = w.level) : promised frames w' = promised frames w := by
  rw [promised, promised, owed, owed, houtput, hlevel]

/-- A frame that owes nothing of its own does not count. -/
theorem promised_cons_of_owed (frame : Frame) {w : Work} (h : owed [frame] w = 0) (frames : List Frame) :
    promised (frame :: frames) w = promised frames w := by
  by_cases hnil : frames = []
  · rw [hnil, promised, h]
    rfl
  · exact promised_cons hnil frame w

theorem promised_le_cons (frame : Frame) (frames : List Frame) (w : Work) :
    promised frames w ≤ promised (frame :: frames) w := by
  by_cases hnil : frames = []
  · rw [hnil]
    exact Nat.le_add_right _ _
  · exact Nat.le_of_eq (promised_cons hnil frame w).symm

/-- No frame owes more than one entry. -/
theorem promised_cons_le (frame : Frame) (frames : List Frame) (w : Work) :
    promised (frame :: frames) w ≤ promised frames w + 1 := by
  by_cases hnil : frames = []
  · rw [hnil, promised_nil, promised, owed]
    refine Nat.add_le_add_left ?_ _
    split
    · exact Nat.le_refl 1
    · split
      · exact Nat.le_refl 1
      · exact Nat.zero_le 1
    · exact Nat.zero_le 1
  · exact Nat.le_succ_of_le (Nat.le_of_eq (promised_cons hnil frame w))

/-- With less depth no less is promised. -/
theorem promised_le_of_level {frames : List Frame} {w w' : Work} (houtput : w'.output = w.output)
    (hlevel : w'.level ≤ w.level) : promised frames w ≤ promised frames w' := by
  rw [promised, promised, owed, owed, houtput]
  split
  · exact Nat.le_refl _
  · split
    · next h =>
      rw [if_pos ⟨h.1, Nat.le_zero.1 (h.2 ▸ hlevel)⟩]
    · exact Nat.add_le_add_left (Nat.zero_le _) _
  · exact Nat.le_refl _

/-- With one more entry no less is promised: what was owed by a `match-all` is there now. -/
theorem promised_le_of_output {frames : List Frame} {w w' : Work} {item : Item} (hitem : item.level = w.level)
    (houtput : w'.output = item :: w.output) : promised frames w ≤ promised frames w' := by
  rw [promised, promised, houtput, outermost_cons, hitem, owed, owed]
  split
  · omega
  · split
    · next h =>
      rw [h.2, if_pos (beq_self_eq_true 0)]
      omega
    · omega
  · omega

/-! ### The invariant -/

/-- Whether a frame is that of a logical operator. -/
def Frame.isLogic : Frame → Bool
  | logic => true
  | _ => false

/-- Whether a frame is that of a call that waits for operands. -/
def Frame.isWaiting : Frame → Bool
  | call _ reduced => !reduced
  | _ => false

/-- The level counts the open logical operators, and the stack of calls has those that wait. -/
structure Counted (frames : List Frame) (w : Work) : Prop where
  level : w.level = frames.countP Frame.isLogic
  nodes : w.nodes.length = frames.countP Frame.isWaiting

namespace Counted

variable {frames : List Frame} {w : Work}

theorem start : Counted [] .start := ⟨rfl, rfl⟩

theorem level_eq_zero (h : Counted frames w) (hnil : frames = []) : w.level = 0 := by
  rw [h.level, hnil]
  rfl

theorem congr {w' : Work} (h : Counted frames w) (hlevel : w'.level = w.level) (hnodes : w'.nodes = w.nodes) :
    Counted frames w' := ⟨hlevel ▸ h.level, hnodes ▸ h.nodes⟩

/-- A call that waits is on its stack; without it the rest is counted. -/
theorem of_reduce {id : Nat} {w' : Work} {value : Operand} (h : Counted (.call id false :: frames) w)
    (hreduce : w.reduce? now = .ok (some (value, w'))) :
    Counted frames w' ∧ w'.output = w.output ∧ w'.level = w.level := by
  rw [Work.reduce?] at hreduce
  split at hreduce
  · cases hreduce
  · next node nodes hnodes =>
    split at hreduce
    · cases hreduce
    · cases hreduce
      refine ⟨⟨h.level, ?_⟩, rfl, rfl⟩
      have hcount := h.nodes
      rw [hnodes, List.countP_cons_of_pos rfl] at hcount
      exact Nat.succ.inj hcount

theorem reduce_ne_none {id : Nat} (h : Counted (.call id false :: frames) w) : w.reduce? now ≠ .ok none := by
  have hcount := h.nodes
  rw [List.countP_cons_of_pos rfl] at hcount
  rw [Work.reduce?]
  split
  · next hnodes =>
    rw [hnodes] at hcount
    cases hcount
  · split
    · intro h
      cases h
    · intro h
      cases h

end Counted

/-- Stacks after some moves are counted if those before are; no less is promised, and more if nothing was open. -/
structure Keeps (frames : List Frame) (w : Work) (s : State) : Prop where
  counted : Counted s.frames s.work
  promised_le : promised frames w ≤ promised s.frames s.work
  promised_lt : frames = [] → promised frames w < promised s.frames s.work

namespace Keeps

variable {frames : List Frame} {w w' : Work} {s : State}

/-- While something is open, it is enough that no less is promised. -/
theorem of_cons {frame : Frame} (hcounted : Counted s.frames s.work)
    (hle : promised (frame :: frames) w ≤ promised s.frames s.work) : Keeps (frame :: frames) w s :=
  ⟨hcounted, hle, fun hnil => absurd hnil (List.cons_ne_nil _ _)⟩

theorem congr (h : Keeps frames w' s) (houtput : w'.output = w.output) (hlevel : w'.level = w.level) : Keeps frames w s :=
  have hpromised : promised frames w' = promised frames w := promised_congr houtput hlevel
  ⟨h.counted, hpromised ▸ h.promised_le, fun hnil => hpromised ▸ h.promised_lt hnil⟩

/-- A frame may be opened that neither counts as a level nor waits. -/
theorem cons (h : Keeps frames w s) (frame : Frame) (hlogic : frame.isLogic = false)
    (hwaiting : frame.isWaiting = false) : Keeps frames w ⟨frame :: s.frames, s.work⟩ where
  counted := by
    refine ⟨?_, ?_⟩
    · rw [List.countP_cons_of_neg (by rw [hlogic]; decide)]
      exact h.counted.level
    · rw [List.countP_cons_of_neg (by rw [hwaiting]; decide)]
      exact h.counted.nodes
  promised_le := Nat.le_trans h.promised_le (promised_le_cons ..)
  promised_lt hnil := Nat.lt_of_lt_of_le (h.promised_lt hnil) (promised_le_cons ..)

/-- A waiting call owes no more than its value comes to in the frames around it. -/
theorem waiting_le {id : Nat} (h : Keeps frames w s) :
    promised (.call id false :: frames) w ≤ promised s.frames s.work := by
  by_cases hnil : frames = []
  · subst hnil
    exact h.promised_lt rfl
  · rw [promised_cons hnil]
    exact h.promised_le

end Keeps

namespace Counted

variable {frames : List Frame} {w : Work} {s t : State} {o : Operand}

/-! ### Moves -/

theorem emit (h : Counted frames w) (o : Operand) : Keeps frames w ⟨frames, w.emit o⟩ where
  counted := h.congr rfl rfl
  promised_le := promised_le_of_output rfl rfl
  promised_lt := by
    rintro rfl
    rw [promised_nil, promised_nil, Work.emit, outermost_cons, Item.level, h.level_eq_zero rfl,
      if_pos (beq_self_eq_true 0)]
    exact Nat.lt_succ_self _

/-- **A value that is handed over is not lost**: it waits in a call that is open, or it comes to an entry. -/
theorem deliver (h : Counted frames w) (hdeliver : deliver now frames w o = .ok s) :
    Keeps frames w s ∧ s.frames.length = frames.length := by
  induction frames generalizing w o s with
  | nil =>
    cases hdeliver
    exact ⟨h.emit o, rfl⟩
  | cons frame frames ih =>
    cases frame with
    | logic | matchAll =>
      cases hdeliver
      exact ⟨h.emit o, rfl⟩
    | call id reduced =>
      cases reduced with
      | true => cases hdeliver
      | false =>
        have hpush : Counted (.call id false :: frames) (w.push o) := h.congr rfl rfl
        rw [Stack.deliver] at hdeliver
        split at hdeliver
        · split at hdeliver
          · cases hdeliver
          · next hnone => exact absurd hnone hpush.reduce_ne_none
          · next value w' hreduce =>
            -- The call is reduced, and its value is handed to the frames around it.
            obtain ⟨hcounted, houtput, hlevel⟩ := hpush.of_reduce hreduce
            split at hdeliver
            · cases hdeliver
            · next inner hinner =>
              cases hdeliver
              obtain ⟨hkeeps, hlength⟩ := ih hcounted hinner
              refine ⟨.of_cons (hkeeps.cons (.call id true) rfl rfl).counted ?_, congrArg Nat.succ hlength⟩
              exact Nat.le_trans (hkeeps.congr houtput hlevel).waiting_le (promised_le_cons ..)
        · cases hdeliver
          exact ⟨.of_cons hpush (Nat.le_of_eq (promised_congr rfl rfl).symm), rfl⟩

/-- The value of a call that waits comes to the frames around it. -/
theorem reduceInto {id : Nat} (h : Counted (.call id false :: frames) w) (hreduce : reduceInto now frames w = .ok s) :
    Keeps frames w s ∧ s.frames.length = frames.length ∧
      promised (.call id false :: frames) w ≤ promised s.frames s.work := by
  rw [Stack.reduceInto] at hreduce
  split at hreduce
  · cases hreduce
  · next hnone => exact absurd hnone h.reduce_ne_none
  · next value w' hvalue =>
    obtain ⟨hcounted, houtput, hlevel⟩ := h.of_reduce hvalue
    obtain ⟨hkeeps, hlength⟩ := hcounted.deliver hreduce
    have hsame : Keeps frames w s := hkeeps.congr houtput hlevel
    exact ⟨hsame, hlength, hsame.waiting_le⟩

theorem openCall {f : Builtin} {take : Take} (h : Counted s.frames s.work)
    (hopen : openCall now s f take = .ok t) :
    Keeps s.frames s.work t ∧ t.frames.length = s.frames.length + 1 := by
  have hnode : ∀ id node nextId, Counted (.call id false :: s.frames)
      { s.work with nodes := node :: s.work.nodes, nextId } := fun id node nextId =>
    ⟨h.level, (congrArg Nat.succ h.nodes).trans (List.countP_cons_of_pos rfl).symm⟩
  rw [Stack.openCall] at hopen
  split at hopen
  · split at hopen
    · cases hopen
    · next inner hinner =>
      cases hopen
      obtain ⟨hkeeps, hlength, -⟩ := (hnode s.work.nextId _ _).reduceInto hinner
      have hsame : Keeps s.frames s.work inner := hkeeps.congr rfl rfl
      exact ⟨hsame.cons (.call _ true) rfl rfl, congrArg Nat.succ hlength⟩
  · cases hopen
    refine ⟨⟨hnode _ _ _, promised_le_cons .., fun hnil => ?_⟩, rfl⟩
    rw [hnil]
    exact Nat.lt_succ_self _

theorem openLogic (h : Counted s.frames s.work) (op : Logic) :
    Keeps s.frames s.work ⟨.logic :: s.frames,
      { s.work with output := .op op s.work.level :: s.work.output, level := s.work.level + 1 }⟩ where
  counted := ⟨(congrArg Nat.succ h.level).trans (List.countP_cons_of_pos rfl).symm, h.nodes⟩
  promised_le := Nat.le_trans (promised_le_of_output rfl rfl) (promised_le_cons ..)
  promised_lt := by
    intro hnil
    rw [hnil, promised, promised, outermost_cons, Item.level, h.level_eq_zero hnil, if_pos (beq_self_eq_true 0)]
    exact Nat.lt_succ_self _

theorem openMatchAll (h : Counted s.frames s.work) (literal : Option Bool) :
    Keeps s.frames s.work ⟨.matchAll s.work.output.length :: s.frames,
      literal.elim s.work fun b => s.work.emit (.condition (.truth b))⟩ := by
  cases literal with
  | none =>
    refine ⟨⟨h.level, h.nodes⟩, promised_le_cons .., fun hnil => ?_⟩
    have howed : owed [.matchAll s.work.output.length] s.work = 1 := if_pos ⟨rfl, h.level_eq_zero hnil⟩
    rw [hnil, promised_nil, promised, Option.elim_none, howed]
    exact Nat.lt_succ_self _
  | some b => exact (h.emit (.condition (.truth b))).cons _ rfl rfl

theorem close {offset : Nat} (h : Counted s.frames s.work) (hclose : close now s offset = .ok t) :
    Keeps s.frames s.work t ∧ t.frames.length = s.frames.length - 1 := by
  obtain ⟨frames, w⟩ := s
  cases frames with
  | nil => cases hclose
  | cons frame frames =>
    cases frame with
    | logic =>
      cases hclose
      refine ⟨.of_cons ⟨?_, h.nodes⟩ ?_, rfl⟩
      · have hlevel := h.level
        rw [List.countP_cons_of_pos rfl] at hlevel
        exact Nat.pred_eq_of_eq_succ hlevel
      · rw [promised_cons_of_owed .logic rfl]
        exact promised_le_of_level rfl (Nat.sub_le _ 1)
    | matchAll mark =>
      cases hclose
      have hframes : Counted frames w := ⟨h.level, h.nodes⟩
      split
      · -- What the call owes is written when it closes.
        have hemit := hframes.emit (.condition (.truth true))
        refine ⟨.of_cons hemit.counted ?_, rfl⟩
        by_cases hnil : frames = []
        · exact Nat.le_trans (promised_cons_le ..) (hemit.promised_lt hnil)
        · rw [promised_cons hnil]
          exact hemit.promised_le
      · next hmark =>
        have howed : owed [.matchAll mark] w = 0 := if_neg fun hboth => hmark hboth.1
        exact ⟨.of_cons hframes (Nat.le_of_eq (promised_cons_of_owed _ howed _)), rfl⟩
    | call id reduced =>
      cases reduced with
      | false =>
        obtain ⟨hkeeps, hlength, hle⟩ := h.reduceInto hclose
        exact ⟨.of_cons hkeeps.counted hle, hlength⟩
      | true =>
        cases hclose
        exact ⟨.of_cons ⟨h.level, h.nodes⟩ (Nat.le_of_eq (promised_cons_of_owed _ rfl _)), rfl⟩

end Counted

/-! ### Runs -/

/-- The number of parentheses that are open after a move. -/
def Move.height : Move → Nat → Nat
  | openLogic _, n | openMatchAll _, n | openCall _ _, n => n + 1
  | close _, n => n - 1
  | value _, n | fault _, n => n

theorem opening_cases (name : String) :
    (∃ op, opening name = .openLogic op) ∨ (∃ literal, opening name = .openMatchAll literal) ∨
      (∃ f take, opening name = .openCall f take) ∨ ∃ e, opening name = .fault e := by
  rw [opening]
  split
  case h_6 f _ _ _ _ _ _ =>
    cases take? f with
    | none => exact .inr (.inr (.inr ⟨_, rfl⟩))
    | some take => exact .inr (.inr (.inl ⟨f, take, rfl⟩))
  all_goals simp

/-- A name opens one parenthesis more, unless it is a fault. -/
theorem height_opening {name : String} {s t : State} (h : step now s (opening name) = .ok t) (n : Nat) :
    (opening name).height n = n + 1 := by
  obtain ⟨op, hop⟩ | ⟨literal, hliteral⟩ | ⟨f, take, hcall⟩ | ⟨e, he⟩ := opening_cases name
  · rw [hop, Move.height]
  · rw [hliteral, Move.height]
  · rw [hcall, Move.height]
  · rw [he] at h
    cases h

theorem exists_of_run_cons {s t : State} {m : Move} {ms : List Move} (h : run now s (m :: ms) = .ok t) :
    ∃ next, step now s m = .ok next ∧ run now next ms = .ok t := by
  rw [run] at h
  split at h
  · cases h
  · next next hnext => exact ⟨next, hnext, h⟩

/-- With something promised, or something new, at least one entry is promised. -/
theorem Keeps.one_le {frames : List Frame} {w : Work} {s : State} (h : Keeps frames w s)
    (hone : frames ≠ [] → 1 ≤ promised frames w) : 1 ≤ promised s.frames s.work := by
  by_cases hnil : frames = []
  · exact Nat.le_trans (Nat.succ_le_succ (Nat.zero_le _)) (h.promised_lt hnil)
  · exact Nat.le_trans (hone hnil) h.promised_le

namespace Counted

variable {s t : State} {m : Move} {ms : List Move}

/-- **A move keeps the invariant, and what is promised.** -/
theorem step (h : Counted s.frames s.work) (hstep : step now s m = .ok t) :
    Keeps s.frames s.work t ∧ t.frames.length = m.height s.frames.length := by
  cases m with
  | openLogic op =>
    cases hstep
    exact ⟨h.openLogic op, rfl⟩
  | openMatchAll literal =>
    cases hstep
    exact ⟨h.openMatchAll literal, rfl⟩
  | openCall f take => exact h.openCall hstep
  | close offset => exact h.close hstep
  | value o => exact h.deliver hstep
  | fault e => cases hstep

/-- No run lowers what is promised. -/
theorem promised_le_of_run (h : Counted s.frames s.work) (hrun : run now s ms = .ok t) :
    promised s.frames s.work ≤ promised t.frames t.work := by
  induction ms generalizing s with
  | nil =>
    cases hrun
    exact Nat.le_refl _
  | cons m ms ih =>
    obtain ⟨next, hnext, hrun⟩ := exists_of_run_cons hrun
    obtain ⟨hkeeps, -⟩ := h.step hnext
    exact Nat.le_trans hkeeps.promised_le (ih hkeeps.counted hrun)

/-- **Nothing follows a whole expression** if one entry is all that is left in the end. -/
theorem eq_nil_of_run (h : Counted s.frames s.work) (hrun : run now s ms = .ok t) (hframes : s.frames = [])
    (hone : 1 ≤ promised s.frames s.work) (hleft : promised t.frames t.work ≤ 1) : ms = [] := by
  cases ms with
  | nil => rfl
  | cons m ms =>
    obtain ⟨next, hnext, hrun⟩ := exists_of_run_cons hrun
    obtain ⟨hkeeps, -⟩ := h.step hnext
    have hmore := hkeeps.promised_lt hframes
    have hend := hkeeps.counted.promised_le_of_run hrun
    omega

end Counted

theorem moves_eq_nil {lexemes : List Lexeme} : moves lexemes = [] → lexemes = [] := by
  fun_cases moves lexemes <;> simp

/-! ### The parser -/

/-- The run of some lexemes comes to its end with nothing open and no more than one entry. -/
structure Ends (now : Int64) (s : State) (lexemes : List Lexeme) (t : State) : Prop where
  counted : Counted s.frames s.work
  one_le : s.frames ≠ [] → 1 ≤ promised s.frames s.work
  run : run now s (moves lexemes) = .ok t
  frames : t.frames = []
  le_one : promised t.frames t.work ≤ 1

namespace Ends

variable {s t : State} {lexemes : List Lexeme}

/-- The first move of a run that ends is made, and the run goes on from there. -/
theorem next (h : Ends now s lexemes t) (m : Move) (rest : List Lexeme) (hmoves : moves lexemes = m :: moves rest) :
    ∃ u, step now s m = .ok u ∧ Ends now u rest t ∧ 1 ≤ promised u.frames u.work ∧
      u.frames.length = m.height s.frames.length := by
  have hrun := h.run
  rw [hmoves] at hrun
  obtain ⟨u, hstep, hrun⟩ := exists_of_run_cons hrun
  obtain ⟨hkeeps, hheight⟩ := h.counted.step hstep
  have hone := hkeeps.one_le h.one_le
  exact ⟨u, hstep, ⟨hkeeps.counted, fun _ => hone, hrun, h.frames, h.le_one⟩, hone, hheight⟩

theorem eq_nil (h : Ends now s lexemes t) (hframes : s.frames = []) (hone : 1 ≤ promised s.frames s.work) :
    lexemes = [] :=
  moves_eq_nil (h.counted.eq_nil_of_run h.run hframes hone h.le_one)

/-- A literal is an argument of the call that is open, or the whole expression. -/
theorem exists_build_literal {lexeme : Lexeme} {rest : List Lexeme} {o : Operand} (term : Term)
    (h : Ends now s (lexeme :: rest) t) (hmoves : moves (lexeme :: rest) = .value o :: moves rest) (stop : Nat)
    (stack : List Term.OpenCall) (hheight : s.frames.length = stack.length)
    (hwhole : Term.build stop [] (lexeme :: rest) = term.whole rest)
    (hpush : ∀ f stack, Term.build stop (f :: stack) (lexeme :: rest) = Term.build stop (f.push term :: stack) rest)
    (ih : ∀ {s : State}, Ends now s rest t → ∀ stack : List Term.OpenCall, s.frames.length = stack.length →
      rest ≠ [] ∨ stack ≠ [] → ∃ term, Term.build stop stack rest = .ok term) :
    ∃ term, Term.build stop stack (lexeme :: rest) = .ok term := by
  obtain ⟨u, -, hends, hone, hlength⟩ := h.next _ rest hmoves
  rw [Move.height, hheight] at hlength
  cases stack with
  | nil =>
    have hrest := hends.eq_nil (List.length_eq_zero_iff.1 hlength) hone
    exact ⟨term, by rw [hwhole, hrest, Term.whole]⟩
  | cons f stack =>
    rw [hpush]
    exact ih hends _ hlength (.inr (List.cons_ne_nil _ _))

/-- **What ends well is an expression**: the parser makes a term of it, with a call open for each frame. -/
theorem exists_build (h : Ends now s lexemes t) (stop : Nat) (stack : List Term.OpenCall)
    (hheight : s.frames.length = stack.length) (hmore : lexemes ≠ [] ∨ stack ≠ []) :
    ∃ term, Term.build stop stack lexemes = .ok term := by
  -- The cases are those of `moves`.
  fun_induction moves lexemes generalizing s stack with
  | case1 =>
    cases h.run
    rw [h.frames] at hheight
    obtain rfl : stack = [] := List.length_eq_zero_iff.1 hheight.symm
    simp at hmore
  | case2 _ _ how _ rest ih =>
    obtain ⟨u, -, hends, -, hlength⟩ := h.next (.openLogic .and) rest (by rw [moves])
    have hbuild := ih hends (.push ⟨"match-threads", []⟩ (.string how) :: stack) (by rw [hlength, hheight]; rfl)
      (.inr (List.cons_ne_nil _ _))
    simpa [Term.build] using hbuild
  | case3 _ _ b _ rest ih =>
    obtain ⟨u, -, hends, -, hlength⟩ := h.next (.openMatchAll (some b)) rest (by rw [moves])
    have hbuild := ih hends (.push ⟨"match-all", []⟩ (.bool b) :: stack) (by rw [hlength, hheight]; rfl)
      (.inr (List.cons_ne_nil _ _))
    simpa [Term.build] using hbuild
  | case4 _ name _ rest hthreads hall ih =>
    obtain ⟨u, hstep, hends, -, hlength⟩ := h.next (opening name) rest (by rw [moves] <;> assumption)
    rw [height_opening hstep, hheight] at hlength
    rw [Term.build]
    exact ih hends (⟨name, []⟩ :: stack) hlength (.inr (List.cons_ne_nil _ _))
  | case5 offset rest hthreads hall hname =>
    have hrun := h.run
    rw [moves] at hrun
    · cases hrun
    · exact hthreads
    · exact hall
    · exact hname
  | case6 offset rest ih =>
    obtain ⟨u, hstep, hends, hone, hlength⟩ := h.next (.close offset) rest (by rw [moves])
    rw [Move.height, hheight] at hlength
    cases stack with
    | nil =>
      have hnil : s.frames = [] := List.length_eq_zero_iff.1 hheight
      rw [step, Stack.close, hnil] at hstep
      cases hstep
    | cons f stack =>
      cases stack with
      | nil =>
        have hrest := hends.eq_nil (List.length_eq_zero_iff.1 hlength) hone
        exact ⟨f.close, by rw [Term.build, hrest, Term.whole]⟩
      | cons g stack =>
        rw [Term.build]
        exact ih hends _ hlength (.inr (List.cons_ne_nil _ _))
  | case7 => cases h.run
  | case8 value offset rest ih =>
    refine h.exists_build_literal (.string value) (by rw [moves]) stop stack hheight ?_ (fun f stack => ?_) ih
    · rw [Term.build]
    · rw [Term.build]
  | case9 value offset rest ih =>
    refine h.exists_build_literal (.int value) (by rw [moves]) stop stack hheight ?_ (fun f stack => ?_) ih
    · rw [Term.build]
    · rw [Term.build]
  | case10 value offset rest ih =>
    refine h.exists_build_literal (.bool value) (by rw [moves]) stop stack hheight ?_ (fun f stack => ?_) ih
    · rw [Term.build]
    · rw [Term.build]

end Ends

/-! ### Whole texts -/

/-- More than one value is refused. -/
theorem length_le_one_of_single {values : List (Operand × Nat)} {e : Expr}
    (h : single values >>= Operand.finish = .ok e) : values.length ≤ 1 := by
  rcases values with _ | ⟨v, _ | ⟨v', values⟩⟩
  · exact Nat.zero_le 1
  · exact Nat.le_refl 1
  · cases h

/-- What concludes well has nothing open, and one entry of the outermost level at most. -/
theorem le_one_of_conclude {stop : Nat} {t : State} {e : Expr} (h : conclude stop t = .ok e) :
    t.frames = [] ∧ promised t.frames t.work ≤ 1 := by
  obtain ⟨frames, w⟩ := t
  cases frames with
  | cons => cases h
  | nil =>
    refine ⟨rfl, ?_⟩
    rw [conclude_nil] at h
    cases hfold : fold [] w.output with
    | error e => rw [hfold] at h; cases h
    | ok folded =>
      rw [hfold, ok_bind] at h
      have hcount : folded.countP (·.2 == 0) = outermost w.output := by
        rw [countP_fold hfold, List.countP_nil, Nat.zero_add]
      rw [promised_nil, ← hcount]
      exact Nat.le_trans List.countP_le_length (length_le_one_of_single h)

/-- **What compiles parses.** -/
theorem exists_parse_of_compile {text : String} {e : Expr} (h : compile now text = .ok e) :
    ∃ term, Term.parse text = .ok term := by
  rw [compile] at h
  rw [Term.parse]
  cases htokens : tokenize text with
  | error e => rw [htokens] at h; cases h
  | ok lexemes =>
    rw [htokens] at h
    dsimp only at h ⊢
    split at h
    · cases h
    · next t hrun =>
      obtain ⟨hframes, hone⟩ := le_one_of_conclude h
      have hends : Ends now .start lexemes t := ⟨.start, fun hne => absurd rfl hne, hrun, hframes, hone⟩
      refine hends.exists_build _ [] rfl (.inl ?_)
      rintro rfl
      -- Nothing is left of no tokens.
      cases hrun
      cases h

end MailQuery.Sql.Stack

namespace MailQuery.Compiler

/-- **Malformed texts do not compile.** If the parser makes no term of a text, then both compilers fail, whatever the time:
the one of terms with the same error, and the one of tokens since it takes no other texts than the parser. -/
theorem compile_of_malformed (compiler : Compiler) (now : Int64) {text : String} {e : SearchError}
    (h : Term.parse text = .error e) : ∃ e', compiler.compile now text = .error e' := by
  cases compiler with
  | tree =>
    refine ⟨e, ?_⟩
    rw [compile, Sql.Tree.compile, h]
  | stack =>
    cases hcompile : Sql.Stack.compile now text with
    | error e' => exact ⟨e', hcompile⟩
    | ok condition =>
      obtain ⟨term, hparse⟩ := Sql.Stack.exists_parse_of_compile hcompile
      rw [h] at hparse
      cases hparse

/-- Two expressions in place of one. The second adds an entry only when it closes. -/
theorem compile_of_malformed_surplus :
    Term.parse "(and #t) (match-all)" = .error (.malformed 9 .trailingInput) ∧
      (∃ e, stack.compile 0 "(and #t) (match-all)" = .error e) ∧
      ∃ e, tree.compile 0 "(and #t) (match-all)" = .error e := by
  have htokens : tokenize "(and #t) (match-all)" = .ok [⟨.openParen, 0⟩, ⟨.symbol "and", 1⟩, ⟨.bool true, 5⟩,
      ⟨.closeParen, 7⟩, ⟨.openParen, 9⟩, ⟨.symbol "match-all", 10⟩, ⟨.closeParen, 19⟩] :=
    eq_ok_of_toOption (by decide +kernel)
  have hparse : Term.parse "(and #t) (match-all)" = .error (.malformed 9 .trailingInput) := by
    rw [Term.parse, htokens]
    rfl
  exact ⟨hparse, compile_of_malformed stack 0 hparse, compile_of_malformed tree 0 hparse⟩

end MailQuery.Compiler
