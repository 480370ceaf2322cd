import MailQuery.Folder.Session
import MailQuery.Proofs.Expr.Parsing
import MailQuery.Proofs.Sql.Rules

/-!
# Compiled conditions are readable

Both compilers start from constants, which are readable, and combine them by the rules for calls: the compiler of terms
by recursion over the term (`Tree.isReadable_lower`), the one of tokens with stacks whose entries stay readable in each
step (`Stack.Work.IsReadable`, kept by `Stack.isReadable_step` and in a whole run by `Stack.isReadable_run`). The name of
the one function that writes its own condition does not occur in the text, so that its call does not arise.

`Compiler.isReadable_of_compile` is the main statement: what is compiled says nothing, or is readable.
-/

namespace MailQuery

open Text

/-! ### Terms that write no condition -/

namespace Term

/-- A term that does not call for a condition as it is written. -/
def WritesNone (t : Term) : Prop := Token.symbol "sql-exp" ∉ t.tokens

theorem writesNone_bool (b : Bool) : (bool b).WritesNone := by
  simp [WritesNone, tokens]

theorem writesNone_int (n : Int64) : (int n).WritesNone := by
  simp [WritesNone, tokens]

theorem writesNone_string (s : String) : (string s).WritesNone := by
  simp [WritesNone, tokens]

theorem writesNone_call_iff {name : String} {args : List Term} :
    (call name args).WritesNone ↔ name ≠ "sql-exp" ∧ ∀ a ∈ args, a.WritesNone := by
  simp [WritesNone, tokens, mem_tokensAll_iff, eq_comm]

end Term

namespace Sql

/-! ### The compiler of terms -/

namespace Tree

variable {now : Int64}

theorem isReadable_of_lowerAll {ts : List Term} (hts : ∀ t ∈ ts, ∀ o, lower now t = .ok o → o.IsReadable)
    {os : List Operand} (h : lowerAll now ts = .ok os) : ∀ o ∈ os, o.IsReadable := by
  induction ts generalizing os with
  | nil =>
    rw [lowerAll] at h
    cases h
    simp
  | cons t ts ih =>
    rw [lowerAll] at h
    split at h
    · cases h
    · next o ho =>
      split at h
      · cases h
      · next os hos =>
        cases h
        exact List.forall_mem_cons.2 ⟨hts t (List.mem_cons_self ..) o ho,
          ih (fun u hu => hts u (List.mem_cons_of_mem _ hu)) hos⟩

mutual

/-- A term that writes no condition becomes a readable operand. -/
theorem isReadable_lower : (t : Term) → t.WritesNone → ∀ o, lower now t = .ok o → o.IsReadable
  | .bool b, _, o, h => by
    rw [lower] at h
    cases h
    trivial
  | .int n, _, o, h => by
    rw [lower] at h
    cases h
    trivial
  | .string s, _, o, h => by
    rw [lower] at h
    cases h
    trivial
  | .call name args, hcall, o, h => by
    obtain ⟨hname, hnone⟩ := Term.writesNone_call_iff.1 hcall
    have hargs := isReadable_lowerEach args hnone
    rw [lower.eq_def] at h
    simp only at h
    split at h
    · -- `match-all` stands for its first argument.
      split at h
      · cases h
        exact Operand.isReadable_truth true
      · cases h
        exact Operand.isReadable_truth _
      · next inner rest _ => exact hargs inner (List.mem_cons_self ..) o h
    · split at h
      · exact Operand.isReadable_join (by simp) h
      · next how conditions =>
        split at h
        · cases h
        · next operands hoperands =>
          exact Operand.isReadable_join
            (isReadable_of_lowerAll (fun t ht => hargs t (List.mem_cons_of_mem _ ht)) hoperands) h
    · split at h
      · cases h
      · next operands hoperands =>
        have hreadable := isReadable_of_lowerAll hargs hoperands
        split at h
        · exact Operand.isReadable_join hreadable h
        · exact Operand.isReadable_join hreadable h
        · exact Operand.isReadable_negate (fun o ho => hreadable o (List.mem_of_head? ho)) h
        · next f _ _ _ hf =>
          refine Operand.isReadable_call ?_ hreadable h
          rintro rfl
          exact hname (Builtin.name_of_ofName? hf).symm
        · cases h

theorem isReadable_lowerEach : (ts : List Term) → (∀ t ∈ ts, t.WritesNone) →
    ∀ t ∈ ts, ∀ o, lower now t = .ok o → o.IsReadable
  | [], _, _, hmem, _, _ => by cases hmem
  | t :: ts, hnone, u, hmem, o, h => by
    obtain ⟨hfirst, hrest⟩ := List.forall_mem_cons.1 hnone
    rcases List.mem_cons.1 hmem with heq | hmem
    · rw [heq] at h
      exact isReadable_lower t hfirst o h
    · exact isReadable_lowerEach ts hrest u hmem o h

end

end Tree

/-! ### The compiler of tokens -/

namespace Stack

variable {now : Int64} {o : Operand} {w : Work} {s t : State}

/-- An entry of the flat list whose operand is readable. -/
def Item.IsReadable : Item → Prop
  | op _ _ => True
  | operand o _ => o.IsReadable

/-- Stacks that hold readable operands only, and no call of a written condition. -/
structure Work.IsReadable (w : Work) : Prop where
  operands : ∀ o ∈ w.operands, o.IsReadable
  nodes : ∀ node ∈ w.nodes, node.function ≠ .sqlExp
  output : ∀ item ∈ w.output, item.IsReadable

/-- A move that brings in neither a call of a written condition nor an operand that is not readable. -/
def Move.IsReadable : Move → Prop
  | openCall f _ => f ≠ .sqlExp
  | value o => o.IsReadable
  | openLogic _ | openMatchAll _ | close _ | fault _ => True

namespace Work.IsReadable

theorem start : Work.start.IsReadable := ⟨by simp [Work.start], by simp [Work.start], by simp [Work.start]⟩

theorem emit (h : w.IsReadable) (ho : o.IsReadable) : (w.emit o).IsReadable :=
  ⟨h.operands, h.nodes, List.forall_mem_cons.2 ⟨ho, h.output⟩⟩

theorem push (h : w.IsReadable) (ho : o.IsReadable) : (w.push o).IsReadable := by
  refine ⟨fun a ha => ?_, h.nodes, h.output⟩
  rcases List.mem_append.1 ha with ha | ha
  · exact h.operands a ha
  · rw [List.mem_singleton.1 ha]
    exact ho

theorem reduce? (h : w.IsReadable) {w' : Work} (hreduce : w.reduce? now = .ok (some (o, w'))) :
    o.IsReadable ∧ w'.IsReadable := by
  rw [Work.reduce?] at hreduce
  split at hreduce
  · cases hreduce
  · next node nodes hnodes =>
    split at hreduce
    · cases hreduce
    · next value hvalue =>
      cases hreduce
      have hfunctions : ∀ n ∈ node :: nodes, n.function ≠ .sqlExp := hnodes ▸ h.nodes
      have htaken : ∀ a ∈ w.operands.drop node.base, a.IsReadable := fun a ha =>
        h.operands a (List.mem_of_mem_drop ha)
      refine ⟨Operand.isReadable_call (hfunctions node (List.mem_cons_self ..)) htaken hvalue, ?_⟩
      exact ⟨fun a ha => h.operands a (List.mem_of_mem_take ha),
        fun n hn => hfunctions n (List.mem_cons_of_mem _ hn), h.output⟩

end Work.IsReadable

theorem isReadable_deliver {frames : List Frame} (hw : w.IsReadable) (ho : o.IsReadable)
    (h : deliver now frames w o = .ok s) : s.work.IsReadable := by
  induction frames generalizing w o s with
  | nil =>
    cases h
    exact hw.emit ho
  | cons frame frames ih =>
    cases frame with
    | logic =>
      cases h
      exact hw.emit ho
    | matchAll mark =>
      cases h
      exact hw.emit ho
    | call id reduced =>
      cases reduced with
      | true => cases h
      | false =>
        have hpush := hw.push ho
        simp only [deliver] at h
        split at h
        · split at h
          · cases h
          · cases h
            exact hpush
          · next value w' hreduce =>
            -- The value of the call goes on to the next frame.
            obtain ⟨hvalue, hw'⟩ := hpush.reduce? hreduce
            split at h
            · cases h
            · next t ht =>
              have hnext : t.work.IsReadable := ih hw' hvalue ht
              cases h
              exact hnext
        · cases h
          exact hpush

theorem isReadable_reduceInto {frames : List Frame} (hw : w.IsReadable) (h : reduceInto now frames w = .ok s) :
    s.work.IsReadable := by
  rw [reduceInto] at h
  split at h
  · cases h
  · cases h
    exact hw
  · next value w' hreduce =>
    obtain ⟨hvalue, hw'⟩ := hw.reduce? hreduce
    exact isReadable_deliver hw' hvalue h

theorem isReadable_openCall {f : Builtin} {take : Take} (hs : s.work.IsReadable) (hf : f ≠ .sqlExp)
    (h : openCall now s f take = .ok t) : t.work.IsReadable := by
  simp only [openCall] at h
  have hwaiting : Work.IsReadable { s.work with
      nodes := ⟨s.work.nextId, f, take, s.work.operands.length⟩ :: s.work.nodes
      nextId := s.work.nextId + 1 } :=
    ⟨hs.operands, List.forall_mem_cons.2 ⟨hf, hs.nodes⟩, hs.output⟩
  split at h
  · split at h
    · cases h
    · next u hu =>
      have hreduced : u.work.IsReadable := isReadable_reduceInto hwaiting hu
      cases h
      exact hreduced
  · cases h
    exact hwaiting

theorem isReadable_close {offset : Nat} (hs : s.work.IsReadable) (h : close now s offset = .ok t) :
    t.work.IsReadable := by
  rw [close] at h
  split at h
  · cases h
  · cases h
    exact ⟨hs.operands, hs.nodes, hs.output⟩
  · cases h
    show Work.IsReadable _
    split
    · exact hs.emit (Operand.isReadable_truth true)
    · exact hs
  · cases h
    exact hs
  · exact isReadable_reduceInto hs h

/-- What a move does to the stacks keeps them readable. -/
theorem isReadable_step {m : Move} (hs : s.work.IsReadable) (hm : m.IsReadable) (h : step now s m = .ok t) :
    t.work.IsReadable := by
  cases m with
  | openLogic op =>
    cases h
    exact ⟨hs.operands, hs.nodes, List.forall_mem_cons.2 ⟨trivial, hs.output⟩⟩
  | openMatchAll literal =>
    cases h
    cases literal with
    | none => exact hs
    | some b => exact hs.emit (Operand.isReadable_truth b)
  | openCall f take => exact isReadable_openCall hs hm h
  | close offset => exact isReadable_close hs h
  | value o => exact isReadable_deliver hs hm h
  | fault e => cases h

/-- The first pass keeps the stacks readable. -/
theorem isReadable_run {ms : List Move} (hs : s.work.IsReadable) (hms : ∀ m ∈ ms, m.IsReadable)
    (h : run now s ms = .ok t) : t.work.IsReadable := by
  induction ms generalizing s with
  | nil =>
    cases h
    exact hs
  | cons m ms ih =>
    rw [run] at h
    split at h
    · cases h
    · next u hu =>
      obtain ⟨hm, hms⟩ := List.forall_mem_cons.1 hms
      exact ih (isReadable_step hs hm hu) hms h

theorem isReadable_opening {name : String} (hname : name ≠ "sql-exp") : (opening name).IsReadable := by
  rw [opening]
  split
  case h_6 f _ _ _ _ _ hf =>
    cases take? f with
    | none => trivial
    | some take =>
      rintro rfl
      exact hname (Builtin.name_of_ofName? hf).symm
  all_goals trivial

theorem isReadable_moves {lexemes : List Lexeme} (h : ∀ l ∈ lexemes, l.token ≠ .symbol "sql-exp") :
    ∀ m ∈ moves lexemes, m.IsReadable := by
  fun_induction moves lexemes with
  | case1 => simp
  | case2 _ _ _ _ rest ih =>
    have hrest := ih fun l hl => h l (by simp [hl])
    exact List.forall_mem_cons.2 ⟨trivial, hrest⟩
  | case3 _ _ _ _ rest ih =>
    have hrest := ih fun l hl => h l (by simp [hl])
    exact List.forall_mem_cons.2 ⟨trivial, hrest⟩
  | case4 _ name _ rest _ _ ih =>
    have hrest := ih fun l hl => h l (by simp [hl])
    have hname : name ≠ "sql-exp" := fun heq => h _ (List.mem_cons_of_mem _ (List.mem_cons_self ..)) (by rw [heq])
    exact List.forall_mem_cons.2 ⟨isReadable_opening hname, hrest⟩
  | case5 | case7 => simp [Move.IsReadable]
  | case6 _ rest ih | case8 _ _ rest ih | case9 _ _ rest ih | case10 _ _ rest ih =>
    have hrest := ih fun l hl => h l (by simp [hl])
    exact List.forall_mem_cons.2 ⟨trivial, hrest⟩

theorem Logic.isReadable_apply {op : Logic} {args : List Operand} (hargs : ∀ a ∈ args, a.IsReadable)
    (h : op.apply args = .ok o) : o.IsReadable := by
  cases op with
  | and => exact Operand.isReadable_join hargs h
  | or => exact Operand.isReadable_join hargs h
  | not => exact Operand.isReadable_negate (fun a ha => hargs a (List.mem_of_head? ha)) h

theorem isReadable_foldItem {stack folded : List (Operand × Nat)} {item : Item} (hstack : ∀ v ∈ stack, v.1.IsReadable)
    (hitem : item.IsReadable) (h : foldItem stack item = .ok folded) : ∀ v ∈ folded, v.1.IsReadable := by
  cases item with
  | operand o level =>
    cases h
    exact List.forall_mem_cons.2 ⟨hitem, hstack⟩
  | op op level =>
    rw [foldItem] at h
    split at h
    · cases h
    · next o ho =>
      cases h
      have htaken : ∀ a ∈ (stack.takeWhile fun v => level < v.2).map (·.1), a.IsReadable := by
        intro a ha
        obtain ⟨v, hv, rfl⟩ := List.mem_map.1 ha
        exact hstack v ((List.takeWhile_prefix _).subset hv)
      exact List.forall_mem_cons.2 ⟨Logic.isReadable_apply htaken ho,
        fun v hv => hstack v ((List.dropWhile_suffix _).subset hv)⟩

theorem isReadable_fold {items : List Item} {stack folded : List (Operand × Nat)} (hstack : ∀ v ∈ stack, v.1.IsReadable)
    (hitems : ∀ item ∈ items, item.IsReadable) (h : fold stack items = .ok folded) :
    ∀ v ∈ folded, v.1.IsReadable := by
  induction items generalizing stack with
  | nil =>
    cases h
    exact hstack
  | cons item items ih =>
    rw [fold] at h
    split at h
    · cases h
    · next values hvalues =>
      obtain ⟨hitem, hitems⟩ := List.forall_mem_cons.1 hitems
      exact ih (isReadable_foldItem hstack hitem hvalues) hitems h

theorem isReadable_conclude {stop : Nat} {e : Expr} (hs : s.work.IsReadable) (h : conclude stop s = .ok e) :
    e = .everything ∨ e.IsReadable := by
  rw [conclude] at h
  split at h
  · cases h
  · split at h
    · cases h
    · next stack hstack =>
      have hreadable := isReadable_fold (List.forall_mem_nil _) hs.output hstack
      split at h
      · cases h
      · next o ho =>
        rw [single.eq_def] at ho
        split at ho
        · cases ho
        · next level =>
          cases ho
          exact Operand.isReadable_finish (hreadable _ (List.mem_singleton_self _)) h
        · cases ho

end Stack

end Sql

/-! ### Whole texts -/

/-- A text that does not call for a condition as it is written. -/
def WritesNone (text : String) : Prop :=
  ∀ lexemes, tokenize text = .ok lexemes → ∀ l ∈ lexemes, l.token ≠ .symbol "sql-exp"

/-- **What compilers write can be read back.** -/
theorem Compiler.isReadable_of_compile (compiler : Compiler) {now : Int64} {text : String} {e : Sql.Expr}
    (hwritten : WritesNone text) (h : compiler.compile now text = .ok e) : e = .everything ∨ e.IsReadable := by
  cases compiler with
  | tree =>
    simp only [compile, Sql.Tree.compile] at h
    split at h
    · cases h
    · next t hparse =>
      obtain ⟨lexemes, htokenize, htokens⟩ := Term.map_token_of_parse hparse
      have hnone : t.WritesNone := by
        rw [Term.WritesNone, ← htokens]
        intro hmem
        obtain ⟨l, hl, heq⟩ := List.mem_map.1 hmem
        exact hwritten lexemes htokenize l hl heq
      rw [Sql.Tree.compileTerm] at h
      split at h
      · cases h
      · next o ho => exact Sql.Operand.isReadable_finish (Sql.Tree.isReadable_lower t hnone o ho) h
  | stack =>
    simp only [compile, Sql.Stack.compile] at h
    split at h
    · cases h
    · next lexemes htokenize =>
      split at h
      · cases h
      · next s hrun =>
        have hmoves := Sql.Stack.isReadable_moves (hwritten lexemes htokenize)
        exact Sql.Stack.isReadable_conclude (Sql.Stack.isReadable_run .start hmoves hrun) h

/-- The text of a term calls for such a condition only where the term does. -/
theorem WritesNone.of_parse {text : String} {t : Term} (hparse : Term.parse text = .ok t) (h : t.WritesNone) :
    WritesNone text := by
  intro lexemes htokenize l hl heq
  obtain ⟨lexemes', htokenize', htokens⟩ := Term.map_token_of_parse hparse
  obtain rfl : lexemes' = lexemes := Except.ok.inj (htokenize'.symm.trans htokenize)
  exact h (htokens ▸ List.mem_map.2 ⟨l, hl, heq⟩)

end MailQuery
