import MailQuery.Proofs.Compilers.Readability
import MailQuery.Proofs.Sql.Literals

/-!
# Compiled conditions are confined

What compilers write is readable, and the texts of readable expressions are sealed. So nothing in an expression escapes
from the literals of its condition (`Compiler.isConfined_of_compile`).
-/

namespace MailQuery

open Text

namespace Compiler

variable {now : Int64} {text : String} {e : Sql.Expr}

/-- **What compilers write stays in its place.** Unless the text itself calls for a condition as it is written, the
literals of the condition are closed, its parentheses match, and nothing outside of literals ends it, names a
column by quotes or starts a comment. -/
theorem isConfined_of_compile (compiler : Compiler)
    (hwritten : ∀ lexemes, tokenize text = .ok lexemes → ∀ l ∈ lexemes, l.token ≠ .symbol "sql-exp")
    (h : compiler.compile now text = .ok e) : Sql.IsConfined e.sql := by
  obtain rfl | hreadable := compiler.isReadable_of_compile hwritten h
  · exact Sql.Expr.IsSealed.everything.isConfined
  · exact (Sql.Expr.IsSealed.of_isReadable hreadable).isConfined

theorem isConfined_of_compile_quotes :
    ∃ e, Compiler.stack.compile 0 "(< -5 \"it's; -- (\")" = .ok e ∧ e.sql = "( -5 < 'it''s; -- (' )" ∧
      Sql.IsConfined e.sql := by
  have hwritten : ∀ lexemes ∈ (tokenize "(< -5 \"it's; -- (\")").toOption,
      ∀ l ∈ lexemes, l.token ≠ .symbol "sql-exp" := by decide +kernel
  have hsql : (Compiler.stack.compile 0 "(< -5 \"it's; -- (\")").toOption.map (·.sql) =
      some "( -5 < 'it''s; -- (' )" := by decide +kernel
  obtain ⟨e, he, hsql⟩ := Option.map_eq_some_iff.1 hsql
  have hcompile := eq_ok_of_toOption he
  exact ⟨e, hcompile, hsql, isConfined_of_compile .stack
    (fun lexemes hlexemes => hwritten lexemes (by rw [hlexemes]; rfl)) hcompile⟩

end Compiler

end MailQuery
