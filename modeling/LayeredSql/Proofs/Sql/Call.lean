import LayeredSql.Proofs.Dialect
import LayeredSql.Proofs.Outcome
import LayeredSql.Sql.Clauses

namespace LayeredSql

namespace Expr

/-- What a first argument sorts by: the argument of `desc` around it, or itself. -/
def sortOperand : Expr → Expr
  | .call "desc" [x] => x
  | e => e

def sortsDescending : Expr → Bool
  | .call "desc" [_] => true
  | _ => false

theorem sort_operand_le (e : Expr) : sizeOf e.sortOperand ≤ sizeOf e := by
  unfold sortOperand
  split
  · simp
    omega
  · exact le_rfl

theorem sort_operand_lt (e : Expr) (es : List Expr) : sizeOf e.sortOperand < sizeOf (e :: es) := by
  have hle := e.sort_operand_le
  simp
  omega

theorem sort_operand_columns (e : Expr) : e.sortOperand.columns = e.columns := by
  unfold sortOperand
  split
  · rw [columns, columnsOfAll, columnsOfAll, List.append_nil]
  · rfl

theorem sort_operand_plain {e : Expr} (h : ∀ x, e ≠ .call "desc" [x]) : e.sortOperand = e := by
  unfold sortOperand
  split
  · exact absurd rfl (h _)
  · rfl

theorem sorts_descending_plain {e : Expr} (h : ∀ x, e ≠ .call "desc" [x]) :
    e.sortsDescending = false := by
  unfold sortsDescending
  split
  · exact absurd rfl (h _)
  · rfl

end Expr

namespace Sql
open LayeredSql.Expr
variable {s : Scope}

/-- A signature is found under the name of the function. -/
theorem Scope.signature_found {func : String} {arity : Nat} {sig : Signature}
    (h : s.signature func arity = .ok sig) : s.dialect.functions.get? func = some sig := by
  rw [Scope.signature, map_error_ok, FunctionTable.lookup_eq_ok] at h
  exact h.1

theorem Scope.signature_mem {func : String} {arity : Nat} {sig : Signature}
    (h : s.signature func arity = .ok sig) : sig ∈ s.dialect.functions.signatures :=
  List.mem_of_find?_eq_some (Scope.signature_found h)

/-- A first argument is written as a sorting key. -/
theorem leading_key_cons (s : Scope) (e : Expr) (es : List Expr) :
    leadingKey s (e :: es) = (do
      let sql ← fragment (.ok []) s.forKeys false e.sortOperand
      return [keyText e.sortsDescending sql]) := by
  unfold leadingKey
  split
  · rename_i h
    cases h
  · rename_i h
    obtain ⟨rfl, rfl⟩ := List.cons.inj h
    rfl
  · rename_i hplain h
    obtain ⟨rfl, rfl⟩ := List.cons.inj h
    rw [sort_operand_plain hplain, sorts_descending_plain hplain]

end Sql
end LayeredSql
