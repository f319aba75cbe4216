import LayeredSql.Expr.Basic

namespace LayeredSql.Expr

mutual

theorem substitute_congr {σ τ : String → Option Expr} (e : Expr)
    (h : ∀ c ∈ e.columns, σ c = τ c) : e.substitute σ = e.substitute τ := by
  match e with
  | .literal value => rfl
  | .column name =>
    rw [substitute, substitute, h name List.mem_cons_self]
  | .binary op left right =>
    simp only [columns, List.forall_mem_append] at h
    rw [substitute, substitute, substitute_congr left h.1, substitute_congr right h.2]
  | .unary op operand =>
    rw [substitute, substitute, substitute_congr operand h]
  | .call func args =>
    rw [substitute, substitute, substitute_all_congr args h]
  | .inSet operand set =>
    simp only [columns, List.forall_mem_append] at h
    rw [substitute, substitute, substitute_congr operand h.1, substitute_all_congr set h.2]
  | .cast operand target =>
    rw [substitute, substitute, substitute_congr operand h]

theorem substitute_all_congr {σ τ : String → Option Expr} (es : List Expr)
    (h : ∀ c ∈ columnsOfAll es, σ c = τ c) : substituteAll σ es = substituteAll τ es := by
  match es with
  | [] => rfl
  | e :: es =>
    simp only [columnsOfAll, List.forall_mem_append] at h
    rw [substituteAll, substituteAll, substitute_congr e h.1, substitute_all_congr es h.2]

end

mutual

theorem substitute_nothing (e : Expr) : e.substitute (fun _ => none) = e := by
  match e with
  | .literal value => rfl
  | .column name => rfl
  | .binary op left right =>
    rw [substitute, substitute_nothing left, substitute_nothing right]
  | .unary op operand => rw [substitute, substitute_nothing operand]
  | .call func args => rw [substitute, substitute_nothing_all args]
  | .inSet operand set => rw [substitute, substitute_nothing operand, substitute_nothing_all set]
  | .cast operand target => rw [substitute, substitute_nothing operand]

theorem substitute_nothing_all (es : List Expr) : substituteAll (fun _ => none) es = es := by
  match es with
  | [] => rfl
  | e :: es => rw [substituteAll, substitute_nothing e, substitute_nothing_all es]

end

/-- An expression none of whose columns is replaced stays as it is. -/
theorem substitute_of_none {σ : String → Option Expr} {e : Expr} (h : ∀ c ∈ e.columns, σ c = none) :
    e.substitute σ = e := by
  rw [substitute_congr e h, substitute_nothing]

end LayeredSql.Expr
