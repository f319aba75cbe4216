import LayeredSql.Expr.Basic

namespace LayeredSql
universe u

/-- A meaning of everything an expression is built from. Values may be whole columns. -/
structure Interpretation (V : Type u) where
  literal : Literal → V
  binary : BinaryOp → V → V → V
  unary : UnaryOp → V → V
  call : String → List V → V
  inSet : V → List V → V
  cast : V → SqlType → V

namespace Expr
variable {V : Type u}

mutual

def eval (I : Interpretation V) (env : String → V) : Expr → V
  | .literal value => I.literal value
  | .column name => env name
  | .binary op left right => I.binary op (left.eval I env) (right.eval I env)
  | .unary op operand => I.unary op (operand.eval I env)
  | .call func args => I.call func (evalAll I env args)
  | .inSet operand set => I.inSet (operand.eval I env) (evalAll I env set)
  | .cast operand target => I.cast (operand.eval I env) target

def evalAll (I : Interpretation V) (env : String → V) : List Expr → List V
  | [] => []
  | e :: es => e.eval I env :: evalAll I env es

end

theorem evalAll_eq_map (I : Interpretation V) (env : String → V) (es : List Expr) :
    evalAll I env es = es.map (eval I env) := by
  induction es with
  | nil => rfl
  | cons e es ih => rw [evalAll, ih, List.map_cons]

mutual

/-- The value depends on the columns of an expression only. -/
theorem eval_congr {I : Interpretation V} {env env' : String → V} (e : Expr)
    (h : ∀ c ∈ e.columns, env c = env' c) : e.eval I env = e.eval I env' := by
  match e with
  | .literal value => rfl
  | .column name => exact h name List.mem_cons_self
  | .binary op left right =>
    simp only [columns, List.forall_mem_append] at h
    rw [eval, eval, eval_congr left h.1, eval_congr right h.2]
  | .unary op operand => rw [eval, eval, eval_congr operand h]
  | .call func args => rw [eval, eval, eval_all_congr args h]
  | .inSet operand set =>
    simp only [columns, List.forall_mem_append] at h
    rw [eval, eval, eval_congr operand h.1, eval_all_congr set h.2]
  | .cast operand target => rw [eval, eval, eval_congr operand h]

theorem eval_all_congr {I : Interpretation V} {env env' : String → V} (es : List Expr)
    (h : ∀ c ∈ columnsOfAll es, env c = env' c) : evalAll I env es = evalAll I env' es := by
  match es with
  | [] => rfl
  | e :: es =>
    simp only [columnsOfAll, List.forall_mem_append] at h
    rw [evalAll, evalAll, eval_congr e h.1, eval_all_congr es h.2]

end

def replacedValue (I : Interpretation V) (env : String → V) (σ : String → Option Expr)
    (name : String) : V :=
  ((σ name).getD (.column name)).eval I env

mutual

/-- Substitution is evaluation with the values of what is put in. -/
theorem eval_substitute (I : Interpretation V) (env : String → V) (σ : String → Option Expr)
    (e : Expr) : (e.substitute σ).eval I env = e.eval I (replacedValue I env σ) := by
  match e with
  | .literal value => rfl
  | .column name => rfl
  | .binary op left right =>
    rw [substitute, eval, eval, eval_substitute I env σ left, eval_substitute I env σ right]
  | .unary op operand => rw [substitute, eval, eval, eval_substitute I env σ operand]
  | .call func args => rw [substitute, eval, eval, eval_substitute_all I env σ args]
  | .inSet operand set =>
    rw [substitute, eval, eval, eval_substitute I env σ operand, eval_substitute_all I env σ set]
  | .cast operand target => rw [substitute, eval, eval, eval_substitute I env σ operand]

theorem eval_substitute_all (I : Interpretation V) (env : String → V) (σ : String → Option Expr)
    (es : List Expr) :
    evalAll I env (substituteAll σ es) = evalAll I (replacedValue I env σ) es := by
  match es with
  | [] => rfl
  | e :: es =>
    rw [substituteAll, evalAll, evalAll, eval_substitute I env σ e, eval_substitute_all I env σ es]

end

end Expr
end LayeredSql
