import LayeredSql.Proofs.Expr.Folding
import LayeredSql.Proofs.Expr.FoldingSteps

namespace LayeredSql.Expr
variable {vars : List String}

mutual

/-- The calls made, each a function with the number of its arguments. A call stands before those in
its arguments, and these stand from left to right. -/
def calls : Expr → List (String × Nat)
  | .literal _ => []
  | .column _ => []
  | .binary _ left right => left.calls ++ right.calls
  | .unary _ operand => operand.calls
  | .call func args => (func, args.length) :: callsOfAll args
  | .inSet operand set => operand.calls ++ callsOfAll set
  | .cast operand _ => operand.calls

def callsOfAll : List Expr → List (String × Nat)
  | [] => []
  | e :: es => e.calls ++ callsOfAll es

end

theorem callsOfAll_eq_flatMap (es : List Expr) : callsOfAll es = es.flatMap calls := by
  induction es with
  | nil => rfl
  | cons e es ih => rw [callsOfAll, ih, List.flatMap_cons]

/-- What a step replaces makes no call. -/
theorem Step.calls {e e' : Expr} (h : Step e e') : e'.calls = e.calls := by
  induction h with
  | binary | unary => rfl
  | left _ ih | right _ ih | operand _ ih | tested _ ih | cast _ ih => simp only [Expr.calls, ih]
  | argument _ ih | member _ ih =>
    simp only [Expr.calls, callsOfAll_eq_flatMap, List.flatMap_append, List.flatMap_cons, ih,
      List.length_append, List.length_cons]

/-- What folding makes of constants is a constant, and what it does not fold it would not fold the
next time. -/
theorem fold_fold_binary {l r : Expr} (op : BinaryOp) (hl : l.fold vars = .ok l)
    (hr : r.fold vars = .ok r) : (foldBinary op l r).fold vars = .ok (foldBinary op l r) := by
  rcases fold_binary_cases op l r with he | ⟨a, b, c, -, -, he⟩
  · rw [he, fold, hl, hr]
    exact congrArg Except.ok he
  · rw [he]
    rfl

theorem fold_fold_unary {x : Expr} (op : UnaryOp) (hx : x.fold vars = .ok x) :
    (foldUnary op x).fold vars = .ok (foldUnary op x) := by
  rcases fold_unary_cases op x with he | ⟨a, c, -, he⟩
  · rw [he, fold, hx]
    exact congrArg Except.ok he
  · rw [he]
    rfl

mutual

/-- A folded expression is folded as far as it goes. -/
theorem fold_folded (e : Expr) {e' : Expr} (h : e.fold vars = .ok e') : e'.fold vars = .ok e' := by
  match e with
  | .literal value =>
    cases h
    rfl
  | .column name =>
    have hsame := h
    simp only [fold] at hsame
    split at hsame
    · cases hsame
      exact h
    · cases hsame
  | .binary op left right =>
    simp only [fold, bind_ok, pure_ok] at h
    obtain ⟨l, hl, r, hr, rfl⟩ := h
    exact fold_fold_binary op (fold_folded left hl) (fold_folded right hr)
  | .unary op operand =>
    simp only [fold, bind_ok, pure_ok] at h
    obtain ⟨x, hx, rfl⟩ := h
    exact fold_fold_unary op (fold_folded operand hx)
  | .call func args =>
    simp only [fold, bind_ok, pure_ok] at h
    obtain ⟨es, hes, rfl⟩ := h
    rw [fold, fold_all_folded args hes]
    rfl
  | .inSet operand set =>
    simp only [fold, bind_ok, pure_ok] at h
    obtain ⟨x, hx, es, hes, rfl⟩ := h
    rw [fold, fold_folded operand hx, fold_all_folded set hes]
    rfl
  | .cast operand target =>
    simp only [fold, bind_ok, pure_ok] at h
    obtain ⟨x, hx, rfl⟩ := h
    rw [fold, fold_folded operand hx]
    rfl

theorem fold_all_folded (es : List Expr) {es' : List Expr} (h : foldAll vars es = .ok es') :
    foldAll vars es' = .ok es' := by
  match es with
  | [] =>
    cases h
    rfl
  | e :: es =>
    simp only [foldAll, bind_ok, pure_ok] at h
    obtain ⟨e', he, es', hes, rfl⟩ := h
    rw [foldAll, fold_folded e he, fold_all_folded es hes]
    rfl

end

/-- Folding is refused for the first column, from left to right, that is not known. With all columns
known it succeeds, with the same columns and the same calls in the same order. No operation on
constants that has a result is left then, and folding once more changes nothing. -/
theorem fold_checks_and_normalises (vars : List String) (e : Expr) :
    (∀ c, e.columns.find? (· ∉ vars) = some c → e.fold vars = .error (.unknownColumn c vars)) ∧
    ((∀ c ∈ e.columns, c ∈ vars) →
      ∃ e', e.fold vars = .ok e' ∧ e'.columns = e.columns ∧ e'.calls = e.calls ∧ e'.Folded ∧
        e'.fold vars = .ok e') := by
  constructor
  · intro c hc
    rcases fold_first_unknown vars e with ⟨-, hn⟩ | ⟨c', hc', he⟩
    · rw [hn] at hc
      cases hc
    · rw [hc] at hc'
      cases hc'
      exact he
  · intro hall
    obtain ⟨e', he⟩ := fold_ok_iff.mpr hall
    have hcolumns := (fold_from (t := .builtin) e he).columns
    exact ⟨e', he, hcolumns, (fold_steps e he).keeps Step.calls, fold_leaves_folded e he,
      fold_folded e he⟩

def callOverSums (name : String) : Expr :=
  .call "pmax"
    [.binary .sub (.literal (.int 2)) (.literal (.int 5)),
      .call "coalesce" [.column "x", .unary .neg (.literal (.int (-9223372036854775808)))],
      .column name]

def callOverSumsFolded : Expr :=
  .call "pmax"
    [.literal (.int (-3)),
      .call "coalesce" [.column "x", .unary .neg (.literal (.int (-9223372036854775808)))],
      .column "x"]

theorem call_over_sums_folds :
    (callOverSums "zz").fold ["x"] = .error (.unknownColumn "zz" ["x"]) ∧
      (callOverSums "x").fold ["x"] = .ok callOverSumsFolded ∧
      callOverSumsFolded.columns = ["x", "x"] ∧
      callOverSumsFolded.calls = [("pmax", 3), ("coalesce", 2)] ∧ callOverSumsFolded.Folded ∧
      callOverSumsFolded.fold ["x"] = .ok callOverSumsFolded := by
  refine ⟨(fold_checks_and_normalises ["x"] (callOverSums "zz")).1 "zz" (by decide), ?_⟩
  have hfold : (callOverSums "x").fold ["x"] = .ok callOverSumsFolded := rfl
  obtain ⟨e', he, hrest⟩ := (fold_checks_and_normalises ["x"] (callOverSums "x")).2 (by decide)
  obtain rfl : e' = callOverSumsFolded := Except.ok.inj (he.symm.trans hfold)
  exact ⟨hfold, hrest⟩

end LayeredSql.Expr
