import LayeredSql.Proofs.Expr.Nesting

namespace LayeredSql.Expr
variable {t : FunctionTable} {vars : List String}

/-- Two constants may fold to one; anything else stays an operation. -/
theorem fold_binary_cases (op : BinaryOp) (l r : Expr) :
    foldBinary op l r = .binary op l r ∨
      ∃ a b c, l = .literal a ∧ r = .literal b ∧ foldBinary op l r = .literal c := by
  unfold foldBinary
  split
  · rename_i a b
    cases hf : op.fold? a b with
    | none => exact .inl rfl
    | some c => exact .inr ⟨a, b, c, rfl, rfl, rfl⟩
  · exact .inl rfl

theorem fold_unary_cases (op : UnaryOp) (e : Expr) :
    foldUnary op e = .unary op e ∨ ∃ a c, e = .literal a ∧ foldUnary op e = .literal c := by
  unfold foldUnary
  split
  · rename_i a
    cases hf : op.fold? a with
    | none => exact .inl rfl
    | some c => exact .inr ⟨a, c, rfl, rfl⟩
  · exact .inl rfl

theorem fold_binary_columns (op : BinaryOp) (l r : Expr) :
    (foldBinary op l r).columns = l.columns ++ r.columns := by
  rcases fold_binary_cases op l r with he | ⟨a, b, c, rfl, rfl, he⟩
  · rw [he, columns]
  · rw [he]
    rfl

theorem fold_binary_windows (op : BinaryOp) (l r : Expr) :
    SameWindows t (.binary op l r) (foldBinary op l r) := by
  rcases fold_binary_cases op l r with he | ⟨a, b, c, rfl, rfl, he⟩
  · rw [he]
    exact ⟨rfl, rfl⟩
  · rw [he]
    exact ⟨rfl, rfl⟩

theorem fold_unary_columns (op : UnaryOp) (e : Expr) : (foldUnary op e).columns = e.columns := by
  rcases fold_unary_cases op e with he | ⟨a, c, rfl, he⟩
  · rw [he, columns]
  · rw [he]
    rfl

theorem fold_unary_windows (op : UnaryOp) (e : Expr) :
    SameWindows t (.unary op e) (foldUnary op e) := by
  rcases fold_unary_cases op e with he | ⟨a, c, rfl, he⟩
  · rw [he]
    exact ⟨rfl, rfl⟩
  · rw [he]
    exact ⟨rfl, rfl⟩

/-- What folding keeps of an expression, whose columns have all been found. -/
structure FoldedFrom (t : FunctionTable) (vars : List String) (e e' : Expr) : Prop
    extends SameWindows t e e' where
  columns : e'.columns = e.columns
  found : ∀ c ∈ e.columns, c ∈ vars

structure FoldedFromAll (t : FunctionTable) (vars : List String) (es es' : List Expr) : Prop
    extends SameWindowsAll t es es' where
  columns : columnsOfAll es' = columnsOfAll es
  found : ∀ c ∈ columnsOfAll es, c ∈ vars

mutual

theorem fold_from (e : Expr) {e' : Expr} (h : e.fold vars = .ok e') :
    FoldedFrom t vars e e' := by
  match e with
  | .literal value =>
    cases h
    exact ⟨⟨rfl, rfl⟩, rfl, by simp [columns]⟩
  | .column name =>
    simp only [fold] at h
    split at h
    · rename_i hm
      cases h
      exact ⟨⟨rfl, rfl⟩, rfl, by simpa [columns] using hm⟩
    · cases h
  | .binary op left right =>
    simp only [fold, bind_ok, pure_ok] at h
    obtain ⟨l, hl, r, hr, rfl⟩ := h
    have hleft := fold_from left hl
    have hright := fold_from right hr
    refine ⟨?_, ?_, List.forall_mem_append.mpr ⟨hleft.found, hright.found⟩⟩
    · exact (hleft.toSameWindows.binary op hright.toSameWindows).trans (fold_binary_windows op l r)
    · rw [fold_binary_columns, hleft.columns, hright.columns, columns]
  | .unary op operand =>
    simp only [fold, bind_ok, pure_ok] at h
    obtain ⟨x, hx, rfl⟩ := h
    have hoperand := fold_from operand hx
    refine ⟨?_, ?_, hoperand.found⟩
    · exact (hoperand.toSameWindows.unary op).trans (fold_unary_windows op x)
    · rw [fold_unary_columns, hoperand.columns, columns]
  | .call func args =>
    simp only [fold, bind_ok, pure_ok] at h
    obtain ⟨es, hes, rfl⟩ := h
    have hargs := fold_all_from args hes
    exact ⟨.call func hargs.toSameWindowsAll, hargs.columns, hargs.found⟩
  | .inSet operand set =>
    simp only [fold, bind_ok, pure_ok] at h
    obtain ⟨x, hx, es, hes, rfl⟩ := h
    have hoperand := fold_from operand hx
    have hset := fold_all_from set hes
    refine ⟨?_, ?_, List.forall_mem_append.mpr ⟨hoperand.found, hset.found⟩⟩
    · exact hoperand.toSameWindows.in_set hset.toSameWindowsAll
    · rw [columns, columns, hoperand.columns, hset.columns]
  | .cast operand target =>
    simp only [fold, bind_ok, pure_ok] at h
    obtain ⟨x, hx, rfl⟩ := h
    have hoperand := fold_from operand hx
    exact ⟨hoperand.toSameWindows.cast target, hoperand.columns, hoperand.found⟩

theorem fold_all_from (es : List Expr) {es' : List Expr} (h : foldAll vars es = .ok es') :
    FoldedFromAll t vars es es' := by
  match es with
  | [] =>
    cases h
    exact ⟨⟨rfl, rfl⟩, rfl, by simp [columnsOfAll]⟩
  | e :: es =>
    simp only [foldAll, bind_ok, pure_ok] at h
    obtain ⟨e', he, es', hes, rfl⟩ := h
    have hhead := fold_from e he
    have htail := fold_all_from es hes
    refine ⟨.cons hhead.toSameWindows htail.toSameWindowsAll, ?_,
      List.forall_mem_append.mpr ⟨hhead.found, htail.found⟩⟩
    rw [columnsOfAll, columnsOfAll, hhead.columns, htail.columns]

end

/-- In a list of names, the first that is not known is the first of the first part that has one. -/
theorem find_unknown_append {xs ys : List String} (h : xs.find? (· ∉ vars) = none) :
    (xs ++ ys).find? (· ∉ vars) = ys.find? (· ∉ vars) := by
  rw [List.find?_append, h, Option.none_or]

mutual

/-- Folding succeeds, or stops at the first column that is not known. -/
theorem fold_first_unknown (vars : List String) (e : Expr) :
    ((∃ e', e.fold vars = .ok e') ∧ e.columns.find? (· ∉ vars) = none) ∨
      ∃ c, e.columns.find? (· ∉ vars) = some c ∧ e.fold vars = .error (.unknownColumn c vars) := by
  match e with
  | .literal value => exact .inl ⟨⟨_, rfl⟩, rfl⟩
  | .column name =>
    by_cases hm : name ∈ vars
    · exact .inl ⟨⟨_, if_pos hm⟩, by simp [columns, hm]⟩
    · exact .inr ⟨name, by simp [columns, hm], if_neg hm⟩
  | .binary op left right =>
    rcases fold_first_unknown vars left with ⟨⟨l, hl⟩, hn⟩ | ⟨c, hc, hl⟩
    · rw [columns, find_unknown_append hn]
      rcases fold_first_unknown vars right with ⟨⟨r, hr⟩, hn⟩ | ⟨c, hc, hr⟩
      · exact .inl ⟨⟨foldBinary op l r, by rw [fold, hl, hr]; rfl⟩, hn⟩
      · exact .inr ⟨c, hc, by rw [fold, hl, hr]; rfl⟩
    · exact .inr ⟨c, by rw [columns, List.find?_append, hc]; rfl, by rw [fold, hl]; rfl⟩
  | .unary op operand =>
    rcases fold_first_unknown vars operand with ⟨⟨x, hx⟩, hn⟩ | ⟨c, hc, hx⟩
    · exact .inl ⟨⟨foldUnary op x, by rw [fold, hx]; rfl⟩, hn⟩
    · exact .inr ⟨c, hc, by rw [fold, hx]; rfl⟩
  | .call func args =>
    rcases fold_all_first_unknown vars args with ⟨⟨es, hes⟩, hn⟩ | ⟨c, hc, hes⟩
    · exact .inl ⟨⟨.call func es, by rw [fold, hes]; rfl⟩, hn⟩
    · exact .inr ⟨c, hc, by rw [fold, hes]; rfl⟩
  | .inSet operand set =>
    rcases fold_first_unknown vars operand with ⟨⟨x, hx⟩, hn⟩ | ⟨c, hc, hx⟩
    · rw [columns, find_unknown_append hn]
      rcases fold_all_first_unknown vars set with ⟨⟨es, hes⟩, hn⟩ | ⟨c, hc, hes⟩
      · exact .inl ⟨⟨.inSet x es, by rw [fold, hx, hes]; rfl⟩, hn⟩
      · exact .inr ⟨c, hc, by rw [fold, hx, hes]; rfl⟩
    · exact .inr ⟨c, by rw [columns, List.find?_append, hc]; rfl, by rw [fold, hx]; rfl⟩
  | .cast operand target =>
    rcases fold_first_unknown vars operand with ⟨⟨x, hx⟩, hn⟩ | ⟨c, hc, hx⟩
    · exact .inl ⟨⟨.cast x target, by rw [fold, hx]; rfl⟩, hn⟩
    · exact .inr ⟨c, hc, by rw [fold, hx]; rfl⟩

theorem fold_all_first_unknown (vars : List String) (es : List Expr) :
    ((∃ es', foldAll vars es = .ok es') ∧ (columnsOfAll es).find? (· ∉ vars) = none) ∨
      ∃ c, (columnsOfAll es).find? (· ∉ vars) = some c ∧
        foldAll vars es = .error (.unknownColumn c vars) := by
  match es with
  | [] => exact .inl ⟨⟨_, rfl⟩, rfl⟩
  | e :: es =>
    rcases fold_first_unknown vars e with ⟨⟨x, hx⟩, hn⟩ | ⟨c, hc, hx⟩
    · rw [columnsOfAll, find_unknown_append hn]
      rcases fold_all_first_unknown vars es with ⟨⟨xs, hxs⟩, hn⟩ | ⟨c, hc, hxs⟩
      · exact .inl ⟨⟨x :: xs, by rw [foldAll, hx, hxs]; rfl⟩, hn⟩
      · exact .inr ⟨c, hc, by rw [foldAll, hx, hxs]; rfl⟩
    · exact .inr ⟨c, by rw [columnsOfAll, List.find?_append, hc]; rfl, by rw [foldAll, hx]; rfl⟩

end

/-- Folding succeeds, or stops at a column that is not known. -/
theorem fold_outcome (vars : List String) (e : Expr) :
    (∃ e', e.fold vars = .ok e') ∨
      ∃ c ∈ e.columns, c ∉ vars ∧ e.fold vars = .error (.unknownColumn c vars) := by
  rcases fold_first_unknown vars e with ⟨hok, -⟩ | ⟨c, hc, he⟩
  · exact .inl hok
  · have hv : c ∉ vars := by simpa using List.find?_some hc
    exact .inr ⟨c, List.mem_of_find?_eq_some hc, hv, he⟩

/-- An expression folds exactly when all its columns are known. -/
theorem fold_ok_iff {e : Expr} : (∃ e', e.fold vars = .ok e') ↔ ∀ c ∈ e.columns, c ∈ vars := by
  constructor
  · rintro ⟨e', he⟩
    exact (fold_from (t := .builtin) e he).found
  · intro h
    rcases fold_outcome vars e with hok | ⟨c, hc, hv, -⟩
    · exact hok
    · exact absurd (h c hc) hv

theorem fold_all_eq_mapM (es : List Expr) : foldAll vars es = es.mapM (·.fold vars) := by
  induction es with
  | nil => rfl
  | cons e es ih => rw [foldAll, List.mapM_cons, ih]

/-- Folding a list folds each of its expressions. -/
theorem fold_all_ok {es es' : List Expr} :
    foldAll vars es = .ok es' ↔ List.Forall₂ (fun e e' => e.fold vars = .ok e') es es' := by
  rw [fold_all_eq_mapM, mapM_ok]

/-- What folds in two parts folds together. -/
theorem fold_all_of_parts (p : Expr → Bool) {es yes no : List Expr}
    (hyes : foldAll vars (es.filter p) = .ok yes) (hno : foldAll vars (es.filter (!p ·)) = .ok no) :
    ∃ es', foldAll vars es = .ok es' := by
  rw [fold_all_eq_mapM] at hyes hno ⊢
  apply mapM_succeeds.mpr
  intro e he
  cases hp : p e with
  | true => exact mapM_succeeds.mp ⟨_, hyes⟩ e (List.mem_filter.mpr ⟨he, hp⟩)
  | false => exact mapM_succeeds.mp ⟨_, hno⟩ e (List.mem_filter.mpr ⟨he, by simp [hp]⟩)

/-- Expressions fold alike with others or without, and the same ones have windows afterwards. -/
theorem fold_all_filter (p : Bool → Bool) {es es' : List Expr} (h : foldAll vars es = .ok es') :
    foldAll vars (es.filter fun e => p (e.callsWindow t)) =
      .ok (es'.filter fun e => p (e.callsWindow t)) := by
  rw [fold_all_ok] at h ⊢
  refine List.rel_filter (fun e e' he => ?_) h
  simp only [(fold_from (t := t) e he).calls]

end LayeredSql.Expr
