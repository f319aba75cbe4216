import LayeredSql.Proofs.Expr.Folding
import LayeredSql.Proofs.Sql.Windowless
import LayeredSql.Proofs.Sql.Written

namespace LayeredSql

namespace Expr
variable {vars : List String}

def Numeric (e : Expr) : Prop :=
  ∀ x, literal (.float x) ∈ e.written → x.isFinite = true

def NumericAll (es : List Expr) : Prop :=
  ∀ x, literal (.float x) ∈ writtenOfAll es → x.isFinite = true

theorem numeric_binary {op : BinaryOp} {l r : Expr} :
    (binary op l r).Numeric ↔ l.Numeric ∧ r.Numeric := by
  simp only [Numeric, written, List.mem_append, or_imp, forall_and]

theorem numeric_all_cons {e : Expr} {es : List Expr} :
    NumericAll (e :: es) ↔ e.Numeric ∧ NumericAll es := by
  simp only [NumericAll, Numeric, writtenOfAll, List.mem_append, or_imp, forall_and]

theorem numeric_in_set {e : Expr} {set : List Expr} (h : ¬ set.isEmpty = true) :
    (inSet e set).Numeric ↔ e.Numeric ∧ NumericAll set := by
  simp only [NumericAll, Numeric, written, if_neg h, List.mem_append, or_imp, forall_and]

theorem numeric_all_iff {es : List Expr} : NumericAll es ↔ ∀ e ∈ es, e.Numeric := by
  induction es with
  | nil => simp [NumericAll, writtenOfAll]
  | cons e es ih => rw [numeric_all_cons, ih, List.forall_mem_cons]

theorem fold_all_length {es es' : List Expr} (h : foldAll vars es = .ok es') :
    es'.length = es.length :=
  (fold_all_ok.mp h).length_eq.symm

theorem empty_of_length {es es' : List Expr} (h : es'.length = es.length) :
    es'.isEmpty = es.isEmpty := by
  rw [Bool.eq_iff_iff, List.isEmpty_iff_length_eq_zero, List.isEmpty_iff_length_eq_zero, h]

/-- Folding makes no calls. -/
theorem call_of_fold {e : Expr} {func : String} {args : List Expr}
    (h : e.fold vars = .ok (.call func args)) :
    ∃ args', e = .call func args' ∧ foldAll vars args' = .ok args := by
  cases e with
  | literal value => cases h
  | column name =>
    simp only [fold] at h
    split at h
    · cases h
    · cases h
  | binary op left right =>
    simp only [fold, bind_ok, pure_ok] at h
    obtain ⟨l, -, r, -, h⟩ := h
    rcases fold_binary_cases op l r with he | ⟨a, b, c, -, -, he⟩
    · rw [he] at h
      cases h
    · rw [he] at h
      cases h
  | unary op operand =>
    simp only [fold, bind_ok, pure_ok] at h
    obtain ⟨x, -, h⟩ := h
    rcases fold_unary_cases op x with he | ⟨a, c, -, he⟩
    · rw [he] at h
      cases h
    · rw [he] at h
      cases h
  | call func' args' =>
    simp only [fold, bind_ok, pure_ok] at h
    obtain ⟨es, hes, h⟩ := h
    cases h
    exact ⟨args', rfl, hes⟩
  | inSet operand set =>
    simp only [fold, bind_ok, pure_ok] at h
    obtain ⟨_, -, _, -, h⟩ := h
    cases h
  | cast operand target =>
    simp only [fold, bind_ok, pure_ok] at h
    obtain ⟨_, -, h⟩ := h
    cases h

/-- A sorting key is folded without the `desc` around it, and folding brings in none. -/
theorem sort_operand_folded {e e' : Expr} (h : e.fold vars = .ok e') :
    e.sortOperand.fold vars = .ok e'.sortOperand := by
  by_cases hdesc : ∃ x, e = .call "desc" [x]
  · obtain ⟨x, rfl⟩ := hdesc
    simp only [fold, foldAll, bind_ok, pure_ok] at h
    obtain ⟨_, ⟨x', hx, _, hnil, rfl⟩, rfl⟩ := h
    cases hnil
    exact hx
  · have hplain : ∀ x, e' ≠ .call "desc" [x] := by
      rintro x rfl
      obtain ⟨args, rfl, hargs⟩ := call_of_fold h
      obtain ⟨y, rfl⟩ := List.length_eq_one_iff.mp (fold_all_length hargs).symm
      exact hdesc ⟨y, rfl⟩
    rw [sort_operand_plain fun x hx => hdesc ⟨x, hx⟩, sort_operand_plain hplain]
    exact h

end Expr

namespace Sql
open LayeredSql.Expr
variable {s s' : Scope} {keys keys' : Except SqlError (List String)}

/-- Scopes in which the same calls are allowed. -/
structure Scope.Alike (s s' : Scope) : Prop where
  dialect : s'.dialect = s.dialect
  clause : s'.clause = s.clause

theorem Scope.Alike.refl (s : Scope) : s.Alike s :=
  ⟨rfl, rfl⟩

theorem Scope.Alike.for_keys (h : s.Alike s') : s.forKeys.Alike s'.forKeys :=
  ⟨h.dialect, rfl⟩

/-- A scope of the same clause that sees at least as many columns. -/
structure Scope.Widens (s s' : Scope) : Prop where
  dialect : s'.dialect = s.dialect
  clause : s'.clause = s.clause
  vars : s.vars ⊆ s'.vars

namespace Scope.Widens

theorem refl (s : Scope) : s.Widens s :=
  ⟨rfl, rfl, fun _ h => h⟩

theorem alike (hw : s.Widens s') : s.Alike s' :=
  ⟨hw.dialect, hw.clause⟩

theorem for_keys (hw : s.Widens s') : s.forKeys.Widens s'.forKeys :=
  ⟨hw.dialect, rfl, hw.vars⟩

end Scope.Widens

theorem literal_written_numeric {value : Literal} (h : (Expr.literal value).Numeric) :
    ∃ text, literal value = .ok text := by
  cases value with
  | float x =>
    have hx := h x List.mem_cons_self
    exact ⟨_, if_pos hx⟩
  | null | bool b | int n | string s => exact ⟨_, rfl⟩

/-- With both operands written, so is the operation, be it a test for NULL or not. -/
theorem operation_written {op : BinaryOp} {l r : Expr} {nested : Bool} {lhs rhs : String}
    (hl : fragment keys s true l = .ok lhs) (hr : fragment keys s true r = .ok rhs) :
    ∃ text, fragment keys s nested (.binary op l r) = .ok text := by
  rw [fragment]
  apply bind_succeeds hl
  cases nullTest? op r with
  | some test => exact ⟨_, rfl⟩
  | none => exact bind_succeeds hr ⟨_, rfl⟩

/-- A call can be written as a call of the same function was, if there are as many arguments, and
these can be written as those were. The ordering of the relation is looked at for windows only. -/
theorem call_rewritten (ha : s.Alike s')
    (hk : s.clause = .derivation → ∀ order, keys = .ok order → ∃ order', keys' = .ok order')
    {func text : String} {args args' : List Expr} {nested nested' : Bool}
    (hlength : args'.length = args.length)
    (hargs : ∀ within texts, fragments keys s within args = .ok texts →
      ∃ texts', fragments keys' s' within args' = .ok texts')
    (hlater : ∀ texts, laterFragments keys s args = .ok texts →
      ∃ texts', laterFragments keys' s' args' = .ok texts')
    (hleading : s.dialect.functions.isWindow func = true → ∀ order,
      leadingKey s args = .ok order → ∃ order', leadingKey s' args' = .ok order')
    (h : fragment keys s nested (.call func args) = .ok text) :
    ∃ text', fragment keys' s' nested' (.call func args') = .ok text' := by
  simp only [fragment, bind_ok] at h
  obtain ⟨sig, hfound, needs, hneeds, h⟩ := h
  have hsig := hfound
  rw [← hlength, Scope.signature, ← ha.dialect, ← Scope.signature] at hsig
  have hneeds' : s'.needsWindow sig func = .ok needs := by
    rw [← hneeds, Scope.needsWindow, Scope.needsWindow, ha.dialect, ha.clause]
  rw [fragment, empty_of_length hlength]
  apply bind_succeeds hsig
  apply bind_succeeds hneeds'
  split at h
  · rename_i hwindow
    rw [if_pos hwindow]
    rw [hwindow] at hneeds
    obtain ⟨hkind, hderived⟩ := Scope.needs_window_true hneeds
    have hcalls : s.dialect.functions.isWindow func = true := by
      by_contra hplain
      exact hkind (Scope.signature_scalar (Bool.not_eq_true _ ▸ hplain) hfound)
    simp only [bind_ok, pure_ok] at h
    obtain ⟨texts, htexts, order, horder, -⟩ := h
    have hwritten : ∃ texts', (if (sig.orderByArg && !args.isEmpty) = true
        then laterFragments keys' s' args' else fragments keys' s' false args') = .ok texts' :=
      ite_succeeds (fun _ => hlater) (fun _ => hargs false) htexts
    have harranged : ∃ order', (if sig.kind = .aggregate then .ok []
        else if (sig.orderByArg && !args.isEmpty) = true then leadingKey s' args'
        else keys') = .ok order' :=
      ite_succeeds (fun _ _ hnone => ⟨_, hnone⟩)
        (fun _ _ => ite_succeeds (fun _ => hleading hcalls) fun _ => hk hderived) horder
    obtain ⟨texts', htexts'⟩ := hwritten
    obtain ⟨order', horder'⟩ := harranged
    exact bind_succeeds htexts' (bind_succeeds horder' ⟨_, rfl⟩)
  · rename_i hwindow
    rw [if_neg hwindow]
    simp only [bind_ok, pure_ok] at h
    obtain ⟨texts, htexts, -⟩ := h
    obtain ⟨texts', htexts'⟩ := hargs _ texts htexts
    rw [hlength]
    exact bind_succeeds htexts' ⟨_, rfl⟩

mutual

/-- What is written stays so once it is folded, with at least the same columns in scope, if folding
leaves numbers. -/
theorem fragment_folded {keys keys' : Except SqlError (List String)} {s s' : Scope}
    {vars : List String} (hw : s.Widens s')
    (hk : s.clause = .derivation → ∀ order, keys = .ok order → ∃ order', keys' = .ok order')
    {nested nested' : Bool} {text : String} (e : Expr) {e' : Expr}
    (h : fragment keys s nested e = .ok text) (hf : e.fold vars = .ok e') (hx : e'.Numeric) :
    ∃ text', fragment keys' s' nested' e' = .ok text' := by
  match e with
  | .literal value =>
    cases hf
    exact ⟨text, h⟩
  | .column name =>
    simp only [fragment] at h
    split at h
    · rename_i hm
      simp only [fold] at hf
      split at hf
      · cases hf
        exact ⟨_, if_pos (hw.vars hm)⟩
      · cases hf
    · cases h
  | .binary op left right =>
    simp only [fragment, bind_ok] at h
    obtain ⟨lhs, hl, h⟩ := h
    simp only [fold, bind_ok, pure_ok] at hf
    obtain ⟨l, hlf, r, hrf, rfl⟩ := hf
    rcases fold_binary_cases op l r with he | ⟨a, b, c, -, -, he⟩
    · rw [he] at hx ⊢
      obtain ⟨hxl, hxr⟩ := numeric_binary.mp hx
      obtain ⟨lhs', hl'⟩ : ∃ lhs', fragment keys' s' true l = .ok lhs' :=
        fragment_folded hw hk left hl hlf hxl
      have hright : ∃ rhs', fragment keys' s' true r = .ok rhs' := by
        split at h
        · rename_i test hn
          obtain rfl := null_test_written hn
          cases hrf
          exact ⟨_, rfl⟩
        · simp only [bind_ok] at h
          obtain ⟨rhs, hr, -⟩ := h
          exact fragment_folded hw hk right hr hrf hxr
      obtain ⟨rhs', hr'⟩ := hright
      exact operation_written hl' hr'
    · rw [he] at hx ⊢
      exact literal_written_numeric hx
  | .unary op operand =>
    simp only [fragment, bind_ok] at h
    obtain ⟨sql, ho, -⟩ := h
    simp only [fold, bind_ok, pure_ok] at hf
    obtain ⟨x, hof, rfl⟩ := hf
    rcases fold_unary_cases op x with he | ⟨a, c, -, he⟩
    · rw [he] at hx ⊢
      obtain ⟨sql', ho'⟩ : ∃ sql', fragment keys' s' true x = .ok sql' :=
        fragment_folded hw hk operand ho hof hx
      rw [fragment]
      apply bind_succeeds ho'
      cases op <;> exact ⟨_, rfl⟩
    · rw [he] at hx ⊢
      exact literal_written_numeric hx
  | .call func args =>
    simp only [fold, bind_ok, pure_ok] at hf
    obtain ⟨es, hes, rfl⟩ := hf
    apply call_rewritten hw.alike hk (fold_all_length hes) _ _ _ h
    · intro within texts hargs
      exact fragments_folded hw hk args hargs hes hx
    · intro texts hargs
      exact later_fragments_folded hw hk args hargs hes hx
    · intro _ order horder
      exact leading_key_folded hw args horder hes hx
  | .inSet operand set =>
    simp only [fold, bind_ok, pure_ok] at hf
    obtain ⟨x, hof, es, hes, rfl⟩ := hf
    have hsame := empty_of_length (fold_all_length hes)
    simp only [fragment] at h
    rw [fragment]
    split at h
    · rename_i hempty
      rw [if_pos (hsame.trans hempty)]
      exact ⟨_, rfl⟩
    · rename_i hempty
      have hempty' : ¬ es.isEmpty = true := by
        rwa [hsame]
      rw [if_neg hempty']
      obtain ⟨hxo, hxs⟩ := (numeric_in_set hempty').mp hx
      simp only [bind_ok, pure_ok] at h
      obtain ⟨lhs, hl, items, hi, -⟩ := h
      obtain ⟨lhs', hl'⟩ : ∃ lhs', fragment keys' s' true x = .ok lhs' :=
        fragment_folded hw hk operand hl hof hxo
      obtain ⟨items', hi'⟩ : ∃ items', fragments keys' s' false es = .ok items' :=
        fragments_folded hw hk set hi hes hxs
      exact bind_succeeds hl' (bind_succeeds hi' ⟨_, rfl⟩)
  | .cast operand target =>
    simp only [fragment, bind_ok] at h
    obtain ⟨sql, ho, -⟩ := h
    simp only [fold, bind_ok, pure_ok] at hf
    obtain ⟨x, hof, rfl⟩ := hf
    obtain ⟨sql', ho'⟩ : ∃ sql', fragment keys' s' false x = .ok sql' :=
      fragment_folded hw hk operand ho hof hx
    rw [fragment]
    exact bind_succeeds ho' ⟨_, rfl⟩
termination_by sizeOf e

theorem fragments_folded {keys keys' : Except SqlError (List String)} {s s' : Scope}
    {vars : List String} (hw : s.Widens s')
    (hk : s.clause = .derivation → ∀ order, keys = .ok order → ∃ order', keys' = .ok order')
    {nested nested' : Bool} {texts : List String} (es : List Expr) {es' : List Expr}
    (h : fragments keys s nested es = .ok texts) (hf : foldAll vars es = .ok es')
    (hx : NumericAll es') : ∃ texts', fragments keys' s' nested' es' = .ok texts' := by
  match es with
  | [] =>
    cases hf
    exact ⟨[], rfl⟩
  | e :: es =>
    simp only [fragments, bind_ok] at h
    obtain ⟨sql, he, rest, hes, -⟩ := h
    simp only [foldAll, bind_ok, pure_ok] at hf
    obtain ⟨e', hef, es', hesf, rfl⟩ := hf
    obtain ⟨hxe, hxs⟩ := numeric_all_cons.mp hx
    obtain ⟨sql', he'⟩ : ∃ sql', fragment keys' s' nested' e' = .ok sql' :=
      fragment_folded hw hk e he hef hxe
    obtain ⟨rest', hes'⟩ : ∃ rest', fragments keys' s' nested' es' = .ok rest' :=
      fragments_folded hw hk es hes hesf hxs
    rw [fragments]
    exact bind_succeeds he' (bind_succeeds hes' ⟨_, rfl⟩)
termination_by sizeOf es

theorem later_fragments_folded {keys keys' : Except SqlError (List String)} {s s' : Scope}
    {vars : List String} (hw : s.Widens s')
    (hk : s.clause = .derivation → ∀ order, keys = .ok order → ∃ order', keys' = .ok order')
    {texts : List String} (es : List Expr) {es' : List Expr}
    (h : laterFragments keys s es = .ok texts) (hf : foldAll vars es = .ok es')
    (hx : NumericAll es') : ∃ texts', laterFragments keys' s' es' = .ok texts' := by
  match es with
  | [] =>
    cases hf
    exact ⟨[], rfl⟩
  | e :: es =>
    simp only [foldAll, bind_ok, pure_ok] at hf
    obtain ⟨e', -, es', hesf, rfl⟩ := hf
    exact fragments_folded hw hk es h hesf (numeric_all_cons.mp hx).2
termination_by sizeOf es

theorem leading_key_folded {s s' : Scope} {vars : List String} (hw : s.Widens s')
    {texts : List String} (es : List Expr) {es' : List Expr}
    (h : leadingKey s es = .ok texts) (hf : foldAll vars es = .ok es') (hx : NumericAll es') :
    ∃ texts', leadingKey s' es' = .ok texts' := by
  match es with
  | [] =>
    cases hf
    exact ⟨[], rfl⟩
  | e :: es =>
    simp only [foldAll, bind_ok, pure_ok] at hf
    obtain ⟨e', hef, es', -, rfl⟩ := hf
    rw [leading_key_cons] at h
    obtain ⟨sql, hsql, -⟩ := bind_ok.mp h
    have hsize := e.sort_operand_lt es
    have hxo : e'.sortOperand.Numeric := by
      rw [Numeric, sort_operand_written]
      exact (numeric_all_cons.mp hx).1
    obtain ⟨sql', hsql'⟩ : ∃ sql', fragment (.ok []) s'.forKeys false e'.sortOperand = .ok sql' :=
      fragment_folded hw.for_keys nofun e.sortOperand hsql (sort_operand_folded hef) hxo
    rw [leading_key_cons]
    exact bind_succeeds hsql' ⟨_, rfl⟩
termination_by sizeOf es

end

/-- With a folded expression in place of one that is written, writing succeeds exactly when the
floats in it are numbers. -/
theorem Scope.render_folded_iff {s s' : Scope} (hd : s'.dialect.Supported) (hw : s.Widens s')
    (hk : s.clause = .derivation →
      ∀ order, s.orderText = .ok order → ∃ order', s'.orderText = .ok order')
    {vars : List String} {e e' : Expr} {text : String} (h : s.render e = .ok text)
    (hf : e.fold vars = .ok e') : (∃ text', s'.render e' = .ok text') ↔ e'.Numeric := by
  constructor
  · rintro ⟨text', h'⟩ x hx
    exact render_written hd h' _ hx
  · intro hx
    exact fragment_folded hw hk e h hf hx

end Sql
end LayeredSql
