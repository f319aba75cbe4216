import LayeredSql.Proofs.Expr.Nesting
import LayeredSql.Proofs.Sql.FoldedText

namespace LayeredSql

namespace Expr

/-- Only a bare column can be replaced by a reversed key. -/
theorem sort_operand_substitute (σ : String → Option Expr) {e : Expr}
    (h : ∀ name, e ≠ .column name) :
    (e.substitute σ).sortOperand = e.sortOperand.substitute σ := by
  by_cases hdesc : ∃ x, e = .call "desc" [x]
  · obtain ⟨x, rfl⟩ := hdesc
    rfl
  · have hplain : ∀ x, e.substitute σ ≠ .call "desc" [x] := by
      intro x hx
      cases e with
      | column name => exact h name rfl
      | call func args =>
        obtain ⟨rfl, hargs⟩ := call.inj hx
        match args with
        | [] => cases hargs
        | [y] => exact hdesc ⟨y, rfl⟩
        | _ :: _ :: _ => cases hargs
      | _ => cases hx
    rw [sort_operand_plain hplain, sort_operand_plain fun x hx => hdesc ⟨x, hx⟩]

theorem windowless_sort_operand {t : FunctionTable} {e : Expr} (h : e.callsWindow t = false) :
    e.sortOperand.callsWindow t = false := by
  unfold sortOperand
  split
  · simpa [anyCallsWindow] using (Bool.or_eq_false_iff.mp h).2
  · exact h

theorem columns_of_argument (func : String) {args : List Expr} {x : Expr} (hx : x ∈ args) :
    x.columns ⊆ (call func args).columns := by
  rw [columns, columnsOfAll_eq_flatMap]
  exact fun _ hc => List.mem_flatMap.mpr ⟨x, hx, hc⟩

theorem window_arguments_of_mem {t : FunctionTable} {inside : Bool} {es : List Expr} {x : Expr}
    (hx : x ∈ es) : x.windowArguments t inside ⊆ windowArgumentsOfAll t inside es := by
  induction es with
  | nil => cases hx
  | cons e es ih =>
    rw [windowArgumentsOfAll]
    rcases List.mem_cons.mp hx with rfl | hx
    · exact List.subset_append_left _ _
    · exact List.Subset.trans (ih hx) (List.subset_append_right _ _)

/-- What is inside the window arguments of an argument is so in the call. -/
theorem window_arguments_of_argument {t : FunctionTable} {func : String} {args : List Expr}
    {x : Expr} (hx : x ∈ args) :
    x.windowArguments t false ⊆ (call func args).windowArguments t false := by
  rw [windowArguments, Bool.false_or]
  cases t.isWindow func with
  | true =>
    rw [window_arguments_inside_all]
    exact fun _ hc => columns_of_argument func hx (window_arguments_columns x hc)
  | false =>
    exact window_arguments_of_mem hx

/-- All columns of the arguments of a window are inside its arguments. -/
theorem window_arguments_of_window {t : FunctionTable} {func : String} (args : List Expr)
    (hw : t.isWindow func = true) :
    (call func args).windowArguments t false = (call func args).columns := by
  rw [windowArguments, hw, Bool.or_true, window_arguments_inside_all, columns]

theorem windowless_replacement {t : FunctionTable} {τ : String → Option Expr} {c : String}
    (h : (τ c).any (·.callsWindow t) = false) :
    ((τ c).getD (.column c)).callsWindow t = false := by
  cases hτ : τ c with
  | none => rfl
  | some e => simpa [hτ] using h

end Expr

namespace Sql
open LayeredSql.Expr
variable {s s' : Scope} {keys keys' : Except SqlError (List String)} {nested : Bool}

def HasText (keys : Except SqlError (List String)) (s : Scope) (e : Expr) : Prop :=
  ∃ text, fragment keys s false e = .ok text

theorem fragments_succeed {es : List Expr} :
    (∃ texts, fragments keys s nested es = .ok texts) ↔
      ∀ e ∈ es, ∃ text, fragment keys s nested e = .ok text := by
  induction es with
  | nil => simp [fragments]
  | cons e es ih =>
    simp only [fragments, bind_succeeds_iff, pure_succeeds, List.forall_mem_cons, ← ih]
    simp

/-- Parentheses around it make no difference to whether there is a text. -/
theorem has_text_nested (nested : Bool) {e : Expr} :
    (∃ text, fragment keys s nested e = .ok text) ↔ HasText keys s e := by
  unfold HasText
  cases e with
  | literal value => simp only [fragment]
  | column name => simp only [fragment]
  | binary op left right =>
    simp only [fragment, bind_succeeds_iff]
    cases nullTest? op right <;> simp only [bind_succeeds_iff, pure_succeeds]
  | unary op operand =>
    simp only [fragment, bind_succeeds_iff]
    cases op <;> simp only [pure_succeeds]
  | call func args =>
    have hsame : ∀ nested nested' text, fragment keys s nested (.call func args) = .ok text →
        ∃ text', fragment keys s nested' (.call func args) = .ok text' :=
      fun _ _ _ => call_rewritten (.refl s) (fun _ _ h => ⟨_, h⟩) rfl (fun _ _ h => ⟨_, h⟩)
        (fun _ h => ⟨_, h⟩) fun _ _ h => ⟨_, h⟩
    constructor
    · rintro ⟨_, h⟩
      exact hsame _ _ _ h
    · rintro ⟨_, h⟩
      exact hsame _ _ _ h
  | inSet operand set =>
    simp only [fragment]
    split <;> simp only [bind_succeeds_iff, pure_succeeds]
  | cast operand target => simp only [fragment]

theorem fragments_have_text (nested : Bool) {es : List Expr} :
    (∃ texts, fragments keys s nested es = .ok texts) ↔ ∀ e ∈ es, HasText keys s e := by
  simp only [fragments_succeed, has_text_nested]

theorem has_text_column {name : String} : HasText keys s (.column name) ↔ name ∈ s.vars := by
  simp only [HasText, fragment]
  split <;> simp_all

/-- A right operand that is not looked at is the constant NULL, which has a text. -/
theorem has_text_binary {op : BinaryOp} {l r : Expr} :
    HasText keys s (.binary op l r) ↔ HasText keys s l ∧ HasText keys s r := by
  rw [← has_text_nested true (e := l), ← has_text_nested true (e := r), HasText]
  simp only [fragment, bind_succeeds_iff]
  cases hn : nullTest? op r with
  | none => simp only [bind_succeeds_iff, pure_succeeds, and_true, exists_and_right]
  | some test =>
    obtain rfl := null_test_written hn
    simp [pure_succeeds, fragment, literal]

theorem has_text_unary {op : UnaryOp} {e : Expr} :
    HasText keys s (.unary op e) ↔ HasText keys s e := by
  rw [← has_text_nested true (e := e), HasText]
  cases op <;> simp only [fragment, bind_succeeds_iff, pure_succeeds, and_true]

theorem has_text_in_set {e : Expr} {set : List Expr} :
    HasText keys s (.inSet e set) ↔
      set.isEmpty = true ∨ (HasText keys s e ∧ ∀ x ∈ set, HasText keys s x) := by
  rw [← has_text_nested true (e := e), ← fragments_have_text false, HasText]
  simp only [fragment]
  split
  · rename_i h
    simp [h]
  · rename_i h
    simp only [h, bind_succeeds_iff, pure_succeeds, and_true, exists_and_right]
    simp

theorem has_text_cast {e : Expr} {target : SqlType} :
    HasText keys s (.cast e target) ↔ HasText keys s e := by
  simp only [HasText, fragment, bind_succeeds_iff, pure_succeeds, and_true]

theorem leading_key_succeeds {e : Expr} {es : List Expr} :
    (∃ order, leadingKey s (e :: es) = .ok order) ↔ HasText (.ok []) s.forKeys e.sortOperand := by
  simp only [leading_key_cons, bind_succeeds_iff, pure_succeeds, and_true, HasText]

/-- What calls no window can be written among sorting keys as well as anywhere. -/
theorem has_text_for_keys {e : Expr} (h : e.callsWindow s.dialect.functions = false) :
    HasText (.ok []) s.forKeys e ↔ HasText keys s e := by
  have hsame : fragment (.ok []) s.forKeys false e = fragment keys s false e :=
    fragment_unwindowed [] [] e (.inl h)
  rw [HasText, hsame, HasText]

theorem later_have_text {es : List Expr} :
    (∃ texts, laterFragments keys s es = .ok texts) ↔ ∀ e ∈ es.tail, HasText keys s e := by
  cases es with
  | nil => simp [laterFragments]
  | cons e es => exact fragments_have_text false

/-- If `desc` is a function at all, its argument can be written where it can. -/
theorem has_text_sort_operand {e : Expr} (hw : e.callsWindow s.dialect.functions = false)
    (h : HasText keys s e) : HasText keys s e.sortOperand := by
  unfold sortOperand
  split
  · rename_i x
    obtain ⟨text, h⟩ := h
    simp only [fragment, bind_ok] at h
    obtain ⟨sig, hsig, needs, hneeds, h⟩ := h
    have hscalar := Scope.signature_scalar (Bool.or_eq_false_iff.mp hw).1 hsig
    rw [Scope.needsWindow, if_pos hscalar] at hneeds
    cases hneeds
    simp only [Bool.false_eq_true, if_false, bind_ok] at h
    obtain ⟨texts, hx, -⟩ := h
    exact (fragments_have_text _).mp ⟨texts, hx⟩ x List.mem_cons_self
  · exact h

/-- With the columns in the key written out, it can be written as a first argument if it can be
written as a sorting key. A bare column is what the key may be the replacement of. -/
theorem leading_substituted {σ τ : String → Option Expr} (x : Expr)
    (hr : ∀ c ∈ x.columns, (σ c).isSome = true ∨ c ∈ s.vars →
      HasText keys' s' ((τ c).getD (.column c)))
    (hfree : ∀ c ∈ x.columns,
      ((τ c).getD (.column c)).callsWindow s'.dialect.functions = false)
    (hoperand : HasText (.ok []) s.forKeys (x.sortOperand.substitute σ) →
      HasText (.ok []) s'.forKeys (x.sortOperand.substitute τ))
    (h : HasText (.ok []) s.forKeys (x.substitute σ).sortOperand) :
    HasText (.ok []) s'.forKeys (x.substitute τ).sortOperand := by
  by_cases hcolumn : ∃ name, x = .column name
  · obtain ⟨name, rfl⟩ := hcolumn
    have hwritten : HasText keys' s' ((τ name).getD (.column name)) := by
      refine hr name List.mem_cons_self ?_
      cases hσ : σ name with
      | some known => exact .inl rfl
      | none =>
        simp only [substitute, hσ, Option.getD_none] at h
        exact .inr (has_text_column (s := s.forKeys).mp h)
    have hname := hfree name List.mem_cons_self
    exact (has_text_for_keys (windowless_sort_operand hname)).mpr
      (has_text_sort_operand hname hwritten)
  · have hother : ∀ name, x ≠ .column name := fun name he => hcolumn ⟨name, he⟩
    rw [sort_operand_substitute σ hother] at h
    rw [sort_operand_substitute τ hother]
    exact hoperand h

/-- An expression that can be written with `σ` for its columns can be written with `τ` for them, in
another scope of the same clause, if there every column can be written that could be here. A column
in the arguments of a window must not bring a window along. -/
theorem text_substituted {keys keys' : Except SqlError (List String)} {s s' : Scope}
    {σ τ : String → Option Expr} (ha : s.Alike s')
    (hk : s.clause = .derivation → ∀ order, keys = .ok order → ∃ order', keys' = .ok order')
    (e : Expr)
    (hr : ∀ c ∈ e.columns, (σ c).isSome = true ∨ c ∈ s.vars →
      HasText keys' s' ((τ c).getD (.column c)))
    (hw : ∀ c ∈ e.windowArguments s.dialect.functions false,
      (τ c).any (·.callsWindow s.dialect.functions) = false)
    (h : HasText keys s (e.substitute σ)) : HasText keys' s' (e.substitute τ) := by
  match e with
  | .literal value => exact h
  | .column name =>
    refine hr name List.mem_cons_self ?_
    cases hσ : σ name with
    | some known => exact .inl rfl
    | none =>
      simp only [substitute, hσ, Option.getD_none] at h
      exact .inr (has_text_column.mp h)
  | .binary op left right =>
    rw [columns, List.forall_mem_append] at hr
    rw [windowArguments, List.forall_mem_append] at hw
    obtain ⟨hl, hrt⟩ := has_text_binary.mp h
    exact has_text_binary.mpr ⟨text_substituted ha hk left hr.1 hw.1 hl,
      text_substituted ha hk right hr.2 hw.2 hrt⟩
  | .unary op operand =>
    exact has_text_unary.mpr (text_substituted ha hk operand hr hw (has_text_unary.mp h))
  | .call func args =>
    have hsome : ∀ x ∈ args, HasText keys s (x.substitute σ) → HasText keys' s' (x.substitute τ) :=
      fun x hx => text_substituted ha hk x (fun c hm => hr c (columns_of_argument func hx hm))
        fun c hm => hw c (window_arguments_of_argument hx hm)
    obtain ⟨text, h⟩ := h
    simp only [substitute, substituteAll_eq_map] at h ⊢
    refine call_rewritten ha hk (by simp) ?_ ?_ ?_ h
    · intro within texts hargs
      have hall := (fragments_have_text _).mp ⟨texts, hargs⟩
      rw [List.forall_mem_map] at hall
      apply (fragments_have_text _).mpr
      rw [List.forall_mem_map]
      exact fun x hx => hsome x hx (hall x hx)
    · intro texts hlater
      have hall := later_have_text.mp ⟨texts, hlater⟩
      rw [← List.map_tail, List.forall_mem_map] at hall
      apply later_have_text.mpr
      rw [← List.map_tail, List.forall_mem_map]
      exact fun x hx => hsome x (List.mem_of_mem_tail hx) (hall x hx)
    · intro hwindow order horder
      rw [window_arguments_of_window args hwindow] at hw
      cases hargs : args with
      | nil => exact ⟨[], rfl⟩
      | cons x xs =>
        -- The key is written without windows, so it is an expression of its own with them gone.
        have hx : x ∈ args := hargs ▸ List.mem_cons_self
        have hreplaced : ∀ c ∈ x.columns, (σ c).isSome = true ∨ c ∈ s.vars →
            HasText keys' s' ((τ c).getD (.column c)) :=
          fun c hm => hr c (columns_of_argument func hx hm)
        have hfree : ∀ c ∈ x.columns,
            ((τ c).getD (.column c)).callsWindow s'.dialect.functions = false := by
          intro c hm
          rw [ha.dialect]
          exact windowless_replacement (hw c (columns_of_argument func hx hm))
        have hsub : x.sortOperand.columns ⊆ (call func args).columns := by
          rw [sort_operand_columns]
          exact columns_of_argument func hx
        have hsize : sizeOf x.sortOperand < sizeOf args := by
          have hle := sort_operand_le x
          have hlt := List.sizeOf_lt_of_mem hx
          omega
        rw [hargs] at horder
        refine leading_key_succeeds.mpr (leading_substituted x hreplaced hfree ?_
          (leading_key_succeeds.mp ⟨order, horder⟩))
        refine text_substituted ha.for_keys (fun hclause => nomatch hclause) x.sortOperand ?_ ?_
        · intro c hm hin
          have hmx := sort_operand_columns x ▸ hm
          exact (has_text_for_keys (hfree c hmx)).mpr (hreplaced c hmx hin)
        · exact fun c hm => hw c (hsub (window_arguments_columns _ hm))
  | .inSet operand set =>
    rw [columns, List.forall_mem_append, columnsOfAll_eq_flatMap] at hr
    rw [windowArguments, List.forall_mem_append] at hw
    simp only [substitute, substituteAll_eq_map, has_text_in_set, List.isEmpty_map,
      List.forall_mem_map] at h ⊢
    refine h.imp_right fun ⟨ho, hs⟩ =>
      ⟨text_substituted ha hk operand hr.1 hw.1 ho, fun x hx => ?_⟩
    refine text_substituted ha hk x ?_ ?_ (hs x hx)
    · exact fun c hm => hr.2 c (List.mem_flatMap.mpr ⟨x, hx, hm⟩)
    · exact fun c hm => hw.2 c (window_arguments_of_mem hx hm)
  | .cast operand target =>
    exact has_text_cast.mpr (text_substituted ha hk operand hr hw (has_text_cast.mp h))
termination_by sizeOf e

end Sql
end LayeredSql
