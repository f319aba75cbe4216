import LayeredSql.Proofs.Expr.Evaluation
import LayeredSql.Proofs.Outcome
import LayeredSql.Sql.Fold
import Mathlib.Logic.Relation

namespace LayeredSql
universe u

/-- What an operator makes of two constants: a whole number that fits in 64 bits, or what binary64
has, but for quotients by zero. -/
inductive BinaryOp.Exact : BinaryOp → Literal → Literal → Literal → Prop where
  | addInt {a b c : Int64} (fits : c.toInt = a.toInt + b.toInt) :
    Exact .add (.int a) (.int b) (.int c)
  | subInt {a b c : Int64} (fits : c.toInt = a.toInt - b.toInt) :
    Exact .sub (.int a) (.int b) (.int c)
  | mulInt {a b c : Int64} (fits : c.toInt = a.toInt * b.toInt) :
    Exact .mul (.int a) (.int b) (.int c)
  | addFloat (a b : Float) : Exact .add (.float a) (.float b) (.float (a + b))
  | subFloat (a b : Float) : Exact .sub (.float a) (.float b) (.float (a - b))
  | mulFloat (a b : Float) : Exact .mul (.float a) (.float b) (.float (a * b))
  | divFloat {a b : Float} (divisor : (b == 0) = false) :
    Exact .div (.float a) (.float b) (.float (a / b))

inductive UnaryOp.Exact : UnaryOp → Literal → Literal → Prop where
  | negInt {a c : Int64} (fits : c.toInt = -a.toInt) : Exact .neg (.int a) (.int c)
  | negFloat (a : Float) : Exact .neg (.float a) (.float (-a))
  | notBool (b : Bool) : Exact .not (.bool b) (.bool !b)

theorem Literal.ofInt_eq_some {n : Int} {value : Literal} :
    Literal.ofInt? n = some value ↔ ∃ c : Int64, value = .int c ∧ c.toInt = n := by
  unfold Literal.ofInt?
  constructor
  · intro h
    split at h
    · rename_i hn
      have hlow : -2 ^ 63 ≤ n := hn.1
      have hhigh : n < 2 ^ 63 := Int.lt_add_one_of_le hn.2
      cases h
      exact ⟨_, rfl, Int64.toInt_ofInt_of_le hlow hhigh⟩
    · cases h
  · rintro ⟨c, rfl, rfl⟩
    rw [if_pos ⟨c.minValue_le_toInt, c.toInt_le⟩, Int64.ofInt_toInt]

/-- Two constants fold exactly when there is something to fold them to. -/
theorem BinaryOp.fold_iff_exact {op : BinaryOp} {a b c : Literal} :
    op.fold? a b = some c ↔ op.Exact a b c := by
  constructor
  · intro h
    unfold BinaryOp.fold? at h
    split at h
    · obtain ⟨c, rfl, hc⟩ := Literal.ofInt_eq_some.mp h
      exact .addInt hc
    · obtain ⟨c, rfl, hc⟩ := Literal.ofInt_eq_some.mp h
      exact .subInt hc
    · obtain ⟨c, rfl, hc⟩ := Literal.ofInt_eq_some.mp h
      exact .mulInt hc
    · cases h
      exact .addFloat _ _
    · cases h
      exact .subFloat _ _
    · cases h
      exact .mulFloat _ _
    · split at h
      · cases h
      · rename_i hb
        cases h
        exact .divFloat (Bool.not_eq_true _ ▸ hb)
    · cases h
  · rintro (h | h | h | _ | _ | _ | h)
    · exact Literal.ofInt_eq_some.mpr ⟨_, rfl, h⟩
    · exact Literal.ofInt_eq_some.mpr ⟨_, rfl, h⟩
    · exact Literal.ofInt_eq_some.mpr ⟨_, rfl, h⟩
    · rfl
    · rfl
    · rfl
    · exact if_neg (Bool.not_eq_true _ ▸ h)

theorem UnaryOp.fold_iff_exact {op : UnaryOp} {a c : Literal} :
    op.fold? a = some c ↔ op.Exact a c := by
  constructor
  · intro h
    unfold UnaryOp.fold? at h
    split at h
    · obtain ⟨c, rfl, hc⟩ := Literal.ofInt_eq_some.mp h
      exact .negInt hc
    · cases h
      exact .negFloat _
    · cases h
      exact .notBool _
    · cases h
  · rintro (h | _ | _)
    · exact Literal.ofInt_eq_some.mpr ⟨_, rfl, h⟩
    · rfl
    · rfl

/-- Operators do on constants what they should. What else they do is left open, integers that do
not fit included. -/
structure Interpretation.Arithmetic {V : Type u} (I : Interpretation V) : Prop where
  binary : ∀ {op : BinaryOp} {a b c : Literal}, op.Exact a b c →
    I.binary op (I.literal a) (I.literal b) = I.literal c
  unary : ∀ {op : UnaryOp} {a c : Literal}, op.Exact a c →
    I.unary op (I.literal a) = I.literal c

namespace Expr
variable {vars : List String}

/-- One operation on constants, anywhere in an expression, is replaced by what it comes to. -/
inductive Step : Expr → Expr → Prop where
  | binary {op : BinaryOp} {a b c : Literal} (exact : op.Exact a b c) :
    Step (.binary op (.literal a) (.literal b)) (.literal c)
  | unary {op : UnaryOp} {a c : Literal} (exact : op.Exact a c) :
    Step (.unary op (.literal a)) (.literal c)
  | left {op : BinaryOp} {l l' r : Expr} (step : Step l l') :
    Step (.binary op l r) (.binary op l' r)
  | right {op : BinaryOp} {l r r' : Expr} (step : Step r r') :
    Step (.binary op l r) (.binary op l r')
  | operand {op : UnaryOp} {e e' : Expr} (step : Step e e') : Step (.unary op e) (.unary op e')
  | argument {func : String} {before after : List Expr} {e e' : Expr} (step : Step e e') :
    Step (.call func (before ++ e :: after)) (.call func (before ++ e' :: after))
  | tested {e e' : Expr} {set : List Expr} (step : Step e e') : Step (.inSet e set) (.inSet e' set)
  | member {e x x' : Expr} {before after : List Expr} (step : Step x x') :
    Step (.inSet e (before ++ x :: after)) (.inSet e (before ++ x' :: after))
  | cast {e e' : Expr} {target : SqlType} (step : Step e e') :
    Step (.cast e target) (.cast e' target)

abbrev Steps : Expr → Expr → Prop :=
  Relation.ReflTransGen Step

/-- Where a step may be taken at some place, so may any number of steps. -/
theorem Steps.under {f : Expr → Expr} (hf : ∀ {e e' : Expr}, Step e e' → Step (f e) (f e'))
    {e e' : Expr} (h : Steps e e') : Steps (f e) (f e') :=
  Relation.ReflTransGen.lift f (fun _ _ hs => hf hs) _ _ h

/-- What every step keeps any number of them keep. -/
theorem Steps.keeps {α : Type u} {f : Expr → α} (hf : ∀ {e e' : Expr}, Step e e' → f e' = f e)
    {e e' : Expr} (h : Steps e e') : f e' = f e := by
  induction h with
  | refl => rfl
  | tail _ hs ih => exact (hf hs).trans ih

theorem steps_fold_binary (op : BinaryOp) (l r : Expr) :
    Steps (.binary op l r) (foldBinary op l r) := by
  unfold foldBinary
  split
  · rename_i a b
    cases hf : op.fold? a b with
    | none => exact .refl
    | some c => exact .single (.binary (BinaryOp.fold_iff_exact.mp hf))
  · exact .refl

theorem steps_fold_unary (op : UnaryOp) (e : Expr) : Steps (.unary op e) (foldUnary op e) := by
  unfold foldUnary
  split
  · rename_i a
    cases hf : op.fold? a with
    | none => exact .refl
    | some c => exact .single (.unary (UnaryOp.fold_iff_exact.mp hf))
  · exact .refl

/-- Where a step may be taken at any place of a list, so may steps at all of them. -/
theorem steps_in_list {f : List Expr → Expr} {es es' : List Expr}
    (hf : ∀ before e e' after, Step e e' →
      Step (f (before ++ e :: after)) (f (before ++ e' :: after)))
    (h : List.Forall₂ Steps es es') : Steps (f es) (f es') := by
  suffices hall : ∀ before, Steps (f (before ++ es)) (f (before ++ es')) from hall []
  induction h with
  | nil => exact fun _ => .refl
  | @cons e e' es es' he _ ih =>
    intro before
    have hhead : Steps (f (before ++ e :: es)) (f (before ++ e' :: es)) :=
      Steps.under (f := fun x => f (before ++ x :: es)) (fun hs => hf before _ _ es hs) he
    have htail := ih (before ++ [e'])
    rw [List.append_assoc, List.append_assoc] at htail
    exact hhead.trans htail

mutual

/-- Folding takes steps only. -/
theorem fold_steps (e : Expr) {e' : Expr} (h : e.fold vars = .ok e') : Steps e e' := by
  match e with
  | .literal value =>
    cases h
    exact .refl
  | .column name =>
    simp only [fold] at h
    split at h
    · cases h
      exact .refl
    · cases h
  | .binary op left right =>
    simp only [fold, bind_ok, pure_ok] at h
    obtain ⟨l, hl, r, hr, rfl⟩ := h
    have hleft : Steps (.binary op left right) (.binary op l right) :=
      (fold_steps left hl).under .left
    have hright : Steps (.binary op l right) (.binary op l r) :=
      (fold_steps right hr).under .right
    exact (hleft.trans hright).trans (steps_fold_binary op l r)
  | .unary op operand =>
    simp only [fold, bind_ok, pure_ok] at h
    obtain ⟨x, hx, rfl⟩ := h
    have hoperand : Steps (.unary op operand) (.unary op x) :=
      (fold_steps operand hx).under .operand
    exact hoperand.trans (steps_fold_unary op x)
  | .call func args =>
    simp only [fold, bind_ok, pure_ok] at h
    obtain ⟨es, hes, rfl⟩ := h
    exact steps_in_list (fun _ _ _ _ hs => .argument hs) (fold_all_steps args hes)
  | .inSet operand set =>
    simp only [fold, bind_ok, pure_ok] at h
    obtain ⟨x, hx, es, hes, rfl⟩ := h
    have hoperand : Steps (.inSet operand set) (.inSet x set) :=
      (fold_steps operand hx).under .tested
    exact hoperand.trans (steps_in_list (fun _ _ _ _ hs => .member hs) (fold_all_steps set hes))
  | .cast operand target =>
    simp only [fold, bind_ok, pure_ok] at h
    obtain ⟨x, hx, rfl⟩ := h
    exact (fold_steps operand hx).under .cast

theorem fold_all_steps (es : List Expr) {es' : List Expr} (h : foldAll vars es = .ok es') :
    List.Forall₂ Steps es es' := by
  match es with
  | [] =>
    cases h
    exact .nil
  | e :: es =>
    simp only [foldAll, bind_ok, pure_ok] at h
    obtain ⟨e', he, es', hes, rfl⟩ := h
    exact .cons (fold_steps e he) (fold_all_steps es hes)

end

/-- No operation on constants that has a result is left in the expression. -/
def Folded (e : Expr) : Prop :=
  ∀ e', ¬ Step e e'

theorem folded_literal (value : Literal) : Folded (.literal value) :=
  nofun

theorem fold_binary_folded {l r : Expr} (op : BinaryOp) (hl : l.Folded) (hr : r.Folded) :
    (foldBinary op l r).Folded := by
  unfold foldBinary
  split
  · rename_i a b
    cases hf : op.fold? a b with
    | none =>
      intro x hs
      cases hs with
      | binary exact =>
        rw [BinaryOp.fold_iff_exact.mpr exact] at hf
        cases hf
      | left hs => exact hl _ hs
      | right hs => exact hr _ hs
    | some c => exact folded_literal c
  · rename_i hother
    intro x hs
    cases hs with
    | binary exact => exact hother _ _ rfl rfl
    | left hs => exact hl _ hs
    | right hs => exact hr _ hs

theorem fold_unary_folded {e : Expr} (op : UnaryOp) (he : e.Folded) : (foldUnary op e).Folded := by
  unfold foldUnary
  split
  · rename_i a
    cases hf : op.fold? a with
    | none =>
      intro x hs
      cases hs with
      | unary exact =>
        rw [UnaryOp.fold_iff_exact.mpr exact] at hf
        cases hf
      | operand hs => exact he _ hs
    | some c => exact folded_literal c
  · rename_i hother
    intro x hs
    cases hs with
    | unary exact => exact hother _ rfl
    | operand hs => exact he _ hs

mutual

/-- Folding goes as far as it can: every operation is looked at after its operands are folded. -/
theorem fold_leaves_folded (e : Expr) {e' : Expr} (h : e.fold vars = .ok e') : e'.Folded := by
  match e with
  | .literal value =>
    cases h
    exact folded_literal value
  | .column name =>
    simp only [fold] at h
    split at h
    · cases h
      exact nofun
    · cases h
  | .binary op left right =>
    simp only [fold, bind_ok, pure_ok] at h
    obtain ⟨l, hl, r, hr, rfl⟩ := h
    exact fold_binary_folded op (fold_leaves_folded left hl) (fold_leaves_folded right hr)
  | .unary op operand =>
    simp only [fold, bind_ok, pure_ok] at h
    obtain ⟨x, hx, rfl⟩ := h
    exact fold_unary_folded op (fold_leaves_folded operand hx)
  | .call func args =>
    simp only [fold, bind_ok, pure_ok] at h
    obtain ⟨es, hes, rfl⟩ := h
    intro x hs
    cases hs with
    | argument hs => exact fold_all_leaves_folded args hes _ (by simp) _ hs
  | .inSet operand set =>
    simp only [fold, bind_ok, pure_ok] at h
    obtain ⟨x, hx, es, hes, rfl⟩ := h
    intro y hs
    cases hs with
    | tested hs => exact fold_leaves_folded operand hx _ hs
    | member hs => exact fold_all_leaves_folded set hes _ (by simp) _ hs
  | .cast operand target =>
    simp only [fold, bind_ok, pure_ok] at h
    obtain ⟨x, hx, rfl⟩ := h
    intro y hs
    cases hs with
    | cast hs => exact fold_leaves_folded operand hx _ hs

theorem fold_all_leaves_folded (es : List Expr) {es' : List Expr} (h : foldAll vars es = .ok es') :
    ∀ e' ∈ es', e'.Folded := by
  match es with
  | [] =>
    cases h
    exact fun _ hm => absurd hm List.not_mem_nil
  | e :: es =>
    simp only [foldAll, bind_ok, pure_ok] at h
    obtain ⟨e', he, es', hes, rfl⟩ := h
    exact List.forall_mem_cons.mpr ⟨fold_leaves_folded e he, fold_all_leaves_folded es hes⟩

end

/-- A step keeps the value. -/
theorem Step.eval {V : Type u} {I : Interpretation V} (hI : I.Arithmetic) (env : String → V)
    {e e' : Expr} (h : Step e e') : e'.eval I env = e.eval I env := by
  induction h with
  | binary exact => exact (hI.binary exact).symm
  | unary exact => exact (hI.unary exact).symm
  | left _ ih | right _ ih | operand _ ih | tested _ ih | cast _ ih => simp only [Expr.eval, ih]
  | argument _ ih | member _ ih =>
    simp only [Expr.eval, evalAll_eq_map, List.map_append, List.map_cons, ih]

/-- Folding takes exact steps until no operation on constants that has a result is left, and the
folded expression has the value of the expression wherever operators do on constants what they
should, whatever the columns and all else may mean. -/
theorem fold_keeps_value {e e' : Expr} (h : e.fold vars = .ok e') :
    Steps e e' ∧ e'.Folded ∧
      (∀ (op : BinaryOp) (a b c : Literal), op.fold? a b = some c ↔ op.Exact a b c) ∧
      (∀ (op : UnaryOp) (a c : Literal), op.fold? a = some c ↔ op.Exact a c) ∧
      ∀ {V : Type u} (I : Interpretation V), I.Arithmetic → ∀ env : String → V,
        e'.eval I env = e.eval I env :=
  ⟨fold_steps e h, fold_leaves_folded e h, fun _ _ _ _ => BinaryOp.fold_iff_exact, fun _ _ _ => UnaryOp.fold_iff_exact,
    fun I hI env => (fold_steps e h).keeps (f := eval I env) fun hs => hs.eval hI env⟩

def mixedArithmetic : Expr :=
  .inSet (.binary .mul (.column "x") (.binary .sub (.literal (.int 2)) (.literal (.int 5))))
    [.binary .add (.literal (.int 9223372036854775807)) (.unary .neg (.literal (.int (-1)))),
      .binary .div (.literal (.int 7)) (.literal (.int 2)),
      .binary .div (.binary .add (.literal (.float 0.5)) (.literal (.float 0.25)))
        (.literal (.float 0.0))]

def mixedArithmeticFolded : Expr :=
  .inSet (.binary .mul (.column "x") (.literal (.int (-3))))
    [.binary .add (.literal (.int 9223372036854775807)) (.literal (.int 1)),
      .binary .div (.literal (.int 7)) (.literal (.int 2)),
      .binary .div (.literal (.float 0.75)) (.literal (.float 0.0))]

/-- The machine's own arithmetic wraps around where a sum does not fit, and is an interpretation
for all that. -/
def machine : Interpretation Literal where
  literal value := value
  binary
    | .add, .int a, .int b => .int (a + b)
    | .sub, .int a, .int b => .int (a - b)
    | .mul, .int a, .int b => .int (a * b)
    | .add, .float a, .float b => .float (a + b)
    | .sub, .float a, .float b => .float (a - b)
    | .mul, .float a, .float b => .float (a * b)
    | .div, .float a, .float b => .float (a / b)
    | _, _, _ => .null
  unary
    | .neg, .int a => .int (-a)
    | .neg, .float a => .float (-a)
    | .not, .bool b => .bool !b
    | _, _ => .null
  call _ _ := .null
  inSet value set := .bool (set.any (·.same value))
  cast value _ := value

/-- A result that fits is not wrapped. -/
theorem int_of_wrapped {c x : Int64} {n : Int} (fits : c.toInt = n)
    (h : x.toInt = n.bmod Int64.size) : Literal.int x = .int c := by
  rw [← fits] at h
  exact congrArg Literal.int (Int64.toInt_inj.mp (h.trans (Int64.toInt_bmod c)))

theorem machine_arithmetic : machine.Arithmetic where
  binary := by
    rintro _ _ _ _ (fits | fits | fits | _ | _ | _ | _)
    · exact int_of_wrapped fits (Int64.toInt_add ..)
    · exact int_of_wrapped fits (Int64.toInt_sub ..)
    · exact int_of_wrapped fits (Int64.toInt_mul ..)
    all_goals rfl
  unary := by
    rintro _ _ _ (fits | _ | _)
    · exact int_of_wrapped fits (Int64.toInt_neg ..)
    all_goals rfl

theorem mixed_arithmetic_kept :
    mixedArithmetic.fold ["x"] = .ok mixedArithmeticFolded ∧ mixedArithmeticFolded.Folded ∧
      machine.Arithmetic ∧
      ∀ env, mixedArithmeticFolded.eval machine env = mixedArithmetic.eval machine env := by
  have hfold : mixedArithmetic.fold ["x"] = .ok mixedArithmeticFolded := rfl
  obtain ⟨-, hfolded, -, -, hvalue⟩ := fold_keeps_value hfold
  exact ⟨hfold, hfolded, machine_arithmetic, hvalue machine machine_arithmetic⟩

end Expr
end LayeredSql
