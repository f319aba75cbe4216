import LayeredSql.Expr.Basic
import Mathlib

namespace LayeredSql

/-- Floats that compare as equal are one float, or zeros. -/
theorem same_or_zeros {x y : Float} (h : (x == y) = true) :
    x = y ∨ (x == 0) = true ∧ (y == 0) = true := by
  obtain ⟨_, _, he | ⟨rfl, rfl⟩ | ⟨rfl, rfl⟩⟩ := Float.beq_iff_ne_nan_and_eq.mp h
  · exact .inl he
  · exact .inr ⟨rfl, rfl⟩
  · exact .inr ⟨rfl, rfl⟩

def Literal.signless : Literal → Literal
  | .float x => .float (if x == 0 then 0 else x)
  | value => value

theorem Literal.signless_of_same {a b : Literal} (h : a.same b = true) :
    a.signless = b.signless := by
  cases a <;> cases b <;> simp only [Literal.same, reduceCtorEq, beq_iff_eq] at h
  all_goals try subst h
  all_goals try rfl
  rename_i x y
  rcases same_or_zeros h with rfl | ⟨hx, hy⟩
  · rfl
  · simp only [Literal.signless, hx, hy, if_true]

namespace Expr

mutual

/-- An expression up to the signs of the zeros in it. -/
def signless : Expr → Expr
  | .literal value => .literal value.signless
  | .column name => .column name
  | .binary op left right => .binary op left.signless right.signless
  | .unary op operand => .unary op operand.signless
  | .call func args => .call func (signlessAll args)
  | .inSet operand set => .inSet operand.signless (signlessAll set)
  | .cast operand target => .cast operand.signless target

def signlessAll : List Expr → List Expr
  | [] => []
  | e :: es => e.signless :: signlessAll es

end

theorem signless_all_eq_map (es : List Expr) : signlessAll es = es.map signless := by
  induction es with
  | nil => rfl
  | cons e es ih => rw [signlessAll, ih, List.map_cons]

mutual

/-- Expressions that are the same differ in signs of zeros at most. -/
theorem signless_of_same (a b : Expr) (h : a.same b = true) : a.signless = b.signless := by
  match a, b with
  | .literal x, .literal y =>
    rw [signless, signless, Literal.signless_of_same h]
  | .column x, .column y =>
    rw [same, beq_iff_eq] at h
    rw [h]
  | .binary op l r, .binary op' l' r' =>
    simp only [same, Bool.and_eq_true, beq_iff_eq] at h
    obtain ⟨⟨rfl, hl⟩, hr⟩ := h
    rw [signless, signless, signless_of_same l l' hl, signless_of_same r r' hr]
  | .unary op x, .unary op' y =>
    simp only [same, Bool.and_eq_true, beq_iff_eq] at h
    obtain ⟨rfl, hx⟩ := h
    rw [signless, signless, signless_of_same x y hx]
  | .call f xs, .call g ys =>
    simp only [same, Bool.and_eq_true, beq_iff_eq] at h
    obtain ⟨rfl, hx⟩ := h
    rw [signless, signless, signless_of_same_all xs ys hx]
  | .inSet x xs, .inSet y ys =>
    simp only [same, Bool.and_eq_true] at h
    rw [signless, signless, signless_of_same x y h.1, signless_of_same_all xs ys h.2]
  | .cast x t, .cast y t' =>
    simp only [same, Bool.and_eq_true, beq_iff_eq] at h
    obtain ⟨hx, rfl⟩ := h
    rw [signless, signless, signless_of_same x y hx]

theorem signless_of_same_all (as bs : List Expr) (h : sameAll as bs = true) :
    signlessAll as = signlessAll bs := by
  match as, bs with
  | [], [] => rfl
  | a :: as, b :: bs =>
    simp only [sameAll, Bool.and_eq_true] at h
    rw [signlessAll, signlessAll, signless_of_same a b h.1, signless_of_same_all as bs h.2]

end

end Expr
end LayeredSql
