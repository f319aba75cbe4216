import LayeredSql.Proofs.Sql.Call

namespace LayeredSql

namespace Expr

mutual

/-- Constants and columns that are written: all but those before a membership of nothing. -/
def written : Expr → List Expr
  | .literal value => [.literal value]
  | .column name => [.column name]
  | .binary _ left right => left.written ++ right.written
  | .unary _ operand => operand.written
  | .call _ args => writtenOfAll args
  | .inSet operand set => if set.isEmpty then [] else operand.written ++ writtenOfAll set
  | .cast operand _ => operand.written

def writtenOfAll : List Expr → List Expr
  | [] => []
  | e :: es => e.written ++ writtenOfAll es

end

theorem sort_operand_written (e : Expr) : e.sortOperand.written = e.written := by
  unfold sortOperand
  split
  · rw [written, writtenOfAll, writtenOfAll, List.append_nil]
  · rfl

end Expr

namespace Sql
variable {keys : Except SqlError (List String)} {s : Scope}

/-- A constant that is no NaN or infinity, or a column in scope. -/
def Scope.Writable (s : Scope) : Expr → Prop
  | .literal (.float x) => x.isFinite = true
  | .column name => name ∈ s.vars
  | _ => True

theorem literal_writable {value : Literal} {text : String} (h : literal value = .ok text) :
    s.Writable (.literal value) := by
  cases value with
  | float x =>
    simp only [literal] at h
    split at h
    · rename_i hx
      exact hx
    · cases h
  | _ => trivial

/-- Only a constant is tested for NULL. -/
theorem null_test_written {op : BinaryOp} {e : Expr} {test : String}
    (h : nullTest? op e = some test) : e = .literal .null := by
  unfold nullTest? at h
  split at h
  · rfl
  · rfl
  · cases h

/-- A function whose first argument orders its window is no aggregate, so the window is ordered. -/
theorem Scope.signature_ordered (hd : s.dialect.Supported) {func : String} {arity : Nat}
    {sig : Signature} (h : s.signature func arity = .ok sig) (ho : sig.orderByArg = true) :
    sig.kind ≠ .aggregate := by
  intro hk
  rw [hd.aggregates_unordered sig (Scope.signature_mem h) hk] at ho
  cases ho

mutual

theorem fragment_written {keys : Except SqlError (List String)} {s : Scope}
    (hd : s.dialect.Supported) {nested : Bool} {text : String} (e : Expr)
    (h : fragment keys s nested e = .ok text) : ∀ leaf ∈ e.written, s.Writable leaf := by
  match e with
  | .literal value =>
    intro leaf hl
    rw [List.mem_singleton.mp hl]
    exact literal_writable h
  | .column name =>
    simp only [fragment] at h
    split at h
    · rename_i hm
      intro leaf hl
      rw [List.mem_singleton.mp hl]
      exact hm
    · cases h
  | .binary op left right =>
    simp only [fragment, bind_ok] at h
    obtain ⟨lhs, hl, h⟩ := h
    refine List.forall_mem_append.mpr ⟨fragment_written hd left hl, ?_⟩
    split at h
    · rename_i test hn
      obtain rfl := null_test_written hn
      intro leaf hl
      rw [List.mem_singleton.mp hl]
      trivial
    · simp only [bind_ok, pure_ok] at h
      obtain ⟨rhs, hr, -⟩ := h
      exact fragment_written hd right hr
  | .unary op operand =>
    simp only [fragment, bind_ok] at h
    obtain ⟨sql, ho, -⟩ := h
    exact fragment_written hd operand ho
  | .call func args =>
    simp only [fragment, bind_ok] at h
    obtain ⟨sig, hsig, needs, -, h⟩ := h
    split at h
    · simp only [bind_ok, pure_ok] at h
      obtain ⟨texts, hargs, order, horder, -⟩ := h
      split at hargs
      · -- The first argument is not among the texts: the ordering has it.
        rename_i hordered
        have hby := (Bool.and_eq_true_iff.mp hordered).1
        rw [if_neg (Scope.signature_ordered hd hsig hby), if_pos hordered] at horder
        exact leading_key_written hd args hargs horder
      · exact fragments_written hd args hargs
    · simp only [bind_ok, pure_ok] at h
      obtain ⟨texts, hargs, -⟩ := h
      exact fragments_written hd args hargs
  | .inSet operand set =>
    rw [Expr.written]
    simp only [fragment] at h
    split at h
    · rename_i hempty
      rw [if_pos hempty]
      exact fun _ hl => absurd hl List.not_mem_nil
    · rename_i hempty
      rw [if_neg hempty]
      simp only [bind_ok, pure_ok] at h
      obtain ⟨lhs, hl, items, hi, -⟩ := h
      exact List.forall_mem_append.mpr ⟨fragment_written hd operand hl, fragments_written hd set hi⟩
  | .cast operand target =>
    simp only [fragment, bind_ok] at h
    obtain ⟨sql, ho, -⟩ := h
    exact fragment_written hd operand ho
termination_by sizeOf e

theorem fragments_written {keys : Except SqlError (List String)} {s : Scope}
    (hd : s.dialect.Supported) {nested : Bool} {texts : List String} (es : List Expr)
    (h : fragments keys s nested es = .ok texts) :
    ∀ leaf ∈ Expr.writtenOfAll es, s.Writable leaf := by
  match es with
  | [] => exact fun _ hl => absurd hl List.not_mem_nil
  | e :: es =>
    simp only [fragments, bind_ok] at h
    obtain ⟨sql, he, rest, hes, -⟩ := h
    exact List.forall_mem_append.mpr ⟨fragment_written hd e he, fragments_written hd es hes⟩
termination_by sizeOf es

/-- The first argument orders the window and the later ones are passed on. -/
theorem leading_key_written {keys : Except SqlError (List String)} {s : Scope}
    (hd : s.dialect.Supported) {texts order : List String} (es : List Expr)
    (h : laterFragments keys s es = .ok texts) (ho : leadingKey s es = .ok order) :
    ∀ leaf ∈ Expr.writtenOfAll es, s.Writable leaf := by
  match es with
  | [] => exact fun _ hl => absurd hl List.not_mem_nil
  | e :: es =>
    have hlater := fragments_written hd es h
    simp only [leading_key_cons, bind_ok] at ho
    obtain ⟨sql, hsql, -⟩ := ho
    have hsize := e.sort_operand_lt es
    have hkey := fragment_written (s := s.forKeys) hd e.sortOperand hsql
    rw [e.sort_operand_written] at hkey
    exact List.forall_mem_append.mpr ⟨hkey, hlater⟩
termination_by sizeOf es

end

/-- What a scope has written is made of what can be written there. -/
theorem Scope.render_written (hd : s.dialect.Supported) {e : Expr} {text : String}
    (h : s.render e = .ok text) : ∀ leaf ∈ e.written, s.Writable leaf :=
  fragment_written hd e h

end Sql
end LayeredSql
