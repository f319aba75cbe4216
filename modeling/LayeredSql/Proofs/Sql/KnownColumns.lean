import LayeredSql.Proofs.Expr.Folding
import LayeredSql.Proofs.Sql.Written

namespace LayeredSql

namespace Expr

mutual

/-- Columns that stand before a test for membership of nothing. -/
def unread : Expr → List String
  | .literal _ => []
  | .column _ => []
  | .binary _ left right => left.unread ++ right.unread
  | .unary _ operand => operand.unread
  | .call _ args => unreadOfAll args
  | .inSet operand set =>
    if set.isEmpty then operand.columns else operand.unread ++ unreadOfAll set
  | .cast operand _ => operand.unread

def unreadOfAll : List Expr → List String
  | [] => []
  | e :: es => e.unread ++ unreadOfAll es

end

mutual

theorem unread_columns (e : Expr) {c : String} (h : c ∈ e.unread) : c ∈ e.columns := by
  match e with
  | .literal value => exact h
  | .column name => cases h
  | .binary op left right =>
    rcases List.mem_append.mp h with h | h
    · exact List.mem_append_left _ (unread_columns left h)
    · exact List.mem_append_right _ (unread_columns right h)
  | .unary op operand => exact unread_columns operand h
  | .call func args => exact unread_columns_all args h
  | .inSet operand set =>
    rw [unread] at h
    split at h
    · exact List.mem_append_left _ h
    · rcases List.mem_append.mp h with h | h
      · exact List.mem_append_left _ (unread_columns operand h)
      · exact List.mem_append_right _ (unread_columns_all set h)
  | .cast operand target => exact unread_columns operand h

theorem unread_columns_all (es : List Expr) {c : String} (h : c ∈ unreadOfAll es) :
    c ∈ columnsOfAll es := by
  match es with
  | [] => exact h
  | e :: es =>
    rcases List.mem_append.mp h with h | h
    · exact List.mem_append_left _ (unread_columns e h)
    · exact List.mem_append_right _ (unread_columns_all es h)

end

mutual

/-- A column that is read is written. -/
theorem columns_written (e : Expr) {c : String} (h : c ∈ e.columns) :
    c ∈ e.unread ∨ .column c ∈ e.written := by
  match e with
  | .literal value => cases h
  | .column name =>
    rw [List.mem_singleton.mp h]
    exact .inr List.mem_cons_self
  | .binary op left right =>
    rcases List.mem_append.mp h with h | h
    · exact (columns_written left h).imp (List.mem_append_left _) (List.mem_append_left _)
    · exact (columns_written right h).imp (List.mem_append_right _) (List.mem_append_right _)
  | .unary op operand => exact columns_written operand h
  | .call func args => exact columns_written_all args h
  | .inSet operand set =>
    rw [unread, written]
    split
    · rename_i hempty
      rw [List.isEmpty_iff.mp hempty, columns, columnsOfAll, List.append_nil] at h
      exact .inl h
    · rcases List.mem_append.mp h with h | h
      · exact (columns_written operand h).imp (List.mem_append_left _) (List.mem_append_left _)
      · exact (columns_written_all set h).imp (List.mem_append_right _) (List.mem_append_right _)
  | .cast operand target => exact columns_written operand h

theorem columns_written_all (es : List Expr) {c : String} (h : c ∈ columnsOfAll es) :
    c ∈ unreadOfAll es ∨ .column c ∈ writtenOfAll es := by
  match es with
  | [] => cases h
  | e :: es =>
    rcases List.mem_append.mp h with h | h
    · exact (columns_written e h).imp (List.mem_append_left _) (List.mem_append_left _)
    · exact (columns_written_all es h).imp (List.mem_append_right _) (List.mem_append_right _)

end

end Expr

namespace Sql
variable {keys : Except SqlError (List String)} {s : Scope}

def unknown (c : String) (available : List String) : SqlError :=
  .expr (.unknownColumn c available)

theorem missing_left {c : String} {xs ys vars : List String} {p : Prop}
    (h : (c ∈ xs ∧ c ∉ vars) ∨ p) : (c ∈ xs ++ ys ∧ c ∉ vars) ∨ p :=
  h.imp_left fun hc => ⟨List.mem_append_left ys hc.1, hc.2⟩

theorem missing_right {c : String} {xs ys vars : List String} {p : Prop}
    (h : (c ∈ ys ∧ c ∉ vars) ∨ p) : (c ∈ xs ++ ys ∧ c ∉ vars) ∨ p :=
  h.imp_left fun hc => ⟨List.mem_append_right xs hc.1, hc.2⟩

theorem literal_known {value : Literal} {c : String} {available : List String} :
    literal value ≠ .error (unknown c available) := by
  intro h
  cases value with
  | float x =>
    simp only [literal] at h
    split at h
    · cases h
    · cases h
  | _ => cases h

theorem Scope.signature_known {func : String} {arity : Nat} {c : String}
    {available : List String} : s.signature func arity ≠ .error (unknown c available) := by
  intro h
  unfold Scope.signature at h
  cases hl : s.dialect.functions.lookup func arity with
  | error e =>
    rw [hl] at h
    cases h
  | ok sig =>
    rw [hl] at h
    cases h

theorem Scope.needs_window_known {sig : Signature} {func : String} {c : String}
    {available : List String} : s.needsWindow sig func ≠ .error (unknown c available) := by
  intro h
  unfold Scope.needsWindow Dialect.require at h
  split at h
  · cases h
  · split at h
    · cases h
    · split at h
      · cases h
      · split at h
        · cases h
        · cases h

mutual

/-- A column that an expression is refused for is a column of it that is not in scope, unless the
ordering was refused for it. -/
theorem fragment_unknown {keys : Except SqlError (List String)} {s : Scope} {nested : Bool}
    {c : String} {available : List String} (e : Expr)
    (h : fragment keys s nested e = .error (unknown c available)) :
    (c ∈ e.columns ∧ c ∉ s.vars) ∨ keys = .error (unknown c available) := by
  match e with
  | .literal value => exact absurd h literal_known
  | .column name =>
    simp only [fragment] at h
    split at h
    · cases h
    · rename_i hm
      cases h
      exact .inl ⟨List.mem_cons_self, hm⟩
  | .binary op left right =>
    simp only [fragment, bind_error] at h
    rcases h with h | ⟨lhs, -, h⟩
    · exact missing_left (fragment_unknown left h)
    · split at h
      · cases h
      · rcases bind_error.mp h with h | ⟨rhs, -, h⟩
        · exact missing_right (fragment_unknown right h)
        · cases h
  | .unary op operand =>
    simp only [fragment, bind_error] at h
    rcases h with h | ⟨sql, -, h⟩
    · exact fragment_unknown operand h
    · cases op <;> cases h
  | .call func args =>
    simp only [fragment, bind_error] at h
    rcases h with h | ⟨sig, -, h⟩
    · exact absurd h Scope.signature_known
    rcases h with h | ⟨needs, -, h⟩
    · exact absurd h Scope.needs_window_known
    split at h
    · rcases bind_error.mp h with h | ⟨texts, -, h⟩
      · split at h
        · exact later_fragments_unknown args h
        · exact fragments_unknown args h
      · rcases bind_error.mp h with h | ⟨order, -, h⟩
        · split at h
          · cases h
          · split at h
            · exact .inl (leading_key_unknown args h)
            · exact .inr h
        · cases h
    · rcases bind_error.mp h with h | ⟨texts, -, h⟩
      · exact fragments_unknown args h
      · cases h
  | .inSet operand set =>
    simp only [fragment] at h
    split at h
    · cases h
    · rcases bind_error.mp h with h | ⟨lhs, -, h⟩
      · exact missing_left (fragment_unknown operand h)
      · rcases bind_error.mp h with h | ⟨items, -, h⟩
        · exact missing_right (fragments_unknown set h)
        · cases h
  | .cast operand target =>
    simp only [fragment, bind_error] at h
    rcases h with h | ⟨sql, -, h⟩
    · exact fragment_unknown operand h
    · cases h
termination_by sizeOf e

theorem fragments_unknown {keys : Except SqlError (List String)} {s : Scope} {nested : Bool}
    {c : String} {available : List String} (es : List Expr)
    (h : fragments keys s nested es = .error (unknown c available)) :
    (c ∈ Expr.columnsOfAll es ∧ c ∉ s.vars) ∨ keys = .error (unknown c available) := by
  match es with
  | [] => cases h
  | e :: es =>
    simp only [fragments, bind_error] at h
    rcases h with h | ⟨sql, -, h⟩
    · exact missing_left (fragment_unknown e h)
    rcases h with h | ⟨rest, -, h⟩
    · exact missing_right (fragments_unknown es h)
    · cases h
termination_by sizeOf es

theorem later_fragments_unknown {keys : Except SqlError (List String)} {s : Scope} {c : String}
    {available : List String} (es : List Expr)
    (h : laterFragments keys s es = .error (unknown c available)) :
    (c ∈ Expr.columnsOfAll es ∧ c ∉ s.vars) ∨ keys = .error (unknown c available) := by
  match es with
  | [] => cases h
  | e :: es =>
    exact missing_right (fragments_unknown es h)
termination_by sizeOf es

theorem leading_key_unknown {s : Scope} {c : String} {available : List String} (es : List Expr)
    (h : leadingKey s es = .error (unknown c available)) :
    c ∈ Expr.columnsOfAll es ∧ c ∉ s.vars := by
  match es with
  | [] => cases h
  | e :: es =>
    rw [leading_key_cons] at h
    rcases bind_error.mp h with h | ⟨sql, -, h⟩
    · have hsize := e.sort_operand_lt es
      have hkey := (fragment_unknown (s := s.forKeys) e.sortOperand h).resolve_right nofun
      rw [e.sort_operand_columns] at hkey
      exact ⟨List.mem_append_left _ hkey.1, hkey.2⟩
    · cases h
termination_by sizeOf es

end

namespace Scope

/-- What a scope writes has its columns in scope, if those that are not read are. -/
theorem render_found (hd : s.dialect.Supported) {e : Expr} {text : String}
    (hu : ∀ c ∈ e.unread, c ∈ s.vars) (h : s.render e = .ok text) :
    ∀ c ∈ e.columns, c ∈ s.vars := by
  intro c hc
  rcases Expr.columns_written e hc with hunread | hwritten
  · exact hu c hunread
  · exact render_written hd h _ hwritten

/-- The ordering is refused for none of its columns, if they are all in scope. -/
theorem order_text_known (ho : ∀ key ∈ s.order, ∀ c ∈ key.expr.columns, c ∈ s.vars) {c : String}
    {available : List String} : s.orderText ≠ .error (unknown c available) := by
  intro h
  obtain ⟨key, hkey, hf⟩ := mapM_error h
  rcases bind_error.mp hf with hf | ⟨sql, -, hf⟩
  · have hc := (fragment_unknown (s := s.forKeys) key.expr hf).resolve_right nofun
    exact hc.2 (ho key hkey c hc.1)
  · cases hf

/-- With the ordering in scope, an expression is refused for columns of its own. -/
theorem render_unknown (ho : ∀ key ∈ s.order, ∀ c ∈ key.expr.columns, c ∈ s.vars) {e : Expr}
    {c : String} {available : List String} (h : s.render e = .error (unknown c available)) :
    c ∈ e.columns ∧ c ∉ s.vars :=
  (fragment_unknown e h).resolve_right (order_text_known ho)

end Scope
end Sql
end LayeredSql
