import LayeredSql.Proofs.Sql.Call
import LayeredSql.Sql.Window

namespace LayeredSql.Sql
variable {s : Scope} {keys : Except SqlError (List String)}

/-- A function that is found, and is no window function, is a scalar one. -/
theorem Scope.signature_scalar {func : String} {arity : Nat} {sig : Signature}
    (hw : s.dialect.functions.isWindow func = false) (h : s.signature func arity = .ok sig) :
    sig.kind = .scalar := by
  rw [FunctionTable.isWindow, Scope.signature_found h] at hw
  simpa [Signature.isWindow] using hw

/-- Only derived columns are written with windows. -/
theorem Scope.needs_window_true {sig : Signature} {func : String}
    (h : s.needsWindow sig func = .ok true) : sig.kind ≠ .scalar ∧ s.clause = .derivation := by
  unfold Scope.needsWindow at h
  split at h
  · cases h
  · rename_i hk
    split at h
    · cases h
    · split at h
      · cases h
      · rename_i hc
        exact ⟨hk, not_not.mp hc⟩

/-- In a clause without windows, or for a function that has none, a call is told alike whether it
needs a window, and it needs none. -/
theorem Scope.needs_no_window {clause : Clause} (groups : List String) (order : List SortKey)
    {func : String} {arity : Nat} {sig : Signature} (hsig : s.signature func arity = .ok sig)
    (h : s.dialect.functions.isWindow func = false ∨ (clause = s.clause ∧ clause ≠ .derivation)) :
    ({ s with clause, groups, order } : Scope).needsWindow sig func = s.needsWindow sig func ∧
      s.needsWindow sig func ≠ .ok true := by
  rcases h with hw | ⟨rfl, hc⟩
  · have hplain : ∀ s : Scope, s.needsWindow sig func = .ok false :=
      fun _ => if_pos (Scope.signature_scalar hw hsig)
    rw [hplain, hplain]
    exact ⟨rfl, nofun⟩
  · exact ⟨rfl, fun hn => hc (Scope.needs_window_true hn).2⟩

mutual

/-- Where no window can be written, the clause, the grouping variables and the ordering are not
looked at. -/
theorem fragment_unwindowed {keys' : Except SqlError (List String)} {clause : Clause}
    (groups : List String) (order : List SortKey) {nested : Bool} (e : Expr)
    (h : e.callsWindow s.dialect.functions = false ∨ (clause = s.clause ∧ clause ≠ .derivation)) :
    fragment keys' { s with clause, groups, order } nested e = fragment keys s nested e := by
  match e with
  | .literal value => rfl
  | .column name => rfl
  | .binary op left right =>
    have hl := h.imp_left fun h => (Bool.or_eq_false_iff.mp h).1
    have hr := h.imp_left fun h => (Bool.or_eq_false_iff.mp h).2
    simp only [fragment, fragment_unwindowed groups order left hl,
      fragment_unwindowed groups order right hr]
  | .unary op operand =>
    simp only [fragment, fragment_unwindowed groups order operand h]
  | .call func args =>
    have hf := h.imp_left fun h => (Bool.or_eq_false_iff.mp h).1
    have ha := h.imp_left fun h => (Bool.or_eq_false_iff.mp h).2
    have hsame : ({ s with clause, groups, order } : Scope).signature func args.length =
        s.signature func args.length := rfl
    rw [fragment, fragment, hsame]
    cases hsig : s.signature func args.length with
    | error e => rfl
    | ok sig =>
      obtain ⟨hneeds, hnever⟩ := Scope.needs_no_window groups order hsig hf
      simp only [bind, Except.bind, hneeds]
      cases hn : s.needsWindow sig func with
      | error e => rfl
      | ok windowed =>
        cases windowed with
        | true => exact absurd hn hnever
        | false =>
          simp only [fragments_unwindowed groups order args ha, Bool.false_eq_true, if_false]
  | .inSet operand set =>
    have ho := h.imp_left fun h => (Bool.or_eq_false_iff.mp h).1
    have hs := h.imp_left fun h => (Bool.or_eq_false_iff.mp h).2
    simp only [fragment, fragment_unwindowed groups order operand ho,
      fragments_unwindowed groups order set hs]
  | .cast operand target =>
    simp only [fragment, fragment_unwindowed groups order operand h]

theorem fragments_unwindowed {keys' : Except SqlError (List String)} {clause : Clause}
    (groups : List String) (order : List SortKey) {nested : Bool} (es : List Expr)
    (h : Expr.anyCallsWindow s.dialect.functions es = false ∨
      (clause = s.clause ∧ clause ≠ .derivation)) :
    fragments keys' { s with clause, groups, order } nested es = fragments keys s nested es := by
  match es with
  | [] => rfl
  | e :: es =>
    have he := h.imp_left fun h => (Bool.or_eq_false_iff.mp h).1
    have hes := h.imp_left fun h => (Bool.or_eq_false_iff.mp h).2
    simp only [fragments, fragment_unwindowed groups order e he,
      fragments_unwindowed groups order es hes]

end

theorem fragment_windowless (clause : Clause) {nested : Bool} (e : Expr)
    (h : e.callsWindow s.dialect.functions = false) :
    fragment keys { s with clause } nested e = fragment keys s nested e :=
  fragment_unwindowed s.groups s.order e (.inl h)

namespace Scope

theorem render_groups (groups : List String) {e : Expr}
    (h : s.clause ≠ .derivation ∨ e.callsWindow s.dialect.functions = false) :
    ({ s with groups } : Scope).render e = s.render e :=
  fragment_unwindowed groups s.order e (h.symm.imp_right fun hc => ⟨rfl, hc⟩)

theorem render_all_groups (groups : List String) (es : List Expr) (h : s.clause ≠ .derivation) :
    ({ s with groups } : Scope).renderAll es = s.renderAll es :=
  mapM_congr_left fun _ _ => render_groups groups (.inl h)

theorem render_keys_groups (groups : List String) (sort : List SortKey)
    (h : s.clause ≠ .derivation) :
    ({ s with groups } : Scope).renderKeys sort = s.renderKeys sort := by
  refine mapM_congr_left fun key _ => ?_
  rw [render_groups groups (.inl h)]

theorem render_named_groups (groups : List String) {items : List NamedExpr}
    (h : ∀ item ∈ items, item.expr.callsWindow s.dialect.functions = false) :
    ({ s with groups } : Scope).renderNamed items = s.renderNamed items := by
  refine mapM_congr_left fun item hm => ?_
  rw [render_groups groups (.inr (h item hm))]

end Scope
end LayeredSql.Sql
