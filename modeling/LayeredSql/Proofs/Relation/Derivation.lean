import LayeredSql.Proofs.Expr.Substitution
import LayeredSql.Proofs.Keyed
import LayeredSql.Proofs.Outcome
import LayeredSql.Relation.Derive

namespace LayeredSql

namespace Expr

mutual

theorem window_arguments_columns {t : FunctionTable} {inside : Bool} (e : Expr) {c : String}
    (h : c ∈ e.windowArguments t inside) : c ∈ e.columns := by
  match e with
  | .literal value => exact h
  | .column name =>
    rw [windowArguments] at h
    split at h
    · exact h
    · cases h
  | .binary op left right =>
    rcases List.mem_append.mp h with h | h
    · exact List.mem_append_left _ (window_arguments_columns left h)
    · exact List.mem_append_right _ (window_arguments_columns right h)
  | .unary op operand => exact window_arguments_columns operand h
  | .call func args => exact window_arguments_columns_all args h
  | .inSet operand set =>
    rcases List.mem_append.mp h with h | h
    · exact List.mem_append_left _ (window_arguments_columns operand h)
    · exact List.mem_append_right _ (window_arguments_columns_all set h)
  | .cast operand target => exact window_arguments_columns operand h

theorem window_arguments_columns_all {t : FunctionTable} {inside : Bool} (es : List Expr)
    {c : String} (h : c ∈ windowArgumentsOfAll t inside es) : c ∈ columnsOfAll es := by
  match es with
  | [] => exact h
  | e :: es =>
    rcases List.mem_append.mp h with h | h
    · exact List.mem_append_left _ (window_arguments_columns e h)
    · exact List.mem_append_right _ (window_arguments_columns_all es h)

end

end Expr

namespace Relation
variable {verb : Verb} {t : FunctionTable} {defs defs' derived : List NamedExpr}

theorem any_name {name : String} :
    (defs.any fun item => item.name == name) = true ↔ name ∈ defs.map (·.name) := by
  simp

/-- A name that is defined already keeps its place. -/
theorem define_names (defs : List NamedExpr) (name : String) (expr : Expr) :
    (define defs name expr).map (·.name) =
      if name ∈ defs.map (·.name) then defs.map (·.name) else defs.map (·.name) ++ [name] := by
  unfold define
  split
  · rename_i ha
    rw [if_pos (any_name.mp ha), List.map_map]
    apply List.map_congr_left
    intro item _
    simp only [Function.comp_apply]
    split
    · rename_i he
      exact (beq_iff_eq.mp he).symm
    · rfl
  · rename_i ha
    rw [if_neg fun hm => ha (any_name.mpr hm), List.map_append]
    rfl

theorem define_names_nodup {name : String} {expr : Expr} (h : (defs.map (·.name)).Nodup) :
    ((define defs name expr).map (·.name)).Nodup := by
  rw [define_names]
  split
  · exact h
  · rename_i hn
    rw [← List.concat_eq_append]
    exact h.concat hn

theorem definition_of_mem {item : NamedExpr} (hn : (defs.map (·.name)).Nodup) (h : item ∈ defs) :
    definition? defs item.name = some item.expr := by
  rw [definition?, found_by_name hn h]
  rfl

theorem definition_of_not_mem {name : String} (h : name ∉ defs.map (·.name)) :
    definition? defs name = none := by
  rw [definition?, none_under.mpr h]
  rfl

theorem definition_some {name : String} {expr : Expr} (h : definition? defs name = some expr) :
    ∃ item ∈ defs, item.name = name ∧ item.expr = expr := by
  obtain ⟨item, hf, he⟩ := Option.map_eq_some_iff.mp h
  obtain ⟨hm, hn⟩ := found_under hf
  exact ⟨item, hm, hn, he⟩

/-- A new definition is found under its name, and all others as before. -/
theorem definition_define (defs : List NamedExpr) (name : String) (expr : Expr) (c : String) :
    definition? (define defs name expr) c =
      if c = name then some expr else definition? defs c := by
  unfold define
  split
  · rename_i ha
    have hname : ((fun item : NamedExpr => item.name == c) ∘
        fun item => if item.name == name then ⟨name, expr⟩ else item) =
        fun item => item.name == c := by
      funext item
      simp only [Function.comp_apply]
      split
      · rename_i he
        rw [beq_iff_eq.mp he]
      · rfl
    unfold definition?
    rw [List.find?_map, hname]
    cases hf : defs.find? (·.name == c) with
    | none =>
      have hc : c ≠ name := by
        rintro rfl
        obtain ⟨item, hm, he⟩ := List.any_eq_true.mp ha
        exact List.find?_eq_none.mp hf item hm he
      rw [if_neg hc]
      rfl
    | some found =>
      have hfound : found.name = c := by simpa using List.find?_some hf
      by_cases hc : c = name
      · simp [hfound, hc]
      · simp [hfound, hc]
  · rename_i ha
    have hnone : c = name → defs.find? (·.name == c) = none := by
      rintro rfl
      rw [List.find?_eq_none]
      exact fun item hm he => ha (List.any_eq_true.mpr ⟨item, hm, he⟩)
    unfold definition?
    rw [List.find?_append]
    by_cases hc : c = name
    · rw [hnone hc]
      simp [hc]
    · simp [hc, Ne.symm hc]

theorem resolve_item_ok {item : NamedExpr} :
    resolveItem verb t defs item = .ok defs' ↔
      (∀ c ∈ item.expr.windowArguments t false, isWindowed t defs c = false) ∧
        defs' = define defs item.name (item.expr.substitute (definition? defs)) := by
  unfold resolveItem
  cases hf : (item.expr.windowArguments t false).find? (isWindowed t defs) with
  | none =>
    have hnone := List.find?_eq_none.mp hf
    simp only [Bool.not_eq_true] at hnone
    simp only [Except.ok.injEq]
    exact ⟨fun h => ⟨hnone, h.symm⟩, fun h => h.2.symm⟩
  | some inner =>
    have hw := List.find?_some hf
    have hm := List.mem_of_find?_eq_some hf
    constructor
    · intro h
      cases h
    · rintro ⟨h, _⟩
      rw [h inner hm] at hw
      cases hw

/-- What holds of no definitions and is kept by one more holds of a resolved derivation. -/
theorem resolve_derived_induction {P : List NamedExpr → Prop} (hnil : P [])
    (hstep : ∀ defs, ∀ item ∈ derived, P defs →
      P (define defs item.name (item.expr.substitute (definition? defs))))
    (h : resolveDerived verb t derived = .ok defs) : P defs := by
  refine foldlM_ok_keeps ?_ hnil h
  intro before item hm next hp hn
  obtain ⟨_, rfl⟩ := resolve_item_ok.mp hn
  exact hstep before item hm hp

theorem resolve_derived_nodup (h : resolveDerived verb t derived = .ok defs) :
    (defs.map (·.name)).Nodup := by
  refine resolve_derived_induction (P := fun defs => (defs.map (·.name)).Nodup) List.nodup_nil ?_ h
  exact fun _ _ _ hp => define_names_nodup hp

theorem define_of_not_mem {name : String} {expr : Expr} (h : name ∉ defs.map (·.name)) :
    define defs name expr = defs ++ [⟨name, expr⟩] := by
  unfold define
  rw [if_neg fun ha => h (any_name.mp ha)]

theorem windowed_of_not_mem {name : String} (h : name ∉ defs.map (·.name)) :
    isWindowed t defs name = false := by
  unfold isWindowed
  rw [List.any_eq_false]
  intro item hm ha
  obtain ⟨he, _⟩ := Bool.and_eq_true_iff.mp ha
  exact h (List.mem_map.mpr ⟨item, hm, beq_iff_eq.mp he⟩)

/-- Items with different names that mention none of them are their own resolution. -/
theorem resolve_derived_independent (hn : (derived.map (·.name)).Nodup)
    (hc : ∀ item ∈ derived, ∀ c ∈ item.expr.columns, c ∉ derived.map (·.name)) :
    resolveDerived verb t derived = .ok derived := by
  -- What is defined so far is the part of the list gone through.
  have hrun : ∀ rest before, before ++ rest = derived →
      rest.foldlM (resolveItem verb t) before = .ok derived := by
    intro rest
    induction rest with
    | nil =>
      rintro before rfl
      rw [List.foldlM_nil, pure_ok, List.append_nil]
    | cons item rest ih =>
      intro before he
      have hm : item ∈ derived := by
        rw [← he]
        exact List.mem_append_right _ List.mem_cons_self
      have hfree : ∀ c ∈ item.expr.columns, c ∉ before.map (·.name) := by
        intro c hcm hb
        apply hc item hm c hcm
        rw [← he, List.map_append]
        exact List.mem_append_left _ hb
      have hnew : item.name ∉ before.map (·.name) := by
        rw [← he, List.map_append, List.map_cons] at hn
        exact fun hb => (List.nodup_append.mp hn).2.2 _ hb _ List.mem_cons_self rfl
      rw [List.foldlM_cons, bind_ok]
      refine ⟨before ++ [item], resolve_item_ok.mpr ⟨?_, ?_⟩, ih _ (by rw [← he]; simp)⟩
      · intro c hw
        exact windowed_of_not_mem (hfree c (Expr.window_arguments_columns _ hw))
      · rw [define_of_not_mem hnew, Expr.substitute_of_none]
        exact fun c hcm => definition_of_not_mem (hfree c hcm)
  exact hrun derived [] rfl

end Relation
end LayeredSql
