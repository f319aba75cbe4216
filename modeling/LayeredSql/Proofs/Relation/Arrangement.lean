import LayeredSql.Proofs.Expr.Arrangement
import LayeredSql.Proofs.Relation.Inlining

namespace LayeredSql.Relation
open SortKey
variable {t : FunctionTable} {verb : Verb} {d : Dialect} {r r' : Relation} {derived defs : List NamedExpr}

/-- Whatever expressions mean, rows arranged by the keys `before` are arranged by the keys `after`
once the items are computed. -/
def StaysArranged (derived : List NamedExpr) (before after : List SortKey) : Prop :=
  ∀ (V S ρ : Type) [Preorder S] (I : Interpretation V) (env : String → V) (cell : V → ρ → S)
    (rows : List ρ), ArrangedBy I env cell rows before →
      ArrangedBy I (computedAll I env derived) cell rows after

/-- Keys over the derived columns are keys over the input columns, with the definitions written
out. -/
theorem arranged_computed {V S ρ : Type} [Preorder S] {I : Interpretation V} {env : String → V}
    {cell : V → ρ → S} {rows : List ρ} {keys : List SortKey}
    (h : resolveDerived verb t derived = .ok defs) :
    ArrangedBy I (computedAll I env derived) cell rows keys ↔
      ArrangedBy I env cell rows (keys.map (SortKey.substitute (definition? defs))) := by
  have hnow : Expr.replacedValue I env (definition? defs) = computedAll I env derived :=
    resolve_derived_tracks I env h
  unfold ArrangedBy
  simp only [precedes_substitute, Expr.eval_substitute, hnow]

theorem stays_arranged_iff {before after : List SortKey}
    (h : resolveDerived verb t derived = .ok defs) :
    StaysArranged derived before after ↔
      Implies [] before (after.map (SortKey.substitute (definition? defs))) := by
  rw [implies_iff_arranged]
  unfold StaysArranged
  simp only [arranged_computed h]

/-- Keys that mention no derived column are as they were. -/
theorem written_out_keys {keys : List SortKey} (h : resolveDerived verb t derived = .ok defs)
    (hkeys : ∀ key ∈ keys, ∀ c ∈ key.expr.columns, c ∉ derived.map (·.name)) :
    keys.map (SortKey.substitute (definition? defs)) = keys := by
  conv_rhs => rw [← List.map_id keys]
  refine List.map_congr_left fun key hk => ?_
  have hnone : ∀ c ∈ key.expr.columns, definition? defs c = none := by
    intro c hc
    refine definition_of_not_mem fun hm => hkeys key hk c hc ?_
    rwa [resolve_derived_names h, List.mem_eraseDups] at hm
  unfold SortKey.substitute
  rw [Expr.substitute_of_none hnone]
  rfl

/-- The ordering after a derivation is the ordering before it, and rows stay arranged by it exactly
when its keys, with the derived names written out, are implied by the keys as they were. So it is
when no key mentions a derived column. -/
theorem mutate_order_truthful_iff (h : r.mutate verb d derived = .ok r') :
    r'.order = r.order ∧ ∃ defs, resolveDerived verb d.functions derived = .ok defs ∧
      (StaysArranged derived r.order r'.order ↔
        Implies [] r.order (r'.order.map (SortKey.substitute (definition? defs)))) ∧
      ((∀ key ∈ r.order, ∀ c ∈ key.expr.columns, c ∉ derived.map (·.name)) →
        StaysArranged derived r.order r'.order) := by
  obtain ⟨defs, texts, hd, -, rfl⟩ := mutate_ok.mp h
  refine ⟨rfl, defs, hd, stays_arranged_iff hd, fun hkeys => ?_⟩
  rw [stays_arranged_iff hd, written_out_keys hd hkeys]
  exact .refl [] r.order

def latestVisits : Relation :=
  ⟨.table ⟨none, "visits"⟩, ["day", "visitor"], [],
    [⟨.column "day", true⟩, ⟨.column "visitor", false⟩]⟩

/-- Once visitors are replaced by days, the second key is the first one over again, the other way
round, and decides nothing. -/
theorem repeated_key_truthful :
    ∃ r', latestVisits.mutate .mutate .ansi [⟨"visitor", .column "day"⟩,
        ⟨"place", .call "row_number" []⟩] = .ok r' ∧
      r'.order = latestVisits.order ∧
      StaysArranged [⟨"visitor", .column "day"⟩, ⟨"place", .call "row_number" []⟩]
        latestVisits.order r'.order := by
  obtain ⟨r', h⟩ := exists_ok (x := latestVisits.mutate .mutate .ansi [⟨"visitor", .column "day"⟩,
    ⟨"place", .call "row_number" []⟩]) (by decide +kernel)
  obtain ⟨horder, defs, hd, hiff, -⟩ := mutate_order_truthful_iff h
  obtain rfl : [⟨"visitor", .column "day"⟩, ⟨"place", .call "row_number" []⟩] = defs :=
    Except.ok.inj (Eq.trans rfl hd)
  refine ⟨r', h, horder, hiff.mpr ?_⟩
  rw [horder]
  exact .same (.again List.mem_cons_self .nil)

def negation {ρ : Type} : Interpretation (ρ → Int) where
  literal _ _ := 0
  binary _ a _ := a
  unary _ a row := -a row
  call _ _ _ := 0
  inSet a _ := a
  cast a _ := a

/-- Rows arranged by `x`, whose `x` is then negated, are said to be arranged by the new `x`: a
number given to the rows afterwards runs against them. -/
theorem negated_key_misleads :
    let r : Relation := ⟨.table ⟨none, "t"⟩, ["x"], [], [⟨.column "x", false⟩]⟩
    let derived : List NamedExpr := [⟨"x", .unary .neg (.column "x")⟩]
    let env : String → Bool → Int := fun _ second => if second then 2 else 1
    ∃ r', r.mutate .mutate .ansi derived = .ok r' ∧
      ArrangedBy negation env id [false, true] r.order ∧
      ¬ ArrangedBy negation (computedAll negation env derived) id [false, true] r'.order ∧
      (r'.scope .ansi .derivation).render (.call "row_number" []) =
        .ok "ROW_NUMBER() OVER (ORDER BY \x22x\x22)" := by
  exact ⟨_, rfl, by decide, by decide, by cbv⟩

end LayeredSql.Relation
