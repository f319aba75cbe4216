import LayeredSql.Proofs.Build.Layers

namespace LayeredSql

namespace Relation
variable {verb : Verb} {d : Dialect} {r r' : Relation} {item : NamedExpr}

/-- A named expression is an item under its name. -/
theorem labelled_result {s : Sql.Scope} {items : List NamedExpr} {texts : List (String × String)}
    (h : s.renderNamed items = .ok texts) (hm : item ∈ items) :
    ∃ text, s.render item.expr = .ok text ∧ text ∈ (labelled texts).map (·.sql) := by
  obtain ⟨named, hn, hi⟩ := mapM_ok_result h hm
  simp only [bind_ok, pure_ok] at hi
  obtain ⟨text, ht, rfl⟩ := hi
  rw [labelled, List.map_map]
  exact ⟨text, ht, List.mem_map.mpr ⟨_, hn, rfl⟩⟩

theorem labelled_origin {s : Sql.Scope} {items : List NamedExpr} {texts : List (String × String)}
    (h : s.renderNamed items = .ok texts) {text : String}
    (ht : text ∈ (labelled texts).map (·.sql)) : ∃ item ∈ items, s.render item.expr = .ok text := by
  rw [labelled, List.map_map] at ht
  obtain ⟨named, hn, rfl⟩ := List.mem_map.mp ht
  obtain ⟨item, hm, hi⟩ := mapM_ok_mem h hn
  simp only [bind_ok, pure_ok] at hi
  obtain ⟨sql, hsql, rfl⟩ := hi
  exact ⟨item, hm, hsql⟩

theorem mutate_writes {derived defs : List NamedExpr} (h : r.mutate verb d derived = .ok r')
    (hd : resolveDerived verb d.functions derived = .ok defs) (hm : item ∈ defs) :
    ∃ text, (r.scope d .derivation).render item.expr = .ok text ∧ r'.query.Writes text := by
  obtain ⟨defs', texts, hd', ht, rfl⟩ := mutate_ok.mp h
  obtain rfl := Except.ok.inj (hd.symm.trans hd')
  obtain ⟨text, hrender, hmem⟩ := labelled_result ht hm
  refine ⟨text, hrender, Query.select_writes _ ?_⟩
  simp [Layer.texts, hmem]

end Relation

namespace Pipeline
variable {t : Target} {p input left right : Pipeline} {r r₀ : Relation}

/-- The layers of an operation are written from these expressions, each in its scope: derived
columns, aggregates and predicates, and for a filter on windows the hoisted windows and what is left
of the predicates. -/
inductive Emits (t : Target) : Pipeline → Sql.Scope → Expr → Prop where
  | derived {input : Pipeline} {r : Relation} {derived defs : List NamedExpr} {item : NamedExpr} :
      input.relation t = .ok r →
      Relation.resolveDerived .mutate t.dialect.functions derived = .ok defs → item ∈ defs →
      Emits t (mutate input derived) (r.scope t.dialect .derivation) item.expr
  | aggregate {input : Pipeline} {r : Relation} {aggregates : List NamedExpr} {item : NamedExpr} :
      input.relation t = .ok r → item ∈ aggregates →
      Emits t (summarise input aggregates) (r.scope t.dialect .summary) item.expr
  | condition {input : Pipeline} {r : Relation} {predicates : List Expr} {e : Expr} :
      input.relation t = .ok r → predicates.any (·.callsWindow t.dialect.functions) = false →
      e ∈ predicates → Emits t (filter input predicates) (r.scope t.dialect .condition) e
  | hoisted {input : Pipeline} {r : Relation} {predicates : List Expr} {hoisting : Expr.Hoisting}
      {defs : List NamedExpr} {item : NamedExpr} :
      input.relation t = .ok r → predicates.any (·.callsWindow t.dialect.functions) = true →
      Expr.hoistPredicates t.dialect.functions r.vars predicates = .ok hoisting →
      Relation.resolveDerived .filter t.dialect.functions hoisting.windows = .ok defs → item ∈ defs →
      Emits t (filter input predicates) (r.scope t.dialect .derivation) item.expr
  | rest {input : Pipeline} {r inner : Relation} {predicates : List Expr}
      {hoisting : Expr.Hoisting} {e : Expr} :
      input.relation t = .ok r → predicates.any (·.callsWindow t.dialect.functions) = true →
      Expr.hoistPredicates t.dialect.functions r.vars predicates = .ok hoisting →
      r.mutate .filter t.dialect hoisting.windows = .ok inner → e ∈ hoisting.predicates →
      Emits t (filter input predicates) (inner.scope t.dialect .condition) e

theorem Emits.dialect {s : Sql.Scope} {e : Expr} (he : p.Emits t s e) : s.dialect = t.dialect := by
  cases he with
  | derived | aggregate | condition | hoisted => rfl
  | rest _ _ _ h _ =>
    obtain ⟨_, _, _, _, rfl⟩ := Relation.mutate_ok.mp h
    rfl

/-- What a filter on windows did, seen from the windows it hoisted. -/
theorem Builds.filter_windows {predicates : List Expr} {hoisting : Expr.Hoisting}
    (h : (Pipeline.filter input predicates).Builds t r) (hr : input.relation t = .ok r₀)
    (hw : predicates.any (·.callsWindow t.dialect.functions) = true)
    (hh : Expr.hoistPredicates t.dialect.functions r₀.vars predicates = .ok hoisting) :
    ∃ inner texts, r₀.mutate .filter t.dialect hoisting.windows = .ok inner ∧
      (inner.scope t.dialect .condition).renderAll hoisting.predicates = .ok texts ∧
      r.query = .select inner.query
        { items := r₀.vars.map (Relation.columnItem t.dialect), conditions := texts } := by
  cases h with
  | filter hr' h =>
    obtain rfl := Except.ok.inj (hr.symm.trans (relation_ok.mpr hr'))
    rw [Relation.filter, if_pos hw] at h
    obtain ⟨_, inner, texts, hh', hmutate, ht, rfl⟩ := Relation.filter_windows_ok.mp h
    obtain rfl := Except.ok.inj (hh.symm.trans hh')
    exact ⟨inner, texts, hmutate, ht, rfl⟩

/-- Every emitted expression is written in a layer of the query. -/
theorem Builds.emitted_written (h : p.Builds t r) {s : Sql.Scope} {e : Expr}
    (he : p.Emits t s e) : ∃ text, s.render e = .ok text ∧ r.query.Writes text := by
  cases he with
  | derived hr hdefs hm =>
    cases h with
    | mutate hr' h =>
      obtain rfl := Except.ok.inj (hr.symm.trans (relation_ok.mpr hr'))
      exact Relation.mutate_writes h hdefs hm
  | aggregate hr hm =>
    cases h with
    | summarise hr' h =>
      obtain rfl := Except.ok.inj (hr.symm.trans (relation_ok.mpr hr'))
      obtain ⟨texts, ht, _, rfl⟩ := Relation.summarise_ok.mp h
      obtain ⟨text, hrender, hmem⟩ := Relation.labelled_result ht hm
      refine ⟨text, hrender, Query.select_writes _ ?_⟩
      simp [Layer.texts, hmem]
  | condition hr hw hm =>
    cases h with
    | filter hr' h =>
      obtain rfl := Except.ok.inj (hr.symm.trans (relation_ok.mpr hr'))
      rw [Relation.filter, if_neg (Bool.not_eq_true _ ▸ hw)] at h
      obtain ⟨texts, ht, rfl⟩ := Relation.filter_rows_ok.mp h
      obtain ⟨text, hmem, hrender⟩ := mapM_ok_result ht hm
      exact ⟨text, hrender, Query.select_writes _ (List.mem_append_right _ hmem)⟩
  | hoisted hr hw hh hdefs hm =>
    obtain ⟨inner, _, hmutate, _, hq⟩ := h.filter_windows hr hw hh
    obtain ⟨text, hrender, hwrites⟩ := Relation.mutate_writes hmutate hdefs hm
    rw [hq]
    exact ⟨text, hrender, hwrites.mono (Query.select_layers _ _)⟩
  | rest hr hw hh hmutate hm =>
    obtain ⟨inner, _, hmutate', ht, hq⟩ := h.filter_windows hr hw hh
    obtain rfl := Except.ok.inj (hmutate.symm.trans hmutate')
    obtain ⟨text, hmem, hrender⟩ := mapM_ok_result ht hm
    rw [hq]
    exact ⟨text, hrender, Query.select_writes _ (List.mem_append_right _ hmem)⟩

/-- Where a text of a query comes from: a bare column, a column that one side of a set operation
lacks, or an expression that is emitted somewhere. -/
def Accounted (t : Target) (p : Pipeline) (text : String) : Prop :=
  (∃ name, text = t.dialect.quote name) ∨ text = "NULL" ∨
    ∃ part ∈ p.parts, ∃ s e, part.Emits t s e ∧ s.render e = .ok text

theorem Accounted.mono {p' : Pipeline} {text : String} (h : p.Accounted t text)
    (hp : p.parts ⊆ p'.parts) : p'.Accounted t text := by
  refine h.imp_right (Or.imp_right ?_)
  rintro ⟨part, hm, hemitted⟩
  exact ⟨part, hp hm, hemitted⟩

theorem Emits.accounted {s : Sql.Scope} {e : Expr} (he : p.Emits t s e) {text : String}
    (h : s.render e = .ok text) : p.Accounted t text :=
  .inr (.inr ⟨p, self_mem_parts p, s, e, he, h⟩)

theorem accounted_column (p : Pipeline) (name : String) : p.Accounted t (t.dialect.quote name) :=
  .inl ⟨name, rfl⟩

/-- Columns kept and expressions under names of their own. -/
theorem accounted_items {kept : List String} {items : List NamedExpr} {s : Sql.Scope}
    {texts : List (String × String)} (ht : s.renderNamed items = .ok texts)
    (he : ∀ item ∈ items, p.Emits t s item.expr) :
    ∀ item ∈ kept.map (Relation.columnItem t.dialect) ++ Relation.labelled texts,
      p.Accounted t item.sql := by
  rw [List.forall_mem_append, List.forall_mem_map]
  refine ⟨fun name _ => accounted_column p name, fun item hm => ?_⟩
  obtain ⟨origin, hm, hr⟩ := Relation.labelled_origin ht (List.mem_map_of_mem hm)
  exact (he origin hm).accounted hr

theorem accounted_conditions {predicates : List Expr} {s : Sql.Scope} {texts : List String}
    (ht : s.renderAll predicates = .ok texts) (he : ∀ e ∈ predicates, p.Emits t s e) :
    ∀ text ∈ texts, p.Accounted t text := by
  intro text hm
  obtain ⟨e, hm, hr⟩ := mapM_ok_mem ht hm
  exact (he e hm).accounted hr

def AccountsFor (t : Target) (p : Pipeline) (q : Query) : Prop :=
  ∀ text, q.Writes text → p.Accounted t text

namespace AccountsFor
variable {q ql qr : Query}

theorem mono (h : input.AccountsFor t q) (hp : input.parts ⊆ p.parts) : p.AccountsFor t q :=
  fun text ht => (h text ht).mono hp

theorem table (p : Pipeline) (table : TableRef) : p.AccountsFor t (.table table) := by
  rintro text ⟨_, hl, _⟩
  cases hl

/-- One more layer. -/
theorem layer (hq : p.AccountsFor t q) {layer : Layer}
    (hi : ∀ item ∈ layer.items, p.Accounted t item.sql)
    (hc : ∀ text ∈ layer.conditions, p.Accounted t text) :
    p.AccountsFor t (.select q layer) := by
  intro text ht
  rcases Query.writes_select.mp ht with ht | ht
  · exact hq text ht
  · rcases List.mem_append.mp ht with ht | ht
    · obtain ⟨item, hm, rfl⟩ := List.mem_map.mp ht
      exact hi item hm
    · exact hc text ht

theorem project (hq : p.AccountsFor t r.query) (mapping : List ColumnRename) :
    p.AccountsFor t (r.project t.dialect mapping).query := by
  refine hq.layer ?_ (by simp)
  rw [List.forall_mem_map]
  exact fun m _ => accounted_column p m.source

theorem rename_side {verb : Verb} (hq : p.AccountsFor t r₀.query) {renames : List ColumnRename}
    (h : r₀.renameSide verb t.dialect renames = .ok r) : p.AccountsFor t r.query := by
  rcases Relation.rename_side_ok.mp h with ⟨_, rfl⟩ | ⟨_, h⟩
  · exact hq
  · obtain ⟨_, _, _, rfl⟩ := Relation.rename_ok.mp h
    exact hq.project _

theorem aligned (hq : p.AccountsFor t r.query) (vars : List String) :
    p.AccountsFor t (r.aligned t.dialect vars).query := by
  unfold Relation.aligned
  split
  · exact hq
  · refine hq.layer ?_ (by simp)
    rw [List.forall_mem_map]
    intro v _
    split
    · exact accounted_column p v
    · exact .inr (.inl rfl)

theorem mutate {verb : Verb} (hq : p.AccountsFor t r₀.query) {derived : List NamedExpr}
    (h : r₀.mutate verb t.dialect derived = .ok r)
    (he : ∀ defs, Relation.resolveDerived verb t.dialect.functions derived = .ok defs →
      ∀ item ∈ defs, p.Emits t (r₀.scope t.dialect .derivation) item.expr) :
    p.AccountsFor t r.query := by
  obtain ⟨defs, texts, hd, ht, rfl⟩ := Relation.mutate_ok.mp h
  exact hq.layer (accounted_items ht (he defs hd)) (by simp)

theorem filter {predicates : List Expr} (hr : input.relation t = .ok r₀)
    (hq : (filter input predicates).AccountsFor t r₀.query)
    (h : r₀.filter t.dialect predicates = .ok r) :
    (filter input predicates).AccountsFor t r.query := by
  unfold Relation.filter at h
  split at h
  · rename_i hw
    obtain ⟨hoisting, inner, texts, hh, hm, ht, rfl⟩ := Relation.filter_windows_ok.mp h
    have hinner := hq.mutate hm fun defs hd item hi => .hoisted hr hw hh hd hi
    refine hinner.layer ?_ (accounted_conditions ht fun e he => .rest hr hw hh hm he)
    rw [List.forall_mem_map]
    exact fun v _ => accounted_column _ v
  · rename_i hw
    obtain ⟨texts, ht, rfl⟩ := Relation.filter_rows_ok.mp h
    have hnone := Bool.not_eq_true _ ▸ hw
    exact hq.layer (by simp) (accounted_conditions ht fun e he => .condition hr hnone he)

theorem two (hl : left.AccountsFor t ql) (hr : right.AccountsFor t qr)
    (hp : p.parts = p :: (left.parts ++ right.parts)) (hq : q.layers = ql.layers ++ qr.layers) :
    p.AccountsFor t q := by
  rintro text ⟨layer, hm, ht⟩
  rw [hq, List.mem_append] at hm
  rcases hm with hm | hm
  · refine (hl text ⟨layer, hm, ht⟩).mono ?_
    rw [hp]
    exact List.subset_cons_of_subset _ (List.subset_append_left _ _)
  · refine (hr text ⟨layer, hm, ht⟩).mono ?_
    rw [hp]
    exact List.subset_cons_of_subset _ (List.subset_append_right _ _)

end AccountsFor

/-- A query has no text that its pipeline does not account for. -/
theorem Builds.accounted (h : p.Builds t r) : p.AccountsFor t r.query := by
  induction h with
  | remote h =>
    obtain ⟨_, rfl⟩ := Relation.of_table_ok.mp h
    exact .table _ _
  | inMemory h =>
    obtain ⟨_, rfl⟩ := Relation.of_table_ok.mp h
    exact .table _ _
  | select hr h ih =>
    obtain ⟨_, _, _, _, rfl⟩ := Relation.select_ok.mp h
    exact (ih.mono (List.subset_cons_self _ _)).project _
  | rename hr h ih =>
    obtain ⟨_, _, _, rfl⟩ := Relation.rename_ok.mp h
    exact (ih.mono (List.subset_cons_self _ _)).project _
  | arrange hr h ih =>
    obtain ⟨_, _, rfl⟩ := Relation.arrange_ok.mp h
    exact (ih.mono (List.subset_cons_self _ _)).layer (by simp) (by simp)
  | summarise hr h ih =>
    obtain ⟨texts, ht, _, rfl⟩ := Relation.summarise_ok.mp h
    refine (ih.mono (List.subset_cons_self _ _)).layer ?_ (by simp)
    exact accounted_items ht fun _ hm => .aggregate (relation_ok.mpr hr) hm
  | mutate hr h ih =>
    refine (ih.mono (List.subset_cons_self _ _)).mutate h fun defs hd item hm => ?_
    exact .derived (relation_ok.mpr hr) hd hm
  | groupBy hr h ih =>
    obtain ⟨_, _, rfl⟩ := Relation.group_by_ok.mp h
    exact ih.mono (List.subset_cons_self _ _)
  | ungroup hr ih => exact ih.mono (List.subset_cons_self _ _)
  | filter hr h ih =>
    exact AccountsFor.filter (relation_ok.mpr hr) (ih.mono (List.subset_cons_self _ _)) h
  | distinct hr h ih =>
    obtain ⟨_, _, rfl⟩ := Relation.distinct_ok.mp h
    exact (ih.mono (List.subset_cons_self _ _)).layer (by simp) (by simp)
  | take hr ih => exact (ih.mono (List.subset_cons_self _ _)).layer (by simp) (by simp)
  | join hl hr h ihl ihr =>
    obtain ⟨_, _, _, _, _, hleft, hright, rfl⟩ := Relation.join_ok.mp h
    exact (ihl.rename_side hleft).two (ihr.rename_side hright) rfl rfl
  | semiJoin hl hr h ihl ihr =>
    obtain ⟨_, rfl⟩ := Relation.semi_join_ok.mp h
    exact ihl.two ihr rfl rfl
  | setOp hl hr h ihl ihr =>
    obtain ⟨_, rfl⟩ := Relation.set_op_ok.mp h
    exact (ihl.aligned _).two (ihr.aligned _) rfl rfl

end Pipeline
end LayeredSql
