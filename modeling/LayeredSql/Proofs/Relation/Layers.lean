import LayeredSql.Proofs.Query.Exposed
import LayeredSql.Proofs.Relation.WellFormed
import LayeredSql.Proofs.Sql.Fragment

namespace LayeredSql.Relation
open Names Sql
variable {verb : Verb} {d : Dialect} {l r r' : Relation}

/-- One layer about the columns of `r` leads to `r'`. Without items it passes the columns on. -/
structure Laid (d : Dialect) (r : Relation) (layer : Layer) (r' : Relation) : Prop where
  query : r'.query = .select r.query layer
  sees : layer.Scoped d r.vars
  columns : layer.names d = r'.vars ∨ layer.items = [] ∧ r'.vars = r.vars

/-- A layer without items keeps the columns. -/
theorem Laid.of_clauses {layer : Layer} (hq : r'.query = .select r.query layer)
    (hv : r'.vars = r.vars) (hi : layer.items = []) (hg : layer.groupBy = [])
    (hc : ∀ text ∈ layer.conditions, NamesWithin d r.vars text)
    (ho : ∀ text ∈ layer.orderBy, NamesWithin d r.vars text) : Laid d r layer r' where
  query := hq
  sees := {
    items := by simp [hi]
    conditions := hc
    groupBy := by simp [hg]
    orderBy := ho
    distinct := by simp [Layer.names, hi] }
  columns := .inr ⟨hi, hv⟩

theorem Laid.of_project (hd : d.Supported) {mapping : List ColumnRename}
    (hs : ∀ m ∈ mapping, m.source ∈ r.vars) (hn : (mapping.map (·.target)).Nodup) :
    Laid d r { items := mapping.map (renameItem d) } (r.project d mapping) where
  query := rfl
  sees := {
    items := rename_items_scoped hd hs
    conditions := by simp
    groupBy := by simp
    orderBy := by simp
    distinct := by
      unfold Layer.names
      rwa [rename_item_names hd] }
  columns := .inl (rename_item_names hd mapping)

variable (hd : d.Supported) (hw : r.WellFormed)
include hd hw

theorem select_laid {columns : List Projection} (h : r.select d columns = .ok r') :
    ∃ layer, Laid d r layer r' := by
  obtain ⟨_, _, hs, hn, rfl⟩ := select_ok.mp h
  exact ⟨_, .of_project hd (source_mem_of_with_groups hw.groups_found hs) hn⟩

omit hw in
theorem rename_laid {renames : List ColumnRename} (h : r.rename verb d renames = .ok r') :
    ∃ layer, Laid d r layer r' := by
  obtain ⟨_, _, hn, rfl⟩ := rename_ok.mp h
  refine ⟨_, .of_project hd ?_ ?_⟩
  · intro m hm
    obtain ⟨v, hv, rfl⟩ := List.mem_map.mp hm
    exact hv
  · rwa [in_place_targets]

theorem arrange_laid {keys : List SortKey} (h : r.arrange d keys = .ok r') :
    ∃ layer, Laid d r layer r' := by
  obtain ⟨texts, ht, rfl⟩ := arrange_ok.mp h
  have hkeys := Scope.render_keys_within hd hw.groups_found ht
  exact ⟨_, .of_clauses rfl rfl rfl rfl (by simp) hkeys⟩

theorem filter_rows_laid {predicates : List Expr} (h : r.filterRows d predicates = .ok r') :
    ∃ layer, Laid d r layer r' := by
  obtain ⟨texts, ht, rfl⟩ := filter_rows_ok.mp h
  have hconditions := Scope.render_all_within hd hw.groups_found ht
  exact ⟨_, .of_clauses rfl rfl rfl rfl hconditions (by simp)⟩

omit hd hw in
theorem distinct_laid {columns : List String} {keepAll : Bool}
    (h : r.distinct columns keepAll = .ok r') : ∃ layer, Laid d r layer r' := by
  obtain ⟨_, _, rfl⟩ := distinct_ok.mp h
  exact ⟨_, .of_clauses rfl rfl rfl rfl (by simp) (by simp)⟩

omit hd hw in
theorem take_laid (limit : UInt64) : ∃ layer, Laid d r layer (r.take limit) :=
  ⟨_, .of_clauses rfl rfl rfl rfl (by simp) (by simp)⟩

omit hw in
/-- Columns kept and expressions under names of their own, in one layer. -/
theorem derived_layer {kept : List String} {texts : List (String × String)} (groups : List String)
    (hk : ∀ v ∈ kept, v ∈ r.vars) (ht : ∀ text ∈ texts, NamesWithin d r.vars text.2)
    (hg : ∀ g ∈ groups, g ∈ r.vars) (hn : (kept ++ texts.map (·.1)).Nodup) {layer : Layer}
    (hl : layer = { items := kept.map (columnItem d) ++ labelled texts
                    groupBy := groups.map d.quote }) :
    layer.names d = kept ++ texts.map (·.1) ∧ layer.Scoped d r.vars := by
  subst hl
  have hnames : (kept.map (columnItem d) ++ labelled texts).filterMap (·.name? d) =
      kept ++ texts.map (·.1) := by
    rw [List.filterMap_append, column_item_names hd, labelled_names]
  refine ⟨hnames, ?_, by simp, ?_, by simp, ?_⟩
  · exact List.forall_mem_append.mpr ⟨column_items_scoped hd hk, labelled_scoped ht⟩
  · rw [List.forall_mem_map]
    exact fun g hm => quote_within hd (hg g hm)
  · unfold Layer.names
    rwa [hnames]

theorem summarise_laid {aggregates : List NamedExpr} (h : r.summarise d aggregates = .ok r') :
    ∃ layer, Laid d r layer r' := by
  obtain ⟨texts, ht, hn, rfl⟩ := summarise_ok.mp h
  have hwithin := Scope.render_named_within hd hw.groups_found ht
  rw [← Scope.render_named_names ht] at hn ⊢
  obtain ⟨hnames, hscoped⟩ :=
    derived_layer hd r.groups hw.groups_found hwithin hw.groups_found hn rfl
  exact ⟨_, rfl, hscoped, .inl hnames⟩

theorem mutate_laid {derived : List NamedExpr} (h : r.mutate verb d derived = .ok r') :
    ∃ layer, Laid d r layer r' := by
  have hn := (hw.mutate h).vars_distinct
  obtain ⟨defs, texts, _, ht, rfl⟩ := mutate_ok.mp h
  have hwithin := Scope.render_named_within hd hw.groups_found ht
  simp only [← Scope.render_named_names ht] at hn ⊢
  obtain ⟨hnames, hscoped⟩ := derived_layer hd []
    (fun v hv => (mem_untouched.mp hv).1) hwithin (by simp) hn rfl
  exact ⟨_, rfl, hscoped, .inl hnames⟩

omit hd hw in
/-- A derivation loses no column, if only because a redefined one keeps its name. -/
theorem mutate_vars {derived : List NamedExpr} (h : r.mutate verb d derived = .ok r') :
    ∀ v ∈ r.vars, v ∈ r'.vars := by
  obtain ⟨defs, _, _, _, rfl⟩ := mutate_ok.mp h
  intro v hv
  by_cases hm : v ∈ defs.map (·.name)
  · exact List.mem_append_right _ hm
  · exact List.mem_append_left _ (mem_untouched.mpr ⟨hv, hm⟩)

/-- A filter on windows lays the derivation of the windows, and over it the columns there were. -/
theorem filter_windows_laid {predicates : List Expr} (h : r.filterWindows d predicates = .ok r') :
    ∃ hoisting inner hoisted outer,
      Expr.hoistPredicates d.functions r.vars predicates = .ok hoisting ∧
      r.mutate .filter d hoisting.windows = .ok inner ∧ r'.vars = r.vars ∧
      Laid d r hoisted inner ∧ Laid d inner outer r' := by
  obtain ⟨hoisting, inner, texts, hh, hm, ht, rfl⟩ := filter_windows_ok.mp h
  obtain ⟨hoisted, hlaid⟩ := mutate_laid hd hw hm
  refine ⟨hoisting, inner, hoisted, _, hh, hm, rfl, hlaid, rfl, ?_,
    .inl (column_item_names hd r.vars)⟩
  have hinner := hw.mutate hm
  refine ⟨column_items_scoped hd (mutate_vars hm), ?_, by simp, by simp, ?_⟩
  · exact Scope.render_all_within hd hinner.groups_found ht
  · unfold Layer.names
    rw [column_item_names hd]
    exact hw.vars_distinct

omit hw in
theorem rename_side_laid {renames : List ColumnRename} (h : r.renameSide verb d renames = .ok r') :
    r' = r ∨ ∃ layer, Laid d r layer r' := by
  rcases rename_side_ok.mp h with ⟨_, he⟩ | ⟨_, h⟩
  · exact .inl he
  · exact .inr (rename_laid hd h)

omit hw in
/-- A side of a set operation lacks the columns that the other side has in excess. -/
theorem align_laid {vars : List String} (hn : vars.Nodup) :
    r.aligned d vars = r ∧ r.vars = vars ∨
      ∃ layer, Laid d r layer (r.aligned d vars) := by
  by_cases he : r.vars = vars
  · exact .inl ⟨if_pos he, he⟩
  · have hnames : (vars.map fun v =>
        if v ∈ r.vars then columnItem d v else ⟨"NULL", some v⟩).filterMap (·.name? d) = vars := by
      rw [List.filterMap_map]
      have hname : ((fun item : SelectItem => item.name? d) ∘ fun v =>
          if v ∈ r.vars then columnItem d v else ⟨"NULL", some v⟩) = some := by
        funext v
        simp only [Function.comp_apply]
        split
        · exact quoted_name hd v
        · rfl
      rw [hname, List.filterMap_some]
    rw [aligned, if_neg he]
    refine .inr ⟨_, rfl, ⟨?_, by simp, by simp, by simp, ?_⟩, .inl hnames⟩
    · rw [List.forall_mem_map]
      intro v _
      split
      · rename_i hv
        exact ⟨fun _ => ⟨v, rfl⟩, quote_within hd hv⟩
      · have hnull : Reads d (· ∈ r.vars) (fun _ => True) "NULL" := .word (by decide)
        exact ⟨fun hl => absurd hl (by simp), hnull.names_within hd⟩
    · unfold Layer.names
      rwa [hnames]

end LayeredSql.Relation
