import LayeredSql.Build.Pipeline
import LayeredSql.Proofs.Names.Disambiguation

namespace LayeredSql
variable {verb : Verb}

theorem names_checked_ok {x : Except NameError α} {a : α} :
    Relation.namesChecked verb x = .ok a ↔ x = .ok a :=
  map_error_ok

theorem sql_checked_ok {x : Except SqlError α} {a : α} :
    Relation.sqlChecked verb x = .ok a ↔ x = .ok a :=
  map_error_ok

namespace Relation
open Names
variable {d : Dialect} {l r r' : Relation}

theorem of_table_ok {table : TableRef} {vars : List String} :
    ofTable verb table vars = .ok r ↔ vars.Nodup ∧ r = ⟨.table table, vars, [], []⟩ := by
  simp only [ofTable, bind_ok, names_checked_ok, require_distinct_ok, pure_ok]
  constructor
  · rintro ⟨_, hn, rfl⟩
    exact ⟨hn, rfl⟩
  · rintro ⟨hn, rfl⟩
    exact ⟨(), hn, rfl⟩

theorem select_ok {columns : List Projection} :
    r.select d columns = .ok r' ↔
      ∃ wanted, columns.mapM requested = .ok wanted ∧ (∀ c ∈ wanted, c.source ∈ r.vars) ∧
        ((withGroups wanted r.groups).map (·.target)).Nodup ∧
        r' = r.project d (withGroups wanted r.groups) := by
  simp only [select, bind_ok, names_checked_ok, resolve_select_ok, pure_ok]
  constructor
  · rintro ⟨wanted, hw, _, ⟨hs, hn, rfl⟩, rfl⟩
    exact ⟨wanted, hw, hs, hn, rfl⟩
  · rintro ⟨wanted, hw, hs, hn, rfl⟩
    exact ⟨wanted, hw, _, ⟨hs, hn, rfl⟩, rfl⟩

theorem rename_ok {renames : List ColumnRename} :
    r.rename verb d renames = .ok r' ↔
      (∀ c ∈ renames, c.source ∈ r.vars) ∧ (renames.map (·.source)).Nodup ∧
        (r.vars.map (renamed renames)).Nodup ∧ r' = r.project d (inPlace r.vars renames) := by
  simp only [rename, bind_ok, names_checked_ok, resolve_rename_ok, pure_ok]
  constructor
  · rintro ⟨_, ⟨hs, hd, hn, rfl⟩, rfl⟩
    exact ⟨hs, hd, hn, rfl⟩
  · rintro ⟨hs, hd, hn, rfl⟩
    exact ⟨_, ⟨hs, hd, hn, rfl⟩, rfl⟩

theorem arrange_ok {keys : List SortKey} :
    r.arrange d keys = .ok r' ↔
      ∃ texts, (r.scope d .ordering).renderKeys keys = .ok texts ∧
        r' = { r with query := .select r.query { orderBy := texts }, order := keys } := by
  simp only [arrange, bind_ok, sql_checked_ok, pure_ok]

theorem summarise_ok {aggregates : List NamedExpr} :
    r.summarise d aggregates = .ok r' ↔
      ∃ texts, (r.scope d .summary).renderNamed aggregates = .ok texts ∧
        (r.groups ++ aggregates.map (·.name)).Nodup ∧
        r' = ⟨.select r.query
            { items := r.groups.map (columnItem d) ++ labelled texts
              groupBy := r.groups.map d.quote },
          r.groups ++ aggregates.map (·.name), r.groups.dropLast, []⟩ := by
  simp only [summarise, bind_ok, sql_checked_ok, names_checked_ok, require_distinct_ok, pure_ok]
  constructor
  · rintro ⟨texts, ht, _, hn, rfl⟩
    exact ⟨texts, ht, hn, rfl⟩
  · rintro ⟨texts, ht, hn, rfl⟩
    exact ⟨texts, ht, (), hn, rfl⟩

def untouched (vars : List String) (defs : List NamedExpr) : List String :=
  vars.filter fun v => !defs.any (·.name == v)

theorem mutate_ok {derived : List NamedExpr} :
    r.mutate verb d derived = .ok r' ↔
      ∃ defs texts, resolveDerived verb d.functions derived = .ok defs ∧
        (r.scope d .derivation).renderNamed defs = .ok texts ∧
        r' = { r with
          query := .select r.query
            { items := (untouched r.vars defs).map (columnItem d) ++ labelled texts }
          vars := untouched r.vars defs ++ defs.map (·.name) } := by
  simp only [mutate, bind_ok, sql_checked_ok, pure_ok, untouched, exists_and_left]

theorem group_by_ok {vars : List String} :
    r.groupBy vars = .ok r' ↔
      (∀ v ∈ vars, v ∈ r.vars) ∧ vars.Nodup ∧ r' = { r with groups := vars } := by
  simp only [groupBy, bind_ok, names_checked_ok, require_all_ok, require_distinct_ok, pure_ok]
  constructor
  · rintro ⟨_, hs, _, hn, rfl⟩
    exact ⟨hs, hn, rfl⟩
  · rintro ⟨hs, hn, rfl⟩
    exact ⟨(), hs, (), hn, rfl⟩

theorem filter_rows_ok {predicates : List Expr} :
    r.filterRows d predicates = .ok r' ↔
      ∃ texts, (r.scope d .condition).renderAll predicates = .ok texts ∧
        r' = { r with query := .select r.query { conditions := texts } } := by
  simp only [filterRows, bind_ok, sql_checked_ok, pure_ok]

theorem filter_windows_ok {predicates : List Expr} :
    r.filterWindows d predicates = .ok r' ↔
      ∃ hoisting inner texts,
        Expr.hoistPredicates d.functions r.vars predicates = .ok hoisting ∧
        r.mutate .filter d hoisting.windows = .ok inner ∧
        (inner.scope d .condition).renderAll hoisting.predicates = .ok texts ∧
        r' = { inner with
          query := .select inner.query { items := r.vars.map (columnItem d), conditions := texts }
          vars := r.vars } := by
  simp only [filterWindows, bind_ok, sql_checked_ok, map_error_ok, pure_ok, exists_and_left]

theorem distinct_ok {columns : List String} {keepAll : Bool} :
    r.distinct columns keepAll = .ok r' ↔
      (columns = [] ∨ keepAll = true) ∧ (∀ c ∈ columns, c ∈ r.vars) ∧
        r' = { r with query := .select r.query { distinct := true } } := by
  have hlater : (do
      namesChecked .distinct (requireAll r.vars columns)
      return { r with query := .select r.query { distinct := true } }) = Except.ok r' ↔
      (∀ c ∈ columns, c ∈ r.vars) ∧
        r' = { r with query := .select r.query { distinct := true } } := by
    simp only [bind_ok, names_checked_ok, require_all_ok, pure_ok, exists_const]
  by_cases hc : columns = [] ∨ keepAll = true
  · have hb : (!columns.isEmpty && !keepAll) = false := by
      rcases hc with rfl | rfl <;> simp
    simpa [distinct, hb, hc] using hlater
  · have hb : (!columns.isEmpty && !keepAll) = true := by
      simpa [not_or] using hc
    simp only [distinct, hb, hc, if_true, false_and, iff_false]
    intro h
    cases h

theorem check_keys_ok {keys : List KeyPair} {u : Unit} :
    checkKeys verb l r keys = .ok u ↔ KeysFound l.vars r.vars keys := by
  unfold KeysFound
  induction keys with
  | nil => simp [checkKeys]
  | cons key keys ih =>
    simp only [checkKeys, bind_ok, names_checked_ok, require_column_ok, ih, exists_const,
      List.forall_mem_cons, and_assoc]

theorem rename_side_ok {renames : List ColumnRename} :
    r.renameSide verb d renames = .ok r' ↔
      (renames = [] ∧ r' = r) ∨ (renames ≠ [] ∧ r.rename verb d renames = .ok r') := by
  unfold renameSide
  cases renames with
  | nil => simp [eq_comm]
  | cons c renames => simp

theorem semi_join_ok {anti : Bool} {keys : List KeyPair} :
    l.semiJoin r anti keys = .ok r' ↔
      KeysFound l.vars r.vars keys ∧
        r' = ⟨.semiJoin l.query r.query anti keys, l.vars, l.groups, []⟩ := by
  simp only [semiJoin, bind_ok, check_keys_ok, pure_ok, exists_const]

theorem require_ok {capability : Capability} {u : Unit} :
    d.require capability = .ok u ↔ d.supports capability = true := by
  unfold Dialect.require
  split <;> simp_all

def merged (l r : Relation) : List String :=
  l.vars ++ r.vars.filter fun v => !l.vars.contains v

def aligned (r : Relation) (d : Dialect) (vars : List String) : Relation :=
  if r.vars = vars then r
  else
    ⟨.select r.query
      { items := vars.map fun v => if v ∈ r.vars then columnItem d v else ⟨"NULL", some v⟩ },
      vars, [], []⟩

/-- Bringing a relation to other columns never fails: NULL has a text in every dialect. -/
theorem align_ok {vars : List String} : r.align verb d vars = .ok (r.aligned d vars) := by
  unfold align aligned
  split
  · rfl
  · rfl

theorem aligned_vars (r : Relation) (d : Dialect) (vars : List String) :
    (r.aligned d vars).vars = vars := by
  unfold aligned
  split
  · assumption
  · rfl

theorem set_op_ok {kind : SetKind} :
    l.setOp r d kind = .ok r' ↔
      d.supports (.setOp kind) = true ∧
        r' = ⟨.setOp (l.aligned d (merged l r)).query (r.aligned d (merged l r)).query kind,
          merged l r, [], []⟩ := by
  simp only [setOp, bind_ok, sql_checked_ok, require_ok, align_ok, pure_ok, exists_const, merged,
    Except.ok.injEq, exists_eq_left']

theorem join_ok {kind : JoinKind} {keys : List KeyPair} {suffixes : Suffixes} :
    l.join r d kind keys suffixes = .ok r' ↔
      KeysFound l.vars r.vars keys ∧ (kind = .full → d.supports .fullJoin = true) ∧
        (suffixedColumns l.vars r.vars keys suffixes).Nodup ∧
        ∃ left right,
          l.renameSide .join d (suffixPlan l.vars r.vars keys suffixes).left = .ok left ∧
          r.renameSide .join d (suffixPlan l.vars r.vars keys suffixes).right = .ok right ∧
          r' = ⟨.join left.query right.query kind
              ((suffixPlan l.vars r.vars keys suffixes).remapKeys keys),
            joinColumns left.vars right.vars
              ((suffixPlan l.vars r.vars keys suffixes).remapKeys keys),
            left.groups, []⟩ := by
  by_cases hk : kind = .full
  · simp only [join, hk, if_true, bind_ok, check_keys_ok, sql_checked_ok, require_ok,
      names_checked_ok, disambiguate_ok, pure_ok, exists_const, forall_const, and_assoc,
      exists_and_left, exists_eq_left]
  · simp only [join, hk, if_false, bind_ok, check_keys_ok, names_checked_ok, disambiguate_ok,
      pure_ok, exists_const, false_implies, true_and, and_assoc, exists_and_left, exists_eq_left]

/-- A side of a join has its columns renamed, by a layer or by none. -/
theorem rename_side_vars {renames : List ColumnRename} (h : r.renameSide verb d renames = .ok r') :
    r'.vars = r.vars.map (renamed renames) := by
  rcases rename_side_ok.mp h with ⟨rfl, rfl⟩ | ⟨_, h⟩
  · exact (List.map_id r'.vars).symm
  · obtain ⟨_, _, _, rfl⟩ := rename_ok.mp h
    exact in_place_targets r.vars renames

end Relation
end LayeredSql
