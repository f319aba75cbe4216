import LayeredSql.Proofs.Relation.WellFormed
import LayeredSql.Proofs.Sql.Fragment
import LayeredSql.Proofs.Sql.Hoisting

namespace LayeredSql

namespace Relation
variable {d : Dialect} {r r' : Relation}

/-- Columns that a derivation does not define all stay. -/
theorem untouched_of_fresh {vars : List String} {defs : List NamedExpr}
    (h : ∀ item ∈ defs, item.name ∉ vars) : untouched vars defs = vars := by
  rw [untouched, List.filter_eq_self]
  intro v hv
  rw [Bool.not_eq_true', ← Bool.not_eq_true, any_name]
  intro hm
  obtain ⟨item, hi, rfl⟩ := List.mem_map.mp hm
  exact h item hi hv

/-- Hoisted windows are derived as they are. -/
theorem resolve_hoisted (hn : d.functions.OnePerName) (hv : r.vars.Nodup)
    {predicates : List Expr} {hoisting : Expr.Hoisting}
    (hh : Expr.hoistPredicates d.functions r.vars predicates = .ok hoisting) :
    resolveDerived .filter d.functions hoisting.windows = .ok hoisting.windows := by
  have hlossless := Expr.hoist_predicates_lossless hn hv hh
  have hcolumns := Expr.hoist_predicates_columns hn hv hh
  refine resolve_derived_independent hlossless.names_distinct ?_
  intro item hi c hc hm
  obtain ⟨w, hw, rfl⟩ := List.mem_map.mp hm
  exact hlossless.names_fresh w hw (hcolumns item hi _ hc)

/-- The derivation of the hoisted windows leaves them as they are, and the columns too. -/
theorem mutate_hoisted (hn : d.functions.OnePerName) (hv : r.vars.Nodup)
    {predicates : List Expr} {hoisting : Expr.Hoisting}
    (hh : Expr.hoistPredicates d.functions r.vars predicates = .ok hoisting)
    (h : r.mutate .filter d hoisting.windows = .ok r') :
    ∃ texts, (r.scope d .derivation).renderNamed hoisting.windows = .ok texts ∧
      r' = { r with
        query := .select r.query { items := r.vars.map (columnItem d) ++ labelled texts }
        vars := r.vars ++ hoisting.windows.map (·.name) } := by
  have hlossless := Expr.hoist_predicates_lossless hn hv hh
  obtain ⟨defs, texts, hd, ht, rfl⟩ := mutate_ok.mp h
  obtain rfl := Except.ok.inj ((resolve_hoisted hn hv hh).symm.trans hd)
  refine ⟨texts, ht, ?_⟩
  rw [untouched_of_fresh hlossless.names_fresh]

/-- The layers of a filter on windows, and what it keeps of the relation below. -/
structure WindowsFiltered (d : Dialect) (r : Relation) (hoisting : Expr.Hoisting) (r' : Relation) :
    Prop where
  layers : ∃ texts conditions,
    (r.scope d .derivation).renderNamed hoisting.windows = .ok texts ∧
    texts.map (·.1) = hoisting.windows.map (·.name) ∧
    Sql.Scope.renderAll ⟨d, r.vars ++ hoisting.windows.map (·.name), .condition, r.groups, r.order⟩
      hoisting.predicates = .ok conditions ∧
    r'.query = .select
      (.select r.query { items := r.vars.map (columnItem d) ++ labelled texts })
      { items := r.vars.map (columnItem d), conditions := conditions }
  vars : r'.vars = r.vars
  groups : r'.groups = r.groups
  order : r'.order = r.order

theorem filter_windows_shape (hn : d.functions.OnePerName) (hv : r.vars.Nodup)
    {predicates : List Expr} (h : r.filterWindows d predicates = .ok r') :
    ∃ hoisting, Expr.hoistPredicates d.functions r.vars predicates = .ok hoisting ∧
      hoisting.Lossless d.functions r.vars predicates ∧ WindowsFiltered d r hoisting r' := by
  obtain ⟨hoisting, inner, conditions, hh, hm, hc, rfl⟩ := filter_windows_ok.mp h
  obtain ⟨texts, ht, rfl⟩ := mutate_hoisted hn hv hh hm
  refine ⟨hoisting, hh, Expr.hoist_predicates_lossless hn hv hh, ?_, rfl, rfl, rfl⟩
  exact ⟨texts, conditions, ht, Sql.Scope.render_named_names ht, hc, rfl⟩

end Relation

namespace Pipeline

/-- Hoisting is lossless over any columns, and a filter on windows keeps what it should: the
columns, the grouping and the ordering below it, in two layers that differ by the hoisted
windows. -/
theorem window_filter_lossless {t : Target} (hd : t.dialect.Supported) :
    (∀ vars predicates hoisting, vars.Nodup →
      Expr.hoistPredicates t.dialect.functions vars predicates = .ok hoisting →
      hoisting.Lossless t.dialect.functions vars predicates) ∧
    ∀ input predicates r', predicates.any (·.callsWindow t.dialect.functions) = true →
      (filter input predicates).relation t = .ok r' →
      ∃ r hoisting, input.relation t = .ok r ∧
        Expr.hoistPredicates t.dialect.functions r.vars predicates = .ok hoisting ∧
        hoisting.Lossless t.dialect.functions r.vars predicates ∧
        Relation.WindowsFiltered t.dialect r hoisting r' := by
  have hn := hd.one_per_name
  refine ⟨fun vars predicates hoisting hv hh => Expr.hoist_predicates_lossless hn hv hh, ?_⟩
  intro input predicates r' hw h
  obtain ⟨r, hr, hf⟩ := bind_ok.mp h
  rw [Relation.filter, if_pos hw] at hf
  have hv := (builds_of_ok hr).well_formed.vars_distinct
  obtain ⟨hoisting, hh, hlossless, hshape⟩ := Relation.filter_windows_shape hn hv hf
  exact ⟨r, hoisting, hr, hh, hlossless, hshape⟩

/-- Two predicates that share a window, over a table with a column of the first hoisted name. -/
def risingPredicates : List Expr :=
  [.binary .lt (.call "lag" [.column "a"]) (.column "a"),
    .binary .and (.binary .gt (.call "row_number" []) (.literal (.int 1)))
      (.binary .ne (.call "lag" [.column "a"]) (.column "q01"))]

theorem rising_filter_lossless :
    (∃ hoisting,
      Expr.hoistPredicates FunctionTable.builtin ["a", "q01"] risingPredicates = .ok hoisting ∧
      hoisting.Lossless FunctionTable.builtin ["a", "q01"] risingPredicates) ∧
    ∃ r', (filter (.inMemory ["a", "q01"]) risingPredicates).relation ⟨.ansi, .standard⟩ = .ok r' ∧
      r'.vars = ["a", "q01"] := by
  have hall := window_filter_lossless (t := ⟨.ansi, .standard⟩) .ansi
  constructor
  · have hb : (Expr.hoistPredicates FunctionTable.builtin ["a", "q01"] risingPredicates).isOk =
        true := by
      decide +kernel
    obtain ⟨hoisting, h⟩ := exists_ok hb
    exact ⟨hoisting, h, hall.1 _ _ _ (by decide) h⟩
  · have hb : ((filter (.inMemory ["a", "q01"]) risingPredicates).relation
        ⟨.ansi, .standard⟩).isOk = true := by
      decide +kernel
    obtain ⟨r', h⟩ := exists_ok hb
    obtain ⟨r, _, hr, _, _, hshape⟩ := hall.2 _ _ r' (by decide +kernel) h
    obtain ⟨_, rfl⟩ := Relation.of_table_ok.mp hr
    exact ⟨r', h, hshape.vars⟩

end Pipeline
end LayeredSql
