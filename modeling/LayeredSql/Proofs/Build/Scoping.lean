import LayeredSql.Proofs.Relation.Layers

namespace LayeredSql

/-- The query reads the given tables, stays in scope, and exposes the columns of the relation. -/
structure Relation.Exposes (d : Dialect) (leaves : List (TableRef × List String)) (r : Relation) :
    Prop where
  tables : r.query.tables = leaves.map (·.1)
  closed : r.query.Scoped d (leaves.map (·.2))
  vars : ∀ v ∈ r.vars, v ∈ r.query.exposed d (leaves.map (·.2))

namespace Relation.Exposes
open Names
variable {verb : Verb} {d : Dialect} {leaves leavesR : List (TableRef × List String)}
variable {l r r' : Relation}

theorem of_table (table : TableRef) (vars : List String) :
    Exposes d [(table, vars)] ⟨.table table, vars, [], []⟩ :=
  ⟨rfl, trivial, fun _ hv => hv⟩

/-- Only the query and the columns matter. -/
theorem congr (h : r.Exposes d leaves) (hq : r'.query = r.query) (hv : r'.vars = r.vars) :
    r'.Exposes d leaves := by
  refine ⟨?_, ?_, ?_⟩
  · rw [hq]
    exact h.tables
  · rw [hq]
    exact h.closed
  · rw [hq, hv]
    exact h.vars

/-- A layer about the columns below it keeps everything in scope. -/
theorem laid (h : r.Exposes d leaves) {layer : Layer} (hl : Laid d r layer r') :
    r'.Exposes d leaves := by
  refine ⟨?_, ?_, ?_⟩
  · rw [hl.query]
    exact h.tables
  · rw [hl.query]
    exact ⟨h.closed, hl.sees.mono h.vars⟩
  · rw [hl.query]
    intro v hv
    change v ∈ layer.exposed d (r.query.exposed d (leaves.map (·.2)))
    unfold Layer.exposed
    rcases hl.columns with hn | ⟨hi, he⟩
    · rw [hn]
      split
      · rename_i hi
        have hnone : layer.names d = [] := by
          rw [Layer.names, List.isEmpty_iff.mp hi, List.filterMap_nil]
        rw [← hn, hnone] at hv
        cases hv
      · exact hv
    · rw [if_pos (List.isEmpty_iff.mpr hi)]
      rw [he] at hv
      exact h.vars v hv

theorem keys_exposed (hl : l.Exposes d leaves) (hr : r.Exposes d leavesR) {keys : List KeyPair}
    (hk : KeysFound l.vars r.vars keys) :
    KeysFound (l.query.exposed d (leaves.map (·.2))) (r.query.exposed d (leavesR.map (·.2)))
      keys :=
  fun key hm => ⟨hl.vars _ (hk key hm).1, hr.vars _ (hk key hm).2⟩

theorem semi_join (hl : l.Exposes d leaves) (hr : r.Exposes d leavesR) {anti : Bool}
    {keys : List KeyPair} (h : l.semiJoin r anti keys = .ok r') :
    r'.Exposes d (leaves ++ leavesR) := by
  obtain ⟨hk, rfl⟩ := semi_join_ok.mp h
  obtain ⟨htake, hdrop⟩ := Query.split_columns hl.tables leavesR
  refine ⟨?_, ?_, ?_⟩
  · simp only [Query.tables, hl.tables, hr.tables, List.map_append]
  · simp only [Query.Scoped, htake, hdrop]
    exact ⟨hl.closed, hr.closed, keys_exposed hl hr hk⟩
  · simp only [Query.exposed, htake]
    exact hl.vars

/-- Joining keeps the columns of both sides but for the shared keys of the right. -/
theorem joined {kind : JoinKind} {keys : List KeyPair} {groups : List String}
    (hl : l.Exposes d leaves) (hr : r.Exposes d leavesR) (hk : KeysFound l.vars r.vars keys) :
    Exposes d (leaves ++ leavesR)
      ⟨.join l.query r.query kind keys, joinColumns l.vars r.vars keys, groups, []⟩ := by
  obtain ⟨htake, hdrop⟩ := Query.split_columns hl.tables leavesR
  refine ⟨?_, ?_, ?_⟩
  · simp only [Query.tables, hl.tables, hr.tables, List.map_append]
  · simp only [Query.Scoped, htake, hdrop]
    exact ⟨hl.closed, hr.closed, keys_exposed hl hr hk⟩
  · simp only [Query.exposed, htake, hdrop, joinColumns]
    intro v hv
    rcases List.mem_append.mp hv with hv | hv
    · exact List.mem_append_left _ (hl.vars v hv)
    · obtain ⟨hv, hs⟩ := List.mem_filter.mp hv
      exact List.mem_append_right _ (List.mem_filter.mpr ⟨hr.vars v hv, hs⟩)

variable (hd : d.Supported)
include hd

theorem rename_side (h : r.Exposes d leaves) {renames : List ColumnRename}
    (hs : r.renameSide verb d renames = .ok r') : r'.Exposes d leaves := by
  rcases rename_side_laid hd hs with rfl | ⟨layer, hl⟩
  · exact h
  · exact h.laid hl

theorem join (hw : r.WellFormed) (hl : l.Exposes d leaves)
    (hr : r.Exposes d leavesR) {kind : JoinKind} {keys : List KeyPair} {suffixes : Suffixes}
    (h : l.join r d kind keys suffixes = .ok r') : r'.Exposes d (leaves ++ leavesR) := by
  obtain ⟨hk, _, hn, left, right, hleft, hright, rfl⟩ := join_ok.mp h
  have hlv := rename_side_vars hleft
  have hrv := rename_side_vars hright
  simp only [suffixPlan, renamed_collisions] at hlv hrv
  refine joined (hl.rename_side hd hleft) (hr.rename_side hd hright) ?_
  rw [hlv, hrv]
  exact (suffixed_separated hw.vars_distinct hk hn).keys_found

theorem aligned (h : r.Exposes d leaves) {vars : List String} (hn : vars.Nodup) :
    (r.aligned d vars).Exposes d leaves := by
  rcases align_laid (r := r) hd hn with ⟨he, -⟩ | ⟨layer, hl⟩
  · rwa [he]
  · exact h.laid hl

theorem set_op (hlw : l.WellFormed) (hrw : r.WellFormed) (hl : l.Exposes d leaves)
    (hr : r.Exposes d leavesR) {kind : SetKind} (h : l.setOp r d kind = .ok r') :
    r'.Exposes d (leaves ++ leavesR) := by
  obtain ⟨_, rfl⟩ := set_op_ok.mp h
  have hn := merged_nodup hlw hrw
  have hal := hl.aligned hd hn
  have har := hr.aligned hd hn
  obtain ⟨htake, hdrop⟩ := Query.split_columns hal.tables leavesR
  refine ⟨?_, ?_, ?_⟩
  · simp only [Query.tables, hal.tables, har.tables, List.map_append]
  · simp only [Query.Scoped, htake, hdrop]
    exact ⟨hal.closed, har.closed⟩
  · simp only [Query.exposed, htake]
    have hvars := hal.vars
    rw [aligned_vars] at hvars
    exact hvars

theorem filter (hw : r.WellFormed) (h : r.Exposes d leaves) {predicates : List Expr}
    (hs : r.filter d predicates = .ok r') : r'.Exposes d leaves := by
  unfold Relation.filter at hs
  split at hs
  · obtain ⟨_, _, _, _, _, _, _, hinner, houter⟩ := filter_windows_laid hd hw hs
    exact (h.laid hinner).laid houter
  · obtain ⟨_, hl⟩ := filter_rows_laid hd hw hs
    exact h.laid hl

end Relation.Exposes

namespace Pipeline
variable {t : Target} {p : Pipeline}

theorem Builds.exposes (hd : t.dialect.Supported) {r : Relation} (h : p.Builds t r) :
    r.Exposes t.dialect p.leaves := by
  induction h with
  | remote h | inMemory h =>
    obtain ⟨_, rfl⟩ := Relation.of_table_ok.mp h
    exact .of_table _ _
  | select hr h ih =>
    obtain ⟨_, hl⟩ := Relation.select_laid hd hr.well_formed h
    exact ih.laid hl
  | rename _ h ih =>
    obtain ⟨_, hl⟩ := Relation.rename_laid hd h
    exact ih.laid hl
  | arrange hr h ih =>
    obtain ⟨_, hl⟩ := Relation.arrange_laid hd hr.well_formed h
    exact ih.laid hl
  | summarise hr h ih =>
    obtain ⟨_, hl⟩ := Relation.summarise_laid hd hr.well_formed h
    exact ih.laid hl
  | mutate hr h ih =>
    obtain ⟨_, hl⟩ := Relation.mutate_laid hd hr.well_formed h
    exact ih.laid hl
  | groupBy _ h ih =>
    obtain ⟨_, _, rfl⟩ := Relation.group_by_ok.mp h
    exact ih.congr rfl rfl
  | ungroup _ ih => exact ih.congr rfl rfl
  | filter hr h ih => exact ih.filter hd hr.well_formed h
  | distinct _ h ih =>
    obtain ⟨_, hl⟩ := Relation.distinct_laid h
    exact ih.laid hl
  | take _ ih =>
    obtain ⟨_, hl⟩ := Relation.take_laid _
    exact ih.laid hl
  | join _ hr h ihl ihr => exact .join hd hr.well_formed ihl ihr h
  | semiJoin _ _ h ihl ihr => exact ihl.semi_join ihr h
  | setOp hl hr h ihl ihr => exact .set_op hd hl.well_formed hr.well_formed ihl ihr h

/-- Scoping of the built query: its tables are those of the pipeline, and with the columns recorded
for them every clause, item and key of every node can be resolved. -/
theorem build_scoped (hd : t.dialect.Supported) {q : Query} (h : p.build t = .ok q) :
    q.tables = p.leaves.map (·.1) ∧ q.Scoped t.dialect (p.leaves.map (·.2)) := by
  obtain ⟨r, hr, rfl⟩ := build_ok.mp h
  have he := (builds_of_ok hr).exposes hd
  exact ⟨he.tables, he.closed⟩

/-- The first return of each order: a join that needs suffixes under a filter on a window. -/
def firstReturns : Pipeline :=
  .filter
    (.groupBy
      (.join (.remote ⟨none, "orders"⟩ ["id", "day"]) (.remote ⟨none, "returns"⟩ ["id", "day"])
        .left [⟨"id", "id"⟩] none)
      ["id"])
    [.binary .eq (.call "row_number" [.column "day_y"]) (.literal (.int 1))]

theorem first_returns_scoped :
    ∃ q, firstReturns.build ⟨.ansi, .standard⟩ = .ok q ∧
      q.tables = [⟨none, "orders"⟩, ⟨none, "returns"⟩] ∧
      q.Scoped .ansi [["id", "day"], ["id", "day"]] := by
  have hb : (firstReturns.build ⟨.ansi, .standard⟩).isOk = true := by decide +kernel
  obtain ⟨q, h⟩ := exists_ok hb
  exact ⟨q, h, build_scoped .ansi h⟩

end Pipeline
end LayeredSql
