import LayeredSql.Proofs.Build.Steps
import LayeredSql.Proofs.Relation.Derivation

namespace LayeredSql

namespace Relation
open Names
variable {verb : Verb} {d : Dialect} {l r r' : Relation}

structure WellFormed (r : Relation) : Prop where
  vars_distinct : r.vars.Nodup
  groups_distinct : r.groups.Nodup
  groups_found : ∀ g ∈ r.groups, g ∈ r.vars

theorem target_of_some {mapping : List ColumnRename} {name target : String}
    (h : targetOf? mapping name = some target) : (⟨name, target⟩ : ColumnRename) ∈ mapping := by
  unfold targetOf? at h
  obtain ⟨m, hf, rfl⟩ := Option.map_eq_some_iff.mp h
  obtain ⟨hm, rfl⟩ := found_under hf
  exact hm

theorem any_source (renames : List ColumnRename) (name : String) :
    renames.any (·.source == name) = (targetOf? renames name).isSome := by
  rw [Bool.eq_iff_iff, List.any_eq_true, targetOf?, Option.isSome_map, List.find?_isSome]

theorem target_mem {mapping : List ColumnRename} {name target : String}
    (h : targetOf? mapping name = some target) : target ∈ mapping.map (·.target) :=
  List.mem_map.mpr ⟨_, target_of_some h, rfl⟩

/-- Columns with one target in common are the same column. -/
theorem target_injective {mapping : List ColumnRename} (hn : (mapping.map (·.target)).Nodup)
    {a b target : String} (ha : targetOf? mapping a = some target)
    (hb : targetOf? mapping b = some target) : a = b := by
  have he := List.inj_on_of_nodup_map hn (target_of_some ha) (target_of_some hb) rfl
  exact congrArg ColumnRename.source he

theorem WellFormed.project (h : r.WellFormed) {mapping : List ColumnRename}
    (hn : (mapping.map (·.target)).Nodup) : (r.project d mapping).WellFormed where
  vars_distinct := hn
  groups_distinct := h.groups_distinct.filterMap fun _ _ _ ha hb => target_injective hn ha hb
  groups_found := by
    intro g hg
    obtain ⟨_, _, ht⟩ := List.mem_filterMap.mp hg
    exact target_mem ht

theorem WellFormed.select (h : r.WellFormed) {columns : List Projection}
    (hs : r.select d columns = .ok r') : r'.WellFormed := by
  obtain ⟨_, _, _, hn, rfl⟩ := select_ok.mp hs
  exact h.project hn

theorem WellFormed.rename (h : r.WellFormed) {renames : List ColumnRename}
    (hs : r.rename verb d renames = .ok r') : r'.WellFormed := by
  obtain ⟨_, _, hn, rfl⟩ := rename_ok.mp hs
  refine h.project ?_
  rwa [in_place_targets]

theorem WellFormed.rename_side (h : r.WellFormed) {renames : List ColumnRename}
    (hs : r.renameSide verb d renames = .ok r') : r'.WellFormed := by
  rcases rename_side_ok.mp hs with ⟨_, rfl⟩ | ⟨_, hs⟩
  · exact h
  · exact h.rename hs

theorem WellFormed.arrange (h : r.WellFormed) {keys : List SortKey}
    (hs : r.arrange d keys = .ok r') : r'.WellFormed := by
  obtain ⟨_, _, rfl⟩ := arrange_ok.mp hs
  exact ⟨h.vars_distinct, h.groups_distinct, h.groups_found⟩

/-- A summary keeps all grouping variables but the last. -/
theorem WellFormed.summarise (h : r.WellFormed) {aggregates : List NamedExpr}
    (hs : r.summarise d aggregates = .ok r') : r'.WellFormed := by
  obtain ⟨_, _, hn, rfl⟩ := summarise_ok.mp hs
  refine ⟨hn, h.groups_distinct.sublist (List.dropLast_sublist _), fun g hg => ?_⟩
  exact List.mem_append_left _ (List.dropLast_subset _ hg)

theorem mem_untouched {vars : List String} {defs : List NamedExpr} {v : String} :
    v ∈ untouched vars defs ↔ v ∈ vars ∧ v ∉ defs.map (·.name) := by
  unfold untouched
  rw [List.mem_filter, Bool.not_eq_true', ← Bool.not_eq_true, any_name]

theorem WellFormed.mutate (h : r.WellFormed) {derived : List NamedExpr}
    (hs : r.mutate verb d derived = .ok r') : r'.WellFormed := by
  obtain ⟨defs, _, hd, _, rfl⟩ := mutate_ok.mp hs
  refine ⟨?_, h.groups_distinct, fun g hg => ?_⟩
  · refine List.nodup_append.mpr ⟨h.vars_distinct.filter _, resolve_derived_nodup hd, ?_⟩
    rintro v hv _ hd rfl
    exact (mem_untouched.mp hv).2 hd
  · by_cases hm : g ∈ defs.map (·.name)
    · exact List.mem_append_right _ hm
    · exact List.mem_append_left _ (mem_untouched.mpr ⟨h.groups_found g hg, hm⟩)

theorem WellFormed.group_by (h : r.WellFormed) {vars : List String}
    (hs : r.groupBy vars = .ok r') : r'.WellFormed := by
  obtain ⟨hv, hn, rfl⟩ := group_by_ok.mp hs
  exact ⟨h.vars_distinct, hn, hv⟩

theorem WellFormed.ungroup (h : r.WellFormed) : r.ungroup.WellFormed :=
  ⟨h.vars_distinct, List.nodup_nil, fun _ hg => absurd hg List.not_mem_nil⟩

theorem WellFormed.filter (h : r.WellFormed) {predicates : List Expr}
    (hs : r.filter d predicates = .ok r') : r'.WellFormed := by
  unfold Relation.filter at hs
  split at hs
  · obtain ⟨_, _, _, _, hm, _, rfl⟩ := filter_windows_ok.mp hs
    obtain ⟨_, _, _, _, rfl⟩ := mutate_ok.mp hm
    exact ⟨h.vars_distinct, h.groups_distinct, h.groups_found⟩
  · obtain ⟨_, _, rfl⟩ := filter_rows_ok.mp hs
    exact ⟨h.vars_distinct, h.groups_distinct, h.groups_found⟩

theorem WellFormed.distinct (h : r.WellFormed) {columns : List String} {keepAll : Bool}
    (hs : r.distinct columns keepAll = .ok r') : r'.WellFormed := by
  obtain ⟨_, _, rfl⟩ := distinct_ok.mp hs
  exact ⟨h.vars_distinct, h.groups_distinct, h.groups_found⟩

theorem WellFormed.take (h : r.WellFormed) (limit : UInt64) : (r.take limit).WellFormed :=
  ⟨h.vars_distinct, h.groups_distinct, h.groups_found⟩

theorem WellFormed.join (hl : l.WellFormed) (hr : r.WellFormed) {kind : JoinKind}
    {keys : List KeyPair} {suffixes : Suffixes}
    (hs : l.join r d kind keys suffixes = .ok r') : r'.WellFormed := by
  obtain ⟨hk, _, hn, left, right, hleft, hright, rfl⟩ := join_ok.mp hs
  have hsep := suffixed_separated hr.vars_distinct hk hn
  have hw := hl.rename_side hleft
  have hlv := rename_side_vars hleft
  have hrv := rename_side_vars hright
  simp only [suffixPlan, renamed_collisions] at hlv hrv
  refine ⟨?_, hw.groups_distinct, fun g hg => List.mem_append_left _ (hw.groups_found g hg)⟩
  simp only [hlv, hrv]
  exact hsep.columns_distinct

theorem WellFormed.semi_join (h : l.WellFormed) {anti : Bool} {keys : List KeyPair}
    (hs : l.semiJoin r anti keys = .ok r') : r'.WellFormed := by
  obtain ⟨_, rfl⟩ := semi_join_ok.mp hs
  exact ⟨h.vars_distinct, h.groups_distinct, h.groups_found⟩

theorem merged_nodup (hl : l.WellFormed) (hr : r.WellFormed) : (merged l r).Nodup := by
  refine List.nodup_append.mpr ⟨hl.vars_distinct, hr.vars_distinct.filter _, ?_⟩
  rintro v hv _ hw rfl
  simp [hv] at hw

theorem WellFormed.set_op (hl : l.WellFormed) (hr : r.WellFormed) {kind : SetKind}
    (hs : l.setOp r d kind = .ok r') : r'.WellFormed := by
  obtain ⟨_, rfl⟩ := set_op_ok.mp hs
  exact ⟨merged_nodup hl hr, List.nodup_nil, fun _ hg => absurd hg List.not_mem_nil⟩

end Relation

/-- Every relation that a pipeline builds is well formed. -/
theorem Pipeline.Builds.well_formed {t : Target} {p : Pipeline} {r : Relation}
    (h : p.Builds t r) : r.WellFormed := by
  induction h with
  | remote h | inMemory h =>
    obtain ⟨hn, rfl⟩ := Relation.of_table_ok.mp h
    exact ⟨hn, List.nodup_nil, fun _ hg => absurd hg List.not_mem_nil⟩
  | select _ h ih => exact ih.select h
  | rename _ h ih => exact ih.rename h
  | arrange _ h ih => exact ih.arrange h
  | summarise _ h ih => exact ih.summarise h
  | mutate _ h ih => exact ih.mutate h
  | groupBy _ h ih => exact ih.group_by h
  | ungroup _ ih => exact ih.ungroup
  | filter _ h ih => exact ih.filter h
  | distinct _ h ih => exact ih.distinct h
  | take _ ih => exact ih.take _
  | join _ _ h ihl ihr => exact ihl.join ihr h
  | semiJoin _ _ h ihl _ => exact ihl.semi_join h
  | setOp _ _ h ihl ihr => exact ihl.set_op ihr h

end LayeredSql
