import LayeredSql.Proofs.Build.Steps
import LayeredSql.Proofs.Relation.Liveness
import LayeredSql.Proofs.Sql.Windowless

namespace LayeredSql

namespace Relation
variable {verb : Verb} {d : Dialect} {l r r' : Relation}

/-- Writing out definitions brings in no window where none is given. -/
theorem resolve_derived_windowless {fs : FunctionTable} {derived defs : List NamedExpr}
    (hw : ∀ item ∈ derived, item.expr.callsWindow fs = false)
    (h : resolveDerived verb fs derived = .ok defs) : ∀ item ∈ defs, item.expr.callsWindow fs = false := by
  refine resolve_derived_induction (P := fun defs => ∀ item ∈ defs, item.expr.callsWindow fs = false)
    (by simp) ?_ h
  intro before item hm hb i hi
  rcases mem_define.mp hi with rfl | ⟨hi, _⟩
  · rw [Expr.calls_substitute, hw item hm, Bool.false_or, Expr.brings_in_eq_false]
    intro c _
    rw [← Bool.not_eq_true, Option.any_eq_true]
    rintro ⟨e, he, hcalls⟩
    obtain ⟨known, hk, rfl, rfl⟩ := definition_some he
    rw [hb known hk] at hcalls
    cases hcalls
  · exact hb i hi

theorem rename_ungroup {renames : List ColumnRename} (h : r.rename verb d renames = .ok r') :
    r.ungroup.rename verb d renames = .ok r'.ungroup := by
  obtain ⟨hs, hd, hn, rfl⟩ := rename_ok.mp h
  exact rename_ok.mpr ⟨hs, hd, hn, rfl⟩

theorem arrange_ungroup {keys : List SortKey} (h : r.arrange d keys = .ok r') :
    r.ungroup.arrange d keys = .ok r'.ungroup := by
  obtain ⟨texts, ht, rfl⟩ := arrange_ok.mp h
  refine arrange_ok.mpr ⟨texts, ?_, rfl⟩
  rw [← ht]
  exact Sql.Scope.render_keys_groups (s := r.scope d .ordering) [] keys nofun

theorem mutate_ungroup {derived : List NamedExpr}
    (hw : ∀ item ∈ derived, item.expr.callsWindow d.functions = false)
    (h : r.mutate verb d derived = .ok r') : r.ungroup.mutate verb d derived = .ok r'.ungroup := by
  obtain ⟨defs, texts, hd, ht, rfl⟩ := mutate_ok.mp h
  refine mutate_ok.mpr ⟨defs, texts, hd, ?_, rfl⟩
  rw [← ht]
  exact Sql.Scope.render_named_groups (s := r.scope d .derivation) []
    (resolve_derived_windowless hw hd)

theorem filter_ungroup {predicates : List Expr}
    (hw : predicates.any (·.callsWindow d.functions) = false)
    (h : r.filter d predicates = .ok r') : r.ungroup.filter d predicates = .ok r'.ungroup := by
  rw [Relation.filter, if_neg (Bool.not_eq_true _ ▸ hw)] at h ⊢
  obtain ⟨texts, ht, rfl⟩ := filter_rows_ok.mp h
  refine filter_rows_ok.mpr ⟨texts, ?_, rfl⟩
  rw [← ht]
  exact Sql.Scope.render_all_groups (s := r.scope d .condition) [] predicates nofun

theorem distinct_ungroup {columns : List String} {keepAll : Bool}
    (h : r.distinct columns keepAll = .ok r') :
    r.ungroup.distinct columns keepAll = .ok r'.ungroup := by
  obtain ⟨hk, hc, rfl⟩ := distinct_ok.mp h
  exact distinct_ok.mpr ⟨hk, hc, rfl⟩

theorem rename_side_ungroup {renames : List ColumnRename}
    (h : r.renameSide verb d renames = .ok r') :
    r.ungroup.renameSide verb d renames = .ok r'.ungroup := by
  rcases rename_side_ok.mp h with ⟨hn, rfl⟩ | ⟨hn, h⟩
  · exact rename_side_ok.mpr (.inl ⟨hn, rfl⟩)
  · exact rename_side_ok.mpr (.inr ⟨hn, rename_ungroup h⟩)

theorem join_ungroup {kind : JoinKind} {keys : List KeyPair} {suffixes : Suffixes}
    (h : l.join r d kind keys suffixes = .ok r') :
    l.ungroup.join r.ungroup d kind keys suffixes = .ok r'.ungroup := by
  obtain ⟨hk, hc, hn, left, right, hleft, hright, rfl⟩ := join_ok.mp h
  exact join_ok.mpr ⟨hk, hc, hn, left.ungroup, right.ungroup, rename_side_ungroup hleft,
    rename_side_ungroup hright, rfl⟩

theorem semi_join_ungroup {anti : Bool} {keys : List KeyPair}
    (h : l.semiJoin r anti keys = .ok r') :
    l.ungroup.semiJoin r.ungroup anti keys = .ok r'.ungroup := by
  obtain ⟨hk, rfl⟩ := semi_join_ok.mp h
  exact semi_join_ok.mpr ⟨hk, rfl⟩

theorem aligned_ungroup (r : Relation) (d : Dialect) (vars : List String) :
    (r.ungroup.aligned d vars).query = (r.aligned d vars).query := by
  unfold aligned ungroup
  split
  · rfl
  · rfl

theorem set_op_ungroup {kind : SetKind} (h : l.setOp r d kind = .ok r') :
    l.ungroup.setOp r.ungroup d kind = .ok r'.ungroup := by
  obtain ⟨hs, rfl⟩ := set_op_ok.mp h
  refine set_op_ok.mpr ⟨hs, ?_⟩
  rw [aligned_ungroup, aligned_ungroup]
  rfl

end Relation

namespace Pipeline
variable {t : Target} {p : Pipeline} {r : Relation}

def ungrouped : Pipeline → Pipeline
  | .remote table vars => .remote table vars
  | .inMemory vars => .inMemory vars
  | .select input columns => .select input.ungrouped columns
  | .rename input renames => .rename input.ungrouped renames
  | .arrange input keys => .arrange input.ungrouped keys
  | .summarise input aggregates => .summarise input.ungrouped aggregates
  | .mutate input derived => .mutate input.ungrouped derived
  | .groupBy input _ => input.ungrouped
  | .ungroup input => input.ungrouped
  | .filter input predicates => .filter input.ungrouped predicates
  | .distinct input columns keepAll => .distinct input.ungrouped columns keepAll
  | .take input limit => .take input.ungrouped limit
  | .join left right kind keys suffixes =>
    .join left.ungrouped right.ungrouped kind keys suffixes
  | .semiJoin left right anti keys => .semiJoin left.ungrouped right.ungrouped anti keys
  | .setOp left right kind => .setOp left.ungrouped right.ungrouped kind

/-- What is left out is the grouping, and all other operations stay in their order. -/
theorem ungrouped_verbs (p : Pipeline) :
    p.ungrouped.parts.map verb =
      (p.parts.map verb).filter fun v => v ≠ .groupBy ∧ v ≠ .ungroup := by
  induction p with
  | remote | inMemory => rfl
  | join _ _ _ _ _ ihl ihr | semiJoin _ _ _ _ ihl ihr | setOp _ _ _ ihl ihr =>
    simp [ungrouped, parts, verb, ihl, ihr]
  | _ =>
    rename_i ih
    simp [ungrouped, parts, verb, ih]

/-- The operation at the root depends on the grouping: it is a selection or a summary, or it derives
columns or filters by a window function. -/
def looksAtGroups (fs : FunctionTable) : Pipeline → Bool
  | .select _ _ | .summarise _ _ => true
  | .mutate _ derived => derived.any (·.expr.callsWindow fs)
  | .filter _ predicates => predicates.any (·.callsWindow fs)
  | _ => false

/-- Where no operation looks at the grouping, leaving it out changes nothing else. -/
theorem Builds.ungrouped (h : p.Builds t r)
    (hl : ∀ part ∈ p.parts, part.looksAtGroups t.dialect.functions = false) :
    p.ungrouped.Builds t r.ungroup := by
  induction h with
  | remote h =>
    obtain ⟨hn, rfl⟩ := Relation.of_table_ok.mp h
    exact .remote (Relation.of_table_ok.mpr ⟨hn, rfl⟩)
  | inMemory h =>
    obtain ⟨hn, rfl⟩ := Relation.of_table_ok.mp h
    exact .inMemory (Relation.of_table_ok.mpr ⟨hn, rfl⟩)
  | select | summarise => exact absurd (hl _ (self_mem_parts _)) nofun
  | rename _ h ih =>
    rw [parts, List.forall_mem_cons] at hl
    exact .rename (ih hl.2) (Relation.rename_ungroup h)
  | arrange _ h ih =>
    rw [parts, List.forall_mem_cons] at hl
    exact .arrange (ih hl.2) (Relation.arrange_ungroup h)
  | mutate _ h ih =>
    rw [parts, List.forall_mem_cons] at hl
    have hw := List.any_eq_false.mp hl.1
    exact .mutate (ih hl.2) (Relation.mutate_ungroup (by simpa using hw) h)
  | groupBy _ h ih =>
    rw [parts, List.forall_mem_cons] at hl
    obtain ⟨_, _, rfl⟩ := Relation.group_by_ok.mp h
    exact ih hl.2
  | ungroup _ ih =>
    rw [parts, List.forall_mem_cons] at hl
    exact ih hl.2
  | filter _ h ih =>
    rw [parts, List.forall_mem_cons] at hl
    exact .filter (ih hl.2) (Relation.filter_ungroup hl.1 h)
  | distinct _ h ih =>
    rw [parts, List.forall_mem_cons] at hl
    exact .distinct (ih hl.2) (Relation.distinct_ungroup h)
  | take _ ih =>
    rw [parts, List.forall_mem_cons] at hl
    exact .take (ih hl.2)
  | join _ _ h ihl ihr =>
    rw [parts, List.forall_mem_cons, List.forall_mem_append] at hl
    exact .join (ihl hl.2.1) (ihr hl.2.2) (Relation.join_ungroup h)
  | semiJoin _ _ h ihl ihr =>
    rw [parts, List.forall_mem_cons, List.forall_mem_append] at hl
    exact .semiJoin (ihl hl.2.1) (ihr hl.2.2) (Relation.semi_join_ungroup h)
  | setOp _ _ h ihl ihr =>
    rw [parts, List.forall_mem_cons, List.forall_mem_append] at hl
    exact .setOp (ihl hl.2.1) (ihr hl.2.2) (Relation.set_op_ungroup h)

/-- Grouping is invisible to all operations but those that use it. A pipeline that builds, and has no
operation that looks at the grouping, builds the same query with the same columns when just its
grouping is left out, everywhere. -/
theorem grouping_invisible {q : Query} (h : p.build t = .ok q)
    (hl : ∀ part ∈ p.parts, part.looksAtGroups t.dialect.functions = false) :
    p.ungrouped.parts.map verb =
        ((p.parts.map verb).filter fun v => v ≠ .groupBy ∧ v ≠ .ungroup) ∧
      p.ungrouped.build t = .ok q ∧ p.ungrouped.outputVars t = p.outputVars t := by
  obtain ⟨r, hr, rfl⟩ := build_ok.mp h
  have hu := (builds_of_ok hr).ungrouped hl
  refine ⟨ungrouped_verbs p, hu.build, ?_⟩
  rw [outputVars, outputVars, relation_ok.mpr hu, hr]
  rfl

def groupedEverywhere : Pipeline :=
  .setOp
    (.groupBy
      (.join
        (.filter (.groupBy (.remote ⟨none, "orders"⟩ ["id", "day"]) ["day"])
          [.binary .gt (.column "id") (.literal (.int 0))])
        (.groupBy (.remote ⟨none, "returns"⟩ ["id", "day"]) ["id"]) .left [⟨"id", "id"⟩] none)
      ["id", "day_y"])
    (.ungroup
      (.mutate
        (.rename (.groupBy (.inMemory ["id", "when"]) ["when"]) [⟨"when", "day_x"⟩])
        [⟨"day_y", .call "coalesce" [.column "day_x"]⟩]))
    .unionAll

theorem grouped_everywhere_invisible :
    ∃ q, groupedEverywhere.build ⟨.ansi, .standard⟩ = .ok q ∧
      groupedEverywhere.ungrouped.build ⟨.ansi, .standard⟩ = .ok q ∧
      groupedEverywhere.ungrouped.parts.map verb =
        [.setOp, .join, .filter, .remote, .remote, .mutate, .rename, .inMemory] := by
  have hb : (groupedEverywhere.build ⟨.ansi, .standard⟩).isOk = true := by decide +kernel
  obtain ⟨q, h⟩ := exists_ok hb
  have hl : ∀ part ∈ groupedEverywhere.parts,
      part.looksAtGroups FunctionTable.builtin = false := by
    decide +kernel
  obtain ⟨hverbs, hbuild, _⟩ := grouping_invisible h hl
  exact ⟨q, h, hbuild, hverbs.trans (by decide)⟩

end Pipeline
end LayeredSql
