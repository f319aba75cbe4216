import LayeredSql.Proofs.Build.Scoping
import LayeredSql.Proofs.Build.WindowFilter

namespace LayeredSql
open Sql

/-- The query exposes exactly the columns of the relation, and both sides of every set operation
expose the same. -/
structure Relation.Faithful (d : Dialect) (leaves : List (TableRef × List String)) (r : Relation) :
    Prop where
  tables : r.query.tables = leaves.map (·.1)
  exposed : r.query.exposed d (leaves.map (·.2)) = r.vars
  aligned : r.query.Aligned d (leaves.map (·.2))

namespace Relation
open Names
variable {verb : Verb} {d : Dialect} {leaves leavesR : List (TableRef × List String)}
variable {l r r' : Relation}

/-- A layer exposes the columns it is to have, unless it is to have none and its source has some. -/
theorem Laid.exposed_iff (hd : d.Supported) {layer : Layer} (hl : Laid d r layer r') :
    layer.exposed d r.vars = r'.vars ↔ (r'.vars = [] → r.vars = []) := by
  unfold Layer.exposed
  split
  · rename_i hi
    have hnone : layer.names d = [] := by
      rw [Layer.names, List.isEmpty_iff.mp hi, List.filterMap_nil]
    rcases hl.columns with hn | ⟨_, he⟩
    · rw [← hn, hnone]
      exact ⟨fun h _ => h, fun h => h rfl⟩
    · rw [he]
      exact ⟨fun _ h => h, fun _ => rfl⟩
  · rename_i hi
    rcases hl.columns with hn | ⟨he, _⟩
    · refine ⟨fun _ hv => ?_, fun _ => hn⟩
      have hlen := hl.sees.names_length hd
      rw [hn, hv, List.length_nil] at hlen
      exact absurd (List.isEmpty_iff.mpr (List.length_eq_zero_iff.mp hlen.symm)) hi
    · exact absurd (List.isEmpty_iff.mpr he) hi

theorem Faithful.laid_iff (hd : d.Supported) (hf : r.Faithful d leaves) {layer : Layer}
    (hl : Laid d r layer r') : r'.Faithful d leaves ↔ (r'.vars = [] → r.vars = []) := by
  have hexposed : r'.query.exposed d (leaves.map (·.2)) = layer.exposed d r.vars := by
    rw [hl.query, ← hf.exposed]
    rfl
  rw [← hl.exposed_iff hd, ← hexposed]
  refine ⟨fun h => h.exposed, fun h => ⟨?_, h, ?_⟩⟩
  · rw [hl.query]
    exact hf.tables
  · rw [hl.query]
    exact hf.aligned

theorem Faithful.congr (hf : r.Faithful d leaves) (hq : r'.query = r.query)
    (hv : r'.vars = r.vars) : r'.Faithful d leaves := by
  refine ⟨?_, ?_, ?_⟩
  · rw [hq]
    exact hf.tables
  · rw [hq, hv]
    exact hf.exposed
  · rw [hq]
    exact hf.aligned

/-- A layer that keeps some column, if there is one, keeps the agreement. -/
theorem Faithful.laid (hd : d.Supported) (hf : r.Faithful d leaves) {layer : Layer}
    (hl : Laid d r layer r') (hv : r'.vars = [] → r.vars = []) : r'.Faithful d leaves :=
  (hf.laid_iff hd hl).mpr hv

theorem Faithful.rename (hd : d.Supported) (hf : r.Faithful d leaves) {renames : List ColumnRename}
    (h : r.rename verb d renames = .ok r') : r'.Faithful d leaves := by
  obtain ⟨_, hl⟩ := rename_laid hd h
  refine hf.laid hd hl fun hv => ?_
  obtain ⟨_, _, _, rfl⟩ := rename_ok.mp h
  exact List.map_eq_nil_iff.mp (List.map_eq_nil_iff.mp hv)

theorem Faithful.rename_side (hd : d.Supported) (hf : r.Faithful d leaves)
    {renames : List ColumnRename} (h : r.renameSide verb d renames = .ok r') :
    r'.Faithful d leaves := by
  rcases rename_side_ok.mp h with ⟨_, rfl⟩ | ⟨_, h⟩
  · exact hf
  · exact hf.rename hd h

theorem Faithful.mutate (hd : d.Supported) (hw : r.WellFormed) (hf : r.Faithful d leaves)
    {derived : List NamedExpr} (h : r.mutate verb d derived = .ok r') : r'.Faithful d leaves := by
  obtain ⟨_, hl⟩ := mutate_laid hd hw h
  refine hf.laid hd hl fun hv => List.eq_nil_iff_forall_not_mem.mpr fun v hm => ?_
  have hv' := mutate_vars h v hm
  rw [hv] at hv'
  cases hv'

theorem Faithful.join (hd : d.Supported) (hl : l.Faithful d leaves) (hr : r.Faithful d leavesR)
    {kind : JoinKind} {keys : List KeyPair} {suffixes : Suffixes}
    (h : l.join r d kind keys suffixes = .ok r') : r'.Faithful d (leaves ++ leavesR) := by
  obtain ⟨_, _, _, left, right, hleft, hright, rfl⟩ := join_ok.mp h
  have hfl := hl.rename_side hd hleft
  have hfr := hr.rename_side hd hright
  obtain ⟨htake, hdrop⟩ := Query.split_columns hfl.tables leavesR
  refine ⟨?_, ?_, ?_⟩
  · simp only [Query.tables, hfl.tables, hfr.tables, List.map_append]
  · simp only [Query.exposed, htake, hdrop, hfl.exposed, hfr.exposed]
  · simp only [Query.Aligned, htake, hdrop]
    exact ⟨hfl.aligned, hfr.aligned⟩

theorem Faithful.semi_join (hl : l.Faithful d leaves) (hr : r.Faithful d leavesR) {anti : Bool}
    {keys : List KeyPair} (h : l.semiJoin r anti keys = .ok r') :
    r'.Faithful d (leaves ++ leavesR) := by
  obtain ⟨_, rfl⟩ := semi_join_ok.mp h
  obtain ⟨htake, hdrop⟩ := Query.split_columns hl.tables leavesR
  refine ⟨?_, ?_, ?_⟩
  · simp only [Query.tables, hl.tables, hr.tables, List.map_append]
  · simp only [Query.exposed, htake, hl.exposed]
  · simp only [Query.Aligned, htake, hdrop]
    exact ⟨hl.aligned, hr.aligned⟩

/-- A side brought to a list of columns that has all of its own exposes this list. -/
theorem Faithful.aligned_side (hd : d.Supported) (hf : r.Faithful d leaves) {vars : List String}
    (hn : vars.Nodup) (hsub : ∀ v ∈ r.vars, v ∈ vars) :
    (r.aligned d vars).Faithful d leaves := by
  rcases align_laid (r := r) hd hn with ⟨he, -⟩ | ⟨layer, hl⟩
  · rwa [he]
  · refine hf.laid hd hl fun hv => List.eq_nil_iff_forall_not_mem.mpr fun v hm => ?_
    have hv' := hsub v hm
    rw [← aligned_vars r d vars, hv] at hv'
    cases hv'

theorem Faithful.set_op (hd : d.Supported) (hlw : l.WellFormed) (hrw : r.WellFormed)
    (hl : l.Faithful d leaves) (hr : r.Faithful d leavesR) {kind : SetKind}
    (h : l.setOp r d kind = .ok r') : r'.Faithful d (leaves ++ leavesR) := by
  obtain ⟨_, rfl⟩ := set_op_ok.mp h
  have hn := merged_nodup hlw hrw
  have hfl := hl.aligned_side hd hn fun v hv => List.mem_append_left _ hv
  have hsub : ∀ v ∈ r.vars, v ∈ merged l r := by
    intro v hv
    by_cases hm : v ∈ l.vars
    · exact List.mem_append_left _ hm
    · exact List.mem_append_right _ (List.mem_filter.mpr ⟨hv, by simpa using hm⟩)
  have hfr := hr.aligned_side hd hn hsub
  have hleft := hfl.exposed
  have hright := hfr.exposed
  rw [aligned_vars] at hleft hright
  obtain ⟨htake, hdrop⟩ := Query.split_columns hfl.tables leavesR
  refine ⟨?_, ?_, ?_⟩
  · simp only [Query.tables, hfl.tables, hfr.tables, List.map_append]
  · simp only [Query.exposed, htake]
    exact hleft
  · simp only [Query.Aligned, htake, hdrop]
    exact ⟨hfl.aligned, hfr.aligned, hleft.trans hright.symm⟩

/-- A selection has no columns when it asks for none and there is no grouping variable. -/
theorem select_vars_nil {columns : List Projection} (h : r.select d columns = .ok r') :
    r'.vars = [] ↔ columns = [] ∧ r.groups = [] := by
  obtain ⟨wanted, hw, _, _, rfl⟩ := select_ok.mp h
  have hlen := (mapM_ok.mp hw).length_eq
  have hwanted : wanted = [] ↔ columns = [] := by
    rw [← List.length_eq_zero_iff, ← List.length_eq_zero_iff, hlen]
  rw [← hwanted]
  change (withGroups wanted r.groups).map (·.target) = [] ↔ _
  rw [List.map_eq_nil_iff, withGroups, List.append_eq_nil_iff, List.map_eq_nil_iff]
  constructor
  · rintro ⟨hg, rfl⟩
    exact ⟨rfl, by simpa using hg⟩
  · rintro ⟨rfl, hg⟩
    exact ⟨by simp [hg], rfl⟩

theorem summarise_vars_nil {aggregates : List NamedExpr} (h : r.summarise d aggregates = .ok r') :
    r'.vars = [] ↔ aggregates = [] ∧ r.groups = [] := by
  obtain ⟨_, _, _, rfl⟩ := summarise_ok.mp h
  rw [List.append_eq_nil_iff, List.map_eq_nil_iff, and_comm]

/-- The hoisted windows are columns below a filter on windows, so its own layer passes them on if
it has no column to select. -/
theorem Faithful.filter_windows_iff (hd : d.Supported) (hw : r.WellFormed)
    (hf : r.Faithful d leaves) {predicates : List Expr}
    (hc : predicates.any (·.callsWindow d.functions) = true)
    (h : r.filterWindows d predicates = .ok r') : r'.Faithful d leaves ↔ r.vars ≠ [] := by
  obtain ⟨hoisting, inner, _, _, hh, hm, hv, _, houter⟩ := filter_windows_laid hd hw h
  rw [(hf.mutate hd hw hm).laid_iff hd houter, hv]
  have hn := hd.one_per_name
  have hlossless := Expr.hoist_predicates_lossless hn hw.vars_distinct hh
  have hinner : inner.vars ≠ [] := by
    obtain ⟨_, _, rfl⟩ := mutate_hoisted hn hw.vars_distinct hh hm
    intro he
    obtain ⟨_, hnone⟩ := List.append_eq_nil_iff.mp he
    have hidle := hlossless.needed.mp (List.map_eq_nil_iff.mp hnone)
    rw [hc] at hidle
    cases hidle
  exact ⟨fun h he => hinner (h he), fun h he => absurd he h⟩

end Relation

namespace Pipeline

/-- The columns tracked for a pipeline are those its query exposes, and so are the columns of both
sides of every set operation in it. -/
def Agrees (t : Target) (p : Pipeline) : Prop :=
  ∃ q vars, p.build t = .ok q ∧ p.outputVars t = .ok vars ∧
    q.exposed t.dialect (p.leaves.map (·.2)) = vars ∧ q.Aligned t.dialect (p.leaves.map (·.2))

/-- A layer that should select nothing, and so selects everything: no columns asked for where there
are some, or a filter on windows over no columns. -/
def Hollow (t : Target) : Pipeline → Prop
  | .select input columns =>
    columns = [] ∧ ∃ r, input.relation t = .ok r ∧ r.groups = [] ∧ r.vars ≠ []
  | .summarise input aggregates =>
    aggregates = [] ∧ ∃ r, input.relation t = .ok r ∧ r.groups = [] ∧ r.vars ≠ []
  | .filter input predicates =>
    predicates.any (·.callsWindow t.dialect.functions) = true ∧
      ∃ r, input.relation t = .ok r ∧ r.vars = []
  | _ => False

variable {t : Target} {p input left right : Pipeline} {r : Relation}

theorem agrees_iff (hd : t.dialect.Supported) (h : p.Builds t r) :
    p.Agrees t ↔ r.Faithful t.dialect p.leaves := by
  have hbuild : p.build t = .ok r.query := build_ok.mpr ⟨r, relation_ok.mpr h, rfl⟩
  have hvars : p.outputVars t = .ok r.vars := by
    rw [outputVars, bind_ok]
    exact ⟨r, relation_ok.mpr h, rfl⟩
  constructor
  · rintro ⟨q, vars, hq, hv, he, ha⟩
    obtain rfl := Except.ok.inj (hbuild.symm.trans hq)
    obtain rfl := Except.ok.inj (hvars.symm.trans hv)
    exact ⟨(h.exposes hd).tables, he, ha⟩
  · intro hf
    exact ⟨r.query, r.vars, hbuild, hvars, hf.exposed, hf.aligned⟩

theorem table_agrees (hd : t.dialect.Supported) {table : TableRef} {vars : List String}
    (h : p.Builds t ⟨.table table, vars, [], []⟩) (hl : p.leaves = [(table, vars)]) :
    p.Agrees t := by
  rw [agrees_iff hd h, hl]
  exact ⟨rfl, rfl, trivial⟩

/-- Agreement throughout, one operation at a time. -/
theorem parts_agree_step (hp : p.parts = p :: input.parts)
    (ih : (∀ part ∈ input.parts, part.Agrees t) ↔ ∀ part ∈ input.parts, ¬ part.Hollow t)
    (hstep : input.Agrees t → (p.Agrees t ↔ ¬ p.Hollow t)) :
    (∀ part ∈ p.parts, part.Agrees t) ↔ ∀ part ∈ p.parts, ¬ part.Hollow t := by
  rw [hp, List.forall_mem_cons, List.forall_mem_cons, ← ih]
  constructor
  · rintro ⟨ha, hall⟩
    exact ⟨(hstep (hall input (self_mem_parts input))).mp ha, hall⟩
  · rintro ⟨hh, hall⟩
    exact ⟨(hstep (hall input (self_mem_parts input))).mpr hh, hall⟩

/-- An operation on two pipelines is never hollow. -/
theorem parts_agree_step_two (hp : p.parts = p :: (left.parts ++ right.parts))
    (ihl : (∀ part ∈ left.parts, part.Agrees t) ↔ ∀ part ∈ left.parts, ¬ part.Hollow t)
    (ihr : (∀ part ∈ right.parts, part.Agrees t) ↔ ∀ part ∈ right.parts, ¬ part.Hollow t)
    (hh : ¬ p.Hollow t) (hstep : left.Agrees t → right.Agrees t → p.Agrees t) :
    (∀ part ∈ p.parts, part.Agrees t) ↔ ∀ part ∈ p.parts, ¬ part.Hollow t := by
  rw [hp, List.forall_mem_cons, List.forall_mem_cons, List.forall_mem_append,
    List.forall_mem_append, ← ihl, ← ihr]
  constructor
  · rintro ⟨_, hl, hr⟩
    exact ⟨hh, hl, hr⟩
  · rintro ⟨_, hl, hr⟩
    exact ⟨hstep (hl left (self_mem_parts left)) (hr right (self_mem_parts right)), hl, hr⟩

/-- One more layer keeps the agreement unless it drops the last column. -/
theorem laid_agrees (hd : t.dialect.Supported) {r₀ : Relation} (hr : input.Builds t r₀)
    (hp : p.Builds t r) (hle : p.leaves = input.leaves) {layer : Layer}
    (hl : Relation.Laid t.dialect r₀ layer r) (ha : input.Agrees t) :
    p.Agrees t ↔ (r.vars = [] → r₀.vars = []) := by
  rw [agrees_iff hd hp, hle]
  exact ((agrees_iff hd hr).mp ha).laid_iff hd hl

/-- An operation that keeps its columns is never hollow. -/
theorem same_agrees (hd : t.dialect.Supported) {r₀ : Relation} (hr : input.Builds t r₀)
    (hp : p.Builds t r) (hle : p.leaves = input.leaves) (hq : r.query = r₀.query)
    (hv : r.vars = r₀.vars) (ha : input.Agrees t) : p.Agrees t := by
  rw [agrees_iff hd hp, hle]
  exact ((agrees_iff hd hr).mp ha).congr hq hv

theorem hollow_of_some {r₀ : Relation} (hr : input.Builds t r₀) (P : Prop) :
    (P ∧ ∃ r, input.relation t = .ok r ∧ r.groups = [] ∧ r.vars ≠ []) ↔
      (P ∧ r₀.groups = []) ∧ r₀.vars ≠ [] := by
  constructor
  · rintro ⟨hp, r, h, hg, hv⟩
    obtain rfl := Except.ok.inj ((relation_ok.mpr hr).symm.trans h)
    exact ⟨⟨hp, hg⟩, hv⟩
  · rintro ⟨⟨hp, hg⟩, hv⟩
    exact ⟨hp, r₀, relation_ok.mpr hr, hg, hv⟩

section
variable (hd : t.dialect.Supported) {r₀ : Relation} (hr : input.Builds t r₀)
include hd hr

theorem select_agrees {columns : List Projection} (h : r₀.select t.dialect columns = .ok r)
    (ha : input.Agrees t) :
    (select input columns).Agrees t ↔ ¬ (select input columns).Hollow t := by
  obtain ⟨_, hl⟩ := Relation.select_laid hd hr.well_formed h
  rw [laid_agrees hd hr (.select hr h) rfl hl ha, Relation.select_vars_nil h, Hollow,
    hollow_of_some hr]
  tauto

theorem summarise_agrees {aggregates : List NamedExpr}
    (h : r₀.summarise t.dialect aggregates = .ok r) (ha : input.Agrees t) :
    (summarise input aggregates).Agrees t ↔ ¬ (summarise input aggregates).Hollow t := by
  obtain ⟨_, hl⟩ := Relation.summarise_laid hd hr.well_formed h
  rw [laid_agrees hd hr (.summarise hr h) rfl hl ha, Relation.summarise_vars_nil h, Hollow,
    hollow_of_some hr]
  tauto

theorem filter_agrees {predicates : List Expr} (h : r₀.filter t.dialect predicates = .ok r)
    (ha : input.Agrees t) :
    (filter input predicates).Agrees t ↔ ¬ (filter input predicates).Hollow t := by
  have hb : (filter input predicates).Builds t r := .filter hr h
  have hf := (agrees_iff hd hr).mp ha
  unfold Relation.filter at h
  split at h
  · rename_i hc
    have hhollow : (filter input predicates).Hollow t ↔ r₀.vars = [] := by
      constructor
      · rintro ⟨_, r₁, h₁, hv⟩
        obtain rfl := Except.ok.inj ((relation_ok.mpr hr).symm.trans h₁)
        exact hv
      · exact fun hv => ⟨hc, r₀, relation_ok.mpr hr, hv⟩
    rw [agrees_iff hd hb, hhollow]
    exact hf.filter_windows_iff hd hr.well_formed hc h
  · rename_i hc
    obtain ⟨_, hl⟩ := Relation.filter_rows_laid hd hr.well_formed h
    have hv : r.vars = r₀.vars := by
      obtain ⟨_, _, rfl⟩ := Relation.filter_rows_ok.mp h
      rfl
    rw [laid_agrees hd hr hb rfl hl ha, hv]
    exact ⟨fun _ hh => hc hh.1, fun _ he => he⟩

end

/-- The columns tracked for a pipeline and for all its parts are the columns of their queries
exactly when no part is hollow. -/
theorem Builds.parts_agree_iff (hd : t.dialect.Supported) (h : p.Builds t r) :
    (∀ part ∈ p.parts, part.Agrees t) ↔ ∀ part ∈ p.parts, ¬ part.Hollow t := by
  induction h with
  | remote h =>
    have hb := Builds.remote (t := t) h
    obtain ⟨_, rfl⟩ := Relation.of_table_ok.mp h
    simp only [parts, List.forall_mem_singleton]
    exact iff_of_true (table_agrees hd hb rfl) fun hh => hh
  | inMemory h =>
    have hb := Builds.inMemory (t := t) h
    obtain ⟨_, rfl⟩ := Relation.of_table_ok.mp h
    simp only [parts, List.forall_mem_singleton]
    exact iff_of_true (table_agrees hd hb rfl) fun hh => hh
  | select hr h ih => exact parts_agree_step rfl ih (select_agrees hd hr h)
  | rename hr h ih =>
    refine parts_agree_step rfl ih fun ha => iff_of_true ?_ fun hh => hh
    have hf := ((agrees_iff hd hr).mp ha).rename hd h
    exact (agrees_iff hd (.rename hr h)).mpr hf
  | arrange hr h ih =>
    refine parts_agree_step rfl ih fun ha => iff_of_true ?_ fun hh => hh
    have hb := Builds.arrange hr h
    obtain ⟨_, hl⟩ := Relation.arrange_laid hd hr.well_formed h
    obtain ⟨_, _, rfl⟩ := Relation.arrange_ok.mp h
    exact (laid_agrees hd hr hb rfl hl ha).mpr fun hv => hv
  | summarise hr h ih => exact parts_agree_step rfl ih (summarise_agrees hd hr h)
  | mutate hr h ih =>
    refine parts_agree_step rfl ih fun ha => iff_of_true ?_ fun hh => hh
    have hf := ((agrees_iff hd hr).mp ha).mutate hd hr.well_formed h
    exact (agrees_iff hd (.mutate hr h)).mpr hf
  | groupBy hr h ih =>
    refine parts_agree_step rfl ih fun ha => iff_of_true ?_ fun hh => hh
    have hb := Builds.groupBy hr h
    obtain ⟨_, _, rfl⟩ := Relation.group_by_ok.mp h
    exact same_agrees hd hr hb rfl rfl rfl ha
  | ungroup hr ih =>
    refine parts_agree_step rfl ih fun ha => iff_of_true ?_ fun hh => hh
    exact same_agrees hd hr (.ungroup hr) rfl rfl rfl ha
  | filter hr h ih => exact parts_agree_step rfl ih (filter_agrees hd hr h)
  | distinct hr h ih =>
    refine parts_agree_step rfl ih fun ha => iff_of_true ?_ fun hh => hh
    have hb := Builds.distinct hr h
    obtain ⟨_, hl⟩ := Relation.distinct_laid (d := t.dialect) h
    obtain ⟨_, _, rfl⟩ := Relation.distinct_ok.mp h
    exact (laid_agrees hd hr hb rfl hl ha).mpr fun hv => hv
  | take hr ih =>
    refine parts_agree_step rfl ih fun ha => iff_of_true ?_ fun hh => hh
    obtain ⟨_, hl⟩ := Relation.take_laid (d := t.dialect) _
    exact (laid_agrees hd hr (.take hr) rfl hl ha).mpr fun hv => hv
  | join hl hr h ihl ihr =>
    refine parts_agree_step_two rfl ihl ihr (fun hh => hh) fun hal har => ?_
    have hf := ((agrees_iff hd hl).mp hal).join hd ((agrees_iff hd hr).mp har) h
    exact (agrees_iff hd (.join hl hr h)).mpr hf
  | semiJoin hl hr h ihl ihr =>
    refine parts_agree_step_two rfl ihl ihr (fun hh => hh) fun hal har => ?_
    have hf := ((agrees_iff hd hl).mp hal).semi_join ((agrees_iff hd hr).mp har) h
    exact (agrees_iff hd (.semiJoin hl hr h)).mpr hf
  | setOp hl hr h ihl ihr =>
    refine parts_agree_step_two rfl ihl ihr (fun hh => hh) fun hal har => ?_
    have hf := ((agrees_iff hd hl).mp hal).set_op hd hl.well_formed hr.well_formed
      ((agrees_iff hd hr).mp har) h
    exact (agrees_iff hd (.setOp hl hr h)).mpr hf

/-- A pipeline that builds tracks the columns of its query, at every operation, exactly when none of
its operations is hollow. -/
theorem build_agrees_iff (hd : t.dialect.Supported) {q : Query} (h : p.build t = .ok q) :
    (∀ part ∈ p.parts, part.Agrees t) ↔ ∀ part ∈ p.parts, ¬ part.Hollow t := by
  obtain ⟨r, hr, _⟩ := build_ok.mp h
  exact (builds_of_ok hr).parts_agree_iff hd

def mixedUnion : Pipeline :=
  .setOp (.select (.inMemory ["a", "b"]) [⟨.column "b", none⟩])
    (.summarise (.groupBy (.inMemory ["b", "c"]) ["c"]) [⟨"rows", .call "n" []⟩]) .unionAll

theorem mixed_union_agrees : mixedUnion.Agrees ⟨.ansi, .standard⟩ := by
  have hb : (mixedUnion.build ⟨.ansi, .standard⟩).isOk = true := by decide +kernel
  obtain ⟨q, h⟩ := exists_ok hb
  have hh : ∀ part ∈ mixedUnion.parts, ¬ part.Hollow ⟨.ansi, .standard⟩ := by
    simp [mixedUnion, parts, Hollow]
  exact (build_agrees_iff .ansi h).mpr hh mixedUnion (self_mem_parts mixedUnion)

/-- A summary of nothing has no columns, but its query passes on the column of the table. -/
theorem summary_of_nothing_drifts :
    ∃ q, (summarise (.remote ⟨none, "t"⟩ ["a"]) []).build ⟨.ansi, .standard⟩ = .ok q ∧
      (summarise (.remote ⟨none, "t"⟩ ["a"]) []).outputVars ⟨.ansi, .standard⟩ = .ok [] ∧
      q.exposed .ansi [["a"]] = ["a"] :=
  ⟨_, rfl, rfl, rfl⟩

end Pipeline
end LayeredSql
