import LayeredSql.Proofs.Build.Steps

namespace LayeredSql

/-- The second query is the first one under `n` SELECT layers. -/
inductive Query.Under (q : Query) : Nat → Query → Prop where
  | self : Under q 0 q
  | layer {n : Nat} {q' : Query} (layer : Layer) : Under q n q' → Under q (n + 1) (.select q' layer)

namespace Query.Under
variable {q q' : Query} {n : Nat}

theorem one (q : Query) (layer : Layer) : q.Under 1 (.select q layer) :=
  .layer layer .self

theorem two (q : Query) (inner outer : Layer) : q.Under 2 (.select (.select q inner) outer) :=
  .layer outer (.one q inner)

theorem depth (h : q.Under n q') : q'.selectDepth = q.selectDepth + n := by
  induction h with
  | self => rfl
  | layer _ _ ih => rw [selectDepth, ih, Nat.add_assoc]

end Query.Under

namespace Relation
variable {verb : Verb} {d : Dialect} {l r r' : Relation}

theorem filter_under {predicates : List Expr} (h : r.filter d predicates = .ok r') :
    r.query.Under (if predicates.any (·.callsWindow d.functions) then 2 else 1) r'.query := by
  unfold Relation.filter at h
  split at h
  · rename_i hw
    rw [if_pos hw]
    obtain ⟨_, _, _, _, hm, _, rfl⟩ := filter_windows_ok.mp h
    obtain ⟨_, _, _, _, rfl⟩ := mutate_ok.mp hm
    exact .two r.query _ _
  · rename_i hw
    rw [if_neg hw]
    obtain ⟨_, _, rfl⟩ := filter_rows_ok.mp h
    exact .one r.query _

theorem rename_side_under {renames : List ColumnRename}
    (h : r.renameSide verb d renames = .ok r') : ∃ n ≤ 1, r.query.Under n r'.query := by
  rcases rename_side_ok.mp h with ⟨_, rfl⟩ | ⟨_, h⟩
  · exact ⟨0, Nat.zero_le 1, .self⟩
  · obtain ⟨_, _, _, rfl⟩ := rename_ok.mp h
    exact ⟨1, Nat.le_refl 1, .one r.query _⟩

theorem align_under (r : Relation) (d : Dialect) (vars : List String) :
    ∃ n ≤ 1, r.query.Under n (r.aligned d vars).query := by
  unfold aligned
  split
  · exact ⟨0, Nat.zero_le 1, .self⟩
  · exact ⟨1, Nat.le_refl 1, .one r.query _⟩

end Relation

namespace Pipeline
variable {t : Target} {p : Pipeline}

/-- How the query of a pipeline is made from the queries of what it reads from. -/
def Shaped (t : Target) (q : Query) : Pipeline → Prop
  | .remote table _ => q = .table table
  | .inMemory _ => q = .table .inMemory
  | .select input _ | .rename input _ | .arrange input _ | .summarise input _ | .mutate input _
  | .distinct input _ _ | .take input _ => ∃ q₀, input.build t = .ok q₀ ∧ q₀.Under 1 q
  | .filter input predicates => ∃ q₀, input.build t = .ok q₀ ∧
      q₀.Under (if predicates.any (·.callsWindow t.dialect.functions) then 2 else 1) q
  | .groupBy input _ | .ungroup input => input.build t = .ok q
  | .join left right kind _ _ => ∃ l r l' r' keys,
      left.build t = .ok l ∧ right.build t = .ok r ∧ q = .join l' r' kind keys ∧
      (∃ n ≤ 1, l.Under n l') ∧ ∃ n ≤ 1, r.Under n r'
  | .semiJoin left right anti keys => ∃ l r,
      left.build t = .ok l ∧ right.build t = .ok r ∧ q = .semiJoin l r anti keys
  | .setOp left right kind => ∃ l r l' r',
      left.build t = .ok l ∧ right.build t = .ok r ∧ q = .setOp l' r' kind ∧
      (∃ n ≤ 1, l.Under n l') ∧ ∃ n ≤ 1, r.Under n r'

/-- The layers of the operations above the first table, join, semijoin or set operation. -/
def layerCount (fs : FunctionTable) : Pipeline → Nat
  | .remote _ _ | .inMemory _ | .join _ _ _ _ _ | .semiJoin _ _ _ _ | .setOp _ _ _ => 0
  | .select input _ | .rename input _ | .arrange input _ | .summarise input _ | .mutate input _
  | .distinct input _ _ | .take input _ => input.layerCount fs + 1
  | .filter input predicates =>
    input.layerCount fs + if predicates.any (·.callsWindow fs) then 2 else 1
  | .groupBy input _ | .ungroup input => input.layerCount fs

theorem Builds.shaped {r : Relation} (h : p.Builds t r) : p.Shaped t r.query := by
  cases h with
  | remote h | inMemory h =>
    obtain ⟨_, rfl⟩ := Relation.of_table_ok.mp h
    rfl
  | select hr h =>
    obtain ⟨_, _, _, _, rfl⟩ := Relation.select_ok.mp h
    exact ⟨_, hr.build, .one _ _⟩
  | rename hr h =>
    obtain ⟨_, _, _, rfl⟩ := Relation.rename_ok.mp h
    exact ⟨_, hr.build, .one _ _⟩
  | arrange hr h =>
    obtain ⟨_, _, rfl⟩ := Relation.arrange_ok.mp h
    exact ⟨_, hr.build, .one _ _⟩
  | summarise hr h =>
    obtain ⟨_, _, _, rfl⟩ := Relation.summarise_ok.mp h
    exact ⟨_, hr.build, .one _ _⟩
  | mutate hr h =>
    obtain ⟨_, _, _, _, rfl⟩ := Relation.mutate_ok.mp h
    exact ⟨_, hr.build, .one _ _⟩
  | groupBy hr h =>
    obtain ⟨_, _, rfl⟩ := Relation.group_by_ok.mp h
    exact hr.build
  | ungroup hr => exact hr.build
  | filter hr h => exact ⟨_, hr.build, Relation.filter_under h⟩
  | distinct hr h =>
    obtain ⟨_, _, rfl⟩ := Relation.distinct_ok.mp h
    exact ⟨_, hr.build, .one _ _⟩
  | take hr => exact ⟨_, hr.build, .one _ _⟩
  | join hl hr h =>
    obtain ⟨_, _, _, _, _, hleft, hright, rfl⟩ := Relation.join_ok.mp h
    exact ⟨_, _, _, _, _, hl.build, hr.build, rfl, Relation.rename_side_under hleft,
      Relation.rename_side_under hright⟩
  | semiJoin hl hr h =>
    obtain ⟨_, rfl⟩ := Relation.semi_join_ok.mp h
    exact ⟨_, _, hl.build, hr.build, rfl⟩
  | setOp hl hr h =>
    obtain ⟨_, rfl⟩ := Relation.set_op_ok.mp h
    exact ⟨_, _, _, _, hl.build, hr.build, rfl, Relation.align_under _ _ _,
      Relation.align_under _ _ _⟩

/-- A pipeline that builds has the shape it should, and so do all its parts. -/
theorem parts_shaped {q : Query} (h : p.build t = .ok q) :
    ∀ part ∈ p.parts, ∃ q', part.build t = .ok q' ∧ part.Shaped t q' := by
  obtain ⟨r, hr, _⟩ := build_ok.mp h
  intro part hm
  obtain ⟨r', hb⟩ := (builds_of_ok hr).parts_build part hm
  exact ⟨r'.query, hb.build, hb.shaped⟩

theorem shaped_of_build {q : Query} (h : p.build t = .ok q) : p.Shaped t q := by
  obtain ⟨q', hq, hs⟩ := parts_shaped h p (self_mem_parts p)
  rwa [Except.ok.inj (h.symm.trans hq)]

/-- The shape decides the depth. -/
theorem depth_of_build {q : Query} (h : p.build t = .ok q) :
    q.selectDepth = p.layerCount t.dialect.functions := by
  have hs := shaped_of_build h
  induction p generalizing q with
  | remote | inMemory =>
    rw [hs]
    rfl
  | groupBy _ _ ih | ungroup _ ih => exact ih hs (shaped_of_build hs)
  | join =>
    obtain ⟨_, _, _, _, _, _, _, rfl, _⟩ := hs
    rfl
  | semiJoin =>
    obtain ⟨_, _, _, _, rfl⟩ := hs
    rfl
  | setOp =>
    obtain ⟨_, _, _, _, _, _, rfl, _⟩ := hs
    rfl
  | select _ _ ih | rename _ _ ih | arrange _ _ ih | summarise _ _ ih | mutate _ _ ih
  | filter _ _ ih | distinct _ _ _ ih | take _ _ ih =>
    obtain ⟨q₀, hq, hu⟩ := hs
    rw [hu.depth, ih hq (shaped_of_build hq)]
    rfl

/-- What a pipeline builds is shaped by its operations, at every one of them, and its depth is the
number of layers that they lay. -/
theorem build_shape_and_depth {q : Query} (h : p.build t = .ok q) :
    (∀ part ∈ p.parts, ∃ q', part.build t = .ok q' ∧ part.Shaped t q') ∧
      q.selectDepth = p.layerCount t.dialect.functions :=
  ⟨parts_shaped h, depth_of_build h⟩

def earlyVisits : Pipeline :=
  .take
    (.ungroup
      (.filter
        (.groupBy
          (.join (.arrange (.remote ⟨none, "visits"⟩ ["customer", "day"]) [⟨.column "day", true⟩])
            (.remote ⟨none, "customers"⟩ ["id", "day"]) .left [⟨"customer", "id"⟩] none)
          ["customer"])
        [.binary .le (.call "row_number" [.column "day_x"]) (.literal (.int 3))]))
    100

theorem early_visits_three_deep :
    ∃ q, earlyVisits.build ⟨.ansi, .standard⟩ = .ok q ∧ q.selectDepth = 3 ∧
      ∀ part ∈ earlyVisits.parts, ∃ q', part.build ⟨.ansi, .standard⟩ = .ok q' ∧
        part.Shaped ⟨.ansi, .standard⟩ q' := by
  have hb : (earlyVisits.build ⟨.ansi, .standard⟩).isOk = true := by decide +kernel
  obtain ⟨q, h⟩ := exists_ok hb
  obtain ⟨hshape, hdepth⟩ := build_shape_and_depth h
  have hcount : earlyVisits.layerCount FunctionTable.builtin = 3 := by decide +kernel
  exact ⟨q, h, hdepth.trans hcount, hshape⟩

end Pipeline
end LayeredSql
