import LayeredSql.Proofs.Relation.Outcome

namespace LayeredSql.Pipeline

/-- `p` builds `r`: its inputs build theirs, and its operation leads from these to `r`. -/
inductive Builds (t : Target) : Pipeline → Relation → Prop where
  | remote {table : TableRef} {vars : List String} {r : Relation} :
      Relation.ofTable .remote table vars = .ok r → Builds t (remote table vars) r
  | inMemory {vars : List String} {r : Relation} :
      Relation.ofTable .inMemory .inMemory vars = .ok r → Builds t (inMemory vars) r
  | select {input : Pipeline} {columns : List Projection} {r₀ r : Relation} :
      Builds t input r₀ → r₀.select t.dialect columns = .ok r →
      Builds t (select input columns) r
  | rename {input : Pipeline} {renames : List ColumnRename} {r₀ r : Relation} :
      Builds t input r₀ → r₀.rename .rename t.dialect renames = .ok r →
      Builds t (rename input renames) r
  | arrange {input : Pipeline} {keys : List SortKey} {r₀ r : Relation} :
      Builds t input r₀ → r₀.arrange t.dialect keys = .ok r →
      Builds t (arrange input keys) r
  | summarise {input : Pipeline} {aggregates : List NamedExpr} {r₀ r : Relation} :
      Builds t input r₀ → r₀.summarise t.dialect aggregates = .ok r →
      Builds t (summarise input aggregates) r
  | mutate {input : Pipeline} {derived : List NamedExpr} {r₀ r : Relation} :
      Builds t input r₀ → r₀.mutate .mutate t.dialect derived = .ok r →
      Builds t (mutate input derived) r
  | groupBy {input : Pipeline} {vars : List String} {r₀ r : Relation} :
      Builds t input r₀ → r₀.groupBy vars = .ok r → Builds t (groupBy input vars) r
  | ungroup {input : Pipeline} {r₀ : Relation} :
      Builds t input r₀ → Builds t (ungroup input) r₀.ungroup
  | filter {input : Pipeline} {predicates : List Expr} {r₀ r : Relation} :
      Builds t input r₀ → r₀.filter t.dialect predicates = .ok r →
      Builds t (filter input predicates) r
  | distinct {input : Pipeline} {columns : List String} {keepAll : Bool} {r₀ r : Relation} :
      Builds t input r₀ → r₀.distinct columns keepAll = .ok r →
      Builds t (distinct input columns keepAll) r
  | take {input : Pipeline} {limit : UInt64} {r₀ : Relation} :
      Builds t input r₀ → Builds t (take input limit) (r₀.take limit)
  | join {left right : Pipeline} {kind : JoinKind} {keys : List KeyPair}
      {suffixes : Option Suffixes} {l r₀ r : Relation} :
      Builds t left l → Builds t right r₀ →
      l.join r₀ t.dialect kind keys (suffixes.getD t.suffixes) = .ok r →
      Builds t (join left right kind keys suffixes) r
  | semiJoin {left right : Pipeline} {anti : Bool} {keys : List KeyPair} {l r₀ r : Relation} :
      Builds t left l → Builds t right r₀ → l.semiJoin r₀ anti keys = .ok r →
      Builds t (semiJoin left right anti keys) r
  | setOp {left right : Pipeline} {kind : SetKind} {l r₀ r : Relation} :
      Builds t left l → Builds t right r₀ → l.setOp r₀ t.dialect kind = .ok r →
      Builds t (setOp left right kind) r

variable {t : Target} {p : Pipeline} {r : Relation}

theorem builds_of_ok (h : p.relation t = .ok r) : p.Builds t r := by
  induction p generalizing r with
  | remote | inMemory =>
    constructor
    exact h
  | ungroup input ih | take input limit ih =>
    obtain ⟨r₀, hr, h⟩ := bind_ok.mp h
    obtain rfl := pure_ok.mp h
    constructor
    exact ih hr
  | join left right _ _ _ ihl ihr | semiJoin left right _ _ ihl ihr | setOp left right _ ihl ihr =>
    obtain ⟨l, hl, h⟩ := bind_ok.mp h
    obtain ⟨r₀, hr, h⟩ := bind_ok.mp h
    constructor
    · exact ihl hl
    · exact ihr hr
    · exact h
  | _ =>
    rename_i ih
    obtain ⟨r₀, hr, h⟩ := bind_ok.mp h
    constructor
    · exact ih hr
    · exact h

/-- The builder computes the relation that a pipeline builds. -/
theorem relation_ok : p.relation t = .ok r ↔ p.Builds t r := by
  refine ⟨builds_of_ok, fun h => ?_⟩
  induction h with
  | remote h | inMemory h => exact h
  | ungroup _ ih | take _ ih => exact bind_ok.mpr ⟨_, ih, rfl⟩
  | join _ _ h ihl ihr | semiJoin _ _ h ihl ihr | setOp _ _ h ihl ihr =>
    exact bind_ok.mpr ⟨_, ihl, bind_ok.mpr ⟨_, ihr, h⟩⟩
  | select _ h ih | rename _ h ih | arrange _ h ih | summarise _ h ih | mutate _ h ih
  | groupBy _ h ih | filter _ h ih | distinct _ h ih =>
    exact bind_ok.mpr ⟨_, ih, h⟩

theorem Builds.unique {r' : Relation} (h : p.Builds t r) (h' : p.Builds t r') : r = r' :=
  Except.ok.inj ((relation_ok.mpr h).symm.trans (relation_ok.mpr h'))

theorem build_ok {q : Query} :
    p.build t = .ok q ↔ ∃ r, p.relation t = .ok r ∧ q = r.query := by
  simp only [build, bind_ok, pure_ok]

theorem Builds.build (h : p.Builds t r) : p.build t = .ok r.query :=
  build_ok.mpr ⟨r, relation_ok.mpr h, rfl⟩

def parts : Pipeline → List Pipeline
  | .remote table vars => [.remote table vars]
  | .inMemory vars => [.inMemory vars]
  | .select input columns => .select input columns :: input.parts
  | .rename input renames => .rename input renames :: input.parts
  | .arrange input keys => .arrange input keys :: input.parts
  | .summarise input aggregates => .summarise input aggregates :: input.parts
  | .mutate input derived => .mutate input derived :: input.parts
  | .groupBy input vars => .groupBy input vars :: input.parts
  | .ungroup input => .ungroup input :: input.parts
  | .filter input predicates => .filter input predicates :: input.parts
  | .distinct input columns keepAll => .distinct input columns keepAll :: input.parts
  | .take input limit => .take input limit :: input.parts
  | .join left right kind keys suffixes =>
    .join left right kind keys suffixes :: (left.parts ++ right.parts)
  | .semiJoin left right anti keys =>
    .semiJoin left right anti keys :: (left.parts ++ right.parts)
  | .setOp left right kind => .setOp left right kind :: (left.parts ++ right.parts)

theorem self_mem_parts (p : Pipeline) : p ∈ p.parts := by
  cases p <;> exact List.mem_cons_self

/-- What a pipeline reads from builds if it does. -/
theorem Builds.parts_build (h : p.Builds t r) : ∀ part ∈ p.parts, ∃ r', part.Builds t r' := by
  induction h with
  | remote h | inMemory h =>
    intro part hm
    obtain rfl := List.mem_singleton.mp hm
    constructor
    constructor
    exact h
  | join hl hr h ihl ihr | semiJoin hl hr h ihl ihr | setOp hl hr h ihl ihr =>
    rw [parts, List.forall_mem_cons, List.forall_mem_append]
    refine ⟨?_, ihl, ihr⟩
    constructor
    constructor
    · exact hl
    · exact hr
    · exact h
  | ungroup hr ih | take hr ih =>
    rw [parts, List.forall_mem_cons]
    refine ⟨?_, ih⟩
    constructor
    constructor
    exact hr
  | select hr h ih | rename hr h ih | arrange hr h ih | summarise hr h ih | mutate hr h ih
  | groupBy hr h ih | filter hr h ih | distinct hr h ih =>
    rw [parts, List.forall_mem_cons]
    refine ⟨?_, ih⟩
    constructor
    constructor
    · exact hr
    · exact h

end LayeredSql.Pipeline
