import LayeredSql.Relation.Combine
import LayeredSql.Relation.Derive

namespace LayeredSql

structure Target where
  dialect : Dialect
  /-- For joins that bring no suffixes of their own. -/
  suffixes : Suffixes

namespace Pipeline

def relation (t : Target) : Pipeline → Except BuildError Relation
  | .remote table vars => Relation.ofTable .remote table vars
  | .inMemory vars => Relation.ofTable .inMemory .inMemory vars
  | .select input columns => do
    let r ← input.relation t
    r.select t.dialect columns
  | .rename input renames => do
    let r ← input.relation t
    r.rename .rename t.dialect renames
  | .arrange input keys => do
    let r ← input.relation t
    r.arrange t.dialect keys
  | .summarise input aggregates => do
    let r ← input.relation t
    r.summarise t.dialect aggregates
  | .mutate input derived => do
    let r ← input.relation t
    r.mutate .mutate t.dialect derived
  | .groupBy input vars => do
    let r ← input.relation t
    r.groupBy vars
  | .ungroup input => do
    let r ← input.relation t
    return r.ungroup
  | .filter input predicates => do
    let r ← input.relation t
    r.filter t.dialect predicates
  | .distinct input columns keepAll => do
    let r ← input.relation t
    r.distinct columns keepAll
  | .take input limit => do
    let r ← input.relation t
    return r.take limit
  | .join left right kind keys suffixes => do
    let l ← left.relation t
    let r ← right.relation t
    l.join r t.dialect kind keys (suffixes.getD t.suffixes)
  | .semiJoin left right anti keys => do
    let l ← left.relation t
    let r ← right.relation t
    l.semiJoin r anti keys
  | .setOp left right kind => do
    let l ← left.relation t
    let r ← right.relation t
    l.setOp r t.dialect kind

def build (t : Target) (p : Pipeline) : Except BuildError Query :=
  return (← p.relation t).query

def outputVars (t : Target) (p : Pipeline) : Except BuildError (List String) :=
  return (← p.relation t).vars

end Pipeline
end LayeredSql
