import LayeredSql.Expr.Basic
import LayeredSql.Names.Join

namespace LayeredSql

structure TableRef where
  schema : Option String
  name : String
deriving DecidableEq

/-- Stands for a table that was read into memory. -/
def TableRef.inMemory : TableRef := ⟨none, "df"⟩

def TableRef.text (t : TableRef) : String :=
  match t.schema with
  | some schema => schema ++ "." ++ t.name
  | none => t.name

/-- An item of a selection; without a label the column keeps its name. -/
structure Projection where
  expr : Expr
  label : Option String

inductive JoinKind where
  | inner
  | left
  | right
  | full
deriving DecidableEq

inductive SetKind where
  | union
  | unionAll
  | intersect
  | except
deriving DecidableEq

def SetKind.keyword : SetKind → String
  | .union => "UNION"
  | .unionAll => "UNION ALL"
  | .intersect => "INTERSECT"
  | .except => "EXCEPT"

inductive Pipeline where
  | remote (table : TableRef) (vars : List String)
  | inMemory (vars : List String)
  | select (input : Pipeline) (columns : List Projection)
  | rename (input : Pipeline) (renames : List ColumnRename)
  | arrange (input : Pipeline) (keys : List SortKey)
  | summarise (input : Pipeline) (aggregates : List NamedExpr)
  | mutate (input : Pipeline) (derived : List NamedExpr)
  | groupBy (input : Pipeline) (vars : List String)
  | ungroup (input : Pipeline)
  | filter (input : Pipeline) (predicates : List Expr)
  | distinct (input : Pipeline) (columns : List String) (keepAll : Bool)
  | take (input : Pipeline) (limit : UInt64)
  | join (left right : Pipeline) (kind : JoinKind) (keys : List KeyPair)
      (suffixes : Option Suffixes)
  | semiJoin (left right : Pipeline) (anti : Bool) (keys : List KeyPair)
  | setOp (left right : Pipeline) (kind : SetKind)

/-- The operation at the root of a pipeline. -/
inductive Verb where
  | remote
  | inMemory
  | select
  | rename
  | arrange
  | summarise
  | mutate
  | groupBy
  | ungroup
  | filter
  | distinct
  | take
  | join
  | semiJoin
  | setOp
deriving DecidableEq

def Verb.text : Verb → String
  | .remote => "base_remote"
  | .inMemory => "base_local"
  | .select => "select"
  | .rename => "rename"
  | .arrange => "arrange"
  | .summarise => "summarise"
  | .mutate => "mutate"
  | .groupBy => "group_by"
  | .ungroup => "ungroup"
  | .filter => "filter"
  | .distinct => "distinct"
  | .take => "take"
  | .join => "join"
  | .semiJoin => "semi_join"
  | .setOp => "set_op"

def Pipeline.verb : Pipeline → Verb
  | .remote .. => .remote
  | .inMemory .. => .inMemory
  | .select .. => .select
  | .rename .. => .rename
  | .arrange .. => .arrange
  | .summarise .. => .summarise
  | .mutate .. => .mutate
  | .groupBy .. => .groupBy
  | .ungroup .. => .ungroup
  | .filter .. => .filter
  | .distinct .. => .distinct
  | .take .. => .take
  | .join .. => .join
  | .semiJoin .. => .semiJoin
  | .setOp .. => .setOp

end LayeredSql
