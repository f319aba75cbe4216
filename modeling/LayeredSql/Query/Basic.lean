import LayeredSql.Pipeline

namespace LayeredSql

/-- An item of a select list; without a label it is a bare column under its own name. -/
structure SelectItem where
  sql : String
  label : Option String
deriving DecidableEq

/-- One SELECT. An empty list of items stands for every column of what is selected from. -/
structure Layer where
  items : List SelectItem := []
  conditions : List String := []
  groupBy : List String := []
  orderBy : List String := []
  distinct : Bool := false
  limit : Option UInt64 := none
deriving DecidableEq

inductive Query where
  | table (table : TableRef)
  | select (source : Query) (layer : Layer)
  | join (left right : Query) (kind : JoinKind) (keys : List KeyPair)
  | semiJoin (left right : Query) (anti : Bool) (keys : List KeyPair)
  | setOp (left right : Query) (kind : SetKind)
deriving DecidableEq

namespace Query

/-- SELECT layers above the first node of another kind. -/
def selectDepth : Query → Nat
  | .select source _ => source.selectDepth + 1
  | _ => 0

def isSelect : Query → Bool
  | .select .. => true
  | _ => false

def isJoin : Query → Bool
  | .join .. => true
  | _ => false

end Query
end LayeredSql
