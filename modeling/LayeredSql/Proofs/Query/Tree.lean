import LayeredSql.Query.Explain

namespace LayeredSql

namespace Query

/-- The nodes of a query from the top, every one before what it reads from, with their depths. -/
def nodes (depth : Nat) : Query → List (Nat × Query)
  | .table t => [(depth, .table t)]
  | .select source layer => (depth, .select source layer) :: source.nodes (depth + 1)
  | .join left right kind keys =>
    (depth, .join left right kind keys) :: (left.nodes (depth + 1) ++ right.nodes (depth + 1))
  | .semiJoin left right anti keys =>
    (depth, .semiJoin left right anti keys) :: (left.nodes (depth + 1) ++ right.nodes (depth + 1))
  | .setOp left right kind =>
    (depth, .setOp left right kind) :: (left.nodes (depth + 1) ++ right.nodes (depth + 1))

def phrase? (title : String) (parts : List String) : Option String :=
  if parts = [] then none else some (title ++ "[" ++ ", ".intercalate parts ++ "]")

def phrases (layer : Layer) : List String :=
  [if layer.distinct then some "DISTINCT" else none,
    phrase? "" (layer.items.map itemOutline),
    phrase? "where=" layer.conditions,
    phrase? "group_by=" layer.groupBy,
    phrase? "order_by=" layer.orderBy,
    layer.limit.map fun n => "limit=" ++ toString n.toNat].filterMap id

def headline : Query → String
  | .table t => "Table " ++ t.text
  | .select _ layer => "Select" ++ String.join ((phrases layer).map (" " ++ ·))
  | .join _ _ kind keys => "Join " ++ kind.title ++ " on " ++ keysOutline keys
  | .semiJoin _ _ true keys => "AntiJoin on " ++ keysOutline keys
  | .semiJoin _ _ false keys => "SemiJoin on " ++ keysOutline keys
  | .setOp _ _ kind => kind.keyword

/-- The text shows the query as a tree: a line for each node, two blanks deeper than what reads from
it. -/
def Drawn (q : Query) (text : String) : Prop :=
  text = String.join ((q.nodes 0).map fun (depth, node) =>
    String.join (List.replicate depth "  ") ++ node.headline ++ "\n")

end Query
end LayeredSql
