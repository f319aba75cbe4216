import LayeredSql.Query.Basic

namespace LayeredSql

def commaSeparated (parts : List String) : String :=
  ", ".intercalate parts

def JoinKind.title : JoinKind → String
  | .inner => "Inner"
  | .left => "Left"
  | .right => "Right"
  | .full => "Full"

namespace Query

def itemOutline (item : SelectItem) : String :=
  match item.label with
  | some label => item.sql ++ " AS " ++ label
  | none => item.sql

def clauseOutline (title : String) (parts : List String) : String :=
  if parts.isEmpty then "" else " " ++ title ++ "=[" ++ commaSeparated parts ++ "]"

def itemsOutline (items : List SelectItem) : String :=
  if items.isEmpty then "" else " [" ++ commaSeparated (items.map itemOutline) ++ "]"

def layerOutline (layer : Layer) : String :=
  String.join
    ["Select",
     if layer.distinct then " DISTINCT" else "",
     itemsOutline layer.items,
     clauseOutline "where" layer.conditions,
     clauseOutline "group_by" layer.groupBy,
     clauseOutline "order_by" layer.orderBy,
     match layer.limit with
     | some limit => String.join [" limit=", toString limit.toNat]
     | none => ""]

def keysOutline (keys : List KeyPair) : String :=
  commaSeparated (keys.map fun key => key.left ++ " = " ++ key.right)

def outlineLine (depth : Nat) (text : String) : String :=
  String.join (List.replicate depth "  ") ++ text ++ "\n"

def explainAt (depth : Nat) : Query → String
  | .table t => outlineLine depth ("Table " ++ t.text)
  | .select source layer => outlineLine depth (layerOutline layer) ++ source.explainAt (depth + 1)
  | .join left right kind keys =>
    outlineLine depth ("Join " ++ kind.title ++ " on " ++ keysOutline keys)
      ++ left.explainAt (depth + 1) ++ right.explainAt (depth + 1)
  | .semiJoin left right anti keys =>
    outlineLine depth ((if anti then "AntiJoin" else "SemiJoin") ++ " on " ++ keysOutline keys)
      ++ left.explainAt (depth + 1) ++ right.explainAt (depth + 1)
  | .setOp left right kind =>
    outlineLine depth kind.keyword ++ left.explainAt (depth + 1) ++ right.explainAt (depth + 1)

def explain (q : Query) : String :=
  q.explainAt 0

end Query
end LayeredSql
