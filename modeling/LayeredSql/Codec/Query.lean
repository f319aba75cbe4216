import LayeredSql.Codec.Pipeline
import LayeredSql.Query.Basic

namespace LayeredSql

def SelectItem.toJson (item : SelectItem) : Json :=
  .object (("expr", .string item.sql) :: Json.optionalMember "alias" .string item.label)

def SelectItem.ofJson? (v : Json) : Option SelectItem := do
  let r ← v.record? ["expr", "alias"]
  let sql ← r.required "expr" Json.string?
  let label ← r.optional "alias" Json.string?
  return ⟨sql, label⟩

/-- Empty clauses are left out. -/
def Layer.members (layer : Layer) : List (String × Json) :=
  Json.memberIf (!layer.items.isEmpty) "select" (.array (layer.items.map (·.toJson)))
    ++ Json.memberIf (!layer.conditions.isEmpty) "where" (.ofStrings layer.conditions)
    ++ Json.memberIf (!layer.groupBy.isEmpty) "group_by" (.ofStrings layer.groupBy)
    ++ Json.memberIf (!layer.orderBy.isEmpty) "order_by" (.ofStrings layer.orderBy)
    ++ [("distinct", .bool layer.distinct)]
    ++ Json.optionalMember "limit" (fun n => .int n.toNat) layer.limit

def Layer.ofRecord? (r : Json.Record) : Option Layer := do
  let items ← r.defaulting "select" [] (Json.list? SelectItem.ofJson?)
  let conditions ← r.defaulting "where" [] Json.strings?
  let groupBy ← r.defaulting "group_by" [] Json.strings?
  let orderBy ← r.defaulting "order_by" [] Json.strings?
  let distinct ← r.defaulting "distinct" false Json.bool?
  let limit ← r.optional "limit" Json.uint64?
  return ⟨items, conditions, groupBy, orderBy, distinct, limit⟩

namespace Query

def toJson : Query → Json
  | .table t => .object (("type", .string "Table") :: t.members)
  | .select source layer =>
    .object ([("type", .string "Select"), ("from", source.toJson)] ++ layer.members)
  | .join left right kind keys =>
    .object
      [("type", .string "Join"), ("left", left.toJson), ("right", right.toJson),
       ("kind", .string kind.name), ("by", .array (keys.map (·.toJson)))]
  | .semiJoin left right anti keys =>
    .object
      [("type", .string "SemiJoin"), ("left", left.toJson), ("right", right.toJson),
       ("anti", .bool anti), ("by", .array (keys.map (·.toJson)))]
  | .setOp left right kind =>
    .object
      [("type", .string "SetOp"), ("left", left.toJson), ("right", right.toJson),
       ("kind", .string kind.name)]

def ofJsonWithin? : Nat → Json → Option Query
  | 0, _ => none
  | levels + 1, v => do
    let (tag, body) ← v.tagged? "type"
    match tag with
    | "Table" => (TableRef.ofJson? body).map .table
    | "Select" =>
      let r ← body.record?
        ["from", "select", "where", "group_by", "order_by", "distinct", "limit"]
      let source ← r.required "from" (ofJsonWithin? levels)
      let layer ← Layer.ofRecord? r
      return .select source layer
    | "Join" =>
      let r ← body.record? ["left", "right", "kind", "by"]
      let left ← r.required "left" (ofJsonWithin? levels)
      let right ← r.required "right" (ofJsonWithin? levels)
      let kind ← r.required "kind" JoinKind.ofJson?
      let keys ← r.required "by" (Json.list? KeyPair.ofJson?)
      return .join left right kind keys
    | "SemiJoin" =>
      let r ← body.record? ["left", "right", "anti", "by"]
      let left ← r.required "left" (ofJsonWithin? levels)
      let right ← r.required "right" (ofJsonWithin? levels)
      let anti ← r.required "anti" Json.bool?
      let keys ← r.required "by" (Json.list? KeyPair.ofJson?)
      return .semiJoin left right anti keys
    | "SetOp" =>
      let r ← body.record? ["left", "right", "kind"]
      let left ← r.required "left" (ofJsonWithin? levels)
      let right ← r.required "right" (ofJsonWithin? levels)
      let kind ← r.required "kind" SetKind.ofJson?
      return .setOp left right kind
    | _ => none

/-- No query has more levels than its JSON is deep. -/
def ofJson? (v : Json) : Option Query :=
  ofJsonWithin? v.depth v

end Query
end LayeredSql
