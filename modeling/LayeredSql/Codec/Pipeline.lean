import LayeredSql.Codec.Expr
import LayeredSql.Pipeline

namespace LayeredSql

def TableRef.members (t : TableRef) : List (String × Json) :=
  Json.optionalMember "schema" .string t.schema ++ [("name", .string t.name)]

def TableRef.ofJson? (v : Json) : Option TableRef := do
  let r ← v.record? ["schema", "name"]
  let schema ← r.optional "schema" Json.string?
  let name ← r.required "name" Json.string?
  return ⟨schema, name⟩

def Projection.toJson (p : Projection) : Json :=
  .object (("expr", p.expr.toJson) :: Json.optionalMember "alias" .string p.label)

def Projection.ofJson? (v : Json) : Option Projection := do
  let r ← v.record? ["expr", "alias"]
  let expr ← r.required "expr" Expr.ofJson?
  let label ← r.optional "alias" Json.string?
  return ⟨expr, label⟩

def ColumnRename.toJson (r : ColumnRename) : Json :=
  .object [("from", .string r.source), ("to", .string r.target)]

def ColumnRename.ofJson? (v : Json) : Option ColumnRename := do
  let r ← v.record? ["from", "to"]
  let source ← r.required "from" Json.string?
  let target ← r.required "to" Json.string?
  return ⟨source, target⟩

def KeyPair.toJson (key : KeyPair) : Json :=
  .object [("left", .string key.left), ("right", .string key.right)]

def KeyPair.ofJson? (v : Json) : Option KeyPair := do
  let r ← v.record? ["left", "right"]
  let left ← r.required "left" Json.string?
  let right ← r.required "right" Json.string?
  return ⟨left, right⟩

def Suffixes.toJson (s : Suffixes) : Json :=
  .object [("left", .string s.left), ("right", .string s.right)]

def Suffixes.ofJson? (v : Json) : Option Suffixes := do
  let r ← v.record? ["left", "right"]
  let left ← r.required "left" Json.string?
  let right ← r.required "right" Json.string?
  return ⟨left, right⟩

namespace JoinKind

def name : JoinKind → String
  | .inner => "inner"
  | .left => "left"
  | .right => "right"
  | .full => "full"

def ofName? (name : String) : Option JoinKind :=
  [inner, left, right, full].find? (·.name == name)

def ofJson? (v : Json) : Option JoinKind :=
  v.unitName?.bind ofName?

end JoinKind

namespace SetKind

def name : SetKind → String
  | .union => "union"
  | .unionAll => "union_all"
  | .intersect => "intersect"
  | .except => "except"

def ofName? (name : String) : Option SetKind :=
  [union, unionAll, intersect, except].find? (·.name == name)

def ofJson? (v : Json) : Option SetKind :=
  v.unitName?.bind ofName?

end SetKind

namespace Pipeline

def toJson : Pipeline → Json
  | .remote table vars =>
    .object
      [("op", .string "BaseRemote"), ("table", .object table.members), ("vars", .ofStrings vars)]
  | .inMemory vars => .object [("op", .string "BaseLocal"), ("vars", .ofStrings vars)]
  | .select input columns =>
    .object
      [("op", .string "Select"), ("upstream", input.toJson),
       ("columns", .array (columns.map (·.toJson)))]
  | .rename input renames =>
    .object
      [("op", .string "Rename"), ("upstream", input.toJson),
       ("renames", .array (renames.map (·.toJson)))]
  | .arrange input keys =>
    .object
      [("op", .string "Arrange"), ("upstream", input.toJson),
       ("keys", .array (keys.map (·.toJson)))]
  | .summarise input aggregates =>
    .object
      [("op", .string "Summarise"), ("upstream", input.toJson),
       ("aggregates", .array (aggregates.map (·.toJson)))]
  | .mutate input derived =>
    .object
      [("op", .string "Mutate"), ("upstream", input.toJson),
       ("derived", .array (derived.map (·.toJson)))]
  | .groupBy input vars =>
    .object
      [("op", .string "GroupBy"), ("upstream", input.toJson), ("group_vars", .ofStrings vars)]
  | .ungroup input => .object [("op", .string "Ungroup"), ("upstream", input.toJson)]
  | .filter input predicates =>
    .object
      [("op", .string "Filter"), ("upstream", input.toJson),
       ("predicates", .array (predicates.map (·.toJson)))]
  | .distinct input columns keepAll =>
    .object
      ([("op", .string "Distinct"), ("upstream", input.toJson)]
        ++ Json.memberIf (!columns.isEmpty) "columns" (.ofStrings columns)
        ++ [("keep_all", .bool keepAll)])
  | .take input limit =>
    .object
      [("op", .string "Take"), ("upstream", input.toJson), ("limit", .int limit.toNat)]
  | .join left right kind keys suffixes =>
    .object
      ([("op", .string "Join"), ("left", left.toJson), ("right", right.toJson),
        ("kind", .string kind.name), ("by", .array (keys.map (·.toJson)))]
        ++ Json.optionalMember "suffixes" Suffixes.toJson suffixes)
  | .semiJoin left right anti keys =>
    .object
      [("op", .string "SemiJoin"), ("left", left.toJson), ("right", right.toJson),
       ("anti", .bool anti), ("by", .array (keys.map (·.toJson)))]
  | .setOp left right kind =>
    .object
      [("op", .string "SetOp"), ("left", left.toJson), ("right", right.toJson),
       ("kind", .string kind.name)]

def ofJsonWithin? : Nat → Json → Option Pipeline
  | 0, _ => none
  | levels + 1, v => do
    let (tag, body) ← v.tagged? "op"
    match tag with
    | "BaseRemote" =>
      let r ← body.record? ["table", "vars"]
      let table ← r.required "table" TableRef.ofJson?
      let vars ← r.required "vars" Json.strings?
      return .remote table vars
    | "BaseLocal" =>
      let r ← body.record? ["vars"]
      let vars ← r.required "vars" Json.strings?
      return .inMemory vars
    | "Select" =>
      let r ← body.record? ["upstream", "columns"]
      let input ← r.required "upstream" (ofJsonWithin? levels)
      let columns ← r.required "columns" (Json.list? Projection.ofJson?)
      return .select input columns
    | "Rename" =>
      let r ← body.record? ["upstream", "renames"]
      let input ← r.required "upstream" (ofJsonWithin? levels)
      let renames ← r.required "renames" (Json.list? ColumnRename.ofJson?)
      return .rename input renames
    | "Arrange" =>
      let r ← body.record? ["upstream", "keys"]
      let input ← r.required "upstream" (ofJsonWithin? levels)
      let keys ← r.required "keys" (Json.list? SortKey.ofJson?)
      return .arrange input keys
    | "Summarise" =>
      let r ← body.record? ["upstream", "aggregates"]
      let input ← r.required "upstream" (ofJsonWithin? levels)
      let aggregates ← r.required "aggregates" (Json.list? NamedExpr.ofJson?)
      return .summarise input aggregates
    | "Mutate" =>
      let r ← body.record? ["upstream", "derived"]
      let input ← r.required "upstream" (ofJsonWithin? levels)
      let derived ← r.required "derived" (Json.list? NamedExpr.ofJson?)
      return .mutate input derived
    | "GroupBy" =>
      let r ← body.record? ["upstream", "group_vars"]
      let input ← r.required "upstream" (ofJsonWithin? levels)
      let vars ← r.required "group_vars" Json.strings?
      return .groupBy input vars
    | "Ungroup" =>
      let r ← body.record? ["upstream"]
      let input ← r.required "upstream" (ofJsonWithin? levels)
      return .ungroup input
    | "Filter" =>
      let r ← body.record? ["upstream", "predicates"]
      let input ← r.required "upstream" (ofJsonWithin? levels)
      let predicates ← r.required "predicates" (Json.list? Expr.ofJson?)
      return .filter input predicates
    | "Distinct" =>
      let r ← body.record? ["upstream", "columns", "keep_all"]
      let input ← r.required "upstream" (ofJsonWithin? levels)
      let columns ← r.defaulting "columns" [] Json.strings?
      let keepAll ← r.defaulting "keep_all" false Json.bool?
      return .distinct input columns keepAll
    | "Take" =>
      let r ← body.record? ["upstream", "limit"]
      let input ← r.required "upstream" (ofJsonWithin? levels)
      let limit ← r.required "limit" Json.uint64?
      return .take input limit
    | "Join" =>
      let r ← body.record? ["left", "right", "kind", "by", "suffixes"]
      let left ← r.required "left" (ofJsonWithin? levels)
      let right ← r.required "right" (ofJsonWithin? levels)
      let kind ← r.defaulting "kind" .inner JoinKind.ofJson?
      let keys ← r.required "by" (Json.list? KeyPair.ofJson?)
      let suffixes ← r.optional "suffixes" Suffixes.ofJson?
      return .join left right kind keys suffixes
    | "SemiJoin" =>
      let r ← body.record? ["left", "right", "anti", "by"]
      let left ← r.required "left" (ofJsonWithin? levels)
      let right ← r.required "right" (ofJsonWithin? levels)
      let anti ← r.defaulting "anti" false Json.bool?
      let keys ← r.required "by" (Json.list? KeyPair.ofJson?)
      return .semiJoin left right anti keys
    | "SetOp" =>
      let r ← body.record? ["left", "right", "kind"]
      let left ← r.required "left" (ofJsonWithin? levels)
      let right ← r.required "right" (ofJsonWithin? levels)
      let kind ← r.required "kind" SetKind.ofJson?
      return .setOp left right kind
    | _ => none

/-- No pipeline has more levels than its JSON is deep. -/
def ofJson? (v : Json) : Option Pipeline :=
  ofJsonWithin? v.depth v

end Pipeline
end LayeredSql
