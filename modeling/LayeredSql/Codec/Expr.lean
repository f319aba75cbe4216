import LayeredSql.Expr.Outline
import LayeredSql.Json.Record

namespace LayeredSql

def BinaryOp.all : List BinaryOp :=
  [.add, .sub, .mul, .div, .mod, .eq, .ne, .lt, .le, .gt, .ge, .and, .or, .like, .ilike]

def BinaryOp.ofTitle? (title : String) : Option BinaryOp :=
  BinaryOp.all.find? (·.title == title)

def UnaryOp.ofTitle? (title : String) : Option UnaryOp :=
  [UnaryOp.neg, .not].find? (·.title == title)

namespace SqlType

def ofTitle? : String → Option SqlType
  | "Bool" => some .bool
  | "Int32" => some .int32
  | "Int64" => some .int64
  | "Float64" => some .float64
  | "String" => some .string
  | "Date" => some .date
  | "Time" => some .time
  | "Timestamp" => some .timestamp
  | _ => none

def toJson : SqlType → Json
  | .bool => .string "Bool"
  | .int32 => .string "Int32"
  | .int64 => .string "Int64"
  | .float64 => .string "Float64"
  | .decimal precision scale =>
    .object
      [("Decimal",
        .object [("precision", .int precision.toNat), ("scale", .int scale.toNat)])]
  | .string => .string "String"
  | .varchar length => .object [("Varchar", Json.ofOption (fun n => .int n.toNat) length)]
  | .date => .string "Date"
  | .time => .string "Time"
  | .timestamp => .string "Timestamp"

def ofJson? : Json → Option SqlType
  | .object [("Varchar", .null)] => some (.varchar none)
  | .object [("Varchar", length)] => (length.uint32?).map fun n => .varchar (some n)
  | .object [("Decimal", body)] => do
    let r ← body.record? ["precision", "scale"]
    let precision ← r.required "precision" Json.uint8?
    let scale ← r.required "scale" Json.uint8?
    return .decimal precision scale
  | v => v.unitName?.bind ofTitle?

end SqlType

namespace Literal

def toJson : Literal → Json
  | .null => .null
  | .bool b => .bool b
  | .int n => .int n.toInt
  | .float x => .float x
  | .string s => .string s

/-- An integer beyond the signed 64 bits is taken as a float. -/
def ofJson? : Json → Option Literal
  | .null => some .null
  | .bool b => some (.bool b)
  | .int n =>
    some (if n ≤ Int64.maxValue.toInt then .int (Int64.ofInt n) else .float (Float.ofInt n))
  | .float x => some (.float x)
  | .string s => some (.string s)
  | .array _ => none
  | .object _ => none

end Literal

namespace Expr

mutual

def toJson : Expr → Json
  | .literal value => .object [("type", .string "Literal"), ("value", value.toJson)]
  | .column name => .object [("type", .string "Column"), ("name", .string name)]
  | .binary op left right =>
    .object
      [("type", .string "BinaryOp"), ("op", .string op.title), ("left", left.toJson),
       ("right", right.toJson)]
  | .unary op operand =>
    .object [("type", .string "UnaryOp"), ("op", .string op.title), ("expr", operand.toJson)]
  | .call func args =>
    .object
      [("type", .string "FuncCall"), ("func", .string func), ("args", .array (toJsonAll args))]
  | .inSet operand set =>
    .object
      [("type", .string "InSet"), ("expr", operand.toJson), ("set", .array (toJsonAll set))]
  | .cast operand target =>
    .object [("type", .string "Cast"), ("expr", operand.toJson), ("to", target.toJson)]

def toJsonAll : List Expr → List Json
  | [] => []
  | e :: es => e.toJson :: toJsonAll es

end

def ofJsonWithin? : Nat → Json → Option Expr
  | 0, _ => none
  | levels + 1, v => do
    let (tag, body) ← v.tagged? "type"
    match tag with
    | "Literal" =>
      let r ← body.record? ["value"]
      let value ← r.required "value" Literal.ofJson?
      return .literal value
    | "Column" =>
      let r ← body.record? ["name"]
      let name ← r.required "name" Json.string?
      return .column name
    | "BinaryOp" =>
      let r ← body.record? ["op", "left", "right"]
      let op ← r.required "op" fun v => v.unitName?.bind BinaryOp.ofTitle?
      let left ← r.required "left" (ofJsonWithin? levels)
      let right ← r.required "right" (ofJsonWithin? levels)
      return .binary op left right
    | "UnaryOp" =>
      let r ← body.record? ["op", "expr"]
      let op ← r.required "op" fun v => v.unitName?.bind UnaryOp.ofTitle?
      let operand ← r.required "expr" (ofJsonWithin? levels)
      return .unary op operand
    | "FuncCall" =>
      let r ← body.record? ["func", "args"]
      let func ← r.required "func" Json.string?
      let args ← r.required "args" (Json.list? (ofJsonWithin? levels))
      return .call func args
    | "InSet" =>
      let r ← body.record? ["expr", "set"]
      let operand ← r.required "expr" (ofJsonWithin? levels)
      let set ← r.required "set" (Json.list? (ofJsonWithin? levels))
      return .inSet operand set
    | "Cast" =>
      let r ← body.record? ["expr", "to"]
      let operand ← r.required "expr" (ofJsonWithin? levels)
      let target ← r.required "to" SqlType.ofJson?
      return .cast operand target
    | _ => none

/-- No expression has more levels than its JSON is deep. -/
def ofJson? (v : Json) : Option Expr :=
  ofJsonWithin? v.depth v

end Expr

def NamedExpr.toJson (item : NamedExpr) : Json :=
  .object [("name", .string item.name), ("expr", item.expr.toJson)]

def NamedExpr.ofJson? (v : Json) : Option NamedExpr := do
  let r ← v.record? ["name", "expr"]
  let name ← r.required "name" Json.string?
  let expr ← r.required "expr" Expr.ofJson?
  return ⟨name, expr⟩

def SortKey.toJson (key : SortKey) : Json :=
  .object [("expr", key.expr.toJson), ("desc", .bool key.descending)]

def SortKey.ofJson? (v : Json) : Option SortKey := do
  let r ← v.record? ["expr", "desc"]
  let expr ← r.required "expr" Expr.ofJson?
  let descending ← r.defaulting "desc" false Json.bool?
  return ⟨expr, descending⟩

end LayeredSql
