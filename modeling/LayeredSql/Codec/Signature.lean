import LayeredSql.Function.Basic
import LayeredSql.Json.Record

namespace LayeredSql

namespace FunctionKind

def name : FunctionKind → String
  | .scalar => "scalar"
  | .aggregate => "aggregate"
  | .ranking => "ranking"
  | .cumulative => "cumulative"

def ofName? (name : String) : Option FunctionKind :=
  [scalar, aggregate, ranking, cumulative].find? (·.name == name)

end FunctionKind

namespace Signature

def toJson (sig : Signature) : Json :=
  .object
    [("name", .string sig.name), ("sql_name", .string sig.sqlName),
     ("kind", .string sig.kind.name), ("min_args", .int sig.minArgs.toNat),
     ("max_args", Json.ofOption (fun n => .int n.toNat) sig.maxArgs),
     ("order_by_arg", .bool sig.orderByArg)]

def ofJson? (v : Json) : Option Signature := do
  let r ← v.record? ["name", "sql_name", "kind", "min_args", "max_args", "order_by_arg"]
  let name ← r.required "name" Json.string?
  let sqlName ← r.required "sql_name" Json.string?
  let kind ← r.required "kind" fun v => v.unitName?.bind FunctionKind.ofName?
  let minArgs ← r.required "min_args" Json.uint64?
  let maxArgs ← r.nullable "max_args" Json.uint64?
  let orderByArg ← r.defaulting "order_by_arg" false Json.bool?
  return ⟨name, sqlName, kind, minArgs, maxArgs, orderByArg⟩

end Signature
end LayeredSql
