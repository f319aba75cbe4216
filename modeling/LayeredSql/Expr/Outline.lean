import LayeredSql.Expr.Basic
import LayeredSql.Decimal.Style
import LayeredSql.Text.Quoted

namespace LayeredSql

def BinaryOp.title : BinaryOp → String
  | .add => "Add"
  | .sub => "Sub"
  | .mul => "Mul"
  | .div => "Div"
  | .mod => "Mod"
  | .eq => "Eq"
  | .ne => "Ne"
  | .lt => "Lt"
  | .le => "Le"
  | .gt => "Gt"
  | .ge => "Ge"
  | .and => "And"
  | .or => "Or"
  | .like => "Like"
  | .ilike => "ILike"

def UnaryOp.title : UnaryOp → String
  | .neg => "Neg"
  | .not => "Not"

def nodeOutline (title : String) (parts : List (String × String)) : String :=
  String.join
    [title, " \x7b ", ", ".intercalate (parts.map fun (key, value) => key ++ ": " ++ value),
     " \x7d"]

def SqlType.outline : SqlType → String
  | .bool => "Bool"
  | .int32 => "Int32"
  | .int64 => "Int64"
  | .float64 => "Float64"
  | .decimal precision scale =>
    nodeOutline "Decimal"
      [("precision", toString precision.toNat), ("scale", toString scale.toNat)]
  | .string => "String"
  | .varchar (some length) => String.join ["Varchar(Some(", toString length.toNat, "))"]
  | .varchar none => "Varchar(None)"
  | .date => "Date"
  | .time => "Time"
  | .timestamp => "Timestamp"

def floatOutline (x : Float) : String :=
  if x.isNaN then "NaN"
  else if x.isInf then (if x < 0 then "-inf" else "inf")
  else Decimal.Style.sql.text x

def Literal.outline : Literal → String
  | .null => "Null"
  | .bool b => String.join ["Bool(", if b then "true" else "false", ")"]
  | .int n => String.join ["Int(", toString n.toInt, ")"]
  | .float x => String.join ["Float(", floatOutline x, ")"]
  | .string s => String.join ["String(", Text.quoted s, ")"]

namespace Expr

mutual

def outline : Expr → String
  | .literal value => nodeOutline "Literal" [("value", value.outline)]
  | .column name => nodeOutline "Column" [("name", Text.quoted name)]
  | .binary op left right =>
    nodeOutline "BinaryOp" [("op", op.title), ("left", left.outline), ("right", right.outline)]
  | .unary op operand => nodeOutline "UnaryOp" [("op", op.title), ("expr", operand.outline)]
  | .call func args =>
    nodeOutline "FuncCall"
      [("func", Text.quoted func), ("args", "[" ++ ", ".intercalate (outlines args) ++ "]")]
  | .inSet operand set =>
    nodeOutline "InSet"
      [("expr", operand.outline), ("set", "[" ++ ", ".intercalate (outlines set) ++ "]")]
  | .cast operand target =>
    nodeOutline "Cast" [("expr", operand.outline), ("to", target.outline)]

def outlines : List Expr → List String
  | [] => []
  | e :: es => e.outline :: outlines es

end

end Expr
end LayeredSql
