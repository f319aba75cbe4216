import LayeredSql.Sql.Error

namespace LayeredSql

def Literal.ofInt? (n : Int) : Option Literal :=
  if Int64.minValue.toInt ≤ n ∧ n ≤ Int64.maxValue.toInt then some (.int (Int64.ofInt n)) else none

def BinaryOp.fold? : BinaryOp → Literal → Literal → Option Literal
  | .add, .int a, .int b => Literal.ofInt? (a.toInt + b.toInt)
  | .sub, .int a, .int b => Literal.ofInt? (a.toInt - b.toInt)
  | .mul, .int a, .int b => Literal.ofInt? (a.toInt * b.toInt)
  | .add, .float a, .float b => some (.float (a + b))
  | .sub, .float a, .float b => some (.float (a - b))
  | .mul, .float a, .float b => some (.float (a * b))
  | .div, .float a, .float b => if b == 0 then none else some (.float (a / b))
  | _, _, _ => none

def UnaryOp.fold? : UnaryOp → Literal → Option Literal
  | .neg, .int a => Literal.ofInt? (-a.toInt)
  | .neg, .float a => some (.float (-a))
  | .not, .bool a => some (.bool !a)
  | _, _ => none

namespace Expr

def foldBinary (op : BinaryOp) (left right : Expr) : Expr :=
  match left, right with
  | .literal a, .literal b => ((op.fold? a b).map .literal).getD (.binary op left right)
  | _, _ => .binary op left right

def foldUnary (op : UnaryOp) (operand : Expr) : Expr :=
  match operand with
  | .literal a => ((op.fold? a).map .literal).getD (.unary op operand)
  | _ => .unary op operand

mutual

/-- Folds constants from the leaves up; the first column that is none of `vars` is refused. -/
def fold (vars : List String) : Expr → Except ExprError Expr
  | .literal value => .ok (.literal value)
  | .column name =>
    if name ∈ vars then .ok (.column name) else .error (.unknownColumn name vars)
  | .binary op left right => do
    let l ← left.fold vars
    let r ← right.fold vars
    return foldBinary op l r
  | .unary op operand => do
    let e ← operand.fold vars
    return foldUnary op e
  | .call func args => do
    let es ← foldAll vars args
    return .call func es
  | .inSet operand set => do
    let e ← operand.fold vars
    let es ← foldAll vars set
    return .inSet e es
  | .cast operand target => do
    let e ← operand.fold vars
    return .cast e target

def foldAll (vars : List String) : List Expr → Except ExprError (List Expr)
  | [] => .ok []
  | e :: es => do
    let e' ← e.fold vars
    let es' ← foldAll vars es
    return e' :: es'

end

end Expr
end LayeredSql
