namespace LayeredSql

inductive SqlType where
  | bool
  | int32
  | int64
  | float64
  | decimal (precision scale : UInt8)
  | string
  | varchar (length : Option UInt32)
  | date
  | time
  | timestamp
deriving DecidableEq

/-- A constant. Integers are 64 bits wide and floats are binary64. -/
inductive Literal where
  | null
  | bool (value : Bool)
  | int (value : Int64)
  | float (value : Float)
  | string (value : String)
deriving DecidableEq

inductive BinaryOp where
  | add | sub | mul | div | mod
  | eq | ne | lt | le | gt | ge
  | and | or
  | like | ilike
deriving DecidableEq

inductive UnaryOp where
  | neg
  | not
deriving DecidableEq

inductive Expr where
  | literal (value : Literal)
  | column (name : String)
  | binary (op : BinaryOp) (left right : Expr)
  | unary (op : UnaryOp) (operand : Expr)
  | call (func : String) (args : List Expr)
  | inSet (operand : Expr) (set : List Expr)
  | cast (operand : Expr) (target : SqlType)

/-- Equality of constants as the database sees it: floats compare as numbers, so both zeros are
one value and a NaN is no value. -/
def Literal.same : Literal → Literal → Bool
  | .null, .null => true
  | .bool a, .bool b => a == b
  | .int a, .int b => a == b
  | .float a, .float b => a == b
  | .string a, .string b => a == b
  | _, _ => false

namespace Expr

def asColumn? : Expr → Option String
  | .column name => some name
  | _ => none

mutual

/-- Columns mentioned, from left to right, with repetitions. -/
def columns : Expr → List String
  | .literal _ => []
  | .column name => [name]
  | .binary _ left right => left.columns ++ right.columns
  | .unary _ operand => operand.columns
  | .call _ args => columnsOfAll args
  | .inSet operand set => operand.columns ++ columnsOfAll set
  | .cast operand _ => operand.columns

def columnsOfAll : List Expr → List String
  | [] => []
  | e :: es => e.columns ++ columnsOfAll es

end

mutual

/-- Every column for which `σ` has an expression is replaced by it, all at once. -/
def substitute (σ : String → Option Expr) : Expr → Expr
  | .literal value => .literal value
  | .column name => (σ name).getD (.column name)
  | .binary op left right => .binary op (left.substitute σ) (right.substitute σ)
  | .unary op operand => .unary op (operand.substitute σ)
  | .call func args => .call func (substituteAll σ args)
  | .inSet operand set => .inSet (operand.substitute σ) (substituteAll σ set)
  | .cast operand target => .cast (operand.substitute σ) target

def substituteAll (σ : String → Option Expr) : List Expr → List Expr
  | [] => []
  | e :: es => e.substitute σ :: substituteAll σ es

end

mutual

/-- Same shape, same names, and constants that are `Literal.same`. -/
def same : Expr → Expr → Bool
  | .literal a, .literal b => a.same b
  | .column a, .column b => a == b
  | .binary op a b, .binary op' a' b' => op == op' && a.same a' && b.same b'
  | .unary op a, .unary op' a' => op == op' && a.same a'
  | .call f as, .call f' as' => f == f' && sameAll as as'
  | .inSet a as, .inSet a' as' => a.same a' && sameAll as as'
  | .cast a t, .cast a' t' => a.same a' && t == t'
  | _, _ => false

def sameAll : List Expr → List Expr → Bool
  | [], [] => true
  | a :: as, b :: bs => a.same b && sameAll as bs
  | _, _ => false

end

theorem columnsOfAll_eq_flatMap (es : List Expr) : columnsOfAll es = es.flatMap columns := by
  induction es with
  | nil => rfl
  | cons e es ih => simp [columnsOfAll, ih]

theorem substituteAll_eq_map (σ : String → Option Expr) (es : List Expr) :
    substituteAll σ es = es.map (substitute σ) := by
  induction es with
  | nil => rfl
  | cons e es ih => simp [substituteAll, ih]

end Expr

structure NamedExpr where
  name : String
  expr : Expr

structure SortKey where
  expr : Expr
  descending : Bool

end LayeredSql
