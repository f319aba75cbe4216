import LayeredSql.Dialect
import LayeredSql.Expr.Outline

namespace LayeredSql

inductive Clause where
  | condition
  | ordering
  | derivation
  | summary
deriving DecidableEq

def Clause.text : Clause → String
  | .condition => "where"
  | .ordering => "order by"
  | .derivation => "mutate"
  | .summary => "summarise"

def columnNotFound (name : String) (available : List String) : String :=
  String.join ["Column '", name, "' not found. Available columns: ", Text.quotedList available]

def NameError.message : NameError → String
  | .unknownColumn name available => columnNotFound name available
  | .duplicate names => String.join ["Duplicate output columns: ", Text.quotedList names]

inductive ExprError where
  | unknownColumn (name : String) (available : List String)
  | function (cause : FunctionError)
  | notAllowed (func : String) (clause : Clause)
  /-- SQL has no literal for NaN and the infinities. -/
  | nonFinite (value : Float)
  /-- A selection is made of columns only. -/
  | notAColumn (expr : Expr)

def ExprError.message : ExprError → String
  | .unknownColumn name available => columnNotFound name available
  | .function cause => cause.message
  | .notAllowed func clause =>
    String.join ["Function '", func, "' is not allowed in ", clause.text]
  | .nonFinite value =>
    String.join ["Unsupported expression: non-finite literal ", floatOutline value]
  | .notAColumn expr =>
    String.join
      ["Unsupported expression: select accepts column references only, got ", expr.outline]

inductive SqlError where
  | expr (cause : ExprError)
  | missing (dialect : String) (capability : Capability)

def SqlError.message : SqlError → String
  | .expr cause => cause.message
  | .missing dialect capability =>
    String.join ["Dialect '", dialect, "' does not support ", capability.text]

def Dialect.require (d : Dialect) (capability : Capability) : Except SqlError Unit :=
  if d.supports capability then .ok () else .error (.missing d.name capability)

end LayeredSql
