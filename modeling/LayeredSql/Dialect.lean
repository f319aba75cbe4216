import LayeredSql.Pipeline
import LayeredSql.Function.Builtin
import LayeredSql.Text.Lowercase

namespace LayeredSql

inductive Capability where
  | windowFunctions
  | ilike
  | fullJoin
  | setOp (kind : SetKind)
deriving DecidableEq

def Capability.text : Capability → String
  | .windowFunctions => "window functions"
  | .ilike => "ILIKE"
  | .fullJoin => "FULL JOIN"
  | .setOp kind => kind.keyword

def SqlType.standardName : SqlType → String
  | .bool => "BOOLEAN"
  | .int32 => "INTEGER"
  | .int64 => "BIGINT"
  | .float64 => "DOUBLE PRECISION"
  | .decimal precision scale =>
    String.join ["DECIMAL(", toString precision.toNat, ", ", toString scale.toNat, ")"]
  | .string => "VARCHAR"
  | .varchar (some length) => String.join ["VARCHAR(", toString length.toNat, ")"]
  | .varchar none => "VARCHAR"
  | .date => "DATE"
  | .time => "TIME"
  | .timestamp => "TIMESTAMP"

structure Dialect where
  name : String
  openQuote : Char
  closeQuote : Char
  windowFunctions : Bool
  ilike : Bool
  fullJoin : Bool
  intersect : Bool
  except : Bool
  functions : FunctionTable
  /-- Types spelled otherwise than in the standard. -/
  typeNames : List (SqlType × String)
deriving DecidableEq

namespace Dialect

def ansi : Dialect where
  name := "ansi"
  openQuote := '\x22'
  closeQuote := '\x22'
  windowFunctions := true
  ilike := false
  fullJoin := true
  intersect := true
  except := true
  functions := .builtin
  typeNames := []

def postgres : Dialect :=
  { ansi with
    name := "postgres"
    ilike := true
    typeNames := [(.string, "TEXT")] }

def mysql : Dialect :=
  { ansi with
    name := "mysql"
    openQuote := '\x60'
    closeQuote := '\x60'
    fullJoin := false
    intersect := false
    except := false
    functions := ansi.functions.register ⟨"nchar", "CHAR_LENGTH", .scalar, 1, some 1, false⟩
    typeNames :=
      [(.int32, "SIGNED"), (.int64, "SIGNED"), (.float64, "DOUBLE"), (.string, "CHAR"),
       (.varchar none, "CHAR"), (.timestamp, "DATETIME")] }

def sqlite : Dialect :=
  { ansi with
    name := "sqlite"
    fullJoin := false
    functions :=
      ((ansi.functions.remove "sd").remove "var").register
        ⟨"log", "LOG", .scalar, 1, some 1, false⟩
    typeNames :=
      [(.int32, "INTEGER"), (.int64, "INTEGER"), (.float64, "REAL"), (.string, "TEXT"),
       (.bool, "INTEGER")] }

def withWindowFunctions (d : Dialect) (enabled : Bool) : Dialect :=
  { d with windowFunctions := enabled }

def supports (d : Dialect) : Capability → Bool
  | .windowFunctions => d.windowFunctions
  | .ilike => d.ilike
  | .fullJoin => d.fullJoin
  | .setOp .union => true
  | .setOp .unionAll => true
  | .setOp .intersect => d.intersect
  | .setOp .except => d.except

/-- A closing quote inside the name is written twice. -/
def quote (d : Dialect) (name : String) : String :=
  String.ofList
    (d.openQuote
      :: (name.toList.flatMap fun c => if c = d.closeQuote then [c, c] else [c])
      ++ [d.closeQuote])

def typeName (d : Dialect) (t : SqlType) : String :=
  ((d.typeNames.find? (·.1 == t)).map (·.2)).getD t.standardName

end Dialect

structure UnknownDialect where
  name : String
deriving DecidableEq

def UnknownDialect.message (e : UnknownDialect) : String :=
  String.join ["Unknown dialect: ", e.name]

def Dialect.named (name : String) : Except UnknownDialect Dialect :=
  let lowered := Text.lowercase name
  if lowered ∈ ["ansi", "default"] then .ok ansi
  else if lowered ∈ ["postgres", "postgresql"] then .ok postgres
  else if lowered ∈ ["mysql", "mariadb"] then .ok mysql
  else if lowered = "sqlite" then .ok sqlite
  else .error ⟨lowered⟩

end LayeredSql
