import LayeredSql.Sql.Error

namespace LayeredSql

namespace Sql

def parenthesised (nested : Bool) (sql : String) : String :=
  if nested then "(" ++ sql ++ ")" else sql

def operatorText : BinaryOp → String
  | .add => "+"
  | .sub => "-"
  | .mul => "*"
  | .div => "/"
  | .mod => "%"
  | .eq => "="
  | .ne => "<>"
  | .lt => "<"
  | .le => "<="
  | .gt => ">"
  | .ge => ">="
  | .and => "AND"
  | .or => "OR"
  | .like => "LIKE"
  | .ilike => "ILIKE"

/-- In single quotes, with every single quote inside written twice. -/
def stringLiteral (s : String) : String :=
  String.ofList
    ('\x27' :: (s.toList.flatMap fun c => if c = '\x27' then [c, c] else [c]) ++ ['\x27'])

def literal : Literal → Except SqlError String
  | .null => .ok "NULL"
  | .bool b => .ok (if b then "TRUE" else "FALSE")
  | .int n => .ok (toString n.toInt)
  | .float x =>
    if x.isFinite then .ok (Decimal.Style.sql.text x) else .error (.expr (.nonFinite x))
  | .string s => .ok (stringLiteral s)

/-- Comparing with the constant NULL is a test for NULL. -/
def nullTest? : BinaryOp → Expr → Option String
  | .eq, .literal .null => some " IS NULL"
  | .ne, .literal .null => some " IS NOT NULL"
  | _, _ => none

/-- Matching regardless of case is spelled out where there is no operator for it. -/
def operation (d : Dialect) (op : BinaryOp) (lhs rhs : String) : String :=
  if op = .ilike ∧ ¬ d.supports .ilike then "LOWER(" ++ lhs ++ ") LIKE LOWER(" ++ rhs ++ ")"
  else lhs ++ " " ++ operatorText op ++ " " ++ rhs

/-- Two minus signs in a row would start a comment. -/
def negated (sql : String) : String :=
  if sql.toList.head? = some '-' then "-(" ++ sql ++ ")" else "-" ++ sql

def callText (sig : Signature) (args : List String) : String :=
  if sig.name = "n" then "COUNT(*)"
  else if sig.name = "n_distinct" then "COUNT(DISTINCT " ++ ", ".intercalate args ++ ")"
  else sig.sqlName ++ "(" ++ ", ".intercalate args ++ ")"

/-- The argument of `is_na` stands as an operand of IS NULL. -/
def isNullCall (sig : Signature) (arity : Nat) : Bool :=
  sig.kind == .scalar && sig.name == "is_na" && arity == 1

def plainText (sig : Signature) (nested : Bool) (args : List String) : String :=
  if sig.kind = .scalar then
    if sig.name = "is_na" then
      match args with
      | [value] => parenthesised nested (value ++ " IS NULL")
      | _ => callText sig args
    else if sig.name = "if_else" then
      match args with
      | [condition, yes, no] =>
        "CASE WHEN " ++ condition ++ " THEN " ++ yes ++ " ELSE " ++ no ++ " END"
      | _ => callText sig args
    else callText sig args
  else callText sig args

/-- A call over a window; an aggregate spans its whole partition, whatever the order. -/
def windowText (d : Dialect) (sig : Signature) (groups args keys : List String) : String :=
  let partition :=
    if groups.isEmpty then [] else ["PARTITION BY " ++ ", ".intercalate (groups.map d.quote)]
  let order :=
    if sig.kind = .aggregate || keys.isEmpty then []
    else ["ORDER BY " ++ ", ".intercalate keys]
  let frame :=
    if sig.kind = .cumulative then ["ROWS BETWEEN UNBOUNDED PRECEDING AND CURRENT ROW"] else []
  callText sig args ++ " OVER (" ++ " ".intercalate (partition ++ order ++ frame) ++ ")"

def keyText (descending : Bool) (sql : String) : String :=
  if descending then sql ++ " DESC" else sql

/-- What an expression can see: the columns, and for windows the grouping and the ordering. -/
structure Scope where
  dialect : Dialect
  vars : List String
  clause : Clause
  groups : List String
  order : List SortKey

def Scope.forKeys (s : Scope) : Scope :=
  { s with clause := .ordering, groups := [], order := [] }

def Scope.signature (s : Scope) (func : String) (arity : Nat) : Except SqlError Signature :=
  (s.dialect.functions.lookup func arity).mapError fun e => .expr (.function e)

/-- Whether a call needs a window here: scalars never do, and aggregates not in a summary. -/
def Scope.needsWindow (s : Scope) (sig : Signature) (func : String) : Except SqlError Bool :=
  if sig.kind = .scalar then .ok false
  else if sig.kind = .aggregate ∧ s.clause = .summary then .ok false
  else if s.clause ≠ .derivation then .error (.expr (.notAllowed func s.clause))
  else (s.dialect.require .windowFunctions).map fun _ => true

mutual

/-- The text of the ordering comes along as `keys`, should a window ask for it. -/
def fragment (keys : Except SqlError (List String)) (s : Scope) (nested : Bool) :
    Expr → Except SqlError String
  | .literal value => literal value
  | .column name =>
    if name ∈ s.vars then .ok (s.dialect.quote name)
    else .error (.expr (.unknownColumn name s.vars))
  | .binary op left right => do
    let lhs ← fragment keys s true left
    match nullTest? op right with
    | some test => return parenthesised nested (lhs ++ test)
    | none => do
      let rhs ← fragment keys s true right
      return parenthesised nested (operation s.dialect op lhs rhs)
  | .unary op operand => do
    let sql ← fragment keys s true operand
    match op with
    | .not => return parenthesised nested ("NOT " ++ sql)
    | .neg => return negated sql
  | .call func args => do
    let sig ← s.signature func args.length
    if ← s.needsWindow sig func then
      let ordered := sig.orderByArg && !args.isEmpty
      let texts ← (if ordered then laterFragments keys s args else fragments keys s false args)
      let order ←
        (if sig.kind = .aggregate then .ok []
         else if ordered then leadingKey s args
         else keys)
      return windowText s.dialect sig s.groups texts order
    else do
      let texts ← fragments keys s (isNullCall sig args.length) args
      return plainText sig nested texts
  | .inSet operand set =>
    if set.isEmpty then .ok "FALSE"
    else do
      let lhs ← fragment keys s true operand
      let items ← fragments keys s false set
      return parenthesised nested (lhs ++ " IN (" ++ ", ".intercalate items ++ ")")
  | .cast operand target => do
    let sql ← fragment keys s false operand
    return "CAST(" ++ sql ++ " AS " ++ s.dialect.typeName target ++ ")"

def fragments (keys : Except SqlError (List String)) (s : Scope) (nested : Bool) :
    List Expr → Except SqlError (List String)
  | [] => .ok []
  | e :: es => do
    let sql ← fragment keys s nested e
    let rest ← fragments keys s nested es
    return sql :: rest

def laterFragments (keys : Except SqlError (List String)) (s : Scope) :
    List Expr → Except SqlError (List String)
  | [] => .ok []
  | _ :: es => fragments keys s false es

/-- The first argument as a sorting key; `desc` around it reverses the order. -/
def leadingKey (s : Scope) : List Expr → Except SqlError (List String)
  | [] => .ok []
  | .call "desc" [x] :: _ => do
    let sql ← fragment (.ok []) s.forKeys false x
    return [keyText true sql]
  | e :: _ => do
    let sql ← fragment (.ok []) s.forKeys false e
    return [keyText false sql]

end

end Sql
end LayeredSql
