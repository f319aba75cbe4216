import LayeredSql.Sql.Fragment

namespace LayeredSql.Sql.Scope

def orderText (s : Scope) : Except SqlError (List String) :=
  s.order.mapM fun key => do
    let sql ← fragment (.ok []) s.forKeys false key.expr
    return keyText key.descending sql

def render (s : Scope) (e : Expr) : Except SqlError String :=
  fragment s.orderText s false e

def renderAll (s : Scope) (es : List Expr) : Except SqlError (List String) :=
  es.mapM s.render

def renderNamed (s : Scope) (items : List NamedExpr) :
    Except SqlError (List (String × String)) :=
  items.mapM fun item => return (item.name, ← s.render item.expr)

def renderKeys (s : Scope) (keys : List SortKey) : Except SqlError (List String) :=
  keys.mapM fun key => return keyText key.descending (← s.render key.expr)

end LayeredSql.Sql.Scope
