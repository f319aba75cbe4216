import LayeredSql.Relation.Basic
import LayeredSql.Sql.Window

namespace LayeredSql.Relation

/-- Gives `name` a definition, in the place of an earlier one if there is one. -/
def define (defs : List NamedExpr) (name : String) (expr : Expr) : List NamedExpr :=
  if defs.any (·.name == name) then
    defs.map fun item => if item.name == name then ⟨name, expr⟩ else item
  else defs ++ [⟨name, expr⟩]

def definition? (defs : List NamedExpr) (name : String) : Option Expr :=
  (defs.find? (·.name == name)).map (·.expr)

def isWindowed (t : FunctionTable) (defs : List NamedExpr) (name : String) : Bool :=
  defs.any fun item => item.name == name && item.expr.callsWindow t

/-- Writes out the names defined so far, unless a window would come to stand inside a window. -/
def resolveItem (verb : Verb) (t : FunctionTable) (defs : List NamedExpr) (item : NamedExpr) :
    Except BuildError (List NamedExpr) :=
  match (item.expr.windowArguments t false).find? (isWindowed t defs) with
  | some inner => .error ⟨verb, .windowOverWindow item.name inner⟩
  | none => .ok (define defs item.name (item.expr.substitute (definition? defs)))

def resolveDerived (verb : Verb) (t : FunctionTable) (derived : List NamedExpr) :
    Except BuildError (List NamedExpr) :=
  derived.foldlM (resolveItem verb t) []

/-- SQL has no references from one item of a layer to another: definitions are written out. -/
def mutate (r : Relation) (verb : Verb) (d : Dialect) (derived : List NamedExpr) :
    Except BuildError Relation := do
  let defs ← resolveDerived verb d.functions derived
  let texts ← sqlChecked verb ((r.scope d .derivation).renderNamed defs)
  let unchanged := r.vars.filter fun v => !defs.any (·.name == v)
  let layer : Layer := { items := unchanged.map (columnItem d) ++ labelled texts }
  return { r with query := .select r.query layer, vars := unchanged ++ defs.map (·.name) }

def filterRows (r : Relation) (d : Dialect) (predicates : List Expr) :
    Except BuildError Relation := do
  let texts ← sqlChecked .filter ((r.scope d .condition).renderAll predicates)
  return { r with query := .select r.query { conditions := texts } }

/-- SQL applies conditions before windows: these are computed under names of their own in a layer
below, which the filter then drops again. -/
def filterWindows (r : Relation) (d : Dialect) (predicates : List Expr) :
    Except BuildError Relation := do
  let hoisting ←
    sqlChecked .filter ((Expr.hoistPredicates d.functions r.vars predicates).mapError .expr)
  let inner ← r.mutate .filter d hoisting.windows
  let texts ← sqlChecked .filter ((inner.scope d .condition).renderAll hoisting.predicates)
  let layer : Layer := { items := r.vars.map (columnItem d), conditions := texts }
  return { inner with query := .select inner.query layer, vars := r.vars }

def filter (r : Relation) (d : Dialect) (predicates : List Expr) : Except BuildError Relation :=
  if predicates.any (·.callsWindow d.functions) then r.filterWindows d predicates
  else r.filterRows d predicates

end LayeredSql.Relation
