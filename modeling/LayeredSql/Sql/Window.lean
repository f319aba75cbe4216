import LayeredSql.Sql.Fold

namespace LayeredSql.Expr

mutual

def callsWindow (t : FunctionTable) : Expr → Bool
  | .literal _ => false
  | .column _ => false
  | .binary _ left right => left.callsWindow t || right.callsWindow t
  | .unary _ operand => operand.callsWindow t
  | .call func args => t.isWindow func || anyCallsWindow t args
  | .inSet operand set => operand.callsWindow t || anyCallsWindow t set
  | .cast operand _ => operand.callsWindow t

def anyCallsWindow (t : FunctionTable) : List Expr → Bool
  | [] => false
  | e :: es => e.callsWindow t || anyCallsWindow t es

end

mutual

/-- Columns mentioned inside the arguments of a window call; `inside` says that the expression is
itself such an argument. -/
def windowArguments (t : FunctionTable) (inside : Bool) : Expr → List String
  | .literal _ => []
  | .column name => if inside then [name] else []
  | .binary _ left right => left.windowArguments t inside ++ right.windowArguments t inside
  | .unary _ operand => operand.windowArguments t inside
  | .call func args => windowArgumentsOfAll t (inside || t.isWindow func) args
  | .inSet operand set =>
    operand.windowArguments t inside ++ windowArgumentsOfAll t inside set
  | .cast operand _ => operand.windowArguments t inside

def windowArgumentsOfAll (t : FunctionTable) (inside : Bool) : List Expr → List String
  | [] => []
  | e :: es => e.windowArguments t inside ++ windowArgumentsOfAll t inside es

end

def hoistedName (n : Nat) : String :=
  if n < 10 then "q0" ++ toString n else "q" ++ toString n

/-- The first free name from the `n`-th on, looking at `tries` of them at most. -/
def freeNameFrom (taken : List String) : Nat → Nat → String
  | 0, n => hoistedName n
  | tries + 1, n =>
    if hoistedName n ∈ taken then freeNameFrom taken tries (n + 1) else hoistedName n

/-- Among one name more than are taken, one is free. -/
def freeName (taken : List String) : String :=
  freeNameFrom taken taken.length 1

structure Hoisted where
  windows : List NamedExpr
  taken : List String

def Hoisted.share (h : Hoisted) (call : Expr) : Expr × Hoisted :=
  match h.windows.find? (·.expr.same call) with
  | some known => (.column known.name, h)
  | none =>
    let name := freeName h.taken
    (.column name, ⟨h.windows ++ [⟨name, call⟩], h.taken ++ [name]⟩)

mutual

/-- Replaces the outermost calls of `windows` by columns, from left to right. -/
def hoist (windows : List String) (h : Hoisted) : Expr → Expr × Hoisted
  | .literal value => (.literal value, h)
  | .column name => (.column name, h)
  | .binary op left right =>
    let (l, h) := left.hoist windows h
    let (r, h) := right.hoist windows h
    (.binary op l r, h)
  | .unary op operand =>
    let (e, h) := operand.hoist windows h
    (.unary op e, h)
  | .call func args =>
    if func ∈ windows then h.share (.call func args)
    else
      let (es, h) := hoistAll windows h args
      (.call func es, h)
  | .inSet operand set =>
    let (e, h) := operand.hoist windows h
    let (es, h) := hoistAll windows h set
    (.inSet e es, h)
  | .cast operand target =>
    let (e, h) := operand.hoist windows h
    (.cast e target, h)

def hoistAll (windows : List String) (h : Hoisted) : List Expr → List Expr × Hoisted
  | [] => ([], h)
  | e :: es =>
    let (e, h) := e.hoist windows h
    let (es, h) := hoistAll windows h es
    (e :: es, h)

end

structure Hoisting where
  windows : List NamedExpr
  predicates : List Expr

def hoistPredicates (t : FunctionTable) (vars : List String) (predicates : List Expr) :
    Except ExprError Hoisting := do
  let folded ← foldAll vars predicates
  let (replaced, h) := hoistAll t.windowNames ⟨[], vars⟩ folded
  return ⟨h.windows, replaced⟩

end LayeredSql.Expr
