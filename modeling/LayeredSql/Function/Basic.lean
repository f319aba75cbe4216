namespace LayeredSql

inductive FunctionKind where
  /-- One row at a time. -/
  | scalar
  /-- Collapses the rows of a summary; anywhere else it spans a partition. -/
  | aggregate
  /-- Ranks and offsets, which depend on the order of rows. -/
  | ranking
  /-- An aggregate over the rows so far. -/
  | cumulative
deriving DecidableEq

structure Signature where
  name : String
  sqlName : String
  kind : FunctionKind
  minArgs : UInt64
  maxArgs : Option UInt64
  /-- The first argument orders the window instead of being passed on. -/
  orderByArg : Bool
deriving DecidableEq

namespace Signature

/-- Needs OVER outside a summary. -/
def isWindow (sig : Signature) : Bool :=
  sig.kind != .scalar

def isAggregate (sig : Signature) : Bool :=
  sig.kind == .aggregate

def accepts (sig : Signature) (arity : Nat) : Bool :=
  sig.minArgs.toNat ≤ arity && sig.maxArgs.all fun most => arity ≤ most.toNat

def arityText (sig : Signature) : String :=
  match sig.maxArgs with
  | some most =>
    if most = sig.minArgs then toString most.toNat
    else toString sig.minArgs.toNat ++ "..=" ++ toString most.toNat
  | none => String.join ["at least ", toString sig.minArgs.toNat]

end Signature

inductive FunctionError where
  | notFound (name : String)
  /-- The text `expected` says how many arguments the function takes. -/
  | arity (func expected : String) (actual : Nat)
deriving DecidableEq

def FunctionError.message : FunctionError → String
  | .notFound name => String.join ["Function not found: ", name]
  | .arity func expected actual =>
    String.join ["Function ", func, " takes ", expected, " argument(s), got ", toString actual]

structure FunctionTable where
  signatures : List Signature
deriving DecidableEq

namespace FunctionTable

def register (t : FunctionTable) (sig : Signature) : FunctionTable :=
  ⟨sig :: t.signatures.filter (·.name != sig.name)⟩

def remove (t : FunctionTable) (name : String) : FunctionTable :=
  ⟨t.signatures.filter (·.name != name)⟩

def get? (t : FunctionTable) (name : String) : Option Signature :=
  t.signatures.find? (·.name == name)

def lookup (t : FunctionTable) (name : String) (arity : Nat) : Except FunctionError Signature :=
  match t.get? name with
  | none => .error (.notFound name)
  | some sig => if sig.accepts arity then .ok sig else .error (.arity name sig.arityText arity)

def isWindow (t : FunctionTable) (name : String) : Bool :=
  (t.get? name).any (·.isWindow)

def insertName (name : String) : List String → List String
  | [] => [name]
  | n :: ns => if name ≤ n then name :: n :: ns else n :: insertName name ns

/-- Names of the window functions, in the order of their code points. -/
def windowNames (t : FunctionTable) : List String :=
  ((t.signatures.filter (·.isWindow)).map (·.name)).foldr insertName []

end FunctionTable
end LayeredSql
