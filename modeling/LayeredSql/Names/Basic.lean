namespace LayeredSql

structure ColumnRename where
  source : String
  target : String
deriving DecidableEq

def ColumnRename.isIdentity (r : ColumnRename) : Bool :=
  r.source == r.target

def ColumnRename.keep (name : String) : ColumnRename :=
  ⟨name, name⟩

inductive NameError where
  /-- A name that is none of the columns at hand. -/
  | unknownColumn (name : String) (available : List String)
  /-- Names that would stand twice in a column list. -/
  | duplicate (names : List String)
deriving DecidableEq

namespace Names

def requireColumn (vars : List String) (name : String) : Except NameError Unit :=
  if name ∈ vars then .ok () else .error (.unknownColumn name vars)

/-- The first of `names` that is no column decides the error. -/
def requireAll (vars : List String) : List String → Except NameError Unit
  | [] => .ok ()
  | name :: names => do
    requireColumn vars name
    requireAll vars names

/-- The names whose second occurrence is met in a list, `seen` being what came before it. -/
def repeatedAfter (seen : List String) : List String → List String
  | [] => []
  | name :: names =>
    if seen.count name = 1 then name :: repeatedAfter (name :: seen) names
    else repeatedAfter (name :: seen) names

/-- Every name that occurs more than once, once each, in the order of the second occurrences. -/
def repeated (names : List String) : List String :=
  repeatedAfter [] names

def requireDistinct (names : List String) : Except NameError Unit :=
  match repeated names with
  | [] => .ok ()
  | dups => .error (.duplicate dups)

/-- The target of the first rename of `name`, or `name` itself. -/
def renamed (renames : List ColumnRename) (name : String) : String :=
  ((renames.find? (·.source == name)).map (·.target)).getD name

/-- Grouping variables nobody asked for come first, in grouping order; what was asked for follows
in the order asked. -/
def resolveSelect (vars : List String) (requested : List ColumnRename) (groups : List String) :
    Except NameError (List ColumnRename) := do
  requireAll vars (requested.map (·.source))
  let kept := groups.filter fun g => !requested.any (·.source == g)
  let mapping := kept.map .keep ++ requested
  requireDistinct (mapping.map (·.target))
  return mapping

def resolveRename (vars : List String) (renames : List ColumnRename) :
    Except NameError (List ColumnRename) := do
  requireAll vars (renames.map (·.source))
  requireDistinct (renames.map (·.source))
  let mapping := vars.map fun v => ⟨v, renamed renames v⟩
  requireDistinct (mapping.map (·.target))
  return mapping

end Names
end LayeredSql
