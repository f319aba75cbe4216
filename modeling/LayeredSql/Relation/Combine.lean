import LayeredSql.Relation.Basic

namespace LayeredSql.Relation

/-- The keys must be columns of their sides; the first that is not decides the error. -/
def checkKeys (verb : Verb) (l r : Relation) : List KeyPair → Except BuildError Unit
  | [] => .ok ()
  | key :: keys => do
    namesChecked verb (Names.requireColumn l.vars key.left)
    namesChecked verb (Names.requireColumn r.vars key.right)
    checkKeys verb l r keys

def renameSide (r : Relation) (verb : Verb) (d : Dialect) (renames : List ColumnRename) :
    Except BuildError Relation :=
  if renames.isEmpty then .ok r else r.rename verb d renames

def join (l r : Relation) (d : Dialect) (kind : JoinKind) (keys : List KeyPair)
    (suffixes : Suffixes) : Except BuildError Relation := do
  checkKeys .join l r keys
  if kind = .full then sqlChecked .join (d.require .fullJoin)
  let plan ← namesChecked .join (Names.disambiguate l.vars r.vars keys suffixes)
  let left ← l.renameSide .join d plan.left
  let right ← r.renameSide .join d plan.right
  let on := plan.remapKeys keys
  return ⟨.join left.query right.query kind on, Names.joinColumns left.vars right.vars on,
    left.groups, []⟩

def semiJoin (l r : Relation) (anti : Bool) (keys : List KeyPair) :
    Except BuildError Relation := do
  checkKeys .semiJoin l r keys
  return ⟨.semiJoin l.query r.query anti keys, l.vars, l.groups, []⟩

/-- Brings the relation to the columns `vars`, with NULL for those that it lacks. -/
def align (r : Relation) (verb : Verb) (d : Dialect) (vars : List String) :
    Except BuildError Relation := do
  if r.vars = vars then return r
  let null ← sqlChecked verb ((r.scope d .derivation).render (.literal .null))
  let item (v : String) : SelectItem := if v ∈ r.vars then columnItem d v else ⟨null, some v⟩
  return ⟨.select r.query { items := vars.map item }, vars, [], []⟩

/-- Set operations pair columns by position, so both sides are brought to one list of columns. -/
def setOp (l r : Relation) (d : Dialect) (kind : SetKind) : Except BuildError Relation := do
  sqlChecked .setOp (d.require (.setOp kind))
  let vars := l.vars ++ r.vars.filter fun v => !l.vars.contains v
  let left ← l.align .setOp d vars
  let right ← r.align .setOp d vars
  return ⟨.setOp left.query right.query kind, vars, [], []⟩

end LayeredSql.Relation
