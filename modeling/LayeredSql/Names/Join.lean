import LayeredSql.Names.Basic

namespace LayeredSql

structure KeyPair where
  left : String
  right : String
deriving DecidableEq

def KeyPair.isShared (key : KeyPair) : Bool :=
  key.left == key.right

structure Suffixes where
  left : String
  right : String
deriving DecidableEq

def Suffixes.standard : Suffixes := ⟨"_x", "_y"⟩

structure Disambiguation where
  left : List ColumnRename
  right : List ColumnRename
deriving DecidableEq

namespace Names

def isSharedKey (keys : List KeyPair) (name : String) : Bool :=
  keys.any fun key => key.isShared && key.left == name

/-- Left columns that the right side has too, other than shared keys. -/
def collisions (left right : List String) (keys : List KeyPair) : List String :=
  left.filter fun v => right.contains v && !isSharedKey keys v

/-- An empty suffix leaves its side alone. -/
def suffixed (names : List String) (suffix : String) : List ColumnRename :=
  if suffix.isEmpty then [] else names.map fun v => ⟨v, v ++ suffix⟩

/-- The left columns, then the right columns without the copies of shared keys. -/
def joinColumns (left right : List String) (keys : List KeyPair) : List String :=
  left ++ right.filter fun v => !isSharedKey keys v

/-- Suffixes on every collision; refused if a name still stands twice among the columns of the
join. -/
def disambiguate (left right : List String) (keys : List KeyPair) (suffixes : Suffixes) :
    Except NameError Disambiguation := do
  let clashes := collisions left right keys
  let plan : Disambiguation := ⟨suffixed clashes suffixes.left, suffixed clashes suffixes.right⟩
  let leftOut := left.map (renamed plan.left)
  let rightOut := (right.filter fun v => !isSharedKey keys v).map (renamed plan.right)
  requireDistinct (leftOut ++ rightOut)
  return plan

end Names

def Disambiguation.isNoop (plan : Disambiguation) : Bool :=
  plan.left.isEmpty && plan.right.isEmpty

def Disambiguation.remapKeys (plan : Disambiguation) (keys : List KeyPair) : List KeyPair :=
  keys.map fun key => ⟨Names.renamed plan.left key.left, Names.renamed plan.right key.right⟩

end LayeredSql
