namespace LayeredSql

inductive Yaml.Style where
  | plain
  | quoted
  | literal
  | folded
deriving DecidableEq

inductive Yaml where
  | scalar (style : Yaml.Style) (tag : Option String) (text : String)
  | sequence (items : List Yaml)
  | mapping (members : List (Yaml × Yaml))
  | anchored (anchor : Nat) (node : Yaml)
  | alias (anchor : Nat)

namespace Yaml

def nothing : Yaml := .scalar .plain none ""

mutual

def anchors : Yaml → List (Nat × Yaml)
  | .scalar _ _ _ => []
  | .sequence items => itemAnchors items
  | .mapping members => memberAnchors members
  | .anchored n v => (n, v) :: v.anchors
  | .alias _ => []

def itemAnchors : List Yaml → List (Nat × Yaml)
  | [] => []
  | v :: vs => v.anchors ++ itemAnchors vs

def memberAnchors : List (Yaml × Yaml) → List (Nat × Yaml)
  | [] => []
  | (k, v) :: ms => k.anchors ++ v.anchors ++ memberAnchors ms

end

/-- The node that is meant within the document `root`: for an alias the last one with its anchor,
wherever it stands. -/
def resolve (root : Yaml) : Yaml → Option Yaml
  | .alias n => (root.anchors.reverse.find? (·.1 == n)).map (·.2)
  | .anchored _ v => some v
  | v => some v

def string? (root v : Yaml) : Option String :=
  match resolve root v with
  | some (.scalar _ _ text) => some text
  | _ => none

/-- The fields of a record. Every key has to be a text; members under other names are ignored, and
nothing at all is a record without fields. -/
def record? (root : Yaml) (names : List String) (v : Yaml) : Option (List (String × Yaml)) :=
  match resolve root v with
  | some (.mapping members) => do
    let named ← members.mapM fun m => (string? root m.1).map (·, m.2)
    let fields := named.filter fun m => names.contains m.1
    if (fields.map (·.1)).Nodup then some fields else none
  | some (.scalar .plain _ "") => some []
  | _ => none

def fieldOr (fields : List (String × Yaml)) (name : String) (fallback : α)
    (decode : Yaml → Option α) : Option α :=
  match fields.find? (·.1 == name) with
  | none => some fallback
  | some (_, v) => decode v

def boolTag : String := "tag:yaml.org,2002:bool"

/-- A truth value is written bare, or as a literal block that says by its tag that it is one. -/
def bool? (root v : Yaml) : Option Bool :=
  match resolve root v with
  | some (.scalar style tag text) =>
    if style = .plain || (style = .literal && tag = some boolTag) then
      if text ∈ ["true", "True", "TRUE"] then some true
      else if text ∈ ["false", "False", "FALSE"] then some false
      else none
    else none
  | _ => none

end Yaml
end LayeredSql
