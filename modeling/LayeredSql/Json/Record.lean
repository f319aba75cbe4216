import LayeredSql.Json.Basic

namespace LayeredSql.Json

/-- The fields of a record that are present; `positional` if they came as an array. -/
structure Record where
  positional : Bool
  fields : List (String × Json)

/-- Members under other names are ignored, but none of `names` may be repeated; an array may stop
early and may not go on. -/
def record? (names : List String) : Json → Option Record
  | .object members =>
    let fields := members.filter fun m => names.contains m.1
    if (fields.map (·.1)).Nodup then some ⟨false, fields⟩ else none
  | .array items => if items.length ≤ names.length then some ⟨true, names.zip items⟩ else none
  | _ => none

namespace Record

def get? (r : Record) (name : String) : Option Json :=
  (r.fields.find? (·.1 == name)).map (·.2)

def required (r : Record) (name : String) (decode : Json → Option α) : Option α :=
  (r.get? name).bind decode

/-- May be left out, and then is `fallback`; null is no way of leaving it out. -/
def defaulting (r : Record) (name : String) (fallback : α) (decode : Json → Option α) : Option α :=
  match r.get? name with
  | none => some fallback
  | some v => decode v

def optional (r : Record) (name : String) (decode : Json → Option α) : Option (Option α) :=
  match r.get? name with
  | none => some none
  | some .null => some none
  | some v => (decode v).map some

/-- May be null, and in an object may be left out. -/
def nullable (r : Record) (name : String) (decode : Json → Option α) : Option (Option α) :=
  if r.positional && (r.get? name).isNone then none else r.optional name decode

end Record

def tagged? (key : String) : Json → Option (String × Json)
  | .object members =>
    match members.filter (·.1 == key) with
    | [(_, .string tag)] => some (tag, .object (members.filter (·.1 != key)))
    | _ => none
  | .array (.string tag :: items) => some (tag, .array items)
  | _ => none

/-- A bare name, alone or as the only member of an object, with null. -/
def unitName? : Json → Option String
  | .string name => some name
  | .object [(name, .null)] => some name
  | _ => none

def string? : Json → Option String
  | .string s => some s
  | _ => none

def bool? : Json → Option Bool
  | .bool b => some b
  | _ => none

def natBelow? (bound : Nat) : Json → Option Nat
  | .int n => if 0 ≤ n ∧ n < bound then some n.toNat else none
  | _ => none

def uint8? (v : Json) : Option UInt8 :=
  (v.natBelow? UInt8.size).map UInt8.ofNat

def uint32? (v : Json) : Option UInt32 :=
  (v.natBelow? UInt32.size).map UInt32.ofNat

def uint64? (v : Json) : Option UInt64 :=
  (v.natBelow? UInt64.size).map UInt64.ofNat

def list? (decode : Json → Option α) : Json → Option (List α)
  | .array items => items.mapM decode
  | _ => none

def strings? : Json → Option (List String) :=
  list? string?

def memberIf (present : Bool) (key : String) (value : Json) : List (String × Json) :=
  if present then [(key, value)] else []

def optionalMember (key : String) (encode : α → Json) : Option α → List (String × Json)
  | none => []
  | some a => [(key, encode a)]

def ofOption (encode : α → Json) : Option α → Json
  | none => .null
  | some a => encode a

end LayeredSql.Json
