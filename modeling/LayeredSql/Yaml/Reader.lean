import LayeredSql.Yaml.Layout

namespace LayeredSql.Yaml

structure Properties where
  anchor : Option Nat
  tag : Option String

def Properties.read : List Token → Properties × List Token
  | .anchor n :: .tag t :: ts => (⟨some n, some t⟩, ts)
  | .tag t :: .anchor n :: ts => (⟨some n, some t⟩, ts)
  | .anchor n :: ts => (⟨some n, none⟩, ts)
  | .tag t :: ts => (⟨none, some t⟩, ts)
  | ts => (⟨none, none⟩, ts)

def Properties.attach (p : Properties) (v : Yaml) : Yaml :=
  match p.anchor with
  | none => v
  | some n => .anchored n v

def Properties.alone? (p : Properties) : Option Yaml :=
  if p.anchor.isSome || p.tag.isSome then some (.scalar .plain p.tag "") else none

def comesNext (stops : List Token) (ts : List Token) : Bool :=
  ts.head?.any stops.contains

/-- After a key and after the colon in a block mapping, these mean that nothing is written. -/
def afterKey : List Token :=
  [.key, .colon, .blockEnd]

mutual

/-- A node. The items of a sequence may be `flush` with the key that they belong to. -/
def node : Nat → Bool → List Token → Option (Yaml × List Token)
  | 0, _, _ => none
  | fuel + 1, flush, ts =>
    match ts with
    | .alias n :: ts => some (.alias n, ts)
    | ts =>
      let (properties, ts) := Properties.read ts
      (content fuel flush properties ts).map fun (v, ts) => (properties.attach v, ts)

def content : Nat → Bool → Properties → List Token → Option (Yaml × List Token)
  | 0, _, _, _ => none
  | fuel + 1, flush, properties, ts =>
    match ts with
    | .scalar style text :: ts => some (.scalar style properties.tag text, ts)
    | .openBracket :: ts => (flowItems fuel ts).map fun (vs, ts) => (.sequence vs, ts)
    | .openBrace :: ts => (flowMembers fuel ts).map fun (ms, ts) => (.mapping ms, ts)
    | .blockSequence :: ts => (blockItems fuel ts).map fun (vs, ts) => (.sequence vs, ts)
    | .blockMapping :: ts => (blockMembers fuel ts).map fun (ms, ts) => (.mapping ms, ts)
    | .dash :: _ =>
      if flush then (flushItems fuel ts).map fun (vs, ts) => (.sequence vs, ts)
      else properties.alone?.map (·, ts)
    | ts => properties.alone?.map (·, ts)

/-- A node, or nothing before one of the tokens `stops`. -/
def nodeBefore : Nat → Bool → List Token → List Token → Option (Yaml × List Token)
  | 0, _, _, _ => none
  | fuel + 1, flush, stops, ts =>
    if comesNext stops ts then some (.nothing, ts) else node fuel flush ts

def value : Nat → Bool → List Token → List Token → Option (Yaml × List Token)
  | 0, _, _, _ => none
  | fuel + 1, flush, stops, ts =>
    match ts with
    | .colon :: ts => nodeBefore fuel flush stops ts
    | ts => some (.nothing, ts)

def blockItems : Nat → List Token → Option (List Yaml × List Token)
  | 0, _ => none
  | fuel + 1, ts =>
    match ts with
    | .blockEnd :: ts => some ([], ts)
    | .dash :: ts => do
      let (v, ts) ← nodeBefore fuel false [.dash, .blockEnd] ts
      let (vs, ts) ← blockItems fuel ts
      return (v :: vs, ts)
    | _ => none

/-- Items without a block of their own end before the first token that is no dash. -/
def flushItems : Nat → List Token → Option (List Yaml × List Token)
  | 0, _ => none
  | fuel + 1, ts =>
    match ts with
    | .dash :: ts => do
      let (v, ts) ← nodeBefore fuel false (.dash :: afterKey) ts
      let (vs, ts) ← flushItems fuel ts
      return (v :: vs, ts)
    | ts => some ([], ts)

def blockMembers : Nat → List Token → Option (List (Yaml × Yaml) × List Token)
  | 0, _ => none
  | fuel + 1, ts =>
    match ts with
    | .blockEnd :: ts => some ([], ts)
    | .key :: ts => do
      let (k, ts) ← nodeBefore fuel true afterKey ts
      let (v, ts) ← value fuel true afterKey ts
      let (ms, ts) ← blockMembers fuel ts
      return ((k, v) :: ms, ts)
    | _ => none

/-- An item within brackets. A key makes it a mapping of one member; a key that is missing takes the
token in its place with it. -/
def flowItem : Nat → List Token → Option (Yaml × List Token)
  | 0, _ => none
  | fuel + 1, ts =>
    match ts with
    | .key :: ts => do
      let (k, ts) ←
        if comesNext [.colon, .comma, .closeBracket] ts then some (.nothing, ts.drop 1)
        else node fuel false ts
      let (v, ts) ← value fuel false [.comma, .closeBracket] ts
      return (.mapping [(k, v)], ts)
    | ts => node fuel false ts

def flowItems : Nat → List Token → Option (List Yaml × List Token)
  | 0, _ => none
  | fuel + 1, ts =>
    match ts with
    | .closeBracket :: ts => some ([], ts)
    | ts => do
      let (v, ts) ← flowItem fuel ts
      match ts with
      | .closeBracket :: ts => some ([v], ts)
      | .comma :: ts => (flowItems fuel ts).map fun (vs, ts) => (v :: vs, ts)
      | _ => none

/-- A member within braces. What is no key has nothing for its value. -/
def flowMember : Nat → List Token → Option ((Yaml × Yaml) × List Token)
  | 0, _ => none
  | fuel + 1, ts =>
    match ts with
    | .key :: ts => do
      let (k, ts) ← nodeBefore fuel false [.colon, .comma, .closeBrace] ts
      let (v, ts) ← value fuel false [.comma, .closeBrace] ts
      return ((k, v), ts)
    | ts => (node fuel false ts).map fun (k, ts) => ((k, .nothing), ts)

def flowMembers : Nat → List Token → Option (List (Yaml × Yaml) × List Token)
  | 0, _ => none
  | fuel + 1, ts =>
    match ts with
    | .closeBrace :: ts => some ([], ts)
    | ts => do
      let (m, ts) ← flowMember fuel ts
      match ts with
      | .closeBrace :: ts => some ([m], ts)
      | .comma :: ts => (flowMembers fuel ts).map fun (ms, ts) => (m :: ms, ts)
      | _ => none

end

/-- The first document, with the rest. Directives have to be followed by the line that starts it. -/
def document? (ts : List Token) : Option (Yaml × List Token) :=
  let fuel := 4 * ts.length + 4
  match ts with
  | [] => some (.nothing, [])
  | .directive :: _ | .documentStart :: _ =>
    match ts.dropWhile (· == .directive) with
    | .documentStart :: ts =>
      if ts.isEmpty || comesNext [.directive, .documentStart, .documentEnd] ts then
        some (.nothing, ts)
      else node fuel false ts
    | _ => none
  | ts => node fuel false ts

def read? (text : String) : Option Yaml := do
  let ts ← (places? text).bind tokens?
  let (v, rest) ← document? ts
  if rest.all (· == .documentEnd) then some v else none

end LayeredSql.Yaml
