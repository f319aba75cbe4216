import LayeredSql.Yaml.Block
import LayeredSql.Yaml.Token

namespace LayeredSql.Yaml

/-- Something that may turn out to be a key. -/
structure Candidate where
  line : Nat
  column : Nat
  /-- How many tokens come before it. -/
  position : Nat
  /-- Nothing but a key can stand there. -/
  required : Bool

structure Layout where
  scope : Scope
  /-- The tokens so far, the last first. -/
  tokens : List Token
  /-- The columns of the open blocks, the innermost first. -/
  indentations : List Nat
  candidate : Option Candidate
  /-- The candidates outside of each open bracket, the innermost first. -/
  outer : List (Option Candidate)
  keyAllowed : Bool

namespace Layout

def start : Layout := ⟨.empty, [], [], none, [], true⟩

def flow (l : Layout) : Bool :=
  !l.outer.isEmpty

def least (l : Layout) : Nat :=
  match l.indentations with
  | [] => 0
  | column :: _ => column + 1

def add (l : Layout) (t : Token) : Layout :=
  { l with tokens := t :: l.tokens }

/-- Puts tokens, the last first, before those that came after the first `position` ones. -/
def insert (l : Layout) (position : Nat) (ts : List Token) : Layout :=
  let after := l.tokens.length - position
  { l with tokens := l.tokens.take after ++ ts ++ l.tokens.drop after }

def closeBlocks (l : Layout) (column : Nat) : Layout :=
  if l.flow then l
  else
    let inner := l.indentations.takeWhile (column < ·)
    { l with
      tokens := inner.map (fun _ => .blockEnd) ++ l.tokens
      indentations := l.indentations.drop inner.length }

def closeAll (l : Layout) : Layout :=
  if l.flow then l
  else
    { l with
      tokens := l.indentations.map (fun _ => .blockEnd) ++ l.tokens
      indentations := [] }

/-- Before a token at `column`, which is the first of a block if it is indented more than the
innermost one. -/
def openBlock (l : Layout) (column position : Nat) (block : Token) : Layout :=
  if l.flow || column < l.least then l
  else { l.insert position [block] with indentations := column :: l.indentations }

/-- Begins a block where a key is allowed; brackets need none. -/
def begin? (l : Layout) (p : Place) (block : Token) : Option Layout :=
  if l.flow then some l
  else if l.keyAllowed then some (l.openBlock p.column l.tokens.length block)
  else none

/-- The candidate is no key, which is wrong if only a key can stand there. -/
def dropCandidate? (l : Layout) : Option Layout :=
  if l.candidate.any (·.required) then none else some { l with candidate := none }

def survivor? (p : Place) : Option Candidate → Option (Option Candidate)
  | none => some none
  | some c =>
    if c.line = p.line && p.column ≤ c.column + 1024 then some (some c)
    else if c.required then none
    else some none

def dropStale? (l : Layout) (p : Place) : Option Layout := do
  let candidate ← survivor? p l.candidate
  let outer ← l.outer.mapM (survivor? p)
  return { l with candidate, outer }

/-- What begins at `p` may be a key. Where a line of a block begins it has to be one. -/
def noteCandidate? (l : Layout) (p : Place) : Option Layout :=
  if l.keyAllowed then do
    let l ← l.dropCandidate?
    let required := !l.flow && l.indentations.head? = some p.column
    return { l with candidate := some ⟨p.line, p.column, l.tokens.length, required⟩ }
  else some l

def endDocument? (l : Layout) : Option Layout :=
  (l.closeAll.dropCandidate?).map fun l => { l with keyAllowed := false }

def openFlow? (l : Layout) (p : Place) (bracket : Token) : Option Layout := do
  let l ← l.noteCandidate? p
  let l := { l with candidate := none, outer := l.candidate :: l.outer, keyAllowed := true }
  return l.add bracket

def closeFlow? (l : Layout) (bracket : Token) : Option Layout := do
  let l ← l.dropCandidate?
  let l := { l with candidate := l.outer.head?.join, outer := l.outer.tail, keyAllowed := false }
  return l.add bracket

def comma? (l : Layout) : Option Layout := do
  let l ← l.dropCandidate?
  return { l with keyAllowed := true }.add .comma

def dash? (l : Layout) (p : Place) : Option Layout := do
  let l ← l.begin? p .blockSequence
  let l ← l.dropCandidate?
  return { l with keyAllowed := true }.add .dash

def question? (l : Layout) (p : Place) : Option Layout := do
  let l ← l.begin? p .blockMapping
  let l ← l.dropCandidate?
  return { l with keyAllowed := !l.flow }.add .key

/-- A colon: the candidate is a key after all. Without one the key before it had a question mark. -/
def colon? (l : Layout) (p : Place) : Option Layout :=
  match l.candidate with
  | some c =>
    let l := (l.insert c.position [.key]).openBlock c.column c.position .blockMapping
    some ({ l with candidate := none, keyAllowed := false }.add .colon)
  | none => do
    let l ← l.begin? p .blockMapping
    return { l with keyAllowed := !l.flow }.add .colon

def scalar (l : Layout) (style : Style) (pieces : List Piece) : Layout :=
  l.add (.scalar style (foldText pieces))

/-- What may be a key: an alias, an anchor, a tag, or a scalar that is no block. -/
def content? (l : Layout) (p : Place) (ps : List Place) : Option (Layout × List Place) :=
  if p.char = '*' then do
    let (name, rest) ← anchorName? ps
    let n ← l.scope.anchor? name
    return (l.add (.alias n), rest)
  else if p.char = '&' then do
    let (name, rest) ← anchorName? ps
    let (n, scope) := l.scope.newAnchor name
    return ({ l with scope }.add (.anchor n), rest)
  else if p.char = '!' then do
    let (name, rest) ← tagName? l.flow ps
    let tag ← l.scope.tag? name
    return (l.add (.tag tag), rest)
  else if p.char = '\x27' then
    (singlePieces false ps).map fun (pieces, rest) => (l.scalar .quoted pieces, rest)
  else if p.char = '\x22' then
    (doublePieces 0 ps).map fun (pieces, rest) => (l.scalar .quoted pieces, rest)
  else if startsPlain l.flow p.char ps then
    (plainPieces l.flow l.least .word (p :: ps)).map fun (pieces, spacing, rest) =>
      ({ l with keyAllowed := spacing = Spacing.newLine }.scalar .plain (trimEnd pieces), rest)
  else none

def block? (l : Layout) (style : Style) (ps : List Place) : Option (Layout × List Place) := do
  let l ← l.dropCandidate?
  let (text, rest) ← blockText? (style = .folded) l.least ps
  return ({ l with keyAllowed := true }.add (.scalar style text), rest)

def token? (l : Layout) (p : Place) (ps : List Place) : Option (Layout × List Place) :=
  if p.char = '%' && p.column = 0 then do
    let l ← l.endDocument?
    let (scope, rest) ← l.scope.directive? ps
    return ({ l with scope }.add .directive, rest)
  else if startsLineWith '-' (p :: ps) then
    l.endDocument?.map fun l => (l.add .documentStart, ps.drop 2)
  else if startsLineWith '.' (p :: ps) then
    l.endDocument?.map fun l => (l.add .documentEnd, ps.drop 2)
  else if p.char = '[' then (l.openFlow? p .openBracket).map (·, ps)
  else if p.char = '\x7b' then (l.openFlow? p .openBrace).map (·, ps)
  else if p.char = ']' then (l.closeFlow? .closeBracket).map (·, ps)
  else if p.char = '\x7d' then (l.closeFlow? .closeBrace).map (·, ps)
  else if p.char = ',' then l.comma?.map (·, ps)
  else if p.char = '-' && endsWord ps then (l.dash? p).map (·, ps)
  else if p.char = '?' && (l.flow || endsWord ps) then (l.question? p).map (·, ps)
  else if p.char = ':' && (l.flow || endsWord ps) then (l.colon? p).map (·, ps)
  else if p.char = '|' && !l.flow then l.block? .literal ps
  else if p.char = '>' && !l.flow then l.block? .folded ps
  else do
    let l ← l.noteCandidate? p
    content? { l with keyAllowed := false } p ps

/-- Passes over blanks, comments and line ends, and tells whether a key is allowed after them. A tab
is no blank where a key may stand outside of brackets. A byte order mark may begin a line. -/
def gap (flow keyAllowed comment : Bool) : List Place → Bool × List Place
  | [] => (keyAllowed, [])
  | p :: ps =>
    if isLineEnd p.char then gap flow (keyAllowed || !flow) false ps
    else if comment || p.char = '#' then gap flow keyAllowed true ps
    else if p.char = ' ' || (p.char = '\t' && (flow || !keyAllowed))
        || (p.char = '\ufeff' && p.column = 0) then
      gap flow keyAllowed false ps
    else (keyAllowed, p :: ps)

def finish? : Nat → Layout → List Place → Option Layout
  | 0, _, _ => none
  | fuel + 1, l, ps =>
    match gap l.flow l.keyAllowed false ps with
    | (_, []) => l.dropCandidate?.map closeAll
    | (keyAllowed, p :: ps) => do
      let l ← { l with keyAllowed }.dropStale? p
      let (l, rest) ← (l.closeBlocks p.column).token? p ps
      finish? fuel l rest

end Layout

def tokens? (ps : List Place) : Option (List Token) :=
  (Layout.start.finish? (ps.length + 1) ps).map fun l => l.tokens.reverse

end LayeredSql.Yaml
