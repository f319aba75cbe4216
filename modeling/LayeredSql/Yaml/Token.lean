import LayeredSql.Yaml.Basic
import LayeredSql.Yaml.Place

namespace LayeredSql.Yaml

inductive Token where
  | directive
  | documentStart
  | documentEnd
  | blockSequence
  | blockMapping
  /-- The end of a block, which its indentation shows. -/
  | blockEnd
  | openBracket
  | closeBracket
  | openBrace
  | closeBrace
  | dash
  | comma
  /-- A key follows. -/
  | key
  | colon
  | alias (anchor : Nat)
  | anchor (anchor : Nat)
  | tag (name : String)
  | scalar (style : Style) (text : String)
deriving DecidableEq

structure Scope where
  /-- The version of the language has been stated. -/
  versioned : Bool
  handles : List (String × String)
  anchors : List (String × Nat)

def Scope.empty : Scope := ⟨false, [], []⟩

def anchorName? (ps : List Place) : Option (String × List Place) :=
  let (name, rest) := word ps
  let ends := endsWord rest
    || (nextChar? rest).any ['?', ':', ',', ']', '\x7d', '%', '@', '\x60'].contains
  if name != "" && ends then some (name, rest) else none

def Scope.anchor? (s : Scope) (name : String) : Option Nat :=
  (s.anchors.find? (·.1 == name)).map (·.2)

/-- A new anchor gets the number of names known before it. A name that is given again changes its
number but not the number of names, so that anchors may come to share one. -/
def Scope.newAnchor (s : Scope) (name : String) : Nat × Scope :=
  let n := s.anchors.length
  (n, { s with anchors := (name, n) :: s.anchors.filter (·.1 != name) })

def tagMarks : List Char :=
  [';', '/', '?', ':', '@', '&', '=', '+', '$', '.', '!', '~', '*', '\x27', '(', ')']

/-- A tag that is spelt in `full` may hold commas and brackets too. -/
def isTagChar (full : Bool) (c : Char) : Bool :=
  isWordChar c || tagMarks.contains c || (full && (c = ',' || c = '[' || c = ']'))

def octetsAfter? (octet : Nat) : Option Nat :=
  if octet < 0x80 then some 0
  else if octet < 0xc0 then none
  else if octet < 0xe0 then some 1
  else if octet < 0xf0 then some 2
  else if octet < 0xf8 then some 3
  else none

/-- The octets of a tag, a percent sign and two digits for any of them. So many `due` ones have to
follow to complete a character, and the next `skip` places are digits of the last one. -/
def tagOctets? (full : Bool) : Nat → Nat → List Place → Option (List Char × List Place)
  | due, _, [] => if due = 0 then some ([], []) else none
  | due, skip + 1, _ :: ps => tagOctets? full due skip ps
  | due, 0, p :: ps =>
    if p.char = '%' then do
      let octet ← hexNumber? 2 ps
      let due ←
        if due = 0 then octetsAfter? octet
        else if octet / 0x40 = 2 then some (due - 1)
        else none
      let (octets, rest) ← tagOctets? full due 2 ps
      return (Char.ofNat octet :: octets, rest)
    else if due != 0 then none
    else if isTagChar full p.char then
      (tagOctets? full 0 0 ps).map fun (octets, rest) => (p.char :: octets, rest)
    else some ([], p :: ps)

/-- What octets write, a zero after the last of them being understood. -/
def octetText (octets : List Char) : String :=
  String.ofList (octets.takeWhile (· != '\x00'))

def tagText? (full : Bool) (ps : List Place) : Option (String × List Place) :=
  match tagOctets? full 0 0 ps with
  | none | some ([], _) => none
  | some (octets, rest) => some (octetText octets, rest)

structure TagName where
  handle : Option String
  text : String

def tagName? (flow : Bool) (ps : List Place) : Option (TagName × List Place) := do
  let (name, rest) ←
    if nextChar? ps = some '<' then do
      let (text, rest) ← tagText? true (ps.drop 1)
      if nextChar? rest = some '>' then some (⟨none, text⟩, rest.drop 1) else none
    else
      let (handle, rest) := word ps
      if nextChar? rest = some '!' then
        (tagText? false (rest.drop 1)).map fun (text, rest) =>
          (⟨some (String.join ["!", handle, "!"]), text⟩, rest)
      else
        (tagOctets? false 0 0 ps).map fun (octets, rest) => (⟨some "!", octetText octets⟩, rest)
  if endsWord rest || (flow && nextChar? rest = some ',') then some (name, rest) else none

def standardHandles : List (String × String) :=
  [("!", "!"), ("!!", "tag:yaml.org,2002:")]

def Scope.tag? (s : Scope) (name : TagName) : Option String :=
  match name.handle with
  | none => some name.text
  | some handle =>
    ((s.handles ++ standardHandles).find? (·.1 == handle)).map fun h => h.2 ++ name.text

def number? (ps : List Place) : Option (Nat × List Place) :=
  let digits := ps.takeWhile fun p => p.char.isDigit
  if digits.isEmpty || 9 < digits.length then none
  else
    some (digits.foldl (fun n p => 10 * n + (p.char.toNat - 48)) 0,
      ps.dropWhile fun p => p.char.isDigit)

def Scope.stateVersion? (s : Scope) (ps : List Place) : Option (Scope × List Place) := do
  let (major, ps) ← number? ps
  let (minor, rest) ← if nextChar? ps = some '.' then number? (ps.drop 1) else none
  if s.versioned || major != 1 || (minor != 1 && minor != 2) then none
  else some ({ s with versioned := true }, rest)

def Scope.addHandle? (s : Scope) (ps : List Place) : Option (Scope × List Place) := do
  let (name, rest) ← if nextChar? ps = some '!' then some (word (ps.drop 1)) else none
  let (handle, rest) ←
    if nextChar? rest = some '!' then some (String.join ["!", name, "!"], rest.drop 1)
    else if name = "" then some ("!", rest)
    else none
  let (text, after) ←
    if (nextChar? rest).any isBlank then tagText? true (dropBlanks rest) else none
  if !endsWord after || s.handles.any (·.1 == handle) then none
  else some ({ s with handles := (handle, text) :: s.handles }, after)

def Scope.directive? (s : Scope) (ps : List Place) : Option (Scope × List Place) := do
  let (name, rest) := word ps
  let (s, rest) ←
    if !endsWord rest then none
    else if name = "YAML" then s.stateVersion? (dropBlanks rest)
    else if name = "TAG" then s.addHandle? (dropBlanks rest)
    else none
  let rest ← nextLine? rest
  return (s, rest)

end LayeredSql.Yaml
