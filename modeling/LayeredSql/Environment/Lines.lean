import LayeredSql.Environment.Basic
import LayeredSql.Text.Alphanumeric
import LayeredSql.Text.Blank

namespace LayeredSql.Environment

inductive Quoting where
  | bare
  | blank
  | escape
  | weak
  | weakEscape
  | strong
  | strongEscape
deriving DecidableEq

def Quoting.open (c : Char) : Quoting :=
  if c = '\\' then .escape else if c = '\x22' then .weak else if c = '\x27' then .strong else .bare

/-- A number sign after a blank, outside quotes, starts a comment: there is no next state. -/
def Quoting.next : Quoting → Char → Option Quoting
  | .bare, c =>
    if Text.isBlank c && c != '\n' && c != '\r' then some .blank else some (Quoting.open c)
  | .blank, c => if c = '#' then none else some (Quoting.open c)
  | .escape, _ => some .bare
  | .weak, c => some (if c = '\\' then .weakEscape else if c = '\x22' then .bare else .weak)
  | .weakEscape, _ => some .weak
  | .strong, c => some (if c = '\\' then .strongEscape else if c = '\x27' then .bare else .strong)
  | .strongEscape, _ => some .strong

/-- The line up to its comment, and the state at its end unless there is one. -/
def scanLine (q : Quoting) : List Char → List Char × Option Quoting
  | [] => ([], some q)
  | c :: cs =>
    match q.next c with
    | none => ([], none)
    | some q' =>
      let (taken, state) := scanLine q' cs
      (c :: taken, state)

def withoutLineEnd (cs : List Char) : List Char :=
  match cs.reverse with
  | '\n' :: '\r' :: rest => rest.reverse
  | '\n' :: rest => rest.reverse
  | _ => cs

/-- Lines with their line ends. -/
def splitLines (line : List Char) : List Char → List (List Char)
  | [] => if line.isEmpty then [] else [line.reverse]
  | c :: cs =>
    if c = '\n' then (c :: line).reverse :: splitLines [] cs else splitLines (c :: line) cs

/-- Joins lines as long as quotes are open; `pending` are those joined so far. What is open at the
end of the text is dropped. -/
def joinLines (pending : List Char) (q : Quoting) : List (List Char) → List (List Char)
  | [] => []
  | line :: lines =>
    if (Text.trimStart (pending ++ line)).head? = some '#' then joinLines [] .bare lines
    else
      match scanLine q line with
      | (taken, none) => (pending ++ taken) :: joinLines [] .bare lines
      | (taken, some .bare) => withoutLineEnd (pending ++ taken) :: joinLines [] .bare lines
      | (taken, some q') => joinLines (pending ++ taken) q' lines

/-- Names are ASCII: letters, digits, underscores and points, with no digit or point in front. -/
def isNameStart (c : Char) : Bool :=
  c.isAlpha || c = '_'

def isNamePart (c : Char) : Bool :=
  c.isAlphanum || c = '_' || c = '.'

def readName (cs : List Char) : Option (List Char × List Char) :=
  match cs with
  | [] => none
  | c :: _ =>
    if isNameStart c then some (cs.takeWhile isNamePart, cs.dropWhile isNamePart) else none

def afterEquals : List Char → Option (List Char)
  | '=' :: cs => some cs
  | _ => none

def referenced (env : Environment) (name : List Char) : List Char :=
  match env (String.ofList name.reverse) with
  | some value => value.toList
  | none => []

def escaped? (c : Char) : Option Char :=
  if c = 'n' then some '\n'
  else if c ∈ ['\\', '\x27', '\x22', '$', ' '] then some c
  else none

/-- After the value there may be blanks and a comment. -/
def endsValue : List Char → Bool
  | [] => true
  | c :: cs => c = '#' || ((c = ' ' || c = '\t') && endsValue cs)

mutual

/-- A value outside quotes, or with `weak` inside double quotes. -/
def value (env : Environment) (weak : Bool) : List Char → Option (List Char)
  | [] => if weak then none else some []
  | '\\' :: [] => if weak then none else some []
  | '\\' :: e :: cs => do
    let c ← escaped? e
    let rest ← value env weak cs
    return c :: rest
  | c :: cs =>
    if c = '$' then reference env weak [] cs
    else if c = '\x22' then value env (!weak) cs
    else if weak then (value env true cs).map (c :: ·)
    else if c = '\x27' then strongValue env cs
    else if c = ' ' || c = '\t' then (if endsValue cs then some [] else none)
    else (value env false cs).map (c :: ·)

def strongValue (env : Environment) : List Char → Option (List Char)
  | [] => none
  | c :: cs => if c = '\x27' then value env false cs else (strongValue env cs).map (c :: ·)

/-- The name after a dollar sign: letters and digits, or anything in braces. The character after a
bare name stands for itself. -/
def reference (env : Environment) (weak : Bool) (name : List Char) :
    List Char → Option (List Char)
  | [] => if weak then none else some (referenced env name)
  | c :: cs =>
    if Text.isAlphanumeric c then reference env weak (c :: name) cs
    else if c = '\x7b' && name.isEmpty then bracedReference env weak [] cs
    else if c = '$' then (reference env weak [] cs).map (referenced env name ++ ·)
    else (value env weak cs).map fun rest => referenced env name ++ c :: rest

def bracedReference (env : Environment) (weak : Bool) (name : List Char) :
    List Char → Option (List Char)
  | [] => none
  | c :: cs =>
    if c = '\x7d' then (value env weak cs).map (referenced env name ++ ·)
    else bracedReference env weak (c :: name) cs

end

inductive Assignment where
  | nothing
  | set (name value : String)

def readTarget (cs : List Char) : Option (List Char × List Char) := do
  let (name, rest) ← readName cs
  let rest := Text.trimStart rest
  match afterEquals rest with
  | some rest => return (name, rest)
  | none =>
    if name = "export".toList then
      let (name, rest) ← readName rest
      let rest ← afterEquals (Text.trimStart rest)
      return (name, rest)
    else none

def readLine (env : Environment) (line : List Char) : Option Assignment := do
  let cs := Text.trimStart (Text.trimEnd line)
  match cs with
  | [] => return .nothing
  | '#' :: _ => return .nothing
  | cs =>
    let (name, rest) ← readTarget cs
    match Text.trimStart rest with
    | [] => return .set (String.ofList name) ""
    | '#' :: _ => return .set (String.ofList name) ""
    | rest =>
      let v ← value env false rest
      return .set (String.ofList name) (String.ofList v)

def assignLines (env : Environment) : List (List Char) → Environment
  | [] => env
  | line :: lines =>
    match readLine env line with
    | none => env
    | some .nothing => assignLines env lines
    | some (.set name v) => assignLines (env.setDefault name v) lines

def withoutMark : List Char → List Char
  | '\ufeff' :: cs => cs
  | cs => cs

def assign (env : Environment) (text : String) : Environment :=
  assignLines env (joinLines [] .bare (splitLines [] (withoutMark text.toList)))

end LayeredSql.Environment
