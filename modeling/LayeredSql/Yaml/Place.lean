namespace LayeredSql.Yaml

structure Place where
  char : Char
  line : Nat
  column : Nat

def isBlank (c : Char) : Bool :=
  c = ' ' || c = '\t'

def isLineEnd (c : Char) : Bool :=
  c = '\n' || c = '\u2028' || c = '\u2029'

def isAllowed (c : Char) : Bool :=
  c = '\t' || c = '\n' || c = '\r' || (' ' ≤ c && c ≤ '~') || c = '\u0085'
    || ('\u00a0' ≤ c && c != '\ufffe' && c != '\uffff')

def unifyLineEnds : List Char → List Char
  | '\r' :: '\n' :: cs => '\n' :: unifyLineEnds cs
  | '\r' :: cs => '\n' :: unifyLineEnds cs
  | '\u0085' :: cs => '\n' :: unifyLineEnds cs
  | c :: cs => c :: unifyLineEnds cs
  | [] => []

def placesFrom (line column : Nat) : List Char → List Place
  | [] => []
  | c :: cs =>
    ⟨c, line, column⟩ ::
      if isLineEnd c then placesFrom (line + 1) 0 cs else placesFrom line (column + 1) cs

def places? (text : String) : Option (List Place) :=
  let cs := text.toList
  if cs.all isAllowed then some (placesFrom 0 0 (unifyLineEnds cs)) else none

def nextChar? (ps : List Place) : Option Char :=
  ps.head?.map Place.char

/-- The end of the text, a blank or a line end comes next. -/
def endsWord (ps : List Place) : Bool :=
  (nextChar? ps).all fun c => isBlank c || isLineEnd c

def startsLineWith (c : Char) : List Place → Bool
  | p :: q :: r :: ps =>
    p.column = 0 && p.char = c && q.char = c && r.char = c && endsWord ps
  | _ => false

/-- A word of three dashes or dots at the start of a line bounds a document. -/
def isMarker (ps : List Place) : Bool :=
  startsLineWith '-' ps || startsLineWith '.' ps

def dropBlanks (ps : List Place) : List Place :=
  ps.dropWhile fun p => isBlank p.char

def nextLine? (ps : List Place) : Option (List Place) :=
  let ps := dropBlanks ps
  let ps := if nextChar? ps = some '#' then ps.dropWhile fun p => !isLineEnd p.char else ps
  match ps with
  | [] => some []
  | p :: ps => if isLineEnd p.char then some ps else none

def isWordChar (c : Char) : Bool :=
  c.isAlphanum || c = '_' || c = '-'

def textOf (ps : List Place) : String :=
  String.ofList (ps.map Place.char)

def word (ps : List Place) : String × List Place :=
  (textOf (ps.takeWhile fun p => isWordChar p.char), ps.dropWhile fun p => isWordChar p.char)

def hexDigit? (c : Char) : Option Nat :=
  if '0' ≤ c ∧ c ≤ '9' then some (c.toNat - 48)
  else if 'a' ≤ c ∧ c ≤ 'f' then some (c.toNat - 87)
  else if 'A' ≤ c ∧ c ≤ 'F' then some (c.toNat - 55)
  else none

def hexNumber? (n : Nat) (ps : List Place) : Option Nat :=
  if (ps.take n).length < n then none
  else
    ((ps.take n).mapM fun p => hexDigit? p.char).map fun digits =>
      digits.foldl (fun value d => 16 * value + d) 0

end LayeredSql.Yaml
