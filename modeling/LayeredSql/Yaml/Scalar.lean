import LayeredSql.Yaml.Place

namespace LayeredSql.Yaml

inductive Piece where
  | char (c : Char)
  | blank (c : Char)
  | lineEnd (c : Char)
  /-- A line end that was escaped. -/
  | joint
deriving DecidableEq

def piece (c : Char) : Piece :=
  if isLineEnd c then .lineEnd c else if isBlank c then .blank c else .char c

/-- What the line ends between two lines come to. A line or paragraph separator in front keeps them
all. -/
def foldLineEnds : List Char → List Char
  | ['\n'] => [' ']
  | '\n' :: more => more
  | all => all

/-- The line ends passed so far, the last first; after a joint each of them is kept. -/
def separator (joined : Bool) (lineEnds : List Char) : List Char :=
  if joined then lineEnds.reverse else foldLineEnds lineEnds.reverse

mutual

/-- The blanks just passed come along, the last first. -/
def fold (blanks : List Char) : List Piece → List Char
  | [] => blanks.reverse
  | .char c :: ps => blanks.reverse ++ c :: fold [] ps
  | .blank c :: ps => fold (c :: blanks) ps
  | .lineEnd c :: ps => foldLines false [c] ps
  | .joint :: ps => blanks.reverse ++ foldLines true [] ps

def foldLines (joined : Bool) (lineEnds : List Char) : List Piece → List Char
  | [] => separator joined lineEnds
  | .char c :: ps => separator joined lineEnds ++ c :: fold [] ps
  | .blank _ :: ps => foldLines joined lineEnds ps
  | .lineEnd c :: ps => foldLines joined (c :: lineEnds) ps
  | .joint :: ps => separator joined lineEnds ++ foldLines true [] ps

end

def foldText (ps : List Piece) : String :=
  String.ofList (fold [] ps)

/-- Up to the closing single quote; two of them stand for one, and then `second` is set for the
other. -/
def singlePieces (second : Bool) : List Place → Option (List Piece × List Place)
  | [] => none
  | p :: ps =>
    if second then (singlePieces false ps).map fun (pieces, rest) => (.char p.char :: pieces, rest)
    else if p.char = '\x27' then
      if nextChar? ps = some '\x27' then singlePieces true ps else some ([], ps)
    else if isMarker (p :: ps) then none
    else (singlePieces false ps).map fun (pieces, rest) => (piece p.char :: pieces, rest)

def character? (n : Nat) : Option Char :=
  if (n < 0xd800 || 0xdfff < n) && n < 0x110000 then some (Char.ofNat n) else none

def unescape? : Char → Option Char
  | '0' => some '\x00'
  | 'a' => some '\x07'
  | 'b' => some '\x08'
  | 't' => some '\t'
  | '\t' => some '\t'
  | 'n' => some '\n'
  | 'v' => some '\x0b'
  | 'f' => some '\x0c'
  | 'r' => some '\r'
  | 'e' => some '\x1b'
  | ' ' => some ' '
  | '\x22' => some '\x22'
  | '/' => some '/'
  | '\\' => some '\\'
  | 'N' => some '\u0085'
  | '_' => some '\u00a0'
  | 'L' => some '\u2028'
  | 'P' => some '\u2029'
  | _ => none

def escapeDigits : Char → Option Nat
  | 'x' => some 2
  | 'u' => some 4
  | 'U' => some 8
  | _ => none

/-- What is written by a backslash and the places after it, and how many of them it takes. -/
def escape? : List Place → Option (Piece × Nat)
  | [] => none
  | p :: ps =>
    if isLineEnd p.char then some (.joint, 1)
    else
      match escapeDigits p.char with
      | none => (unescape? p.char).map fun c => (.char c, 1)
      | some n => ((hexNumber? n ps).bind character?).map fun c => (.char c, n + 1)

/-- Up to the closing double quote; the next `skip` places belong to an escape. -/
def doublePieces : Nat → List Place → Option (List Piece × List Place)
  | _, [] => none
  | skip + 1, _ :: ps => doublePieces skip ps
  | 0, p :: ps =>
    if p.char = '\x22' then some ([], ps)
    else if p.char = '\\' then do
      let (escaped, length) ← escape? ps
      let (pieces, rest) ← doublePieces length ps
      return (escaped :: pieces, rest)
    else if isMarker (p :: ps) then none
    else (doublePieces 0 ps).map fun (pieces, rest) => (piece p.char :: pieces, rest)

def flowBrackets : List Char :=
  ['[', ']', '\x7b', '\x7d']

def indicators : List Char :=
  flowBrackets ++ [',', '#', '&', '*', '!', '|', '>', '\x27', '\x22', '%', '@', '\x60']

def startsPlain (flow : Bool) (c : Char) (ps : List Place) : Bool :=
  if c = '-' then !endsWord ps
  else if c = '?' || c = ':' then !flow && !endsWord ps
  else !isBlank c && !isLineEnd c && !indicators.contains c

inductive Spacing where
  | word
  | blanks
  | newLine
deriving DecidableEq

def stopsPlain (flow : Bool) (least : Nat) (spacing : Spacing) (p : Place) (ps : List Place) :
    Bool :=
  isMarker (p :: ps) || (spacing = .newLine && !flow && p.column < least)
    || (p.char = '#' && spacing != .word) || (p.char = ':' && endsWord ps)
    || (flow && (p.char = ',' || flowBrackets.contains p.char))

/-- Within brackets, a colon right before one of these is no part of a scalar and ends none. -/
def isStrayColon (flow : Bool) (p : Place) (ps : List Place) : Bool :=
  flow && p.char = ':' && (nextChar? ps).any (',' :: '?' :: flowBrackets).contains

/-- Up to the end of a plain scalar, and how it is spaced from what follows. Its lines are indented
to `least`, at least by blanks that are no tabs. -/
def plainPieces (flow : Bool) (least : Nat) (spacing : Spacing) :
    List Place → Option (List Piece × Spacing × List Place)
  | [] => some ([], spacing, [])
  | p :: ps =>
    if isLineEnd p.char then
      (plainPieces flow least .newLine ps).map fun (pieces, more) =>
        (.lineEnd p.char :: pieces, more)
    else if isBlank p.char then
      if spacing = .newLine && p.column < least && p.char = '\t' then none
      else
        (plainPieces flow least (if spacing = .newLine then .newLine else .blanks) ps).map
          fun (pieces, more) => (.blank p.char :: pieces, more)
    else if stopsPlain flow least spacing p ps then some ([], spacing, p :: ps)
    else if isStrayColon flow p ps then none
    else
      (plainPieces flow least .word ps).map fun (pieces, more) => (.char p.char :: pieces, more)

def Piece.isChar : Piece → Bool
  | .char _ => true
  | _ => false

def trimEnd (pieces : List Piece) : List Piece :=
  (pieces.reverse.dropWhile fun p => !p.isChar).reverse

end LayeredSql.Yaml
