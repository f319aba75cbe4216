import LayeredSql.Yaml.Scalar

namespace LayeredSql.Yaml

inductive Chomping where
  | strip
  | clip
  | keep

structure BlockHeader where
  chomping : Chomping
  indentation : Option Nat

def chomping? : List Place → Option (Chomping × List Place)
  | p :: ps =>
    if p.char = '-' then some (.strip, ps) else if p.char = '+' then some (.keep, ps) else none
  | [] => none

def indentation? (ps : List Place) : Option (Option Nat × List Place) :=
  match ps with
  | p :: rest =>
    if p.char.isDigit then
      if p.char = '0' then none else some (some (p.char.toNat - 48), rest)
    else some (none, ps)
  | [] => some (none, ps)

def blockHeader? (ps : List Place) : Option (BlockHeader × List Place) :=
  match chomping? ps with
  | some (chomping, ps) => do
    let (indentation, ps) ← indentation? ps
    return (⟨chomping, indentation⟩, ps)
  | none => do
    let (indentation, ps) ← indentation? ps
    match chomping? ps with
    | some (chomping, ps) => return (⟨chomping, indentation⟩, ps)
    | none => return (⟨.clip, indentation⟩, ps)

/-- The widest indentation up to the first line that is not empty; `widest` was found so far. -/
def widestIndentation? (widest : Nat) : List Place → Option Nat
  | [] => some widest
  | p :: ps =>
    if p.char = ' ' then widestIndentation? widest ps
    else if p.char = '\t' then none
    else if isLineEnd p.char then widestIndentation? (max widest p.column) ps
    else some (max widest p.column)

/-- The lines of a block without their indentation, up to a line that is indented less. -/
def blockPieces (indentation : Nat) (inLine : Bool) :
    List Place → Option (List Piece × List Place)
  | [] => some ([], [])
  | p :: ps =>
    if isLineEnd p.char then
      (blockPieces indentation false ps).map fun (pieces, rest) => (.lineEnd p.char :: pieces, rest)
    else if inLine || p.column = indentation then
      (blockPieces indentation true ps).map fun (pieces, rest) => (.char p.char :: pieces, rest)
    else if p.char = ' ' then blockPieces indentation false ps
    else if p.char = '\t' then none
    else some ([], p :: ps)

mutual

def blockLine (folded spaced : Bool) : List Piece → List Char
  | .char c :: ps => c :: blockLine folded spaced ps
  | .lineEnd c :: ps => blockLines folded spaced [c] ps
  | _ => []

/-- What comes after line ends, the last of them first. Those that no line follows are left out. -/
def blockLines (folded spaced : Bool) (lineEnds : List Char) : List Piece → List Char
  | .char c :: ps =>
    separator (!folded || spaced || isBlank c) lineEnds ++ c :: blockLine folded (isBlank c) ps
  | .lineEnd c :: ps => blockLines folded spaced (c :: lineEnds) ps
  | _ => []

end

def Piece.lineEnd? : Piece → Option Char
  | .lineEnd c => some c
  | _ => none

/-- The line ends that are kept of those after the last line. A block without lines has none that
follows one. -/
def Chomping.tail (chomping : Chomping) (pieces : List Piece) : List Char :=
  let lineEnds := ((pieces.reverse.takeWhile fun p => !p.isChar).filterMap Piece.lineEnd?).reverse
  match chomping with
  | .strip => []
  | .clip => if pieces.any Piece.isChar then lineEnds.take 1 else []
  | .keep => lineEnds

/-- The text of a block after its indicator, within a block of which text is indented to `least`.
If the header does not tell the indentation, it is that of the first line. -/
def blockText? (folded : Bool) (least : Nat) (ps : List Place) :
    Option (String × List Place) := do
  let (header, ps) ← blockHeader? ps
  let ps ← nextLine? ps
  let indentation ←
    match header.indentation with
    | some n => some (least - 1 + n)
    | none => (widestIndentation? 0 ps).map fun widest => max widest (max least 1)
  let (pieces, rest) ← blockPieces indentation false ps
  return (String.ofList (blockLines folded true [] pieces ++ header.chomping.tail pieces), rest)

end LayeredSql.Yaml
