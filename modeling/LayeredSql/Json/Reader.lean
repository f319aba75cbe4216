import LayeredSql.Json.Basic
import LayeredSql.Decimal.Scale

namespace LayeredSql.Json

def isBlank (c : Char) : Bool :=
  c = ' ' || c = '\n' || c = '\r' || c = '\t'

def skipBlank (cs : List Char) : List Char :=
  cs.dropWhile isBlank

def hexValue (c : Char) : Option Nat :=
  if '0' ≤ c ∧ c ≤ '9' then some (c.toNat - 48)
  else if 'a' ≤ c ∧ c ≤ 'f' then some (c.toNat - 87)
  else if 'A' ≤ c ∧ c ≤ 'F' then some (c.toNat - 55)
  else none

def hex4 (a b c d : Char) : Option Nat := do
  let w ← hexValue a
  let x ← hexValue b
  let y ← hexValue c
  let z ← hexValue d
  return ((w * 16 + x) * 16 + y) * 16 + z

def isHighSurrogate (n : Nat) : Bool :=
  0xd800 ≤ n && n < 0xdc00

def isLowSurrogate (n : Nat) : Bool :=
  0xdc00 ≤ n && n < 0xe000

def unescape : Char → Option Char
  | '\x22' => some '\x22'
  | '\\' => some '\\'
  | '/' => some '/'
  | 'b' => some '\x08'
  | 'f' => some '\x0c'
  | 'n' => some '\n'
  | 'r' => some '\r'
  | 't' => some '\t'
  | _ => none

/-- The characters up to the closing quote; `acc` holds those before, the last first. -/
def readString (acc : List Char) : List Char → Option (String × List Char)
  | [] => none
  | '\x22' :: cs => some (String.ofList acc.reverse, cs)
  | '\\' :: 'u' :: a :: b :: c :: d :: cs =>
    match hex4 a b c d with
    | none => none
    | some n =>
      if isHighSurrogate n then
        match cs with
        | '\\' :: 'u' :: e :: f :: g :: h :: cs' =>
          match hex4 e f g h with
          | none => none
          | some m =>
            if isLowSurrogate m then
              readString (Char.ofNat ((n - 0xd800) * 0x400 + (m - 0xdc00) + 0x10000) :: acc) cs'
            else none
        | _ => none
      else if isLowSurrogate n then none
      else readString (Char.ofNat n :: acc) cs
  | '\\' :: e :: cs =>
    match unescape e with
    | none => none
    | some c => readString (c :: acc) cs
  | c :: cs => if c.toNat < 0x20 || c = '\\' then none else readString (c :: acc) cs

def digitValues (cs : List Char) : List Nat :=
  (cs.takeWhile Char.isDigit).map fun c => c.toNat - 48

def afterDigits (cs : List Char) : List Char :=
  cs.dropWhile Char.isDigit

structure NumberText where
  negative : Bool
  whole : List Nat
  fraction : List Nat
  exponent : Option Int

def readSign (cs : List Char) : Bool × List Char :=
  match cs with
  | '-' :: rest => (true, rest)
  | _ => (false, cs)

def readFraction (cs : List Char) : Option (List Nat × List Char) :=
  match cs with
  | '.' :: rest =>
    match digitValues rest with
    | [] => none
    | ds => some (ds, afterDigits rest)
  | _ => some ([], cs)

def ofDigits (ds : List Nat) : Nat :=
  ds.foldl (fun n d => 10 * n + d) 0

def readExponentDigits (negative : Bool) (cs : List Char) : Option (Option Int × List Char) :=
  match digitValues cs with
  | [] => none
  | ds =>
    let n : Int := ofDigits ds
    some (some (if negative then -n else n), afterDigits cs)

def readExponent (cs : List Char) : Option (Option Int × List Char) :=
  match cs with
  | 'e' :: '+' :: rest | 'E' :: '+' :: rest => readExponentDigits false rest
  | 'e' :: '-' :: rest | 'E' :: '-' :: rest => readExponentDigits true rest
  | 'e' :: rest | 'E' :: rest => readExponentDigits false rest
  | _ => some (none, cs)

def readNumberText (cs : List Char) : Option (NumberText × List Char) := do
  let (negative, cs) := readSign cs
  let whole := digitValues cs
  if whole.isEmpty || (whole.head? = some 0 && 1 < whole.length) then none
  let (fraction, cs) ← readFraction (afterDigits cs)
  let (exponent, cs) ← readExponent cs
  return (⟨negative, whole, fraction, exponent⟩, cs)

/-- How digits before and after the point, with a sign and an exponent, become a float. -/
abbrev FloatReader : Type :=
  Bool → List Nat → List Nat → Int → Option Float

/-- Digits alone make an integer if it fits in 64 bits, with or without sign; the negative zero
and everything else make a float. -/
def NumberText.value (toFloat : FloatReader) (t : NumberText) : Option Json :=
  let n := ofDigits t.whole
  if t.fraction.isEmpty && t.exponent.isNone && !t.negative && n < UInt64.size then some (.int n)
  else if t.fraction.isEmpty && t.exponent.isNone && t.negative && 0 < n && n ≤ UInt64.size / 2 then
    some (.int (-n))
  else (toFloat t.negative t.whole t.fraction (t.exponent.getD 0)).map .float

def readNumber (toFloat : FloatReader) (cs : List Char) : Option (Json × List Char) := do
  let (t, rest) ← readNumberText cs
  let v ← t.value toFloat
  return (v, rest)

mutual

/-- Reads one value; `levels` bounds the arrays and objects that may still be opened. -/
def readValue (toFloat : FloatReader) : Nat → Nat → List Char → Option (Json × List Char)
  | 0, _, _ => none
  | fuel + 1, levels, cs =>
    match skipBlank cs with
    | 'n' :: 'u' :: 'l' :: 'l' :: rest => some (.null, rest)
    | 't' :: 'r' :: 'u' :: 'e' :: rest => some (.bool true, rest)
    | 'f' :: 'a' :: 'l' :: 's' :: 'e' :: rest => some (.bool false, rest)
    | '\x22' :: rest => (readString [] rest).map fun (s, rest) => (.string s, rest)
    | '[' :: rest =>
      if levels = 0 then none
      else match skipBlank rest with
        | ']' :: rest => some (.array [], rest)
        | rest => (readItems toFloat fuel (levels - 1) rest).map fun (vs, rest) => (.array vs, rest)
    | '\x7b' :: rest =>
      if levels = 0 then none
      else match skipBlank rest with
        | '\x7d' :: rest => some (.object [], rest)
        | rest =>
          (readMembers toFloat fuel (levels - 1) rest).map fun (ms, rest) => (.object ms, rest)
    | cs => readNumber toFloat cs

def readItems (toFloat : FloatReader) : Nat → Nat → List Char → Option (List Json × List Char)
  | 0, _, _ => none
  | fuel + 1, levels, cs =>
    match readValue toFloat fuel levels cs with
    | none => none
    | some (v, rest) =>
      match skipBlank rest with
      | ',' :: rest => (readItems toFloat fuel levels rest).map fun (vs, rest) => (v :: vs, rest)
      | ']' :: rest => some ([v], rest)
      | _ => none

def readMembers (toFloat : FloatReader) :
    Nat → Nat → List Char → Option (List (String × Json) × List Char)
  | 0, _, _ => none
  | fuel + 1, levels, cs =>
    match skipBlank cs with
    | '\x22' :: rest =>
      match readString [] rest with
      | none => none
      | some (k, rest) =>
        match skipBlank rest with
        | ':' :: rest =>
          match readValue toFloat fuel levels rest with
          | none => none
          | some (v, rest) =>
            match skipBlank rest with
            | ',' :: rest =>
              (readMembers toFloat fuel levels rest).map fun (ms, rest) => ((k, v) :: ms, rest)
            | '\x7d' :: rest => some ([(k, v)], rest)
            | _ => none
        | _ => none
    | _ => none

end

def read? (levels : Nat) (text : String) : Option Json := do
  let cs := text.toList
  let (v, rest) ← readValue Decimal.toFloat (2 * cs.length + 2) levels cs
  if (skipBlank rest).isEmpty then some v else none

def nestingLimit : Nat := 127

end LayeredSql.Json
