import LayeredSql.Decimal.Shortest

namespace LayeredSql.Decimal

/-- With `0.d₁d₂… · 10 ^ p`, the number is written positionally for `p` from `firstPlain` to
`lastPlain`. -/
structure Style where
  firstPlain : Int
  lastPlain : Int
  plusSign : Bool
  tieUp : Bool

/-- Digits with the point after `p` of them, and at least one digit on either side. -/
def positional (ds : List Char) (p : Int) : List Char :=
  if p ≤ 0 then '0' :: '.' :: (List.replicate (-p).toNat '0' ++ ds)
  else
    let whole := (ds ++ List.replicate (p.toNat - ds.length) '0').take p.toNat
    let fraction := ds.drop p.toNat
    whole ++ '.' :: (if fraction.isEmpty then ['0'] else fraction)

def exponentText (plusSign : Bool) (e : Int) : List Char :=
  (if e < 0 then ['-'] else if plusSign then ['+'] else []) ++ Nat.toDigits 10 e.natAbs

def scientific (plusSign : Bool) (ds : List Char) (p : Int) : List Char :=
  ds.take 1 ++ (if ds.length ≤ 1 then [] else '.' :: ds.drop 1)
    ++ 'e' :: exponentText plusSign (p - 1)

def Style.write (style : Style) (d : Decimal) : List Char :=
  let ds := Nat.toDigits 10 d.digits
  let p := d.exponent + ds.length
  if style.firstPlain ≤ p ∧ p ≤ style.lastPlain then positional ds p
  else scientific style.plusSign ds p

/-- Zeros are positional and keep their sign. -/
def Style.text (style : Style) (x : Float) : String :=
  let bits := x.toBits
  let magnitude := bits % 0x8000000000000000
  let sign := if bits = magnitude then [] else ['-']
  let digits :=
    if magnitude = 0 then ['0', '.', '0'] else style.write (shortest style.tieUp magnitude)
  String.ofList (sign ++ digits)

/-- JSON: positional from 0.00001 to below 10^16, a signed exponent otherwise. -/
def Style.json : Style := ⟨-4, 16, true, false⟩

/-- SQL: positional from 0.0001 to below 10^16, a bare exponent otherwise. -/
def Style.sql : Style := ⟨-3, 16, false, true⟩

end LayeredSql.Decimal
