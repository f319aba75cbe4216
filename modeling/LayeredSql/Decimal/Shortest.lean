namespace LayeredSql

structure Decimal where
  digits : Nat
  exponent : Int
deriving DecidableEq

namespace Decimal

/-- Reals that round to one positive float, as fractions over `den`; `mid` is the float itself. -/
structure Interval where
  low : Nat
  mid : Nat
  high : Nat
  den : Nat
  closed : Bool

def leadingBit : Nat := 0x10000000000000

/-- A positive float with these bits is `m · 2 ^ q`. -/
def binaryParts (bits : UInt64) : Nat × Int :=
  let m := bits.toNat % leadingBit
  let e := bits.toNat / leadingBit % 0x800
  if e = 0 then (m, -1074) else (m + leadingBit, Int.ofNat e - 1075)

/-- The neighbour below a power of two is half as far away; an end belongs to the interval when
the significand is even. -/
def roundingInterval (m : Nat) (q : Int) : Interval :=
  let scale := Nat.pow 2 (q - 2).toNat
  let below := if m = leadingBit ∧ -1074 < q then 1 else 2
  ⟨(4 * m - below) * scale, 4 * m * scale, (4 * m + 2) * scale, Nat.pow 2 (2 - q).toNat, m % 2 = 0⟩

def Interval.contains (i : Interval) (num den : Nat) : Bool :=
  if i.closed then i.low * den ≤ num * i.den && num * i.den ≤ i.high * den
  else i.low * den < num * i.den && num * i.den < i.high * den

/-- The multiple of `10 ^ g` in the interval that is nearest to its float; `tieUp` says where a
tie goes, otherwise to the even multiple. -/
def Interval.onGrid (i : Interval) (tieUp : Bool) (g : Int) : Option Nat :=
  let up := Nat.pow 10 g.toNat
  let down := Nat.pow 10 (-g).toNat
  let k := i.mid * down / (up * i.den)
  let toLower := i.mid * down - k * up * i.den
  let toUpper := (k + 1) * up * i.den - i.mid * down
  let lowerIn := i.contains (k * up) down
  let upperIn := i.contains ((k + 1) * up) down
  if lowerIn && upperIn then
    if toLower < toUpper then some k
    else if toUpper < toLower then some (k + 1)
    else if tieUp || k % 2 = 1 then some (k + 1)
    else some k
  else if lowerIn then some k
  else if upperIn then some (k + 1)
  else none

def digitCount (n : Nat) : Nat :=
  if n = 0 then 0 else (Nat.toDigits 10 n).length

/-- The least `p` such that the fraction is below `10 ^ p`. -/
def pointPosition (num den : Nat) : Int :=
  if den ≤ num then Int.ofNat (digitCount (num / den))
  else 1 - Int.ofNat (digitCount ((den - 1) / num))

def stripZeros : Nat → Decimal → Decimal
  | 0, d => d
  | n + 1, d =>
    if d.digits ≠ 0 ∧ d.digits % 10 = 0 then stripZeros n ⟨d.digits / 10, d.exponent + 1⟩ else d

/-- Seventeen digits always suffice. -/
def shortest (tieUp : Bool) (bits : UInt64) : Decimal :=
  let (m, q) := binaryParts bits
  let i := roundingInterval m q
  let p := pointPosition i.mid i.den
  let found := (List.range 17).findSome? fun n =>
    let g := p - Int.ofNat (n + 1)
    (i.onGrid tieUp g).map fun k => (⟨k, g⟩ : Decimal)
  stripZeros 17 (found.getD ⟨0, 0⟩)

end Decimal
end LayeredSql
