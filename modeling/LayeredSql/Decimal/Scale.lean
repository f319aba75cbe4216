namespace LayeredSql.Decimal

/-- Appends digits to `value` as long as the result fits in 64 bits; returns the digits that were
left over. -/
def absorb (value : Nat) : List Nat → Nat × List Nat
  | [] => (value, [])
  | d :: ds =>
    if value * 10 + d < UInt64.size then absorb (value * 10 + d) ds else (value, d :: ds)

def tenPow (n : Nat) : Float :=
  Float.ofScientific 1 false n

/-- Divides by 10^308 a number of times; zero stays. -/
def divideOften : Nat → Float → Float
  | 0, x => x
  | n + 1, x => if x == 0 then x else divideOften n (x / tenPow 308)

/-- The product `x · 10 ^ e`, or nothing where that is beyond the largest float. -/
def scale (x : Float) (e : Int) : Option Float :=
  if e < 0 then
    let n := e.natAbs
    let rounds := (n - 1) / 308
    some (divideOften rounds x / tenPow (n - 308 * rounds))
  else if x == 0 then some x
  else if e ≤ 308 then
    let y := x * tenPow e.toNat
    if y.isInf then none else some y
  else none

def toFloat (negative : Bool) (whole fraction : List Nat) (exponent : Int) : Option Float :=
  let (v, skipped) := absorb 0 whole
  let (w, unread) := absorb v fraction
  let e : Int := (skipped.length : Int) - ((fraction.length : Int) - unread.length) + exponent
  (scale (Float.ofNat w) e).map fun x => if negative then -x else x

end LayeredSql.Decimal
