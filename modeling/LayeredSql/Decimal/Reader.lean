namespace LayeredSql.Decimal

def digitRun (cs : List Char) : List Char × List Char :=
  (cs.takeWhile Char.isDigit, cs.dropWhile Char.isDigit)

def natOfDigits (ds : List Char) : Nat :=
  ds.foldl (fun n d => 10 * n + (d.toNat - 48)) 0

def signed (cs : List Char) : Bool × List Char :=
  match cs with
  | '-' :: rest => (true, rest)
  | '+' :: rest => (false, rest)
  | _ => (false, cs)

/-- The exponent at the end of a text; no text is zero. -/
def trailingExponent? : List Char → Option Int
  | [] => some 0
  | c :: cs =>
    if c = 'e' ∨ c = 'E' then
      let (negative, ds) := signed cs
      if ds.isEmpty || !ds.all Char.isDigit then none
      else some (if negative then -natOfDigits ds else natOfDigits ds)
    else none

/-- The float nearest to `n · 10 ^ e`. Beyond these exponents any number of so many digits is
infinite or zero. -/
def nearest (n digits : Nat) (e : Int) : Float :=
  if n = 0 ∨ e + digits < -400 then 0
  else if 400 < e then 1 / 0
  else Float.ofScientific n (decide (e < 0)) e.natAbs

def magnitude? (cs : List Char) : Option Float :=
  let (whole, rest) := digitRun cs
  let (fraction, rest) :=
    match rest with
    | '.' :: rest => digitRun rest
    | _ => ([], rest)
  let ds := whole ++ fraction
  if ds.isEmpty then none
  else
    (trailingExponent? rest).map fun e =>
      nearest (natOfDigits ds) ds.length (e - fraction.length)

def special? (name : List Char) : Option Float :=
  match String.ofList (name.map Char.toLower) with
  | "inf" => some (1 / 0)
  | "infinity" => some (1 / 0)
  | "nan" => some (0 / 0)
  | _ => none

def float? (text : String) : Option Float :=
  let (negative, cs) := signed text.toList
  ((special? cs).or (magnitude? cs)).map fun x => if negative then -x else x

end LayeredSql.Decimal
