/-! # The shortest decimal of a double -/

namespace ReverseProxy

/-- The decimal `0.d₁d₂… · 10 ^ point`. -/
structure Decimal where
  digits : List Char
  point : Int

namespace Decimal

/-- A positive fraction. Only its value counts. -/
structure Ratio where
  num : Nat
  den : Nat

/-- The number `n · 10 ^ e`. -/
def Ratio.scaled (n : Nat) (e : Int) : Ratio :=
  if 0 ≤ e then ⟨n * Nat.pow 10 e.toNat, 1⟩ else ⟨n, Nat.pow 10 (-e).toNat⟩

def Ratio.le (a b : Ratio) : Bool := a.num * b.den ≤ b.num * a.den

def Ratio.lt (a b : Ratio) : Bool := a.num * b.den < b.num * a.den

/-- The distance between two fractions. -/
def Ratio.gap (a b : Ratio) : Ratio :=
  let l := a.num * b.den
  let r := b.num * a.den
  ⟨(l - r) + (r - l), a.den * b.den⟩

/-- The numbers that round to one double: `value` and the ends of the interval round it. -/
structure Rounds where
  value : Ratio
  low : Ratio
  high : Ratio
  closed : Bool

/-- The interval of the double `m · 2 ^ q`. Its lower half is the smaller one at a power of two. -/
def Rounds.of (m : Nat) (q : Int) (power : Bool) : Rounds :=
  let scale (n : Nat) : Ratio :=
    if 2 ≤ q then ⟨n * Nat.pow 2 (q - 2).toNat, 1⟩ else ⟨n, Nat.pow 2 (2 - q).toNat⟩
  { value := scale (4 * m), low := scale (4 * m - if power then 1 else 2), high := scale (4 * m + 2),
    closed := m % 2 = 0 }

def Rounds.holds (r : Rounds) (x : Ratio) : Bool :=
  if r.closed then r.low.le x && x.le r.high else r.low.lt x && x.lt r.high

/-- The `k` with `10 ^ (k - 1) ≤ v < 10 ^ k`, sought upwards from `k`. -/
def pointFrom (v : Ratio) : Nat → Int → Int
  | 0, k => k
  | steps + 1, k => if v.lt (.scaled 1 k) then k else pointFrom v steps (k + 1)

/-- The nearer of the two neighbours of the value with `n` digits, if one rounds to the double. -/
def neighbour? (r : Rounds) (point : Int) (n : Nat) : Option Nat :=
  let e := point - n
  let step := Ratio.scaled 1 e
  let below := (r.value.num * step.den) / (r.value.den * step.num)
  let belowFits := r.holds (.scaled below e)
  let aboveFits := r.holds (.scaled (below + 1) e)
  match belowFits, aboveFits with
  | true, false => some below
  | false, true => some (below + 1)
  | false, false => none
  | true, true =>
    let downs := r.value.gap (.scaled below e)
    let ups := r.value.gap (.scaled (below + 1) e)
    some (if downs.lt ups || (downs.le ups && below % 2 = 0) then below else below + 1)

def dropZeros (digits : List Char) : List Char := (digits.reverse.dropWhile (· = '0')).reverse

/-- The fewest digits that read back as the double, and of those the nearest. -/
def ofRounds (r : Rounds) : Decimal :=
  let point := pointFrom r.value 640 (-330)
  match (List.range 17).findSome? fun n => (neighbour? r point (n + 1)).map (·, n + 1) with
  | some (value, n) =>
    let digits := Nat.toDigits 10 value
    ⟨dropZeros digits, point + (digits.length - n : Int)⟩
  | none => ⟨[], point⟩

/-- A fraction is below this: it has 52 bits. -/
def fractionEnd : Nat := 0x10000000000000

/-- A finite positive double, read from its bits. -/
def ofDouble (x : Float) : Decimal :=
  let bits := x.toBits.toNat
  let fraction : Nat := bits % fractionEnd
  let exponent : Nat := bits / fractionEnd % 0x800
  if exponent = 0 then ofRounds (.of fraction (-1074) false)
  else ofRounds (.of (fractionEnd + fraction) ((exponent : Int) - 1075) (fraction = 0 && 1 < exponent))

/-- The digits with a point among them, and at least one digit on each side of it. -/
def positional (d : Decimal) : List Char :=
  if d.point ≤ 0 then '0' :: '.' :: (List.replicate (-d.point).toNat '0' ++ d.digits)
  else
    let whole := d.point.toNat
    let rest := d.digits.drop whole
    d.digits.take whole ++ List.replicate (whole - d.digits.length) '0' ++
      '.' :: (if rest.isEmpty then ['0'] else rest)

/-- One digit before the point, then the power of ten with its sign. -/
def scientific (d : Decimal) : List Char :=
  let e := d.point - 1
  let mantissa := d.digits.take 1 ++ (if d.digits.length ≤ 1 then [] else '.' :: d.digits.drop 1)
  mantissa ++ 'e' :: (if e < 0 then '-' else '+') :: Nat.toDigits 10 e.natAbs

end Decimal

/-- How a double is shown: its powers of ten that are written positionally. -/
structure DoubleStyle where
  lowest : Int
  highest : Int

/-- The highest bit of a double says that it is negative. -/
def signBit : Nat := 0x8000000000000000

/-- The text of a double. -/
def DoubleStyle.show (style : DoubleStyle) (x : Float) : String :=
  if x.isNaN then "NaN"
  else
    let sign := if signBit ≤ x.toBits.toNat then "-" else ""
    if x.isInf then sign ++ "inf"
    else if x.toBits.toNat % signBit = 0 then sign ++ "0.0"
    else
      let d := Decimal.ofDouble x
      let e := d.point - 1
      let text := if style.lowest ≤ e ∧ e ≤ style.highest then d.positional else d.scientific
      sign ++ String.ofList text

end ReverseProxy
