import DubCheck.Decimal.Double
/-!
# The shortest decimal of a floating point number

`shortest` finds the fewest decimal digits that read back as a given number, and among those the
ones nearest to it.  The real numbers that round to `m · 2 ^ e` form an interval; on the grid of
decimals with `n` digits only the two neighbours of the number itself can lie in it, so these are
tried for `n = 1, 2, …, 17` in exact arithmetic.

How the digits are laid out is a separate matter: `Layout` says when a decimal is written with a
power of ten, and `Double.text` writes a number in the layout of this program's output.
-/

namespace DubCheck.Decimal

/-- The decimal `digits · 10 ^ exponent`. -/
structure Digits where
  /-- The digits, as a number. -/
  digits : Nat
  /-- The power of ten that they are multiplied with. -/
  exponent : Int
deriving DecidableEq, Repr

/-- The same decimal without zeros at its end. -/
def Digits.strip (d : Digits) : Nat → Digits
  | 0 => d
  | fuel + 1 =>
    if d.digits ≠ 0 && d.digits % 10 = 0 then Digits.strip ⟨d.digits / 10, d.exponent + 1⟩ fuel
    else d

namespace Double

/-- The greatest `k` with `10 ^ k ≤ num / den`, for positive numbers. -/
def log10Ratio (num den : Nat) : Int :=
  if den ≤ num then (digitCount (num / den) : Int) - 1
  else
    let j := digitCount den - digitCount num
    if den ≤ num * tenTo j then -(j : Int) else -(j + 1 : Int)

/-- Numerator and denominator of `num / den · 10 ^ k`. -/
def scale10 (num den : Nat) (k : Int) : Nat × Nat :=
  if 0 ≤ k then (num * tenTo k.toNat, den) else (num, den * tenTo (-k).toNat)

/-- The interval of numbers that round to `mantissa · 2 ^ exponent`, in quarters of
`2 ^ exponent`, and whether its ends belong to it. -/
def interval (mantissa : Nat) (exponent : Int) : Nat × Nat × Bool :=
  let below := if mantissa = twoTo 52 && minExponent < exponent then 1 else 2
  let low := 4 * mantissa - below
  (low, 4 * mantissa + 2, mantissa % 2 == 0)

/-- The better of the two decimals with the given exponent around `mantissa · 2 ^ exponent`, if
one of them reads back. -/
def nearestOnGrid (mantissa : Nat) (exponent : Int) (grid : Int) : Option Digits :=
  let (low, high, closed) := interval mantissa exponent
  -- one quarter of `2 ^ exponent`, counted in the grid's unit
  let (unit, den) := let (n, d) := scale 1 4 exponent; scale10 n d (-grid)
  let value := 4 * mantissa * unit
  let fits (q : Nat) : Bool :=
    if closed then low * unit ≤ q * den && q * den ≤ high * unit
    else low * unit < q * den && q * den < high * unit
  let q := value / den
  let below := value - q * den
  let above := (q + 1) * den - value
  match fits q && q ≠ 0, fits (q + 1) with
  | true, true =>
    some ⟨if below < above || (below = above && q % 2 = 0) then q else q + 1, grid⟩
  | true, false => some ⟨q, grid⟩
  | false, true => some ⟨q + 1, grid⟩
  | false, false => none

/-- The shortest decimal that reads back as the positive number `mantissa · 2 ^ exponent`. -/
def shortest (mantissa : Nat) (exponent : Int) : Digits :=
  let (num, den) := ratio mantissa exponent
  let top := log10Ratio num den
  let found := (List.range 17).findSome? fun (n : Nat) =>
    nearestOnGrid mantissa exponent (top - (n : Int))
  (found.getD ⟨0, 0⟩).strip 17

end Double

/-- How a decimal is laid out. -/
structure Layout where
  /-- The lowest power of ten of a leading digit that is written without a power. -/
  lowest : Int
  /-- The lowest power of ten of a leading digit that is written with a power again. -/
  highest : Int
  /-- The least number of digits of a power. -/
  powerDigits : Nat

/-- Numbers from `0.0001` up to `10 ^ 16` are written without a power of ten, and a power has at
least two digits. -/
def plainLayout : Layout := ⟨-4, 16, 2⟩

/-- Digits with a point in front of the last `places` of them, and at least one digit on each
side of it. -/
def withPoint (ds : List Char) (places : Nat) : List Char :=
  let ds := List.replicate (places + 1 - ds.length) '0' ++ ds
  let whole := ds.take (ds.length - places)
  let rest := ds.drop (ds.length - places)
  whole ++ '.' :: (if rest.isEmpty then ['0'] else rest)

/-- A decimal in the given layout. -/
def Digits.text (layout : Layout) (d : Digits) : List Char :=
  let ds := Nat.toDigits 10 d.digits
  let power : Int := d.exponent + ds.length - 1
  if layout.lowest ≤ power && power < layout.highest then
    if 0 ≤ d.exponent then withPoint (ds ++ List.replicate d.exponent.toNat '0') 0
    else withPoint ds (-d.exponent).toNat
  else
    let lead := ds.take 1
    let rest := ds.drop 1
    let mantissa := if rest.isEmpty then lead else lead ++ '.' :: rest
    let ps := Nat.toDigits 10 power.natAbs
    mantissa ++ 'e' :: (if power < 0 then '-' else '+') ::
      (List.replicate (layout.powerDigits - ps.length) '0' ++ ps)

/-- The text of a number: its shortest decimal, with at least one place. -/
def Double.text : Double → String
  | .nan => "nan"
  | .infinite negative => if negative then "-inf" else "inf"
  | .finite negative mantissa exponent =>
    let body :=
      if mantissa = 0 then ['0', '.', '0']
      else (Double.shortest mantissa exponent).text plainLayout
    String.ofList (if negative then '-' :: body else body)

end DubCheck.Decimal
