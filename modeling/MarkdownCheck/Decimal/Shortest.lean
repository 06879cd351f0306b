import MarkdownCheck.Decimal.Binary64

/-!
# The shortest decimal that reads back

- `Binary64.shortest`: the fewest digits that only this number is nearest to, and the exponent of
  the last one.
- `Binary64.shown`: a number as text, positional for exponents from -4 to 15.

A decimal reads back as a number when it lies in the interval of reals that round to the number. A
grid of decimals meets the interval only if one of the two neighbours of the number on the grid
does, so these are all that has to be looked at, from coarse grids to fine ones.
-/

namespace MarkdownCheck.Binary64

/-- The interval of the reals that round to a number, in quarters of its unit. -/
structure Rounding where
  low : Nat
  value : Nat
  high : Nat
  /-- The ends belong to the interval. -/
  isClosed : Bool
  /-- A quarter of the unit is `2 ^ exponent`. -/
  exponent : Int

/-- The interval around a number. Below a power of two numbers lie closer together. -/
def rounding (mantissa : Nat) (exponent : Int) : Rounding where
  low := 4 * mantissa - (if mantissa = mantissaLimit / 2 && leastExponent < exponent then 1 else 2)
  value := 4 * mantissa
  high := 4 * mantissa + 2
  isClosed := mantissa % 2 = 0
  exponent := exponent - 2

/-- The multiple of `10 ^ power` that rounds to the number and is nearest to it. -/
def onGrid? (interval : Rounding) (power : Int) : Option Nat :=
  let (up, down) := powerFactors 2 interval.exponent
  let (coarse, fine) := powerFactors 10 power
  let numerator := up * fine
  let denominator := down * coarse
  let accepts (digits : Nat) : Bool :=
    let point := digits * denominator
    let low := interval.low * numerator
    let high := interval.high * numerator
    if interval.isClosed then low ≤ point && point ≤ high else low < point && point < high
  let below := interval.value * numerator / denominator
  let rest := interval.value * numerator % denominator
  let nearer :=
    if 2 * rest < denominator || (2 * rest = denominator && below % 2 = 0) then below else below + 1
  let farther := if nearer = below then below + 1 else below
  if accepts nearer then some nearer else if accepts farther then some farther else none

/-- Looks for digits on finer and finer grids. -/
def shortestFrom (interval : Rounding) : (bound : Nat) → (power : Int) → Nat × Int
  | 0, power => (interval.value, power)
  | bound + 1, power =>
    match onGrid? interval power with
    | some digits => if 0 < digits then (digits, power) else shortestFrom interval bound (power - 1)
    | none => shortestFrom interval bound (power - 1)

/-- The digits of the shortest decimal and the exponent of the last one. The coarsest grid is above
the number; seventeen digits always suffice. -/
def shortest (mantissa : Nat) (exponent : Int) : Nat × Int :=
  let bits : Int := exponent + mantissa.log2
  shortestFrom (rounding mantissa exponent) 24 (bits * 30103 / 100000 + 2)

/-- The exponent of a number in scientific notation: a sign and at least two digits. -/
def shownExponent (exponent : Int) : Text :=
  let digits := Text.ofNat exponent.natAbs
  (if exponent < 0 then '-' else '+') :: (if digits.length < 2 then '0' :: digits else digits)

/-- Digits with a point behind the first `point` ones. -/
def withPoint (digits : Text) (point : Int) : Text :=
  if point ≤ 0 then '0' :: '.' :: List.replicate (-point).toNat '0' ++ digits
  else if digits.length ≤ point then
    digits ++ List.replicate (point.toNat - digits.length) '0' ++ ['.', '0']
  else digits.take point.toNat ++ '.' :: digits.drop point.toNat

/-- Digits as text, the first `point` of which stand before the decimal point. -/
def shownDigits (digits : Text) (point : Int) : Text :=
  if -4 < point && point ≤ 16 then withPoint digits point
  else
    let fraction := digits.drop 1
    digits.take 1 ++ (if fraction.isEmpty then [] else '.' :: fraction)
      ++ 'e' :: shownExponent (point - 1)

/-- A number as text. -/
def shown : Binary64 → Text
  | .nan => "nan".toList
  | .infinite isNegative => if isNegative then "-inf".toList else "inf".toList
  | .finite isNegative mantissa exponent =>
    let unsigned :=
      if mantissa = 0 then "0.0".toList
      else
        let (digits, power) := shortest mantissa exponent
        let shown := Text.ofNat digits
        let significant := (shown.reverse.dropWhile (· = '0')).reverse
        shownDigits significant (shown.length + power)
    if isNegative then '-' :: unsigned else unsigned

end MarkdownCheck.Binary64
