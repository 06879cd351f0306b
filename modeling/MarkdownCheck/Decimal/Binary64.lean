import MarkdownCheck.Text.Basic

/-!
# Binary floating-point numbers

- `Binary64`: a number with a mantissa of at most 53 bits, an infinity, or no number at all.
- `Binary64.ofDecimal`: the number nearest to a decimal; of two that are equally near, the one with
  the even mantissa.
- `Binary64.equalsInt`: whether a number is an integer.
-/

namespace MarkdownCheck

/-- A floating-point number of 64 bits. -/
inductive Binary64 where
  | nan
  | infinite (isNegative : Bool)
  /-- The number `mantissa * 2 ^ exponent` with a sign. Zero has a sign too. -/
  | finite (isNegative : Bool) (mantissa : Nat) (exponent : Int)
deriving DecidableEq, Repr, Inhabited

namespace Binary64

/-- The least exponent. -/
def leastExponent : Int := -1074

/-- The greatest exponent. -/
def greatestExponent : Int := 971

/-- Mantissas lie below this number, and reach half of it unless the exponent is the least. -/
def mantissaLimit : Nat := Nat.pow 2 53

/-- A quotient rounded to the nearest integer, a half to the even one. -/
def roundQuotient (numerator denominator : Nat) : Nat :=
  let whole := numerator / denominator
  let rest := numerator % denominator
  if 2 * rest < denominator then whole
  else if denominator < 2 * rest then whole + 1
  else whole + whole % 2

/-- A power of a base as a pair of factors: one for the numerator, one for the denominator. -/
def powerFactors (base : Nat) (exponent : Int) : Nat × Nat :=
  (Nat.pow base exponent.toNat, Nat.pow base (-exponent).toNat)

/-- The exponent at which a quotient has a mantissa of 53 bits, as far as exponents go down. -/
def exponentFor (numerator denominator : Nat) : Int :=
  let guess : Int := (numerator.log2 : Int) - denominator.log2 - 53
  let (up, down) := powerFactors 2 guess
  let fits := numerator * down < denominator * up * mantissaLimit
  max leastExponent (if fits then guess else guess + 1)

/-- The number nearest to a quotient. -/
def ofQuotient (isNegative : Bool) (numerator denominator : Nat) : Binary64 :=
  let exponent := exponentFor numerator denominator
  let (up, down) := powerFactors 2 exponent
  let mantissa := roundQuotient (numerator * down) (denominator * up)
  let (mantissa, exponent) :=
    if mantissa = mantissaLimit then (mantissaLimit / 2, exponent + 1) else (mantissa, exponent)
  if greatestExponent < exponent then .infinite isNegative
  else .finite isNegative mantissa exponent

/-- Zero with a sign. -/
def zero (isNegative : Bool) : Binary64 :=
  .finite isNegative 0 leastExponent

/-- The number nearest to `digits * 10 ^ exponent`. -/
def ofDecimal (isNegative : Bool) (digits : Nat) (exponent : Int) : Binary64 :=
  let magnitude : Int := exponent + (Text.ofNat digits).length
  if digits = 0 || magnitude < -330 then zero isNegative
  else if 320 < magnitude then .infinite isNegative
  else
    let (up, down) := powerFactors 10 exponent
    ofQuotient isNegative (digits * up) down

/-- Whether a number is this integer. -/
def equalsInt (number : Binary64) (n : Int) : Bool :=
  match number with
  | .finite isNegative mantissa exponent =>
    let (up, down) := powerFactors 2 exponent
    let magnitude : Int := (mantissa * up : Nat)
    (if isNegative then -magnitude else magnitude) = n * down
  | _ => false

/-- Whether two numbers are equal. The two zeros are, and `nan` equals nothing. -/
def agrees : Binary64 → Binary64 → Bool
  | .infinite a, .infinite b => a = b
  | .finite s m e, .finite t n f => (m = 0 && n = 0) || (s = t && m = n && e = f)
  | _, _ => false

end Binary64

end MarkdownCheck
