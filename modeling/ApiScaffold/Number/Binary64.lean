/-!
Finite numbers with a 53-bit mantissa, kept as exact dyadic fractions. Every operation computes the
exact result as a quotient of naturals and rounds it once, to the nearest number and, between two
equally near ones, to the one with the even mantissa.
-/

namespace ApiScaffold

/-- The number `± mantissa · 2 ^ exponent`; zero has a sign too. -/
structure Binary64 where
  negative : Bool
  mantissa : Nat
  exponent : Int
deriving DecidableEq, Repr

namespace Binary64

def leastExponent : Int := -1074

def greatestExponent : Int := 971

def zero (negative : Bool) : Binary64 := ⟨negative, 0, leastExponent⟩

/-- `numerator / denominator` divided by `2 ^ exponent`, as a quotient of naturals. -/
def scaleDown (numerator denominator : Nat) (exponent : Int) : Nat × Nat :=
  if exponent < 0 then (numerator * Nat.pow 2 (-exponent).toNat, denominator)
  else (numerator, denominator * Nat.pow 2 exponent.toNat)

/-- The quotient rounded to the nearest natural, a half to the even neighbour. -/
def roundQuotient (numerator denominator : Nat) : Nat :=
  let quotient := numerator / denominator
  let twice := 2 * (numerator % denominator)
  if twice < denominator then quotient
  else if denominator < twice then quotient + 1
  else quotient + quotient % 2

theorem roundQuotient_exact (quotient denominator : Nat) (positive : 0 < denominator) :
    roundQuotient (quotient * denominator) denominator = quotient := by
  simp [roundQuotient, Nat.mul_div_cancel quotient positive, positive]

/-- The exponent at which the quotient has 53 binary digits, but no less than the least one. -/
def fittingExponent (numerator denominator : Nat) : Int :=
  let guess : Int := (Nat.log2 numerator : Int) - Nat.log2 denominator - 52
  let scaled := scaleDown numerator denominator guess
  let exponent := if scaled.1 / scaled.2 < Nat.pow 2 52 then guess - 1 else guess
  max exponent leastExponent

/-- The nearest number to `± numerator / denominator`, unless it is beyond the largest one. -/
def ofRatio? (negative : Bool) (numerator denominator : Nat) : Option Binary64 :=
  if numerator = 0 then
    some (zero negative)
  else
    let exponent := fittingExponent numerator denominator
    let scaled := scaleDown numerator denominator exponent
    let mantissa := roundQuotient scaled.1 scaled.2
    let carried :=
      if mantissa = Nat.pow 2 53 then (Nat.pow 2 52, exponent + 1) else (mantissa, exponent)
    if carried.2 > greatestExponent then none else some ⟨negative, carried.1, carried.2⟩

def ratio (number : Binary64) : Nat × Nat :=
  if number.exponent < 0 then (number.mantissa, Nat.pow 2 (-number.exponent).toNat)
  else (number.mantissa * Nat.pow 2 number.exponent.toNat, 1)

/-- The nearest number to an integer of at most 64 bits, which is never out of range. -/
def ofInt (value : Int) : Binary64 :=
  (ofRatio? (value < 0) value.natAbs 1).getD (zero false)

def mul? (left right : Binary64) : Option Binary64 :=
  ofRatio? (left.negative != right.negative) (left.ratio.1 * right.ratio.1)
    (left.ratio.2 * right.ratio.2)

def div? (left right : Binary64) : Option Binary64 :=
  ofRatio? (left.negative != right.negative) (left.ratio.1 * right.ratio.2)
    (left.ratio.2 * right.ratio.1)

def negate (number : Binary64) : Binary64 := { number with negative := !number.negative }

/-- Count of decimal digits, one for zero. -/
def digitCount (value : Nat) : Nat :=
  if value < 10 then 1 else digitCount (value / 10) + 1
termination_by value

/-- The nearest number to `± digits · 10 ^ exponent`. Powers far outside the range are settled
without being computed. -/
def ofDecimal? (negative : Bool) (digits : Nat) (exponent : Int) : Option Binary64 :=
  if digits = 0 then some (zero negative)
  else
    let magnitude := exponent + digitCount digits
    if magnitude > 310 then none
    else if magnitude < -340 then some (zero negative)
    else if exponent < 0 then ofRatio? negative digits (Nat.pow 10 (-exponent).toNat)
    else ofRatio? negative (digits * Nat.pow 10 exponent.toNat) 1

def isIntegral (number : Binary64) : Bool := number.ratio.1 % number.ratio.2 == 0

def floor (number : Binary64) : Int :=
  let quotient : Int := (number.ratio.1 / number.ratio.2 : Nat)
  if number.negative then
    if number.isIntegral then -quotient else -quotient - 1
  else
    quotient

def ceil (number : Binary64) : Int := -number.negate.floor

example : (ofRatio? false 1 10).map ceil = some 1 := by decide
example : (ofRatio? true 5 2).map floor = some (-3) := by decide

end Binary64

end ApiScaffold
