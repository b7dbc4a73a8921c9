import ApiScaffold.Number.Binary64

/-!
The shortest decimal that reads back as a given number. A number stands for the interval of reals
that round to it. The search tries one digit, two digits and so on up to seventeen: on each decimal
grid only the two neighbours of the number matter, and the first grid with a neighbour inside the
interval gives the result.
-/

namespace ApiScaffold.Shortest

/-- The decimal `digits · 10 ^ exponent`. -/
structure Decimal where
  digits : Nat
  exponent : Int
deriving DecidableEq, Repr

/-- The reals that round to a number, in quarters of its last place: the number is
`middle`, and the ends belong to the interval exactly if `closed`. -/
structure Interval where
  low : Nat
  middle : Nat
  high : Nat
  exponent : Int
  closed : Bool
deriving DecidableEq, Repr

/-- At a power of two the gap below is half the gap above. -/
def Interval.of (number : Binary64) : Interval :=
  let middle := 4 * number.mantissa
  let gapBelow :=
    if number.mantissa = Nat.pow 2 52 && number.exponent > Binary64.leastExponent then 1 else 2
  { low := middle - gapBelow, middle, high := middle + 2, exponent := number.exponent - 2,
    closed := number.mantissa % 2 == 0 }

/-- Both sides of a comparison of `count · 2 ^ power` with `digits · 10 ^ exponent`, multiplied out
to naturals. -/
def scaledSides (count : Nat) (power : Int) (digits : Nat) (exponent : Int) : Nat × Nat :=
  (count * Nat.pow 2 power.toNat * Nat.pow 10 (-exponent).toNat,
    digits * Nat.pow 10 exponent.toNat * Nat.pow 2 (-power).toNat)

def Interval.contains (interval : Interval) (decimal : Decimal) : Bool :=
  let low := scaledSides interval.low interval.exponent decimal.digits decimal.exponent
  let high := scaledSides interval.high interval.exponent decimal.digits decimal.exponent
  if interval.closed then low.1 ≤ low.2 && high.2 ≤ high.1
  else low.1 < low.2 && high.2 < high.1

/-- Twice the distance of a decimal from the middle of the interval, in a unit that the two
neighbours on one grid share. -/
def Interval.distance (interval : Interval) (decimal : Decimal) : Nat :=
  let sides := scaledSides interval.middle interval.exponent decimal.digits decimal.exponent
  (sides.1 - sides.2) + (sides.2 - sides.1)

/-- The neighbour at or below the number on the grid of multiples of `10 ^ exponent`. -/
def neighbourBelow (interval : Interval) (exponent : Int) : Nat :=
  let sides := scaledSides interval.middle interval.exponent 1 exponent
  sides.1 / sides.2

/-- The nearest decimal of the grid inside the interval; a tie goes up if `tieUp`, and to the even
neighbour otherwise. -/
def onGrid? (tieUp : Bool) (interval : Interval) (exponent : Int) : Option Decimal :=
  let below : Decimal := ⟨neighbourBelow interval exponent, exponent⟩
  let above : Decimal := ⟨below.digits + 1, exponent⟩
  match interval.contains below, interval.contains above with
  | true, false => some below
  | false, true => some above
  | false, false => none
  | true, true =>
    let distanceBelow := interval.distance below
    let distanceAbove := interval.distance above
    if distanceBelow < distanceAbove then some below
    else if distanceAbove < distanceBelow then some above
    else if tieUp then some above
    else some (if below.digits % 2 = 0 then below else above)

theorem onGrid?_contains (tieUp : Bool) (interval : Interval) (exponent : Int) (decimal : Decimal)
    (found : onGrid? tieUp interval exponent = some decimal) :
    interval.contains decimal = true := by
  unfold onGrid? at found
  simp only at found
  split at found
  · rename_i below above
    obtain rfl := Option.some.inj found
    exact below
  · rename_i below above
    obtain rfl := Option.some.inj found
    exact above
  · cases found
  · rename_i below above
    split at found
    · obtain rfl := Option.some.inj found
      exact below
    · split at found
      · obtain rfl := Option.some.inj found
        exact above
      · split at found
        · obtain rfl := Option.some.inj found
          exact above
        · obtain rfl := Option.some.inj found
          split
          · exact below
          · exact above

/-- The count of digits before the decimal point of a quotient of naturals; zero or negative below
one tenth. `fuel` bounds the count of leading zeros. -/
def pointPosition (numerator denominator : Nat) : Nat → Int
  | 0 => 0
  | fuel + 1 =>
    if denominator ≤ numerator then Binary64.digitCount (numerator / denominator)
    else pointPosition (numerator * 10) denominator fuel - 1

/-- Grids of ever more digits, at most seventeen. -/
def search (tieUp : Bool) (interval : Interval) (exponent : Int) : Nat → Decimal
  | 0 => ⟨neighbourBelow interval exponent, exponent⟩
  | more + 1 => (onGrid? tieUp interval exponent).getD (search tieUp interval (exponent - 1) more)

/-- Trailing zeros belong to the exponent. -/
def Decimal.stripZeros (decimal : Decimal) : Nat → Decimal
  | 0 => decimal
  | fuel + 1 =>
    if decimal.digits % 10 = 0 && decimal.digits ≠ 0 then
      Decimal.stripZeros ⟨decimal.digits / 10, decimal.exponent + 1⟩ fuel
    else
      decimal

/-- The shortest decimal of a number other than zero, nearest to it among the shortest. -/
def decimalOf (tieUp : Bool) (number : Binary64) : Decimal :=
  let position := pointPosition number.ratio.1 number.ratio.2 400
  (search tieUp (Interval.of number) (position - 1) 17).stripZeros 20

example : decimalOf false ⟨false, 1, -1074⟩ = ⟨5, -324⟩ := by decide +kernel
example : decimalOf false ⟨false, 5, -1⟩ = ⟨25, -1⟩ := by decide +kernel

end ApiScaffold.Shortest
