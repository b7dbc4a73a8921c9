import ApiScaffold.Number.Shortest

/-!
How numbers are written. Both forms print the shortest decimal and always show that the number is
not an integer, by a point or an exponent; they differ in the range that is written without an
exponent and in the sign of the exponent.
-/

namespace ApiScaffold.Binary64

/-- The choices of one written form. The decimal point of a number stands after `point` digits;
numbers with `leastPoint ≤ point ≤ greatestPoint` have no exponent. -/
structure Form where
  leastPoint : Int
  greatestPoint : Int
  plusSign : Bool
  tieUp : Bool

/-- The form inside documents: `0.00001`, `1e-6`, `1e+16`. -/
def documentForm : Form := ⟨-4, 16, true, false⟩

/-- The form inside generated programs: `0.0001`, `1e-5`, `1e16`. -/
def programForm : Form := ⟨-3, 16, false, true⟩

def zeros (count : Nat) : String := String.ofList (List.replicate count '0')

/-- `digits` with a decimal point after `point` of them, filled up with zeros on either side. -/
def positional (digits : String) (point : Int) : String :=
  if point ≤ 0 then "0." ++ zeros (-point).toNat ++ digits
  else
    let whole := point.toNat
    if digits.length ≤ whole then digits ++ zeros (whole - digits.length) ++ ".0"
    else String.ofList (digits.toList.take whole) ++ "." ++ String.ofList (digits.toList.drop whole)

def scientific (form : Form) (digits : String) (point : Int) : String :=
  let exponent := point - 1
  let mantissa :=
    match digits.toList with
    | lead :: c :: more => String.ofList (lead :: '.' :: c :: more)
    | short => String.ofList short
  let sign := if exponent < 0 then "-" else if form.plusSign then "+" else ""
  mantissa ++ "e" ++ sign ++ toString exponent.natAbs

def write (form : Form) (number : Binary64) : String :=
  let sign := if number.negative then "-" else ""
  if number.mantissa = 0 then sign ++ "0.0"
  else
    let decimal := Shortest.decimalOf form.tieUp number
    let digits := toString decimal.digits
    let point := decimal.exponent + digits.length
    if form.leastPoint ≤ point && point ≤ form.greatestPoint then sign ++ positional digits point
    else sign ++ scientific form digits point

end ApiScaffold.Binary64
