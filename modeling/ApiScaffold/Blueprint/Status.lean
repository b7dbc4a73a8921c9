import ApiScaffold.Text.Case

/-!
The keys of responses: a status code, a class of codes, or the default.
-/

namespace ApiScaffold.Blueprint

inductive Status where
  | code (value : Nat)
  /-- The codes that start with one digit. -/
  | range (leading : Nat)
  | default
deriving DecidableEq, Repr

namespace Status

/-- A number of at most 16 bits; a plus sign may stand before it. -/
def number? (chars : List Char) : Option Nat :=
  let digits :=
    match chars with
    | '+' :: rest => rest
    | rest => rest
  if digits.isEmpty || !digits.all Text.isAsciiDigit then none
  else
    let value := digits.foldl (fun value c => value * 10 + (c.toNat - 0x30)) 0
    if value < 65536 then some value else none

def isCross (c : Char) : Bool := c == 'x' || c == 'X'

def parseRange? : List Char → Option Status
  | [digit, first, second] =>
    if isCross first && isCross second && '1' ≤ digit && digit ≤ '5' then
      some (range (digit.toNat - 0x30))
    else
      none
  | _ => none

def parse? (key : String) : Option Status :=
  if key = "default" then some default
  else
    match number? key.toList with
    | some value => if 100 ≤ value && value < 600 then some (code value) else none
    | none => parseRange? key.toList

def label : Status → String
  | code value => toString value
  | range leading => toString leading ++ "XX"
  | default => "Default"

/-- Codes come before classes, and the default comes last. -/
def rank : Status → Nat × Nat
  | code value => (0, value)
  | range leading => (1, leading)
  | default => (2, 0)

def precedes (left right : Status) : Bool :=
  left.rank.1 < right.rank.1 || (left.rank.1 == right.rank.1 && left.rank.2 ≤ right.rank.2)

theorem rank_injective (left right : Status) (same : left.rank = right.rank) : left = right := by
  cases left <;> cases right <;> simp_all [rank]

end Status

end ApiScaffold.Blueprint
