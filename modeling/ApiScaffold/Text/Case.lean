import ApiScaffold.Text.CaseTable
import ApiScaffold.Text.LetterTable

/-!
Letter case over all of Unicode. Upper-casing a character may give several characters; lower-casing
a text looks at the neighbours of a capital sigma, because the letter has a form of its own at the
end of a word.
-/

namespace ApiScaffold.Text

def isAsciiDigit (c : Char) : Bool := '0' ≤ c && c ≤ '9'

def isAsciiUpper (c : Char) : Bool := 'A' ≤ c && c ≤ 'Z'

def isAsciiLower (c : Char) : Bool := 'a' ≤ c && c ≤ 'z'

def isAsciiLetter (c : Char) : Bool := isAsciiUpper c || isAsciiLower c

def isAsciiAlphanumeric (c : Char) : Bool := isAsciiLetter c || isAsciiDigit c

/-- Only the twenty-six letters change. -/
def asciiLower (c : Char) : Char :=
  if isAsciiUpper c then Char.ofNat (c.toNat + 32) else c

/-- Equality of two texts up to the case of the twenty-six letters. -/
def eqIgnoringAsciiCase (left right : List Char) : Bool :=
  left.map asciiLower == right.map asciiLower

/-- The full upper-case form: `ß` becomes two letters. -/
def upperChar (c : Char) : List Char :=
  if c.toNat < 0x80 then
    [if isAsciiLower c then Char.ofNat (c.toNat - 32) else c]
  else
    match CaseTable.upperExpansions.lookup c.toNat with
    | some codes => codes.map Char.ofNat
    | none =>
      match mapCode? CaseTable.upperRuns c.toNat with
      | some code => [Char.ofNat code]
      | none => [c]

/-- The full lower-case form without regard to the neighbours; only the dotted capital `İ` becomes
two characters. -/
def lowerChar (c : Char) : List Char :=
  if c.toNat < 0x80 then
    [asciiLower c]
  else if c = 'İ' then
    ['i', Char.ofNat 0x307]
  else
    match mapCode? CaseTable.lowerRuns c.toNat with
    | some code => [Char.ofNat code]
    | none => [c]

def isUppercase (c : Char) : Bool :=
  if c.toNat < 0x80 then isAsciiUpper c
  else CaseTable.uppercaseLetters.any (·.contains c.toNat)

def isLowercase (c : Char) : Bool :=
  if c.toNat < 0x80 then isAsciiLower c
  else CaseTable.lowercaseLetters.any (·.contains c.toNat)

def isCased (c : Char) : Bool := CaseTable.casedLetters.any (·.contains c.toNat)

def isCaseIgnorable (c : Char) : Bool := CaseTable.caseIgnorable.any (·.contains c.toNat)

def isAlphabetic (c : Char) : Bool :=
  if c.toNat < 0x80 then isAsciiLetter c
  else LetterTable.alphabetic.any (·.contains c.toNat)

def isNumeric (c : Char) : Bool :=
  if c.toNat < 0x80 then isAsciiDigit c
  else LetterTable.numeric.any (·.contains c.toNat)

/-- A cased letter comes first once the characters that do not end a word are skipped. -/
def startsWithCased (chars : List Char) : Bool :=
  match chars.dropWhile isCaseIgnorable with
  | c :: _ => isCased c
  | [] => false

/-- Lower-cases `chars`, where `before` holds what precedes them, nearest first. -/
def lowerAfter (before : List Char) : List Char → List Char
  | [] => []
  | c :: rest =>
    let form :=
      if c = 'Σ' then
        [if startsWithCased before && !startsWithCased rest then 'ς' else 'σ']
      else
        lowerChar c
    form ++ lowerAfter (c :: before) rest

def lowerChars (chars : List Char) : List Char := lowerAfter [] chars

def upperChars (chars : List Char) : List Char := chars.flatMap upperChar

def lower (text : String) : String := String.ofList (lowerChars text.toList)

def upper (text : String) : String := String.ofList (upperChars text.toList)

/-- The first character upper-cased, the others kept. -/
def capitalise : List Char → List Char
  | [] => []
  | c :: rest => upperChar c ++ rest

theorem capitalise_ascii (c : Char) (rest : List Char) (lower : isAsciiLower c = true) :
    capitalise (c :: rest) = Char.ofNat (c.toNat - 32) :: rest := by
  have bound : c.toNat < 0x80 := by
    simp only [isAsciiLower, Bool.and_eq_true, decide_eq_true_eq] at lower
    have upper : c.toNat ≤ 'z'.toNat := by
      have := lower.2
      rw [Char.le_def, UInt32.le_iff_toNat_le] at this
      exact this
    have : 'z'.toNat = 122 := by decide
    omega
  simp [capitalise, upperChar, bound, lower]

end ApiScaffold.Text
