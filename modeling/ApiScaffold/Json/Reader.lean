import ApiScaffold.Json.Basic
import ApiScaffold.Text.Pieces

/-!
Reading JSON text. An integer of at most 64 bits stays an integer. Of any other number the reader
keeps as many leading digits as fit a 64-bit word, takes the nearest binary fraction to them and
scales it by the nearest binary fraction to the power of ten, so the result of a long number may
differ from the nearest fraction in its last place.
-/

namespace ApiScaffold.Json

inductive ReadError where
  | endOfText
  | unexpected (found : Char)
  | invalidNumber
  | numberOutOfRange
  | invalidEscape
  | controlCharacter
  | trailingCharacters
  | nesting
deriving DecidableEq, Repr

namespace Reader

def isSpace (c : Char) : Bool := c == ' ' || c == '\n' || c == '\t' || c == '\r'

def skipSpaces (chars : List Char) : List Char := chars.dropWhile isSpace

def digitValue (c : Char) : Nat := c.toNat - '0'.toNat

def isDigit (c : Char) : Bool := '0' ≤ c && c ≤ '9'

/-- The greatest number that the kept digits may form. -/
def wordLimit : Nat := 18446744073709551615

/-- The leading digits of a number and the power of ten they are multiplied by. -/
structure Digits where
  kept : Nat
  exponent : Int
  /-- A digit did not fit any more. -/
  full : Bool
deriving DecidableEq, Repr

/-- Digits before the point: one that does not fit, and all after it, raise the exponent. -/
def wholeDigits (digits : Digits) : List Char → Digits × List Char
  | [] => (digits, [])
  | c :: rest =>
    if isDigit c then
      let next := digits.kept * 10 + digitValue c
      if digits.full || next > wordLimit then
        wholeDigits { digits with exponent := digits.exponent + 1, full := true } rest
      else
        wholeDigits { digits with kept := next } rest
    else
      (digits, c :: rest)

/-- Digits after the point: one that does not fit is dropped with all after it. -/
def fractionDigits (digits : Digits) (dropping : Bool) : List Char → Digits × List Char
  | [] => (digits, [])
  | c :: rest =>
    if isDigit c then
      let next := digits.kept * 10 + digitValue c
      if dropping || next > wordLimit then fractionDigits digits true rest
      else fractionDigits { digits with kept := next, exponent := digits.exponent - 1 } false rest
    else
      (digits, c :: rest)

/-- The greatest power of ten that one multiplication scales by. -/
def greatestPower : Nat := 308

def powerOfTen (exponent : Nat) : Binary64 :=
  (Binary64.ofDecimal? false 1 exponent).getD (Binary64.zero false)

/-- Divides by powers of ten, the greatest one first, until the exponent is used up. -/
def divideByPowers (number : Binary64) (exponent : Nat) : Nat → Option Binary64
  | 0 => some number
  | fuel + 1 =>
    if number.mantissa = 0 then some number
    else if exponent ≤ greatestPower then number.div? (powerOfTen exponent)
    else do
      let smaller ← number.div? (powerOfTen greatestPower)
      divideByPowers smaller (exponent - greatestPower) fuel

/-- The number that the kept digits and the exponent stand for; `none` beyond the largest one. -/
def scale (digits : Digits) : Option Binary64 :=
  let number := Binary64.ofInt digits.kept
  if digits.kept = 0 then some number
  else if digits.exponent < 0 then divideByPowers number digits.exponent.natAbs 8
  else if digits.exponent ≤ greatestPower then number.mul? (powerOfTen digits.exponent.toNat)
  else none

/-- The digits of an exponent; those beyond 32 bits are as good as infinite. -/
def exponentDigits (chars : List Char) : Nat × List Char :=
  let digits := chars.takeWhile isDigit
  (digits.foldl (fun value c => min (value * 10 + digitValue c) 4294967296) 0,
    chars.dropWhile isDigit)

def startsWithDigit : List Char → Bool
  | c :: _ => isDigit c
  | [] => false

/-- Reads `e`, a sign and digits, if they follow. -/
def exponentPart (digits : Digits) (chars : List Char) : Except ReadError (Digits × List Char) :=
  match chars with
  | c :: rest =>
    if c = 'e' || c = 'E' then
      let signed : Bool × List Char :=
        match rest with
        | '+' :: after => (false, after)
        | '-' :: after => (true, after)
        | after => (false, after)
      if startsWithDigit signed.2 then
        let (value, after) := exponentDigits signed.2
        let exponent := if signed.1 then digits.exponent - value else digits.exponent + value
        .ok ({ digits with exponent }, after)
      else
        .error .invalidNumber
    else
      .ok (digits, chars)
  | [] => .ok (digits, chars)

def signedNumber (negative : Bool) (number : Binary64) : JsonNumber :=
  .double (if negative then number.negate else number)

/-- An integer without point and exponent, if it fits; `-0` does not count as one. -/
def plainInteger (negative : Bool) (digits : Digits) : JsonNumber :=
  if negative then
    if digits.kept = 0 || (digits.kept : Int) > -JsonNumber.leastInteger then
      signedNumber true (Binary64.ofInt digits.kept)
    else
      .integer (-digits.kept)
  else
    .integer digits.kept

/-- The digits after the point, at least one. -/
def fractionPart (digits : Digits) (chars : List Char) : Except ReadError (Digits × List Char) :=
  if startsWithDigit chars then .ok (fractionDigits digits false chars) else .error .invalidNumber

/-- Reads a number whose sign has been read. -/
def number (negative : Bool) (chars : List Char) : Except ReadError (JsonNumber × List Char) := do
  if !startsWithDigit chars then throw .invalidNumber
  let whole := wholeDigits ⟨0, 0, false⟩ chars
  if chars.head? = some '0' && startsWithDigit chars.tail then throw .invalidNumber
  let scaled (digits : Digits) (rest : List Char) : Except ReadError (JsonNumber × List Char) := do
    match scale digits with
    | some value => return (signedNumber negative value, rest)
    | none => throw .numberOutOfRange
  match whole.2 with
  | '.' :: rest =>
    let fraction ← fractionPart whole.1 rest
    let (digits, rest) ← exponentPart fraction.1 fraction.2
    scaled digits rest
  | c :: _ =>
    if c = 'e' || c = 'E' then
      let (digits, rest) ← exponentPart whole.1 whole.2
      scaled digits rest
    else if whole.1.full then scaled whole.1 whole.2
    else return (plainInteger negative whole.1, whole.2)
  | [] =>
    if whole.1.full then scaled whole.1 whole.2
    else return (plainInteger negative whole.1, whole.2)

def hexValue? (c : Char) : Option Nat :=
  if isDigit c then some (digitValue c)
  else if 'a' ≤ c && c ≤ 'f' then some (c.toNat - 'a'.toNat + 10)
  else if 'A' ≤ c && c ≤ 'F' then some (c.toNat - 'A'.toNat + 10)
  else none

def fourHex : List Char → Except ReadError (Nat × List Char)
  | a :: b :: c :: d :: rest =>
    match hexValue? a, hexValue? b, hexValue? c, hexValue? d with
    | some a, some b, some c, some d => .ok (((a * 16 + b) * 16 + c) * 16 + d, rest)
    | _, _, _, _ => .error .invalidEscape
  | _ => .error .invalidEscape

def isHighSurrogate (unit : Nat) : Bool := 0xD800 ≤ unit && unit ≤ 0xDBFF

def isLowSurrogate (unit : Nat) : Bool := 0xDC00 ≤ unit && unit ≤ 0xDFFF

/-- The character of a four-digit escape; two surrogates form one. -/
def unicodeEscape (chars : List Char) : Except ReadError (Char × List Char) := do
  let (unit, rest) ← fourHex chars
  if isHighSurrogate unit then
    match rest with
    | '\\' :: 'u' :: more =>
      let (low, rest) ← fourHex more
      if isLowSurrogate low then
        return (Char.ofNat (0x10000 + (unit - 0xD800) * 0x400 + (low - 0xDC00)), rest)
      else
        throw .invalidEscape
    | _ => throw .invalidEscape
  else if isLowSurrogate unit then
    throw .invalidEscape
  else
    return (Char.ofNat unit, rest)

/-- Reads the rest of a string after its opening quote; `before` holds the characters so far,
nearest first, and `fuel` is more than the count of characters that follow. -/
def stringRest (before : List Char) : Nat → List Char → Except ReadError (String × List Char)
  | 0, _ => .error .nesting
  | _ + 1, [] => .error .endOfText
  | fuel + 1, c :: rest =>
    if c = '"' then .ok (String.ofList before.reverse, rest)
    else if c = '\\' then
      match rest with
      | '"' :: more => stringRest ('"' :: before) fuel more
      | '\\' :: more => stringRest ('\\' :: before) fuel more
      | '/' :: more => stringRest ('/' :: before) fuel more
      | 'b' :: more => stringRest (Char.ofNat 8 :: before) fuel more
      | 'f' :: more => stringRest (Char.ofNat 12 :: before) fuel more
      | 'n' :: more => stringRest ('\n' :: before) fuel more
      | 'r' :: more => stringRest ('\r' :: before) fuel more
      | 't' :: more => stringRest ('\t' :: before) fuel more
      | 'u' :: more =>
        match unicodeEscape more with
        | .ok (read, after) => stringRest (read :: before) fuel after
        | .error error => .error error
      | _ => .error .invalidEscape
    else if c.toNat < 0x20 then .error .controlCharacter
    else stringRest (c :: before) fuel rest

def word (letters : String) (value : Json) (chars : List Char) :
    Except ReadError (Json × List Char) :=
  match Text.afterStart? letters.toList chars with
  | some rest => .ok (value, rest)
  | none => .error .endOfText

mutual
/-- Reads one value; `fuel` is more than the count of characters that follow. -/
def value : Nat → List Char → Except ReadError (Json × List Char)
  | 0, _ => .error .nesting
  | fuel + 1, chars =>
    match skipSpaces chars with
    | [] => .error .endOfText
    | '"' :: rest => do
      let (text, rest) ← stringRest [] (rest.length + 1) rest
      return (.string text, rest)
    | '[' :: rest =>
      match skipSpaces rest with
      | ']' :: rest => .ok (.array [], rest)
      | _ => do
        let (items, rest) ← items fuel rest
        return (.array items, rest)
    | '{' :: rest =>
      match skipSpaces rest with
      | '}' :: rest => .ok (.object [], rest)
      | _ => do
        let (members, rest) ← members fuel rest
        return (ofMembers members, rest)
    | 't' :: rest => word "rue" (.bool true) rest
    | 'f' :: rest => word "alse" (.bool false) rest
    | 'n' :: rest => word "ull" .null rest
    | '-' :: rest => do
      let (read, rest) ← number true rest
      return (.number read, rest)
    | c :: rest =>
      if isDigit c then do
        let (read, rest) ← number false (c :: rest)
        return (.number read, rest)
      else
        .error (.unexpected c)
def items : Nat → List Char → Except ReadError (List Json × List Char)
  | 0, _ => .error .nesting
  | fuel + 1, chars => do
    let (first, rest) ← value fuel chars
    match skipSpaces rest with
    | ',' :: rest =>
      let (others, rest) ← items fuel rest
      return (first :: others, rest)
    | ']' :: rest => return ([first], rest)
    | c :: _ => throw (.unexpected c)
    | [] => throw .endOfText
def members : Nat → List Char → Except ReadError (List (String × Json) × List Char)
  | 0, _ => .error .nesting
  | fuel + 1, chars =>
    match skipSpaces chars with
    | '"' :: rest => do
      let (key, rest) ← stringRest [] (rest.length + 1) rest
      match skipSpaces rest with
      | ':' :: rest =>
        let (first, rest) ← value fuel rest
        match skipSpaces rest with
        | ',' :: rest =>
          let (others, rest) ← members fuel rest
          return ((key, first) :: others, rest)
        | '}' :: rest => return ([(key, first)], rest)
        | c :: _ => throw (.unexpected c)
        | [] => throw .endOfText
      | c :: _ => throw (.unexpected c)
      | [] => throw .endOfText
    | c :: _ => .error (.unexpected c)
    | [] => .error .endOfText
end

end Reader

/-- Reads a text that holds one value. Values may be nested as deep as they are: the limit of 128 that
parsers set to save their stack is left out. -/
def read (text : String) : Except ReadError Json := do
  let chars := text.toList
  let (value, rest) ← Reader.value (chars.length + 1) chars
  if (Reader.skipSpaces rest).isEmpty then return value else throw .trailingCharacters

end ApiScaffold.Json
