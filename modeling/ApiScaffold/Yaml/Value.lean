import ApiScaffold.Json.Basic
import ApiScaffold.Text.Pieces
import ApiScaffold.Yaml.Node

/-!
The JSON value of a YAML document. Plain scalars are read as nulls, flags and numbers where they look
like some; keys are the texts of scalars; aliases are replaced by what they stand for.
-/

namespace ApiScaffold.Yaml

inductive Reading where
  | value (json : Json)
  /-- An integer of more than 64 bits that fits into 128. -/
  | oversized

def isNullWord (text : String) : Bool := ["null", "Null", "NULL", "~"].contains text

def flag? (text : String) : Option Bool :=
  if ["true", "True", "TRUE"].contains text then some true
  else if ["false", "False", "FALSE"].contains text then some false
  else none

def digitValue? (base : Nat) (c : Char) : Option Nat :=
  (hexValue? c).filter (· < base)

/-- Digits of a base, at least one. -/
def natural? (base : Nat) (digits : List Char) : Option Nat :=
  if digits.isEmpty then none
  else (digits.mapM (digitValue? base)).map fun values =>
    values.foldl (fun number digit => number * base + digit) 0

/-- Digits after a mark of their base; a text without such a mark is decimal. -/
def based? (chars : List Char) : Option Nat :=
  match chars with
  | '0' :: 'x' :: digits => natural? 16 digits
  | '0' :: 'o' :: digits => natural? 8 digits
  | '0' :: 'b' :: digits => natural? 2 digits
  | digits => natural? 10 digits

def withoutSign : List Char → List Char
  | '+' :: rest => rest
  | '-' :: rest => rest
  | chars => chars

/-- Digits behind a leading zero are no number. -/
def hasLeadingZero (chars : List Char) : Bool :=
  match withoutSign chars with
  | '0' :: next :: rest => (next :: rest).all Text.isAsciiDigit
  | _ => false

/-- The integer of a text, of any size. -/
def integer? (chars : List Char) : Option Int :=
  if hasLeadingZero chars then none
  else
    match chars with
    | '-' :: rest => (based? rest).map fun magnitude => -(magnitude : Int)
    | '+' :: rest => (based? rest).map fun magnitude => (magnitude : Int)
    | rest => (based? rest).map fun magnitude => (magnitude : Int)

/-- Whether an integer fits into 128 bits, with a sign or without. -/
def isOversized (value : Int) : Bool :=
  -170141183460469231731687303715884105728 ≤ value &&
    value < 340282366920938463463374607431768211456

def exponent? (chars : List Char) : Option Int :=
  match chars with
  | [] => some 0
  | c :: rest =>
    if c = 'e' || c = 'E' then
      match rest with
      | '-' :: digits => (natural? 10 digits).map fun magnitude => -(magnitude : Int)
      | '+' :: digits => (natural? 10 digits).map fun magnitude => (magnitude : Int)
      | digits => (natural? 10 digits).map fun magnitude => (magnitude : Int)
    else
      none

/-- A decimal with a point, an exponent or neither, and with at least one digit. -/
def decimal? (negative : Bool) (chars : List Char) : Option Binary64 :=
  let whole := chars.takeWhile Text.isAsciiDigit
  let rest := chars.drop whole.length
  let pointed := rest.head? = some '.'
  let fraction := if pointed then rest.tail.takeWhile Text.isAsciiDigit else []
  let tail := if pointed then rest.tail.drop fraction.length else rest
  if whole.isEmpty && fraction.isEmpty then none
  else do
    let exponent ← exponent? tail
    let digits := (whole ++ fraction).foldl (fun number c => number * 10 + (c.toNat - 0x30)) 0
    Binary64.ofDecimal? negative digits (exponent - fraction.length)

/-- Infinities and what is no number, which have no value here. -/
def isUnboundedWord (text : String) : Bool :=
  [".inf", ".Inf", ".INF", "+.inf", "+.Inf", "+.INF", "-.inf", "-.Inf", "-.INF",
    ".nan", ".NaN", ".NAN"].contains text

/-- The fraction of a text; a number beyond the largest one is none. -/
def fraction? (text : String) : Option Json :=
  if isUnboundedWord text then some .null
  else
    let number :=
      match text.toList with
      | '-' :: rest => decimal? true rest
      | '+' :: rest => decimal? false rest
      | rest => decimal? false rest
    number.map fun number => .number (.double number)

/-- The integer of a text, if it fits into 64 or at least into 128 bits. -/
def integerReading? (text : String) : Option Reading :=
  match integer? text.toList with
  | some value =>
    if JsonNumber.leastInteger ≤ value && value ≤ JsonNumber.greatestInteger then
      some (.value (.number (.integer value)))
    else if isOversized value then some .oversized
    else none
  | none => none

def readPlainText (text : String) : Reading :=
  if text.isEmpty || isNullWord text then .value .null
  else
    match flag? text with
    | some flag => .value (.bool flag)
    | none =>
      match integerReading? text with
      | some reading => reading
      | none =>
        if hasLeadingZero text.toList then .value (.string text)
        else .value ((fraction? text).getD (.string text))

def coreTag (name : String) : List Char := "tag:yaml.org,2002:".toList ++ name.toList

/-- A tag of the document itself, which has no JSON value. -/
def isLocalTag (tag : Option (List Char)) : Bool := tag.any (·.head? = some '!')

/-- The value of a scalar; a core tag asks for a kind of value, other tags make it a text. -/
def scalarValue? (text : String) (plain : Bool) : Option (List Char) → Option Json
  | none =>
    if plain then
      match readPlainText text with
      | .value json => some json
      | .oversized => none
    else
      some (.string text)
  | some tag =>
    if tag.head? = some '!' then none
    else if tag = coreTag "bool" then (flag? text).map .bool
    else if tag = coreTag "int" then
      match integerReading? text with
      | some (.value json) => some json
      | _ => none
    else if tag = coreTag "float" then fraction? text
    else if tag = coreTag "null" then if isNullWord text then some .null else none
    else some (.string text)

def greatestDepth : Nat := 128

/-- What an alias stands for. Each look-up is counted. -/
def dereference (anchored : List (Nat × Node)) (limit : Nat) : Node → StateT Nat Option Node
  | .aliasOf number => do
    let jumps := (← get) + 1
    set jumps
    if jumps ≤ limit then (anchored.lookup number : Option Node) else failure
  | node => pure node

def keyText (anchored : List (Nat × Node)) (limit : Nat) (key : Node) : StateT Nat Option String := do
  match ← dereference anchored limit key with
  | .scalar text _ _ => return text
  | _ => failure

/-- The value of a node, with collections nested at most `depth` deep. -/
def nodeValue (anchored : List (Nat × Node)) (limit : Nat) : Nat → Node → StateT Nat Option Json
  | depth, node => do
    match ← dereference anchored limit node with
    | .scalar text plain tag => scalarValue? text plain tag
    | .sequence tag items =>
      if isLocalTag tag then failure
      match depth with
      | 0 => failure
      | depth + 1 => return .array (← items.mapM (nodeValue anchored limit depth))
    | .mapping tag entries =>
      if isLocalTag tag then failure
      match depth with
      | 0 => failure
      | depth + 1 =>
        let members ← entries.mapM fun (key, value) => do
          let key ← keyText anchored limit key
          return (key, ← nodeValue anchored limit depth value)
        return Json.ofMembers members
    | .aliasOf _ => failure

/-- An alias is looked up at most a hundred times for every event of the document. -/
def Tree.value? (tree : Tree) : Option Json :=
  ((nodeValue tree.anchored (tree.root.eventCount * 100) greatestDepth tree.root).run 0).map (·.1)

def read? (text : String) : Option Json := do
  let tokens ← Token.ofText? text
  let tree ← Tree.ofTokens? tokens
  tree.value?

end ApiScaffold.Yaml
