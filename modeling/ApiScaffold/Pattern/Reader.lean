import ApiScaffold.Pattern.Expression
import ApiScaffold.Pattern.PropertyNames
import ApiScaffold.Text.Blank
import ApiScaffold.Text.Case
import ApiScaffold.Text.Pieces

/-!
Reading regular expressions: without looking around and without references back, matching Unicode
text. Flags hold to the end of their group. Where Unicode is switched off, nothing that could match
a part of a character is accepted.
-/

namespace ApiScaffold.Pattern

structure Mode where
  unicode : Bool := true
  /-- Blanks and comments between the parts do not count. -/
  spaced : Bool := false
deriving DecidableEq, Repr

structure Cursor where
  rest : List Char
  mode : Mode := {}
  /-- The names of the groups so far. -/
  names : List (List Char) := []
deriving Repr

abbrev Read := StateT Cursor Option

namespace Reader

def skipBlanks (comment : Bool) : List Char → List Char
  | [] => []
  | c :: rest =>
    if comment then skipBlanks (c != '\n') rest
    else if Text.isBlank c then skipBlanks false rest
    else if c = '#' then skipBlanks true rest
    else c :: rest

def look : Read (Option Char) := return (← get).rest.head?

def peek : Read (Option Char) := return (← get).rest.tail.head?

def skip : Read Unit :=
  modify fun cursor =>
    if cursor.mode.spaced then { cursor with rest := skipBlanks false cursor.rest } else cursor

def advance (count : Nat) : Read Unit :=
  modify fun cursor => { cursor with rest := cursor.rest.drop count }

/-- One character on, and over what does not count. -/
def next : Read Unit := do
  advance 1
  skip

def dropBlanks : Read Unit :=
  modify fun cursor => { cursor with rest := cursor.rest.dropWhile Text.isBlank }

/-- The character here, which must be there. -/
def here : Read Char := do
  match ← look with
  | some c => return c
  | none => failure

def demand (condition : Bool) : Read Unit := if condition then pure () else failure

/-- Moves over `start`, if it is here. -/
def accept (start : String) : Read Bool := do
  match Text.afterStart? start.toList (← get).rest with
  | some rest =>
    modify fun cursor => { cursor with rest }
    return true
  | none => return false

/-- The character that a range would continue with. Of a comment only its mark is skipped. -/
def peekOverBlanks : Read (Option Char) := do
  let cursor ← get
  let after := cursor.rest.tail
  if cursor.mode.spaced then
    match after.dropWhile Text.isBlank with
    | '#' :: more =>
      match more.dropWhile Text.isBlank with
      | c :: _ => return some c
      | [] => return after.head?
    | c :: _ => return some c
    | [] => return after.head?
  else
    return after.head?

def hexValue? (c : Char) : Option Nat :=
  if Text.isAsciiDigit c then some (c.toNat - 0x30)
  else if 'a' ≤ c && c ≤ 'f' then some (c.toNat - 0x57)
  else if 'A' ≤ c && c ≤ 'F' then some (c.toNat - 0x37)
  else none

/-- The character of a code point; surrogates are none. -/
def scalar? (code : Nat) : Option Char :=
  if code < 0xD800 || (0xE000 ≤ code && code < 0x110000) then some (Char.ofNat code) else none

def hexDigits : Nat → Nat → Read Nat
  | 0, value => pure value
  | count + 1, value => do
    let digit ← hexValue? (← here)
    next
    hexDigits count (value * 16 + digit)

/-- Hexadecimal digits up to a closing brace, at least one. -/
def bracedHex : Nat → Option Nat → Read Nat
  | 0, _ => failure
  | fuel + 1, value => do
    let c ← here
    if c = '}' then
      next
      value
    else
      let digit ← hexValue? c
      next
      bracedHex fuel (some (value.getD 0 * 16 + digit))

def metaCharacters : List Char := "\\.+*?()|[]\x7b\x7d^$#&-~".toList

/-- Characters that may stand after a backslash without a meaning of their own. -/
def isEscapable (c : Char) : Bool :=
  metaCharacters.contains c ||
    (c.toNat < 0x80 && !Text.isAsciiAlphanumeric c && c != '<' && c != '>')

def letterEscapes : List (Char × Char) := [
  ('a', '\x07'), ('f', '\x0c'), ('t', '\t'), ('n', '\n'), ('r', '\r'), ('v', '\x0b')]

/-- The ways to write what a set may hold, and assertions. -/
inductive Primitive where
  /-- A character; `byte` marks one given as two hexadecimal digits. -/
  | literal (c : Char) (byte : Bool)
  | named (ranges : Nat)
  | dot
  | assertion
deriving DecidableEq, Repr

/-- A property name without blanks, hyphens, underscores, capitals and a leading `is`. -/
def looseName (name : List Char) : List Char :=
  let startsWithIs := Text.eqIgnoringAsciiCase (name.take 2) "is".toList
  let body := if startsWithIs then name.drop 2 else name
  let plain := (body.filter fun c =>
    c.toNat < 0x80 && c != ' ' && c != '_' && c != '-').map Text.asciiLower
  if startsWithIs && plain == ['c'] then "isc".toList else plain

def listed (names : List String) (name : List Char) : Bool := names.contains (String.ofList name)

def isPropertyName (name : List Char) : Bool :=
  let name := looseName name
  listed PropertyNames.binary name || listed PropertyNames.category name ||
    listed PropertyNames.script name

def isPropertyValue (property value : List Char) : Bool :=
  let values :=
    match String.ofList (looseName property) with
    | "gc" => PropertyNames.category
    | "generalcategory" => PropertyNames.category
    | "sc" => PropertyNames.script
    | "script" => PropertyNames.script
    | "scx" => PropertyNames.script
    | "scriptextensions" => PropertyNames.script
    | "age" => PropertyNames.age
    | "gcb" => PropertyNames.graphemeBreak
    | "graphemeclusterbreak" => PropertyNames.graphemeBreak
    | "wb" => PropertyNames.wordBreak
    | "wordbreak" => PropertyNames.wordBreak
    | "sb" => PropertyNames.sentenceBreak
    | "sentencebreak" => PropertyNames.sentenceBreak
    | _ => []
  listed values (looseName value)

/-- The parts of a text around the first occurrence of `mark`. -/
def cutAround? (mark : List Char) : List Char → Option (List Char × List Char)
  | [] => none
  | c :: rest =>
    match Text.afterStart? mark (c :: rest) with
    | some after => some ([], after)
    | none => (cutAround? mark rest).map fun (before, after) => (c :: before, after)

/-- The text between the braces of a property, which may name a value too. -/
def isProperty (text : List Char) : Bool :=
  match cutAround? ['!', '='] text with
  | some (property, value) => isPropertyValue property value
  | none =>
    match cutAround? [':'] text with
    | some (property, value) => isPropertyValue property value
    | none =>
      match cutAround? ['='] text with
      | some (property, value) => isPropertyValue property value
      | none => isPropertyName text

def bracedText : Nat → List Char → Read (List Char)
  | 0, _ => failure
  | fuel + 1, before => do
    let c ← here
    if c = '}' then
      advance 1
      return before.reverse
    else
      next
      bracedText fuel (c :: before)

/-- How many ranges a property counts for in the estimated size of a pattern, however many it has. A
property of one range that is repeated, as in `\p{Zl}{300}`, is too large by this estimate alone. -/
def propertyRanges : Nat := 600

def property : Read Primitive := do
  next
  let c ← here
  if c = '{' then
    next
    let text ← bracedText ((← get).rest.length + 1) []
    demand (isProperty text)
  else
    demand (c != '\\')
    next
    demand (isPropertyName [c])
  demand (← get).mode.unicode
  return .named propertyRanges

/-- A class named by one letter; negated, it leaves the bytes without Unicode. -/
def letterClass (c : Char) : Read Primitive := do
  advance 1
  let unicode := (← get).mode.unicode
  demand (unicode || Text.isAsciiLower c)
  if !unicode then return .named 3
  return .named (if c = 'w' || c = 'W' then 770 else if c = 'd' || c = 'D' then 71 else 10)

def isBoundaryLetter (c : Char) : Bool := Text.isAsciiLetter c || c == '-'

def boundaryLetters : Nat → List Char → Read (List Char)
  | 0, _ => failure
  | fuel + 1, before => do
    match ← look with
    | some c =>
      if isBoundaryLetter c then
        next
        boundaryLetters fuel (c :: before)
      else
        return before.reverse
    | none => return before.reverse

def boundaryNames : List String := ["start", "end", "start-half", "end-half"]

/-- The name in braces that may follow a word boundary. What does not begin like one is left to be
read as a repetition. -/
def boundaryName : Read Unit := do
  let before ← get
  if (← look) = some '{' then
    next
    let c ← here
    if isBoundaryLetter c then
      let name ← boundaryLetters ((← get).rest.length + 1) []
      demand ((← look) = some '}')
      advance 1
      demand (boundaryNames.contains (String.ofList name))
    else
      set before

def hexEscape (digits : Nat) : Read Primitive := do
  next
  if (← here) = '{' then
    next
    let code ← bracedHex ((← get).rest.length + 1) none
    return .literal (← scalar? code) false
  else
    let code ← hexDigits digits 0
    return .literal (← scalar? code) (digits = 2)

def escape : Read Primitive := do
  advance 1
  let c ← here
  if c = 'x' then hexEscape 2
  else if c = 'u' then hexEscape 4
  else if c = 'U' then hexEscape 8
  else if c = 'p' || c = 'P' then property
  else if "dswDSW".toList.contains c then letterClass c
  else
    advance 1
    if isEscapable c then return .literal c false
    match letterEscapes.lookup c with
    | some meant => return .literal meant false
    | none =>
      if c = 'b' then
        boundaryName
        return .assertion
      else
        demand ("AzB<>".toList.contains c)
        return .assertion

def primitive : Read Primitive := do
  let c ← here
  if c = '\\' then escape
  else
    advance 1
    if c = '.' then return .dot
    else if c = '^' || c = '$' then return .assertion
    else return .literal c false

def Primitive.expression (mode : Mode) : Primitive → Option Expression
  | literal c byte => if byte && !mode.unicode && c.toNat > 0x7F then none else some (.literal c)
  | named ranges => some (.oneOf (.ranges ranges))
  | dot => if mode.unicode then some (.oneOf (.ranges 10)) else none
  | assertion => some .assertion

def Primitive.member? (mode : Mode) : Primitive → Option Char
  | literal c _ => if !mode.unicode && c.toNat > 0x7F then none else some c
  | _ => none

def Primitive.charSet (mode : Mode) : Primitive → Option CharSet
  | literal c byte => ((literal c byte).member? mode).map fun _ => .ranges 1
  | named ranges => some (.ranges ranges)
  | dot => none
  | assertion => none

def setPrimitive : Read Primitive := do
  let c ← here
  if c = '\\' then escape
  else
    advance 1
    return .literal c false

/-- A member of a set, or a range of characters. -/
def setRange : Read CharSet := do
  let mode := (← get).mode
  let first ← setPrimitive
  skip
  let c ← here
  let after ← peekOverBlanks
  if c != '-' || after = some ']' || after = some '-' then
    first.charSet mode
  else
    next
    discard here
    let last ← setPrimitive
    let low ← first.member? mode
    let high ← last.member? mode
    demand (low ≤ high)
    return .ranges 1

def namedClasses : List String := [
  "alnum", "alpha", "ascii", "blank", "cntrl", "digit", "graph", "lower", "print", "punct", "space",
  "upper", "word", "xdigit"]

/-- The class whose name stands between brackets and colons, if one does here. -/
def namedClass? (chars : List Char) : Option (Bool × List Char) :=
  match chars with
  | '[' :: ':' :: rest =>
    let negated := rest.head? = some '^'
    let body := if negated then rest.tail else rest
    let name := body.takeWhile (· != ':')
    match body.drop name.length with
    | ':' :: ']' :: after => if listed namedClasses name then some (negated, after) else none
    | _ => none
  | _ => none

def leadingHyphens : Nat → List CharSet → Read (List CharSet)
  | 0, _ => failure
  | fuel + 1, members => do
    if (← here) = '-' then
      next
      leadingHyphens fuel (.ranges 1 :: members)
    else
      return members

/-- The start of a set: whether it is negated, and the members that have no meaning of their own
there. -/
def openSet : Read (List CharSet) := do
  next
  if (← here) = '^' then
    demand (← get).mode.unicode
    next
  let members ← leadingHyphens ((← get).rest.length + 1) []
  if members.isEmpty && (← here) = ']' then
    next
    discard here
    return [.ranges 1]
  else
    return members

/-- The left side of a pending operation joined with what was read since. -/
def joinSet (left : Option CharSet) (members : List CharSet) : CharSet :=
  let right := CharSet.ofMembers members.reverse
  match left with
  | some left => .combined left right
  | none => right

/-- The rest of a set up to its bracket; every step takes a character at least, so `fuel` is their
count. -/
def setBody : Nat → Option CharSet → List CharSet → Read CharSet
  | 0, _, _ => failure
  | fuel + 1, left, members => do
    skip
    let c ← here
    let following ← peek
    if c = '[' then
      match namedClass? (← get).rest with
      | some (negated, rest) =>
        demand ((← get).mode.unicode || !negated)
        modify fun cursor => { cursor with rest }
        setBody fuel left (.ranges 3 :: members)
      | none =>
        let inner ← openSet
        let body ← setBody fuel none inner
        setBody fuel left (.bracketed body :: members)
    else if c = ']' then
      advance 1
      return joinSet left members
    else if (c = '&' || c = '-' || c = '~') && following = some c then
      advance 2
      setBody fuel (some (joinSet left members)) []
    else
      let member ← setRange
      setBody fuel left (member :: members)

def set : Read Expression := do
  let fuel := (← get).rest.length + 1
  let members ← openSet
  return .oneOf (.bracketed (← setBody fuel none members))

/-- The digits of a count; blanks around them do not count. -/
def countDigits : Nat → Option Nat → Read (Option Nat)
  | 0, _ => failure
  | fuel + 1, value => do
    match ← look with
    | some c =>
      if Text.isAsciiDigit c then
        next
        countDigits fuel (some (value.getD 0 * 10 + (c.toNat - 0x30)))
      else
        return value
    | none => return value

/-- A count of 32 bits, if digits are here. -/
def count? : Read (Option Nat) := do
  dropBlanks
  let value ← countDigits ((← get).rest.length + 1) none
  dropBlanks
  skip
  demand (value.all (· < 4294967296))
  return value

def bounds : Read (Nat × Option Nat) := do
  next
  discard here
  let least ← count?
  let c ← here
  if c = ',' then
    next
    let c ← here
    if c = '}' then return (← least, none)
    else
      let least ← least
      let most ← count?
      return (least, some (← most))
  else
    return (← least, some (← least))

def repeatLast (items : List Expression) (least : Nat) (most : Option Nat) :
    Read (List Expression) := do
  match items with
  | last :: before =>
    demand last.isRepeatable
    demand (most.all (least ≤ ·))
    return .repeated last least most :: before
  | [] => failure

def markedRepetition (items : List Expression) (least : Nat) (most : Option Nat) :
    Read (List Expression) := do
  let repeated ← repeatLast items least most
  advance 1
  discard (accept "?")
  return repeated

def countedRepetition (items : List Expression) : Read (List Expression) := do
  let (least, most) ← bounds
  demand ((← look) = some '}')
  next
  discard (accept "?")
  repeatLast items least most

def isNameStart (c : Char) : Bool := c == '_' || Text.isAlphabetic c

def isNamePart (c : Char) : Bool :=
  c == '_' || c == '.' || c == '[' || c == ']' || Text.isAlphabetic c || Text.isNumeric c

def groupName : Read Unit := do
  let cursor ← get
  let name := cursor.rest.takeWhile (· != '>')
  let rest := cursor.rest.drop (name.length + 1)
  demand (name.length < cursor.rest.length)
  demand (name.head?.any isNameStart && name.tail.all isNamePart)
  demand (!cursor.names.contains name)
  modify fun cursor => { cursor with rest, names := name :: cursor.names }

/-- A list of flags; the hyphen negates those after it. -/
def flagList : Nat → List Char → Read (List Char)
  | 0, _ => failure
  | fuel + 1, before => do
    let c ← here
    if c = ':' || c = ')' then
      demand (before.head? != some '-')
      return before.reverse
    else
      demand ("-imsUuxR".toList.contains c && !before.contains c)
      advance 1
      flagList fuel (c :: before)

def flagValue (flags : List Char) (flag : Char) (otherwise : Bool) : Bool :=
  if !flags.contains flag then otherwise
  else (flags.takeWhile (· != '-')).contains flag

def Mode.withFlags (mode : Mode) (flags : List Char) : Mode :=
  { unicode := flagValue flags 'u' mode.unicode, spaced := flagValue flags 'x' mode.spaced }

/-- What stands after an opening parenthesis: the mode of a group, or of the rest of this one. -/
inductive Opening where
  | group (mode : Mode)
  | switch (mode : Mode)

def opening : Read Opening := do
  next
  let mode := (← get).mode
  for mark in ["?=", "?!", "?<=", "?<!"] do
    if ← accept mark then failure
  if (← accept "?P<") || (← accept "?<") then
    groupName
    return .group mode
  else if ← accept "?" then
    let flags ← flagList ((← get).rest.length + 1) []
    let c ← here
    advance 1
    if c = ')' then
      demand (!flags.isEmpty)
      return .switch (Mode.withFlags mode flags)
    else
      return .group (Mode.withFlags mode flags)
  else
    return .group mode

/-- Reads up to a closing parenthesis or the end; every step takes a character at least, so `fuel`
is their count. -/
def body : Nat → List Expression → List Expression → Read Expression
  | 0, _, _ => failure
  | fuel + 1, items, finished => do
    skip
    let done := Expression.ofAlternatives (Expression.ofItems items.reverse :: finished).reverse
    match ← look with
    | none => return done
    | some c =>
      if c = ')' then return done
      else if c = '|' then
        advance 1
        body fuel [] (Expression.ofItems items.reverse :: finished)
      else if c = '(' then
        let outer := (← get).mode
        match ← opening with
        | .switch mode =>
          modify fun cursor => { cursor with mode }
          body fuel (.flags :: items) finished
        | .group mode =>
          modify fun cursor => { cursor with mode }
          let inner ← body fuel [] []
          demand ((← look) = some ')')
          advance 1
          modify fun cursor => { cursor with mode := outer }
          body fuel (.group inner :: items) finished
      else if c = '[' then
        body fuel ((← set) :: items) finished
      else if c = '?' then
        body fuel (← markedRepetition items 0 (some 1)) finished
      else if c = '*' then
        body fuel (← markedRepetition items 0 none) finished
      else if c = '+' then
        body fuel (← markedRepetition items 1 none) finished
      else if c = '{' then
        body fuel (← countedRepetition items) finished
      else
        let mode := (← get).mode
        let item ← (← primitive).expression mode
        body fuel (item :: items) finished

end Reader

def Expression.ofText? (text : String) : Option Expression :=
  let chars := text.toList
  match (Reader.body (chars.length + 1) [] []).run { rest := chars } with
  | some (expression, cursor) => if cursor.rest.isEmpty then some expression else none
  | none => none

def isValid (text : String) : Bool := (Expression.ofText? text).any Expression.isUsable

end ApiScaffold.Pattern
