import ApiScaffold.Yaml.Cursor

/-!
The text of scalars: literal and folded blocks, quoted scalars and plain ones. A single break
between two lines is folded to a blank; of several the first one is dropped.
-/

namespace ApiScaffold.Yaml

open Scan

def foldBreaks (first others : List Char) : List Char :=
  if first.head? = some '\n' then
    if others.isEmpty then [' '] else others
  else
    first ++ others

inductive Chomping where
  | clip
  | strip
  | keep
deriving DecidableEq, Repr

def chomping? : Option Char → Option Chomping
  | some '+' => some .keep
  | some '-' => some .strip
  | _ => none

def readIncrement : Scan (Option Nat) := do
  match ← look with
  | some c =>
    if Text.isAsciiDigit c then
      demand (c != '0')
      advance 1
      return some (c.toNat - 0x30)
    else
      return none
  | none => return none

def readChomping : Scan (Option Chomping) := do
  match chomping? (← look) with
  | some chomping =>
    advance 1
    return some chomping
  | none => return none

/-- The indicators behind the one that opens a block, in either order. -/
def readBlockHeader : Scan (Chomping × Option Nat) := do
  match ← readChomping with
  | some chomping => return (chomping, ← readIncrement)
  | none =>
    match ← readIncrement with
    | some increment => return ((← readChomping).getD .clip, some increment)
    | none => return (.clip, none)

/-- Skips the indentation of a line, which takes no tabs. -/
def skipIndentation (indent : Option Nat) : Scan Unit := do
  let cursor ← get
  let room :=
    match indent with
    | some indent => indent - cursor.column
    | none => cursor.rest.length
  advance ((cursor.rest.take room).takeWhile (· == ' ')).length
  let reached ← get
  demand (!(reached.rest.head? = some '\t' && indent.all fun indent => reached.column < indent))

/-- Reads blank lines, and finds the widest indentation. -/
def readBlankLines (indent : Option Nat) : Nat → Nat → List Char → Scan (Nat × List Char)
  | 0, _, _ => failure
  | fuel + 1, widest, breaks => do
    skipIndentation indent
    let widest := max widest (← get).column
    if ← atBreak then
      readBlankLines indent fuel widest (breaks ++ (← readBreak))
    else
      return (widest, breaks)

/-- The lines of a block. `first` is the break before the line here, `others` the breaks of blank
lines after it. -/
def readBlockLines (folded : Bool) (indent : Nat) : Nat → Bool → List Char → List Char → List Char →
    Scan (List Char × List Char × List Char)
  | 0, _, _, _, _ => failure
  | fuel + 1, afterBlank, text, first, others => do
    let cursor ← get
    if cursor.column = indent && !cursor.rest.isEmpty then
      let startsBlank := cursor.rest.head?.any isBlank
      let joined :=
        if folded && first.head? = some '\n' && !afterBlank && !startsBlank then
          if others.isEmpty then [' '] else others
        else
          first ++ others
      let line ← readWhile fun c => !isBreak c
      let first ← readBreak
      let (_, others) ← readBlankLines (some indent) (cursor.rest.length + 1) 0 []
      readBlockLines folded indent fuel startsBlank (text ++ joined ++ line) first others
    else
      return (text, first, others)

/-- A block after its opening indicator; `outer` is the indentation of what it belongs to. -/
def readBlock (folded : Bool) (outer : Int) : Scan String := do
  advance 1
  let (chomping, increment) ← readBlockHeader
  skipBlanks
  skipComment
  demand (← atLineEnd)
  discard readBreak
  let fuel := (← get).rest.length + 2
  let given := increment.map fun increment => (if outer ≥ 0 then outer.toNat else 0) + increment
  let (widest, breaks) ← readBlankLines given fuel 0 []
  let indent := given.getD (max widest (max (outer + 1).toNat 1))
  let (text, first, others) ← readBlockLines folded indent fuel false [] [] breaks
  let tail :=
    match chomping with
    | .strip => []
    | .clip => first
    | .keep => first ++ others
  return String.ofList (text ++ tail)

structure Gap where
  blanks : List Char := []
  first : List Char := []
  others : List Char := []
  broken : Bool := false

def Gap.joined (gap : Gap) : List Char :=
  if gap.broken then foldBreaks gap.first gap.others else gap.blanks

/-- Reads blanks and breaks. In a plain scalar of the block structure a tab may not stand before
column `indent` of a later line. -/
def readGap (indent : Option Nat) : Nat → Gap → Scan Gap
  | 0, _ => failure
  | fuel + 1, gap => do
    match ← look with
    | some c =>
      if isBlank c then
        let column := (← get).column
        demand (!(gap.broken && c == '\t' && indent.any fun indent => column < indent))
        advance 1
        readGap indent fuel (if gap.broken then gap else { gap with blanks := gap.blanks ++ [c] })
      else if isBreak c then
        let read ← readBreak
        if gap.broken then
          readGap indent fuel { gap with others := gap.others ++ read }
        else
          readGap indent fuel { gap with blanks := [], first := read, broken := true }
      else
        return gap
    | none => return gap

def simpleEscape? (c : Char) : Option Char :=
  match c with
  | '0' => some (Char.ofNat 0)
  | 'a' => some (Char.ofNat 7)
  | 'b' => some (Char.ofNat 8)
  | 't' => some '\t'
  | '\t' => some '\t'
  | 'n' => some '\n'
  | 'v' => some (Char.ofNat 11)
  | 'f' => some (Char.ofNat 12)
  | 'r' => some '\r'
  | 'e' => some (Char.ofNat 27)
  | ' ' => some ' '
  | '"' => some '"'
  | '/' => some '/'
  | '\\' => some '\\'
  | 'N' => some (Char.ofNat 0x85)
  | '_' => some (Char.ofNat 0xA0)
  | 'L' => some (Char.ofNat 0x2028)
  | 'P' => some (Char.ofNat 0x2029)
  | _ => none

/-- The count of digits after a letter that announces a code point. -/
def codeLength? (c : Char) : Option Nat :=
  match c with
  | 'x' => some 2
  | 'u' => some 4
  | 'U' => some 8
  | _ => none

def hexValue? (c : Char) : Option Nat :=
  if Text.isAsciiDigit c then some (c.toNat - 0x30)
  else if 'a' ≤ c && c ≤ 'f' then some (c.toNat - 0x57)
  else if 'A' ≤ c && c ≤ 'F' then some (c.toNat - 0x37)
  else none

/-- The character with a code point; surrogates are none. -/
def scalar? (code : Nat) : Option Char :=
  if code < 0xD800 || (0xE000 ≤ code && code < 0x110000) then some (Char.ofNat code) else none

def readEscape : Scan Char := do
  let letter ← (← get).rest.head?
  advance 1
  match codeLength? letter with
  | some length =>
    let digits := (← get).rest.take length
    demand (digits.length = length)
    let values ← (digits.mapM hexValue? : Option (List Nat))
    advance length
    scalar? (values.foldl (fun code digit => code * 16 + digit) 0)
  | none => simpleEscape? letter

/-- A word of a quoted scalar: characters up to a blank, a break or the closing quote. The flag
tells that an escaped break ended it. -/
def readQuotedWord (quote : Char) : Nat → List Char → Scan (List Char × Bool)
  | 0, _ => failure
  | fuel + 1, before => do
    match (← get).rest with
    | [] => return (before.reverse, false)
    | c :: rest =>
      if isBlank c || isBreak c then
        return (before.reverse, false)
      else if quote = '\'' && c = '\'' && rest.head? = some '\'' then
        advance 2
        readQuotedWord quote fuel ('\'' :: before)
      else if c = quote then
        return (before.reverse, false)
      else if quote = '"' && c = '\\' then
        advance 1
        if rest.head?.any isBreak then
          discard readBreak
          return (before.reverse, true)
        else
          let escaped ← readEscape
          readQuotedWord quote fuel (escaped :: before)
      else
        advance 1
        readQuotedWord quote fuel (c :: before)

def readQuotedRest (quote : Char) : Nat → List Char → Scan (List Char)
  | 0, _ => failure
  | fuel + 1, text => do
    let cursor ← get
    demand (!cursor.atDocumentMark '-' && !cursor.atDocumentMark '.')
    demand (!cursor.rest.isEmpty)
    let (word, escapedBreak) ← readQuotedWord quote (cursor.rest.length + 1) []
    if (← look) = some quote then
      advance 1
      return text ++ word
    else
      let gap ← readGap none (cursor.rest.length + 1) { broken := escapedBreak }
      readQuotedRest quote fuel (text ++ word ++ gap.joined)

def readQuoted (quote : Char) : Scan String := do
  let fuel := (← get).rest.length + 2
  advance 1
  return String.ofList (← readQuotedRest quote fuel [])

def isFlowMark (c : Char) : Bool := c == ',' || c == '[' || c == ']' || c == '{' || c == '}'

/-- A word of a plain scalar: characters up to a blank, a break or an indicator. -/
def readPlainWord (inFlow : Bool) : Nat → List Char → Scan (List Char)
  | 0, _ => failure
  | fuel + 1, before => do
    let cursor ← get
    match cursor.rest with
    | [] => return before.reverse
    | c :: rest =>
      if isBlank c || isBreak c then
        return before.reverse
      else if inFlow && c = ':' && rest.head?.any (fun d => isFlowMark d || d == '?') then
        failure
      else if (c = ':' && cursor.endsWordAt 1) || (inFlow && isFlowMark c) then
        return before.reverse
      else
        advance 1
        readPlainWord inFlow fuel (c :: before)

/-- The rest of a plain scalar; `pending` is the gap before the word here. The flag tells that a
break follows the scalar. -/
def readPlainRest (inFlow : Bool) (indent : Nat) : Nat → List Char → Gap → Scan (List Char × Bool)
  | 0, _, _ => failure
  | fuel + 1, text, pending => do
    let cursor ← get
    if cursor.atDocumentMark '-' || cursor.atDocumentMark '.' || cursor.rest.head? = some '#' then
      return (text, pending.broken)
    let word ← readPlainWord inFlow (cursor.rest.length + 1) []
    let extended := if word.isEmpty then text else text ++ pending.joined ++ word
    let kept := if word.isEmpty then pending else {}
    let ahead ← look
    if !ahead.any (fun c => isBlank c || isBreak c) then
      return (extended, kept.broken)
    let gap ← readGap (some indent) (cursor.rest.length + 1) kept
    if !inFlow && (← get).column < indent then
      return (extended, gap.broken)
    readPlainRest inFlow indent fuel extended gap

/-- A scalar without quotes inside something of indentation `outer`. -/
def readPlain (inFlow : Bool) (outer : Int) : Scan (String × Bool) := do
  let fuel := (← get).rest.length + 2
  let (text, broken) ← readPlainRest inFlow (outer + 1).toNat fuel [] {}
  return (String.ofList text, broken)

end ApiScaffold.Yaml
