import ApiScaffold.Yaml.ScalarText

/-!
The tokens of a YAML text. Indentation opens and closes collections; whether something is the key of
a mapping shows only at the colon after it, so its tokens are put in front of it then.
-/

namespace ApiScaffold.Yaml

/-- A tag as it is written: a handle and what follows it. -/
structure TagText where
  handle : List Char
  tail : List Char
deriving DecidableEq, Repr

inductive Token where
  | streamEnd
  | version (major minor : Nat)
  | tagHandle (handle start : List Char)
  | documentStart
  | documentEnd
  | blockSequenceStart
  | blockMappingStart
  | blockEnd
  | flowSequenceStart
  | flowSequenceEnd
  | flowMappingStart
  | flowMappingEnd
  | blockEntry
  | flowEntry
  | key
  | value
  | aliasOf (name : List Char)
  | anchor (name : List Char)
  | tag (text : TagText)
  | scalar (text : String) (plain : Bool)
deriving DecidableEq, Repr

/-- What may turn out to be a key: where it starts, and the number of its first token. A required
one stands where a mapping expects a key. -/
structure KeyCandidate where
  number : Nat
  index : Nat
  line : Nat
  column : Nat
  required : Bool
deriving Repr

structure Lexer where
  cursor : Cursor
  /-- The tokens so far, last one first. -/
  tokens : List Token := []
  /-- The column of the innermost collection, and those around it. -/
  indent : Int := -1
  outerIndents : List Int := []
  /-- One entry for each open bracket and one for the text around them, innermost first. -/
  candidates : List (Option KeyCandidate) := [none]
  keyAllowed : Bool := true

namespace Lexer

def inFlow (lexer : Lexer) : Bool := lexer.candidates.length > 1

def column (lexer : Lexer) : Int := lexer.cursor.column

def push (token : Token) (lexer : Lexer) : Lexer := { lexer with tokens := token :: lexer.tokens }

def insert (number : Nat) (token : Token) (lexer : Lexer) : Lexer :=
  let later := lexer.tokens.length - number
  { lexer with tokens := lexer.tokens.take later ++ token :: lexer.tokens.drop later }

def advance (count : Nat) (lexer : Lexer) : Lexer :=
  { lexer with cursor := lexer.cursor.advance count }

/-- Closes the collections that are indented further than `column`. -/
def unroll (column : Int) (lexer : Lexer) : Lexer :=
  if lexer.inFlow then lexer else close lexer.outerIndents lexer
where
  close : List Int → Lexer → Lexer
    | [], lexer => lexer
    | outer :: others, lexer =>
      if lexer.indent > column then
        close others { (lexer.push .blockEnd) with indent := outer, outerIndents := others }
      else
        lexer

/-- Opens a collection at `column`, if it is indented further than the one around it. -/
def roll (column : Int) (number : Nat) (token : Token) (lexer : Lexer) : Lexer :=
  if !lexer.inFlow && lexer.indent < column then
    { (lexer.insert number token) with
      indent := column, outerIndents := lexer.indent :: lexer.outerIndents }
  else
    lexer

/-- Gives up the candidate at this level, which must not be a required one. -/
def dropCandidate (lexer : Lexer) : Option Lexer :=
  match lexer.candidates with
  | some candidate :: others =>
    if candidate.required then none else some { lexer with candidates := none :: others }
  | _ => some lexer

def noteCandidate (lexer : Lexer) : Option Lexer :=
  if lexer.keyAllowed then do
    let cleared ← lexer.dropCandidate
    let candidate : KeyCandidate :=
      { number := cleared.tokens.length
        index := cleared.cursor.index
        line := cleared.cursor.line
        column := cleared.cursor.column
        required := !cleared.inFlow && cleared.indent == cleared.column }
    return { cleared with candidates := some candidate :: cleared.candidates.tail }
  else
    some lexer

def scan {α : Type} (read : Scan α) (lexer : Lexer) : Option (α × Lexer) :=
  (read.run lexer.cursor).map fun (value, cursor) => (value, { lexer with cursor })

/-- Skips blanks, comments and breaks. A tab does not count as a blank where a key may start, and a
byte order mark only at the very start. -/
def skipSpace : Nat → Lexer → Option Lexer
  | 0, _ => none
  | fuel + 1, lexer => do
    let start :=
      if lexer.cursor.index = 0 && (lexer.cursor.at? 0).any (·.toNat == 0xFEFF) then lexer.advance 1
      else lexer
    let tabs := start.inFlow || !start.keyAllowed
    let skipping : Scan Bool := do
      discard (Scan.readWhile fun c => c == ' ' || (tabs && c == '\t'))
      Scan.skipComment
      Scan.atBreak
    let (broken, after) ← start.scan skipping
    if broken then
      let (_, next) ← after.scan Scan.readBreak
      skipSpace fuel (if next.inFlow then next else { next with keyAllowed := true })
    else
      return after

/-- Ends the blocks and the candidate before a directive or a mark of a document. -/
def endBlocks (lexer : Lexer) : Option Lexer := do
  let cleared ← (lexer.unroll (-1)).dropCandidate
  return { cleared with keyAllowed := false }

def readDigits : Scan Nat := do
  let digits ← Scan.readWhile Text.isAsciiDigit
  Scan.demand (0 < digits.length && digits.length ≤ 9)
  return digits.foldl (fun value c => value * 10 + (c.toNat - 0x30)) 0

def expect (c : Char) : Scan Unit := do
  Scan.demand ((← Scan.look) = some c)
  Scan.advance 1

/-- The handle of a tag: `!`, `!!` or a word between two marks. In a directive it is complete. -/
def readTagHandle (complete : Bool) : Scan (List Char) := do
  expect '!'
  let word ← Scan.readWhile isWordChar
  if (← Scan.look) = some '!' then
    Scan.advance 1
    return '!' :: word ++ ['!']
  else
    Scan.demand (!complete || word.isEmpty)
    return '!' :: word

def isUriChar (verbatim : Bool) (c : Char) : Bool :=
  isWordChar c || ";/?:@&=+$.%!~*'()".toList.contains c || (verbatim && ",[]".toList.contains c)

def byteCount? (first : Nat) : Option Nat :=
  if first < 0x80 then some 1
  else if 0xC0 ≤ first && first < 0xE0 then some 2
  else if 0xE0 ≤ first && first < 0xF0 then some 3
  else if 0xF0 ≤ first && first < 0xF8 then some 4
  else none

/-- The code point of bytes, and the characters after their escapes. -/
def escapedBytes : Nat → Nat → List Char → Option (Nat × List Char)
  | 0, code, rest => some (code, rest)
  | count + 1, code, '%' :: high :: low :: rest => do
    let byte := (← hexValue? high) * 16 + (← hexValue? low)
    if byte / 64 = 2 then escapedBytes count (code * 64 + byte % 64) rest else none
  | _ + 1, _, _ => none

def escapedChar (chars : List Char) : Option (Char × List Char) :=
  match chars with
  | '%' :: high :: low :: rest => do
    let first := (← hexValue? high) * 16 + (← hexValue? low)
    let count ← byteCount? first
    let start :=
      if count = 1 then first
      else if count = 2 then first % 32
      else if count = 3 then first % 16
      else first % 8
    let (code, after) ← escapedBytes (count - 1) start rest
    return (← scalar? code, after)
  | _ => none

def unescapeUri : Nat → List Char → Option (List Char)
  | 0, _ => none
  | _ + 1, [] => some []
  | fuel + 1, c :: rest => do
    if c = '%' then
      let (read, after) ← escapedChar (c :: rest)
      return read :: (← unescapeUri fuel after)
    else
      return c :: (← unescapeUri fuel rest)

def readUri (verbatim : Bool) : Scan (List Char) := do
  let chars ← Scan.readWhile (isUriChar verbatim)
  unescapeUri (chars.length + 1) chars

def readDirectiveValue (name : List Char) : Scan Token := do
  if name = "YAML".toList then
    Scan.skipBlanks
    let major ← readDigits
    expect '.'
    let minor ← readDigits
    return .version major minor
  else if name = "TAG".toList then
    Scan.skipBlanks
    let handle ← readTagHandle true
    Scan.demand ((← Scan.look).any isBlank)
    Scan.skipBlanks
    let start ← readUri true
    Scan.demand (!start.isEmpty)
    Scan.demand ((← get).endsWordAt 0)
    return .tagHandle handle start
  else
    failure

def readDirective : Scan Token := do
  Scan.advance 1
  let name ← Scan.readWhile isWordChar
  Scan.demand (!name.isEmpty)
  Scan.demand ((← get).endsWordAt 0)
  let token ← readDirectiveValue name
  Scan.skipBlanks
  Scan.skipComment
  Scan.demand (← Scan.atLineEnd)
  discard Scan.readBreak
  return token

def readName : Scan (List Char) := do
  Scan.advance 1
  let name ← Scan.readWhile isWordChar
  Scan.demand (!name.isEmpty)
  let cursor ← get
  Scan.demand (cursor.endsWordAt 0 || cursor.rest.head?.any fun c => "?:,]\x7d%@`".toList.contains c)
  return name

def readTag (inFlow : Bool) : Scan TagText := do
  let verbatim := (← get).at? 1 = some '<'
  let text : TagText ←
    if verbatim then
      Scan.advance 2
      let uri ← readUri true
      Scan.demand (!uri.isEmpty)
      expect '>'
      pure ⟨[], uri⟩
    else
      let handle ← readTagHandle false
      if handle.length > 1 && handle.getLast? = some '!' then
        let tail ← readUri false
        Scan.demand (!tail.isEmpty)
        pure ⟨handle, tail⟩
      else
        let tail := handle.tail ++ (← readUri false)
        pure (if tail.isEmpty then ⟨[], ['!']⟩ else ⟨['!'], tail⟩)
  let cursor ← get
  Scan.demand ((inFlow && cursor.rest.head? = some ',') || cursor.endsWordAt 0)
  return text

def scanCandidate (read : Scan Token) (lexer : Lexer) : Option Lexer := do
  let noted ← lexer.noteCandidate
  let (token, after) ← ({ noted with keyAllowed := false } : Lexer).scan read
  return after.push token

def openFlow (token : Token) (lexer : Lexer) : Option Lexer := do
  let noted ← lexer.noteCandidate
  let opened := { noted with candidates := none :: noted.candidates, keyAllowed := true }
  return (opened.advance 1).push token

def closeFlow (token : Token) (lexer : Lexer) : Option Lexer := do
  let cleared ← lexer.dropCandidate
  let outer :=
    match cleared.candidates with
    | _ :: next :: others => next :: others
    | candidates => candidates
  return (({ cleared with candidates := outer, keyAllowed := false } : Lexer).advance 1).push token

def flowEntry (lexer : Lexer) : Option Lexer := do
  let cleared ← lexer.dropCandidate
  return (({ cleared with keyAllowed := true } : Lexer).advance 1).push .flowEntry

def blockEntry (lexer : Lexer) : Option Lexer := do
  if !lexer.inFlow && !lexer.keyAllowed then none
  let rolled := lexer.roll lexer.column lexer.tokens.length .blockSequenceStart
  let cleared ← rolled.dropCandidate
  return (({ cleared with keyAllowed := true } : Lexer).advance 1).push .blockEntry

def complexKey (lexer : Lexer) : Option Lexer := do
  if !lexer.inFlow && !lexer.keyAllowed then none
  let rolled := lexer.roll lexer.column lexer.tokens.length .blockMappingStart
  let cleared ← rolled.dropCandidate
  return (({ cleared with keyAllowed := !cleared.inFlow } : Lexer).advance 1).push .key

/-- A candidate is a key only on one line and within 1024 characters. -/
def isKey (candidate : KeyCandidate) (cursor : Cursor) : Bool :=
  candidate.line = cursor.line && cursor.index ≤ candidate.index + 1024

/-- A colon: what was noted as a candidate is a key. -/
def mappingValue (lexer : Lexer) : Option Lexer := do
  let candidate ←
    match lexer.candidates.head? with
    | some (some candidate) =>
      if isKey candidate lexer.cursor then some (some candidate)
      else if candidate.required then none
      else some none
    | _ => some none
  let prepared ←
    match candidate with
    | some candidate =>
      let keyed := lexer.insert candidate.number .key
      let rolled := keyed.roll candidate.column candidate.number .blockMappingStart
      some { rolled with candidates := none :: rolled.candidates.tail, keyAllowed := false }
    | none =>
      if !lexer.inFlow && !lexer.keyAllowed then none
      else
        let rolled := lexer.roll lexer.column lexer.tokens.length .blockMappingStart
        some
          { rolled with
            candidates := none :: rolled.candidates.tail
            keyAllowed := !rolled.inFlow }
  return (prepared.advance 1).push .value

def blockScalar (folded : Bool) (lexer : Lexer) : Option Lexer := do
  let cleared ← lexer.dropCandidate
  let (text, after) ←
    ({ cleared with keyAllowed := true } : Lexer).scan (readBlock folded cleared.indent)
  return after.push (.scalar text false)

def plainScalar (lexer : Lexer) : Option Lexer := do
  let noted ← lexer.noteCandidate
  let ((text, broken), after) ←
    ({ noted with keyAllowed := false } : Lexer).scan (readPlain noted.inFlow noted.indent)
  return ({ after with keyAllowed := broken } : Lexer).push (.scalar text true)

def isIndicator (c : Char) : Bool := "-?:,[]\x7b\x7d#&*!|>'\"%@`".toList.contains c

/-- Whether a plain scalar starts with `c`. -/
def startsPlain (lexer : Lexer) (c : Char) : Bool :=
  !(isBlank c || isBreak c || isIndicator c) ||
    (c == '-' && !(lexer.cursor.at? 1).any isBlank) ||
    (!lexer.inFlow && (c == '?' || c == ':') && !lexer.cursor.endsWordAt 1)

/-- Reads the token that starts with `c`. -/
def tokenFrom (c : Char) (lexer : Lexer) : Option Lexer :=
  let cursor := lexer.cursor
  let standsAlone := cursor.endsWordAt 1
  if cursor.column = 0 && c = '%' then do
    let ended ← lexer.endBlocks
    let (token, after) ← ended.scan readDirective
    return after.push token
  else if cursor.atDocumentMark '-' then do
    return ((← lexer.endBlocks).advance 3).push .documentStart
  else if cursor.atDocumentMark '.' then do
    return ((← lexer.endBlocks).advance 3).push .documentEnd
  else if c = '[' then lexer.openFlow .flowSequenceStart
  else if c = '{' then lexer.openFlow .flowMappingStart
  else if c = ']' then lexer.closeFlow .flowSequenceEnd
  else if c = '}' then lexer.closeFlow .flowMappingEnd
  else if c = ',' then lexer.flowEntry
  else if c = '-' && standsAlone then lexer.blockEntry
  else if c = '?' && (lexer.inFlow || standsAlone) then lexer.complexKey
  else if c = ':' && (lexer.inFlow || standsAlone) then lexer.mappingValue
  else if c = '*' then lexer.scanCandidate (Token.aliasOf <$> readName)
  else if c = '&' then lexer.scanCandidate (Token.anchor <$> readName)
  else if c = '!' then lexer.scanCandidate (Token.tag <$> readTag lexer.inFlow)
  else if c = '|' && !lexer.inFlow then lexer.blockScalar false
  else if c = '>' && !lexer.inFlow then lexer.blockScalar true
  else if c = '\'' then lexer.scanCandidate ((Token.scalar · false) <$> readQuoted '\'')
  else if c = '"' then lexer.scanCandidate ((Token.scalar · false) <$> readQuoted '"')
  else if lexer.startsPlain c then lexer.plainScalar
  else none

/-- Reads tokens up to the end of the text; each takes a character at least. -/
def run : Nat → Lexer → Option Lexer
  | 0, _ => none
  | fuel + 1, lexer => do
    let skipped ← skipSpace (lexer.cursor.rest.length + 1) lexer
    let unrolled := skipped.unroll skipped.column
    match unrolled.cursor.rest with
    | [] => return (← unrolled.endBlocks).push .streamEnd
    | c :: _ => run fuel (← unrolled.tokenFrom c)

end Lexer

/-- The tokens of a text, if it has no fault that shows at this level. -/
def Token.ofText? (text : String) : Option (List Token) :=
  let chars := text.toList
  if chars.all isReadable then
    (Lexer.run (chars.length + 1) { cursor := { rest := chars } }).map fun lexer =>
      lexer.tokens.reverse
  else
    none

end ApiScaffold.Yaml
