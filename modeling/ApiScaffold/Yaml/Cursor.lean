import ApiScaffold.Text.Case

/-!
A position in a YAML text. Reading keeps count of lines and columns, on which the structure of a
document hangs.
-/

namespace ApiScaffold.Yaml

structure Cursor where
  rest : List Char
  index : Nat := 0
  line : Nat := 0
  column : Nat := 0
deriving Repr

abbrev Scan := StateT Cursor Option

def isReadable (c : Char) : Bool :=
  let code := c.toNat
  code == 9 || code == 10 || code == 13 || (0x20 ≤ code && code ≤ 0x7E) || code == 0x85 ||
    (0xA0 ≤ code && code ≤ 0xD7FF) || (0xE000 ≤ code && code ≤ 0xFFFD) || 0x10000 ≤ code

def isBlank (c : Char) : Bool := c == ' ' || c == '\t'

def isBreak (c : Char) : Bool :=
  c == '\n' || c == '\r' || c.toNat == 0x85 || c.toNat == 0x2028 || c.toNat == 0x2029

/-- Characters of anchors and of the handles of tags. -/
def isWordChar (c : Char) : Bool := Text.isAsciiAlphanumeric c || c == '_' || c == '-'

namespace Cursor

def at? (cursor : Cursor) (offset : Nat) : Option Char := cursor.rest[offset]?

/-- Whether a blank, a break or the end stands at an offset. -/
def endsWordAt (cursor : Cursor) (offset : Nat) : Bool :=
  (cursor.at? offset).all fun c => isBlank c || isBreak c

/-- Three marks at the start of a line that stand alone bound a document. -/
def atDocumentMark (cursor : Cursor) (mark : Char) : Bool :=
  cursor.column == 0 && cursor.rest.take 3 == [mark, mark, mark] && cursor.endsWordAt 3

def advance (count : Nat) (cursor : Cursor) : Cursor :=
  { cursor with
    rest := cursor.rest.drop count
    index := cursor.index + count
    column := cursor.column + count }

def nextLine (count : Nat) (cursor : Cursor) : Cursor :=
  { rest := cursor.rest.drop count
    index := cursor.index + count
    line := cursor.line + 1
    column := 0 }

end Cursor

namespace Scan

def look : Scan (Option Char) := return (← get).rest.head?

def demand (condition : Bool) : Scan Unit := if condition then pure () else failure

def advance (count : Nat) : Scan Unit := modify (Cursor.advance count)

/-- Reads characters that are no breaks, as long as they are accepted. -/
def readWhile (accepts : Char → Bool) : Scan (List Char) := do
  let taken := (← get).rest.takeWhile accepts
  advance taken.length
  return taken

def skipBlanks : Scan Unit := discard (readWhile isBlank)

/-- Skips a comment, up to the break. -/
def skipComment : Scan Unit := do
  if (← look) = some '#' then discard (readWhile fun c => !isBreak c)

/-- Reads a break, if one is here. A break counts as a line feed, but for the separators of lines
and paragraphs, which stay what they are. -/
def readBreak : Scan (List Char) := do
  match (← get).rest with
  | '\r' :: '\n' :: _ =>
    modify (Cursor.nextLine 2)
    return ['\n']
  | c :: _ =>
    if isBreak c then
      modify (Cursor.nextLine 1)
      return [if c.toNat == 0x2028 || c.toNat == 0x2029 then c else '\n']
    else
      return []
  | [] => return []

def atBreak : Scan Bool := return (← look).any isBreak

def atLineEnd : Scan Bool := return (← look).all isBreak

end Scan

end ApiScaffold.Yaml
