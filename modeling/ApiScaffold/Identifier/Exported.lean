import ApiScaffold.Text.Blank
import ApiScaffold.Text.Case
import ApiScaffold.Text.Pieces

/-!
Exported identifiers made from the names of a document. A name is cut at its separators, every
segment starts with a capital, and an identifier suffix at the end is written in capitals. The names
of operations, of content types and of references are first brought into the same form.
-/

namespace ApiScaffold.Identifier

/-- Characters that end a segment of a name and do not occur in an identifier. -/
def separators : List Char := "-#@!$&=.+:;_~ ()\x7b\x7d[],".toList

def isSeparator (c : Char) : Bool := separators.contains c

/-- The segments joined, each with a capital first. -/
def joinSegments (name : List Char) : List Char :=
  (Text.splitWhere isSeparator name).flatMap Text.capitalise

/-- Replaces the end of a name by `ending`, if it is the same word in another case. -/
def capitaliseEnding (ending : List Char) (name : List Char) : List Char :=
  let stem := name.take (name.length - ending.length)
  if Text.eqIgnoringAsciiCase (name.drop stem.length) ending then stem ++ ending else name

theorem capitaliseEnding_short (ending name : List Char) (short : name.length < ending.length) :
    capitaliseEnding ending name = name := by
  have differs : name.map Text.asciiLower ≠ ending.map Text.asciiLower := by
    intro same
    have := congrArg List.length same
    simp at this
    omega
  have none : name.length - ending.length = 0 := by omega
  simp [capitaliseEnding, Text.eqIgnoringAsciiCase, none, differs]

theorem length_capitaliseEnding (ending name : List Char) :
    (capitaliseEnding ending name).length = name.length := by
  simp only [capitaliseEnding]
  split
  · rename_i same
    have lengths := congrArg List.length (eq_of_beq same)
    simp at lengths ⊢
    omega
  · rfl

def normaliseChars (name : List Char) : List Char :=
  capitaliseEnding "ID".toList (capitaliseEnding "UUID".toList (joinSegments name))

/-- The identifier of a name; it may still start with a digit. -/
def normalise (name : String) : String := String.ofList (normaliseChars name.toList)

def startsWithDigit (name : String) : Bool := name.toList.head?.any Text.isAsciiDigit

/-- The identifier of a name, with a letter in front of a digit. -/
def exported (name : String) : String :=
  let plain := normalise name
  if startsWithDigit plain then "X" ++ plain else plain

def ofOperation (path method : String) : String :=
  normalise (Text.replaceChar '/' "-" (Text.lower method ++ path))

/-- A segment in lower case but for its first letter. -/
def titled (segment : List Char) : List Char := Text.capitalise (Text.lowerChars segment)

/-- The tag of a content type; its parameters do not count. -/
def ofContentType (contentType : String) : String :=
  let media := Text.trimChars (Text.firstPiece (· == ';') contentType.toList)
  String.ofList
    ((Text.splitWhere (· == '/') media).flatMap fun segment => normaliseChars (titled segment))

/-- The identifier that a reference names: that of its last segment. -/
def ofReference (reference : String) : String := normalise (Text.lastSegment '/' reference)

end ApiScaffold.Identifier
