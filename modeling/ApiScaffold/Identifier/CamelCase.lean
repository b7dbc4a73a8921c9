import ApiScaffold.Text.Case

/-!
Camel case. A name is cut into words at its separators and where the kind of letter changes; the
first word is lower-cased, the others are capitalised. The places of the cuts are counted in
characters and applied in bytes, so after a character of several bytes every cut falls earlier than
the change it was made for; a cut inside a character falls after it.
-/

namespace ApiScaffold.Identifier

def isWordSeparator (c : Char) : Bool := c == '-' || c == '_' || c == ' '

/-- Cuts at the given byte offsets; `offset` is that of the first character. -/
def cutAtBytes (cuts : List Nat) : Nat → List Char → List (List Char)
  | offset, [] => if cuts.contains offset then [[], []] else [[]]
  | offset, c :: rest =>
    let extended :=
      match cutAtBytes cuts (offset + c.utf8Size) rest with
      | word :: words => (c :: word) :: words
      | [] => [[c]]
    if cuts.contains offset then [] :: extended else extended

/-- The character before a cut at a separator is dropped. -/
def dropCutCharacters : List (List Char) → List (List Char)
  | [] => []
  | [last] => [last]
  | word :: next :: rest => word.dropLast :: dropCutCharacters (next :: rest)

/-- The indices right after separators, where `index` is that of the first character. -/
def separatorCuts : Nat → List Char → List Nat
  | _, [] => []
  | index, c :: rest =>
    if isWordSeparator c then (index + 1) :: separatorCuts (index + 1) rest
    else separatorCuts (index + 1) rest

def changesKind (c d : Char) : Bool :=
  (Text.isLowercase c && Text.isUppercase d) || (Text.isUppercase c && Text.isAsciiDigit d) ||
    (Text.isAsciiDigit c && Text.isUppercase d) || (Text.isAsciiDigit c && Text.isLowercase d) ||
    (Text.isLowercase c && Text.isAsciiDigit d)

/-- Whether an abbreviation ends after the first of three characters. -/
def endsAbbreviation (c d : Char) (rest : List Char) : Bool :=
  Text.isUppercase c && Text.isUppercase d && rest.head?.any Text.isLowercase

def letterCuts : Nat → List Char → List Nat
  | index, c :: d :: rest =>
    let cuts := letterCuts (index + 1) (d :: rest)
    if changesKind c d || endsAbbreviation c d rest then (index + 1) :: cuts else cuts
  | _, _ => []

def words (name : List Char) : List (List Char) :=
  let pieces := dropCutCharacters (cutAtBytes (separatorCuts 0 name) 0 name)
  (pieces.flatMap fun piece => cutAtBytes (letterCuts 0 piece) 0 piece).filter (!·.isEmpty)

def capitalisedWord : List Char → List Char
  | [] => []
  | c :: rest => Text.upperChar c ++ Text.lowerChars rest

def camelCase (name : String) : String :=
  match words name.toList with
  | [] => ""
  | first :: others => String.ofList (Text.lowerChars first ++ others.flatMap capitalisedWord)

end ApiScaffold.Identifier
