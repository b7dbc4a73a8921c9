import ApiScaffold.Json.Basic
import ApiScaffold.Text.Quoted

/-!
The two printed forms of JSON values: the compact text of a document, and the annotated form that
shows a value inside a message. The canonical form of a document is the compact text of the value
with the keys of every object sorted.
-/

namespace ApiScaffold

/-- Integers in decimal, fractions in the form of documents. -/
def JsonNumber.write : JsonNumber → String
  | .integer value => toString value
  | .double value => value.write Binary64.documentForm

namespace Json

/-- Only the quote, the backslash and controls are escaped. -/
def escapeChar (c : Char) : List Char :=
  match c with
  | '"' => ['\\', '"']
  | '\\' => ['\\', '\\']
  | '\n' => ['\\', 'n']
  | '\r' => ['\\', 'r']
  | '\t' => ['\\', 't']
  | other =>
    if other.toNat = 8 then ['\\', 'b']
    else if other.toNat = 12 then ['\\', 'f']
    else if other.toNat < 0x20 then
      ['\\', 'u', '0', '0'] ++ (if other.toNat < 16 then ['0'] else []) ++ Text.Quoted.hex other.toNat
    else [other]

def quoteChars (text : String) : List Char := '"' :: text.toList.flatMap escapeChar ++ ['"']

def compactChars : Json → List Char
  | null => "null".toList
  | bool true => "true".toList
  | bool false => "false".toList
  | number value => value.write.toList
  | string value => quoteChars value
  | array items => '[' :: itemsChars items ++ [']']
  | object members => '{' :: membersChars members ++ ['}']
where
  itemsChars : List Json → List Char
    | [] => []
    | [item] => compactChars item
    | item :: next :: rest => compactChars item ++ ',' :: itemsChars (next :: rest)
  membersChars : List (String × Json) → List Char
    | [] => []
    | [(key, value)] => quoteChars key ++ ':' :: compactChars value
    | (key, value) :: next :: rest =>
      quoteChars key ++ ':' :: compactChars value ++ ',' :: membersChars (next :: rest)

def compact (value : Json) : String := String.ofList value.compactChars

/-- The value with its constructors spelled out, as messages show it. -/
def annotated : Json → String
  | null => "Null"
  | bool true => "Bool(true)"
  | bool false => "Bool(false)"
  | number value => s!"Number({value.write})"
  | string value => s!"String({Text.Quoted.quote value})"
  | array items => s!"Array [{annotatedItems items}]"
  | object members => "Object \x7b" ++ annotatedMembers members ++ "\x7d"
where
  annotatedItems : List Json → String
    | [] => ""
    | [item] => annotated item
    | item :: next :: rest => annotated item ++ ", " ++ annotatedItems (next :: rest)
  annotatedMembers : List (String × Json) → String
    | [] => ""
    | [(key, value)] => Text.Quoted.quote key ++ ": " ++ annotated value
    | (key, value) :: next :: rest =>
      Text.Quoted.quote key ++ ": " ++ annotated value ++ ", " ++ annotatedMembers (next :: rest)

def sortMembers (members : List (String × Json)) : List (String × Json) :=
  members.mergeSort fun left right => left.1 ≤ right.1

/-- The keys of every object sorted, at every depth. -/
def canonical : Json → Json
  | array items => array (canonicalItems items)
  | object members => object (sortMembers (canonicalMembers members))
  | value => value
where
  canonicalItems : List Json → List Json
    | [] => []
    | item :: rest => canonical item :: canonicalItems rest
  canonicalMembers : List (String × Json) → List (String × Json)
    | [] => []
    | (key, value) :: rest => (key, canonical value) :: canonicalMembers rest

theorem sortMembers_perm (members : List (String × Json)) :
    (sortMembers members).Perm members := List.mergeSort_perm members _

end Json

end ApiScaffold
