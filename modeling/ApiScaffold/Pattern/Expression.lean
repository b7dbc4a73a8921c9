/-!
Regular expressions as far as it matters whether one can be used: how deep its parts are nested, and
how large an automaton for it would be.
-/

namespace ApiScaffold.Pattern

inductive CharSet where
  | empty
  /-- A class of characters, of so many ranges. -/
  | ranges (count : Nat)
  | union (members : List CharSet)
  | bracketed (body : CharSet)
  /-- Intersection, difference or symmetric difference. -/
  | combined (left right : CharSet)
deriving Repr

inductive Expression where
  | empty
  /-- A switch of flags, which matches nothing that could be repeated. -/
  | flags
  | assertion
  | literal (c : Char)
  | oneOf (set : CharSet)
  | repeated (body : Expression) (least : Nat) (most : Option Nat)
  | group (body : Expression)
  | sequence (items : List Expression)
  | alternatives (items : List Expression)
deriving Repr

namespace CharSet

/-- One member stands for itself. -/
def ofMembers : List CharSet → CharSet
  | [] => empty
  | [member] => member
  | members => union members

/-- How deep brackets, unions and operations are nested. -/
def depth : CharSet → Nat
  | empty => 0
  | ranges _ => 0
  | union members => 1 + depths members
  | bracketed body => 1 + body.depth
  | combined left right => 1 + max left.depth right.depth
where
  depths : List CharSet → Nat
    | [] => 0
    | member :: rest => max member.depth (depths rest)

def rangeCount : CharSet → Nat
  | empty => 0
  | ranges count => count
  | union members => rangeCounts members
  | bracketed body => body.rangeCount
  | combined left right => left.rangeCount + right.rangeCount
where
  rangeCounts : List CharSet → Nat
    | [] => 0
    | member :: rest => member.rangeCount + rangeCounts rest

end CharSet

namespace Expression

/-- One item stands for itself. -/
def ofItems : List Expression → Expression
  | [] => empty
  | [item] => item
  | items => sequence items

def ofAlternatives : List Expression → Expression
  | [] => empty
  | [item] => item
  | items => alternatives items

def isRepeatable : Expression → Bool
  | empty => false
  | flags => false
  | _ => true

def isWidthless : Expression → Bool
  | empty => true
  | flags => true
  | assertion => true
  | literal _ => false
  | oneOf _ => false
  | repeated body _ most => most == some 0 || body.isWidthless
  | group body => body.isWidthless
  | sequence items => areWidthless items
  | alternatives items => areWidthless items
where
  areWidthless : List Expression → Bool
    | [] => true
    | item :: rest => item.isWidthless && areWidthless rest

def depth : Expression → Nat
  | empty => 0
  | flags => 0
  | assertion => 0
  | literal _ => 0
  | oneOf set => set.depth
  | repeated body _ _ => 1 + body.depth
  | group body => 1 + body.depth
  | sequence items => 1 + depths items
  | alternatives items => 1 + depths items
where
  depths : List Expression → Nat
    | [] => 0
    | item :: rest => max item.depth (depths rest)

/-- How often the body of a repetition is written out; what matches only the empty text is not
written out more than once. -/
def copies (widthless : Bool) (least : Nat) (most : Option Nat) : Nat :=
  let count := max least (most.getD 1)
  if widthless then min count 1 else count

/-- An estimate of the bytes of an automaton. It stands in for the count that a compiler of patterns
makes while it builds one, so near `greatestSize` the two answer differently. -/
def size : Expression → Nat
  | empty => 0
  | flags => 0
  | assertion => 32
  | literal c => 32 * c.utf8Size
  | oneOf set => 65 * set.rangeCount
  | repeated body least most => copies body.isWidthless least most * (body.size + 16)
  | group body => 64 + body.size
  | sequence items => sizes items
  | alternatives items => 32 + sizes items
where
  sizes : List Expression → Nat
    | [] => 0
    | item :: rest => item.size + sizes rest

def greatestDepth : Nat := 250

/-- An automaton takes at most ten megabytes. -/
def greatestSize : Nat := 10485760

def isUsable (expression : Expression) : Bool :=
  expression.depth ≤ greatestDepth && expression.size ≤ greatestSize

end Expression

end ApiScaffold.Pattern
