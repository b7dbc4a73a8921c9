import ApiScaffold.Yaml.Token

/-!
The tree that the tokens of a document make. An alias holds the number of its anchor; which node the
number stands for is known only when the whole document has been read, because a number may be given
again.
-/

namespace ApiScaffold.Yaml

inductive Node where
  | scalar (text : String) (plain : Bool) (tag : Option (List Char))
  | sequence (tag : Option (List Char)) (items : List Node)
  | mapping (tag : Option (List Char)) (entries : List (Node × Node))
  | aliasOf (number : Nat)
deriving Repr

namespace Node

/-- What is left out counts as an empty plain scalar. -/
def empty : Node := scalar "" true none

def eventCount : Node → Nat
  | scalar _ _ _ => 1
  | sequence _ items => 2 + itemCount items
  | mapping _ entries => 2 + entryCount entries
  | aliasOf _ => 1
where
  itemCount : List Node → Nat
    | [] => 0
    | item :: rest => item.eventCount + itemCount rest
  entryCount : List (Node × Node) → Nat
    | [] => 0
    | (key, value) :: rest => key.eventCount + value.eventCount + entryCount rest

end Node

structure Composer where
  tokens : List Token
  /-- Handles of tags and what they stand for; the first entry of a handle counts. -/
  handles : List (List Char × List Char) := []
  /-- The names of anchors and their numbers. -/
  anchors : List (List Char × Nat) := []
  /-- For each anchor, in order, its number. -/
  numbers : List Nat := []
  /-- The nodes with an anchor that are complete, by the position of the anchor among all. -/
  nodes : List (Nat × Node) := []
deriving Repr

abbrev Compose := StateT Composer Option

namespace Composer

def look : Compose Token := do
  match (← get).tokens with
  | token :: _ => return token
  | [] => failure

def skip : Compose Unit := modify fun composer => { composer with tokens := composer.tokens.tail }

/-- Skips the token, if it is the given one. -/
def accept (token : Token) : Compose Bool := do
  if (← look) = token then
    skip
    return true
  else
    return false

def expect (token : Token) : Compose Unit := do
  if ← accept token then pure () else failure

/-- Gives a name the count of names known so far, and tells the position of the anchor. -/
def declare (name : List Char) : Compose Nat := do
  let composer ← get
  let number := composer.anchors.length
  let known := composer.anchors.filter (·.1 != name)
  set { composer with
    anchors := (name, number) :: known
    numbers := composer.numbers ++ [number] }
  return composer.numbers.length

def complete (position : Option Nat) (node : Node) : Compose Node := do
  match position with
  | some position =>
    modify fun composer => { composer with nodes := (position, node) :: composer.nodes }
    return node
  | none => return node

def resolveTag (text : TagText) : Compose (List Char) := do
  if text.handle.isEmpty then
    return text.tail
  else
    let start ← (← get).handles.lookup text.handle
    return start ++ text.tail

/-- An anchor and a tag before a node, in either order. -/
def properties : Compose (Option Nat × Option (List Char)) := do
  match ← look with
  | .anchor name =>
    skip
    let tag ← readTag
    return (some (← declare name), tag)
  | .tag text =>
    skip
    match ← look with
    | .anchor name =>
      skip
      let tag ← resolveTag text
      return (some (← declare name), some tag)
    | _ => return (none, some (← resolveTag text))
  | _ => return (none, none)
where
  readTag : Compose (Option (List Char)) := do
    match ← look with
    | .tag text =>
      skip
      return some (← resolveTag text)
    | _ => return none

/-- Whether a token stands here that shows that a node was left out. -/
def lacksNode (ends : List Token) : Compose Bool := return ends.contains (← look)

mutual
/-- Reads a node; `block` allows block collections, and `indentless` a sequence at the column of its
mapping. The fuel is more than the count of tokens. -/
def node (block indentless : Bool) : Nat → Compose Node
  | 0 => failure
  | fuel + 1 => do
    match ← look with
    | .aliasOf name =>
      skip
      return .aliasOf (← (← get).anchors.lookup name)
    | _ =>
      let (position, written) ← properties
      let tag := written.filter (!·.isEmpty)
      let token ← look
      if indentless && token = .blockEntry then
        complete position (.sequence tag (← indentlessItems fuel))
      else
        match token with
        | .scalar text plain =>
          skip
          if tag = some ['!'] then complete position (.scalar text plain none)
          else complete position (.scalar text plain tag)
        | .flowSequenceStart =>
          skip
          complete position (.sequence tag (← flowItems true fuel))
        | .flowMappingStart =>
          skip
          complete position (.mapping tag (← flowEntries true fuel))
        | .blockSequenceStart =>
          if block then
            skip
            complete position (.sequence tag (← blockItems fuel))
          else
            failure
        | .blockMappingStart =>
          if block then
            skip
            complete position (.mapping tag (← blockEntries fuel))
          else
            failure
        | _ =>
          if position.isSome || written.isSome then complete position (.scalar "" true tag)
          else failure

def blockItems : Nat → Compose (List Node)
  | 0 => failure
  | fuel + 1 => do
    if ← accept .blockEntry then
      let item ←
        if ← lacksNode [.blockEntry, .blockEnd] then pure .empty else node true false fuel
      return item :: (← blockItems fuel)
    else
      expect .blockEnd
      return []

def indentlessItems : Nat → Compose (List Node)
  | 0 => failure
  | fuel + 1 => do
    if ← accept .blockEntry then
      let item ←
        if ← lacksNode [.blockEntry, .key, .value, .blockEnd] then pure .empty
        else node true false fuel
      return item :: (← indentlessItems fuel)
    else
      return []

def blockEntries : Nat → Compose (List (Node × Node))
  | 0 => failure
  | fuel + 1 => do
    if ← accept .key then
      let key ←
        if ← lacksNode [.key, .value, .blockEnd] then pure .empty else node true true fuel
      let value ←
        if ← accept .value then
          if ← lacksNode [.key, .value, .blockEnd] then pure .empty else node true true fuel
        else
          pure .empty
      return (key, value) :: (← blockEntries fuel)
    else
      expect .blockEnd
      return []

/-- Items between brackets. A key makes a mapping of one entry; without a node after it, whatever
token follows is dropped. -/
def flowItems (first : Bool) : Nat → Compose (List Node)
  | 0 => failure
  | fuel + 1 => do
    if ← accept .flowSequenceEnd then
      return []
    else
      if !first then expect .flowEntry
      if ← accept .flowSequenceEnd then
        return []
      else if ← accept .key then
        let key ←
          if ← lacksNode [.value, .flowEntry, .flowSequenceEnd] then
            skip
            pure .empty
          else
            node false false fuel
        let value ←
          if ← accept .value then
            if ← lacksNode [.flowEntry, .flowSequenceEnd] then pure .empty else node false false fuel
          else
            pure .empty
        return .mapping none [(key, value)] :: (← flowItems false fuel)
      else
        let item ← node false false fuel
        return item :: (← flowItems false fuel)

def flowEntries (first : Bool) : Nat → Compose (List (Node × Node))
  | 0 => failure
  | fuel + 1 => do
    if ← accept .flowMappingEnd then
      return []
    else
      if !first then expect .flowEntry
      if ← accept .key then
        let key ←
          if ← lacksNode [.value, .flowEntry, .flowMappingEnd] then pure .empty
          else node false false fuel
        let value ←
          if ← accept .value then
            if ← lacksNode [.flowEntry, .flowMappingEnd] then pure .empty else node false false fuel
          else
            pure .empty
        return (key, value) :: (← flowEntries false fuel)
      else if ← accept .flowMappingEnd then
        return []
      else
        let key ← node false false fuel
        return (key, .empty) :: (← flowEntries false fuel)
end

def commonHandles : List (List Char × List Char) :=
  [(['!'], ['!']), (['!', '!'], "tag:yaml.org,2002:".toList)]

/-- Reads directives: one version at most, and each handle once. -/
def directives : Nat → Bool → Compose Unit
  | 0, _ => failure
  | fuel + 1, versionSeen => do
    match ← look with
    | .version major minor =>
      skip
      if versionSeen || major != 1 || (minor != 1 && minor != 2) then failure
      directives fuel true
    | .tagHandle handle start =>
      skip
      let composer ← get
      if (composer.handles.lookup handle).isSome then failure
      set { composer with handles := composer.handles ++ [(handle, start)] }
      directives fuel versionSeen
    | _ => modify fun composer => { composer with handles := composer.handles ++ commonHandles }

def skipDocumentEnds : Nat → Compose Unit
  | 0 => failure
  | fuel + 1 => do
    if ← accept .documentEnd then skipDocumentEnds fuel

/-- Whether a token can only stand outside of a document's content. -/
def boundsDocument : Token → Bool
  | .version _ _ => true
  | .tagHandle _ _ => true
  | .documentStart => true
  | .documentEnd => true
  | .streamEnd => true
  | _ => false

def document (fuel : Nat) : Compose Node := do
  let root ←
    match ← look with
    | .streamEnd => pure Node.empty
    | token =>
      let explicit :=
        match token with
        | .version _ _ => true
        | .tagHandle _ _ => true
        | .documentStart => true
        | _ => false
      directives fuel false
      if explicit then expect .documentStart
      if explicit && boundsDocument (← look) then pure Node.empty
      else node true false fuel
  skipDocumentEnds fuel
  expect .streamEnd
  return root

end Composer

/-- A document and the nodes of its anchors, by number. -/
structure Tree where
  root : Node
  anchored : List (Nat × Node)
deriving Repr

namespace Tree

/-- The last anchor of a number counts. -/
def anchoredOf (numbers : List Nat) (nodes : List (Nat × Node)) : List (Nat × Node) :=
  (numbers.zipIdx.reverse).filterMap fun (number, position) =>
    (nodes.lookup position).map (number, ·)

def ofTokens? (tokens : List Token) : Option Tree :=
  let fuel := 4 * tokens.length + 16
  ((Composer.document fuel).run { tokens }).map fun (root, composer) =>
    ⟨root, anchoredOf composer.numbers composer.nodes⟩

end Tree

end ApiScaffold.Yaml
