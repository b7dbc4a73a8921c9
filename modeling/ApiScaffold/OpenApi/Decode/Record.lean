import ApiScaffold.OpenApi.Mismatch
import ApiScaffold.OpenApi.Specification

/-!
Readers for the parts that every definition is made of: texts, flags, numbers, lists, tables and
records. A record is read member by member in the order of the document, so the first member that
does not fit decides the message; members that are missing are noticed after that.
-/

namespace ApiScaffold.OpenApi.Decode

abbrev Reader (α : Type) := Json → Except Mismatch α

variable {α σ : Type}

def text : Reader String
  | .string value => .ok value
  | other => .error (.wrongType other .text)

def flag : Reader Bool
  | .bool value => .ok value
  | other => .error (.wrongType other .flag)

def unsigned : Reader Nat
  | .number (.integer value) =>
    if value < 0 then .error (.wrongValue (.number (.integer value)) .unsigned)
    else .ok value.toNat
  | other => .error (.wrongType other .unsigned)

def decimal : Reader Binary64
  | .number value => .ok value.toBinary64
  | other => .error (.wrongType other .decimal)

def anything : Reader Json := .ok

/-- `null` stands for absence. -/
def optional (read : Reader α) : Reader (Option α)
  | .null => .ok none
  | value => some <$> read value

def list (read : Reader α) : Reader (List α)
  | .array items => items.mapM read
  | other => .error (.wrongType other .list)

def table (read : Reader α) : Reader (List (String × α))
  | .object members => members.mapM fun (key, value) => (key, ·) <$> read value
  | other => .error (.wrongType other .map)

/-- A reference is an object with the member `$ref`, whatever stands beside it. -/
def orRef (read : Reader α) : Reader (OrRef α)
  | .object members =>
    match members.lookup "$ref" with
    | some (.string target) => .ok (.reference target)
    | some other => .error (.invalidReference other)
    | none => .object <$> read (.object members)
  | other => .object <$> read other

/-- One of several words. A word may also be the only key of an object, over a value for which
`isUnit` holds. -/
def choice (name : α → String) (all : List α) (isUnit : Json → Bool) : Reader α
  | .string word => named word
  | .object [(word, value)] => do
    let chosen ← named word
    if isUnit value then return chosen else throw (.wrongType value .unit)
  | .object members => .error (.wrongValue (.object members) .singleKey)
  | other => .error (.wrongType other .choice)
where
  named (word : String) : Except Mismatch α :=
    match all.find? (name · == word) with
    | some chosen => .ok chosen
    | none => .error (.unknownVariant word (all.map name))

def isNull : Json → Bool
  | .null => true
  | _ => false

def isNullOrEmpty : Json → Bool
  | .null => true
  | .object [] => true
  | _ => false

/-- What the absence of a member means. -/
inductive Presence where
  | required
  | optional
  | defaulted
deriving DecidableEq, Repr

structure Member (σ : Type) where
  name : String
  presence : Presence
  read : Json → σ → Except Mismatch σ

namespace Member

def storing (name : String) (presence : Presence) (read : Reader α) (store : α → σ → σ) : Member σ :=
  ⟨name, presence, fun value record => (store · record) <$> read value⟩

end Member

/-- Reads members in order; `keep` stores those that the record does not know. -/
def readMembers (known : List (Member σ)) (keep : String → Json → σ → σ) :
    List (String × Json) → σ → Except Mismatch σ
  | [], record => .ok record
  | (key, value) :: rest, record =>
    match known.find? (·.name == key) with
    | some member => do readMembers known keep rest (← member.read value record)
    | none => readMembers known keep rest (keep key value record)

def checkRequired (known : List (Member σ)) (members : List (String × Json)) : Except Mismatch Unit :=
  match known.find? fun member =>
      member.presence = .required && (members.lookup member.name).isNone with
  | some member => .error (.missingField member.name)
  | none => .ok ()

def openRecord (name : String) (known : List (Member σ)) (keep : String → Json → σ → σ) (start : σ) :
    Reader σ
  | .object members => do
    let record ← readMembers known keep members start
    checkRequired known members
    return record
  | other => .error (.wrongType other (.record name))

/-- Reads a record whose members are written in order without their names. -/
def readElements (short : Expected) (index : Nat) :
    List (Member σ) → List Json → σ → Except Mismatch (σ × List Json)
  | [], items, record => .ok (record, items)
  | member :: known, value :: items, record => do
    readElements short (index + 1) known items (← member.read value record)
  | member :: known, [], record =>
    if member.presence = .defaulted then readElements short (index + 1) known [] record
    else .error (.wrongLength index short)

/-- A record that drops its unknown members, given as an object or as the list of its elements. -/
def closedRecord (name : String) (known : List (Member σ)) (start : σ) : Reader σ
  | .object members => do
    let record ← readMembers known (fun _ _ record => record) members start
    checkRequired known members
    return record
  | .array items => do
    let short := Expected.elements s!"struct {name}" known.length
    let (record, rest) ← readElements short 0 known items start
    if rest.isEmpty then return record else throw (.wrongLength items.length .fewerElements)
  | other => .error (.wrongType other (.record name))

end ApiScaffold.OpenApi.Decode
