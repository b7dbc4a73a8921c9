import ApiScaffold.Number.Written

/-!
JSON values. Objects are lists of members, because the order of a document's keys shows in what is
made of it. A number is an integer of at most 64 bits or a binary fraction, and stays what it was
read as.
-/

namespace ApiScaffold

inductive JsonNumber where
  | integer (value : Int)
  | double (value : Binary64)
deriving DecidableEq, Repr

inductive Json where
  | null
  | bool (value : Bool)
  | number (value : JsonNumber)
  | string (value : String)
  | array (items : List Json)
  | object (members : List (String × Json))
deriving Repr, Inhabited

namespace JsonNumber

/-- The greatest unsigned and the least signed integer of 64 bits bound the integers. -/
def greatestInteger : Int := 18446744073709551615

def leastInteger : Int := -9223372036854775808

def greatestSigned : Int := 9223372036854775807

def toBinary64 : JsonNumber → Binary64
  | integer value => Binary64.ofInt value
  | double value => value

def toSigned? : JsonNumber → Option Int
  | integer value => if leastInteger ≤ value ∧ value ≤ greatestSigned then some value else none
  | double _ => none

end JsonNumber

namespace Json

def kind : Json → String
  | null => "null"
  | bool _ => "boolean"
  | number _ => "number"
  | string _ => "string"
  | array _ => "array"
  | object _ => "object"

/-- Sets a member: a new key goes to the end, a known one keeps its place. -/
def setMember (key : String) (value : Json) : List (String × Json) → List (String × Json)
  | [] => [(key, value)]
  | (known, old) :: rest =>
    if known = key then (known, value) :: rest else (known, old) :: setMember key value rest

theorem lookup_setMember (key : String) (value : Json) (members : List (String × Json)) :
    (setMember key value members).lookup key = some value := by
  induction members with
  | nil => simp [setMember]
  | cons member rest induction =>
    obtain ⟨known, old⟩ := member
    by_cases same : known = key
    · simp [setMember, same]
    · have differs : (key == known) = false := by simpa using Ne.symm same
      simp [setMember, same, List.lookup_cons, differs, induction]

/-- The members in the order they were written, a repeated key at its first place with its last
value. -/
def ofMembers (members : List (String × Json)) : Json :=
  object (members.foldl (fun known member => setMember member.1 member.2 known) [])

def member? (key : String) : Json → Option Json
  | object members => members.lookup key
  | _ => none

def string? : Json → Option String
  | string value => some value
  | _ => none

end Json

end ApiScaffold
