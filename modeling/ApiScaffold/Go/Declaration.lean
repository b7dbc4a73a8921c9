import ApiScaffold.Go.Comment
import ApiScaffold.Go.Statement

/-!
Declarations at the top of a file: types, constants, variables, functions and methods. Each has a
comment and introduces names; methods belong to a type and introduce none.
-/

namespace ApiScaffold.Go

open Source

/-- A name and what stands behind it: a member of a struct with its type and its tag, or a constant
or variable with its value. A member without a type stands for all members of the type that it
names. -/
structure Entry where
  name : String
  rest : List Code := []
deriving Repr

namespace Entry

def cells (entry : Entry) : List Code := [Fragment.text entry.name] :: entry.rest

end Entry

/-- Members below a comment, aligned with one another. -/
structure MemberGroup where
  comment : List String := []
  members : List Entry
deriving Repr

/-- What a method belongs to, and its name inside of the method. -/
structure Receiver where
  name : String
  type : String
  pointer : Bool := false
deriving DecidableEq, Repr

namespace Receiver

def code (receiver : Receiver) : Code :=
  Source.code ["(", receiver.name, if receiver.pointer then " *" else " ", receiver.type, ")"]

end Receiver

structure MethodGroup where
  comment : List String := []
  methods : List Code
deriving Repr

inductive Form where
  | struct (name parameters : String) (groups : List MemberGroup)
  | interface (name : String) (groups : List MethodGroup)
  | type (name : String) (definition : Code)
  | synonym (name : String) (definition : Code)
  | constants (entries : List Entry)
  | globals (entries : List Entry)
  | global (name : String) (value : Code)
  | function (name : String) (signature : Code) (body : List Statement)
  | method (receiver : Receiver) (name : String) (signature : Code) (body : List Statement)
  /-- A method that does nothing and tells types apart. -/
  | marker (owner name : String)
deriving Repr

namespace Form

/-- The names at the top of the file that a declaration introduces. -/
def introduces : Form → List String
  | struct name _ _ => [name]
  | interface name _ => [name]
  | type name _ => [name]
  | synonym name _ => [name]
  | constants entries => entries.map (·.name)
  | globals entries => entries.map (·.name)
  | global name _ => [name]
  | function name _ _ => [name]
  | method _ _ _ _ => []
  | marker _ _ => []

def members : Form → List String
  | struct _ _ groups => groups.flatMap fun group => group.members.map (·.name)
  | _ => []

end Form

structure Declaration where
  comment : List String := []
  form : Form
deriving Repr

def commentLayout (comment : List String) : List Layout :=
  comment.map fun line => .line (commentLine line)

namespace MemberGroup

def layout (group : MemberGroup) : List Layout :=
  commentLayout group.comment ++ [.rows (group.members.map Entry.cells)]

end MemberGroup

namespace MethodGroup

def layout (group : MethodGroup) : List Layout :=
  commentLayout group.comment ++ group.methods.map .line

end MethodGroup

namespace Form

def braced (header : Code) (body : List Layout) : Layout :=
  .block (Statement.opening header) body "\x7d"

def layout : Form → Layout
  | struct name parameters groups =>
    braced (code ["type ", name, parameters, " struct"]) (groups.flatMap MemberGroup.layout)
  | interface name groups =>
    braced (code ["type ", name, " interface"]) (groups.flatMap MethodGroup.layout)
  | type name definition => .line (code ["type ", name, " ", definition])
  | synonym name definition => .line (code ["type ", name, " = ", definition])
  | constants entries => .block "const (" [.rows (entries.map Entry.cells)] ")"
  | globals entries => .block "var (" [.rows (entries.map Entry.cells)] ")"
  | global name value => .line (code ["var ", name, " = ", value])
  | function name signature body =>
    braced (code ["func ", name, signature]) (Statement.layouts body)
  | method receiver name signature body =>
    braced (code ["func ", receiver.code, " ", name, signature]) (Statement.layouts body)
  | marker owner name => .line (code ["func (", owner, ") ", name, "() \x7b\x7d"])

end Form

namespace Declaration

/-- A declaration is set apart from the one before it. -/
def layout (declaration : Declaration) : List Layout :=
  .gap :: commentLayout declaration.comment ++ [declaration.form.layout]

end Declaration

end ApiScaffold.Go
