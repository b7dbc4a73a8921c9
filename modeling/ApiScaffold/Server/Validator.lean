import ApiScaffold.Go.File
import ApiScaffold.Server.Validation

/-!
Validators: methods that check the members of a struct, each against its rules; a value with a
validator of its own is checked by that.
-/

namespace ApiScaffold.Server

open Blueprint Go Source

/-- The name of a receiver: the first letter of its type in lower case. -/
def receiverName (type : String) : String :=
  match type.toList with
  | first :: _ =>
    if Text.isAsciiLetter first then String.singleton (Text.asciiLower first) else "v"
  | [] => "v"

namespace Validator

def check (receiver member : String) (arguments : List Code) : Code :=
  code [Fragment.imported Package.validation "Field", "(",
    separated ", " (code ["&", receiver, ".", member] :: arguments), "),"]

/-- An absent text stands for no value, which a format would reject. -/
def skipWhenEmpty (receiver member : String) : Code := [
  .imported Package.validation "Skip", s!".When({receiver}.{member} == \"\")"]

def method (type : String) (checks : List Code) : Declaration :=
  let receiver := receiverName type
  { form := .method { name := receiver, type } "Validate" "() error" [
      .listing ["return ", .imported Package.validation "ValidateStruct", s!"(&{receiver},"]
        (checks.map fun check => [check]) ")"] }

def mentions : List Fragment := [.imported Package.validation "ValidateStruct"]

end Validator

structure PatternVariable where
  name : String
  pattern : String
deriving DecidableEq, Repr

namespace PatternVariable

def entry (stored : PatternVariable) : Entry :=
  { name := stored.name
    rest := [
      "=",
      [.qualified Package.regexp "MustCompile", s!"({quotePattern stored.pattern})"]] }

def part (owner : String) (patterns : List PatternVariable) : Part :=
  if patterns.isEmpty then {}
  else
    { declares := patterns.map fun stored => (stored.name, owner)
      mentions := [.qualified Package.regexp "MustCompile"]
      declarations := [{ form := .globals (patterns.map entry) }] }

end PatternVariable

end ApiScaffold.Server
