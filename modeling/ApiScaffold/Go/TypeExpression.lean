import ApiScaffold.Source.Code

/-!
Type expressions.
-/

namespace ApiScaffold.Go

open Source

inductive TypeExpression where
  | bool
  | int
  | float64
  | string
  | bytes
  | anything
  | slice (element : TypeExpression)
  /-- A map from texts. -/
  | map (value : TypeExpression)
  | pointer (target : TypeExpression)
  | named (name : Fragment)
  | verbatim (text : String)
  /-- A generic type and its argument. -/
  | applied (generic : Fragment) (argument : TypeExpression)
deriving DecidableEq, Repr

namespace TypeExpression

def code : TypeExpression → Code
  | bool => "bool"
  | int => "int"
  | float64 => "float64"
  | string => "string"
  | bytes => "[]byte"
  | anything => "interface\x7b\x7d"
  | slice element => Fragment.text "[]" :: element.code
  | map value => Fragment.text "map[string]" :: value.code
  | pointer target => Fragment.text "*" :: target.code
  | named name => [name]
  | verbatim text => text
  | applied generic argument => generic :: Fragment.text "[" :: argument.code ++ [Fragment.text "]"]

end TypeExpression

end ApiScaffold.Go
