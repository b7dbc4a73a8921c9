import ApiScaffold.Identifier.CamelCase
import ApiScaffold.Text.Quoted

/-!
Words and string literals of the Go language: keywords, names of local variables, and the two
forms of a string literal.
-/

namespace ApiScaffold.Go

def keywords : List String := [
  "break", "case", "chan", "const", "continue", "default", "defer", "else", "fallthrough",
  "for", "func", "go", "goto", "if", "import", "interface", "map", "package", "range", "return",
  "select", "struct", "switch", "type", "var"]

def isKeyword (word : String) : Bool := keywords.contains word

/-- No keyword ends in an underscore, so the result is none. -/
def avoidKeyword (name : String) : String := if isKeyword name then name ++ "_" else name

theorem isKeyword_avoidKeyword (name : String) : isKeyword (avoidKeyword name) = false := by
  unfold avoidKeyword
  split
  · rename_i keyword
    simp only [isKeyword, keywords, List.contains_eq_mem, List.mem_cons, List.not_mem_nil, or_false,
      decide_eq_true_eq] at keyword
    rcases keyword with rfl | rfl | rfl | rfl | rfl | rfl | rfl | rfl | rfl | rfl | rfl | rfl |
      rfl | rfl | rfl | rfl | rfl | rfl | rfl | rfl | rfl | rfl | rfl | rfl | rfl <;> decide
  · rename_i other
    simpa using other

def variableName (name : String) : String := avoidKeyword (Identifier.camelCase name)

def hexByte (code : Nat) : List Char :=
  [Text.Quoted.hexDigits.getD (code / 16) '0', Text.Quoted.hexDigits.getD (code % 16) '0']

def quoteChar (c : Char) : List Char :=
  match c with
  | '"' => ['\\', '"']
  | '\\' => ['\\', '\\']
  | '\n' => ['\\', 'n']
  | '\r' => ['\\', 'r']
  | '\t' => ['\\', 't']
  | other =>
    if other.toNat < 0x20 || other.toNat == 0x7F then '\\' :: 'x' :: hexByte other.toNat
    else [other]

def quote (text : String) : String :=
  String.ofList ('"' :: text.toList.flatMap quoteChar ++ ['"'])

/-- Whether a raw literal denotes the text itself: it cannot hold its own quote and drops carriage
returns. -/
def fitsRawLiteral (text : String) : Bool :=
  text.toList.all fun c => c != Char.ofNat 0x60 && c != '\r'

/-- A literal for a regular expression, raw if the text fits one. -/
def quotePattern (pattern : String) : String :=
  if fitsRawLiteral pattern then
    String.ofList (Char.ofNat 0x60 :: pattern.toList ++ [Char.ofNat 0x60])
  else
    quote pattern

example : quote "a\"\x7f" = "\"a\\\"\\x7f\"" := by decide

end ApiScaffold.Go
