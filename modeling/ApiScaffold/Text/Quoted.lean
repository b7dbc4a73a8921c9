import ApiScaffold.Text.Case

/-!
Texts quoted inside messages: between double quotes, with a backslash form for the quote, the
backslash and line breaks, and the code point in braces for every character without a visible form
of its own.
-/

namespace ApiScaffold.Text.Quoted

def hexDigits : List Char := "0123456789abcdef".toList

/-- Digits of `n` in base sixteen, at least one. -/
def hex (n : Nat) : List Char :=
  if n < 16 then [hexDigits.getD n '0'] else hex (n / 16) ++ [hexDigits.getD (n % 16) '0']
termination_by n

/-- A character that a reader can see on its own. -/
def isVisible (c : Char) : Bool :=
  !(LetterTable.graphemeExtend.any (·.contains c.toNat) ||
    LetterTable.invisible.any (·.contains c.toNat))

def quoteChar (c : Char) : List Char :=
  match c with
  | '\x00' => ['\\', '0']
  | '\t' => ['\\', 't']
  | '\r' => ['\\', 'r']
  | '\n' => ['\\', 'n']
  | '\\' => ['\\', '\\']
  | '"' => ['\\', '"']
  | other =>
    if 0x20 ≤ other.toNat && other.toNat < 0x7F || isVisible other then
      [other]
    else
      ['\\', 'u', '{'] ++ hex other.toNat ++ ['}']

def quote (text : String) : String :=
  String.ofList ('"' :: text.toList.flatMap quoteChar ++ ['"'])

example : quote "a\"b\n" = "\"a\\\"b\\n\"" := by decide

end ApiScaffold.Text.Quoted
