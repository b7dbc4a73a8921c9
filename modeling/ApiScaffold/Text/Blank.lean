/-!
White space as Unicode lists it, and the functions that cut it off.
-/

namespace ApiScaffold.Text

/-- The property White_Space. -/
def isBlank (c : Char) : Bool :=
  let code := c.toNat
  (9 ≤ code && code ≤ 13) || code == 0x20 || code == 0x85 || code == 0xA0 || code == 0x1680 ||
    (0x2000 ≤ code && code ≤ 0x200A) || code == 0x2028 || code == 0x2029 || code == 0x202F ||
    code == 0x205F || code == 0x3000

theorem isBlank_of_isWhitespace (c : Char) (white : c.isWhitespace = true) : isBlank c = true := by
  simp only [Char.isWhitespace, Bool.or_eq_true, decide_eq_true_eq] at white
  rcases white with ((rfl | rfl) | rfl) | rfl <;> decide

def dropWhileEnd (drops : Char → Bool) (chars : List Char) : List Char :=
  (chars.reverse.dropWhile drops).reverse

theorem dropWhileEnd_nil (drops : Char → Bool) : dropWhileEnd drops [] = [] := rfl

def trimEndChars (chars : List Char) : List Char := dropWhileEnd isBlank chars

def trimChars (chars : List Char) : List Char := trimEndChars (chars.dropWhile isBlank)

def trim (text : String) : String := String.ofList (trimChars text.toList)

def trimEnd (text : String) : String := String.ofList (trimEndChars text.toList)

end ApiScaffold.Text
