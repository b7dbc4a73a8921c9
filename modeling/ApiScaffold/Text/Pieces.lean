/-!
Cutting texts into pieces: at separators, at the last occurrence of a character, into lines. Every
cut keeps all other characters, so joining the pieces gives the text back.
-/

namespace ApiScaffold.Text

/-- The pieces between the characters that separate; there is always at least one piece. -/
def splitWhere (separates : Char → Bool) : List Char → List (List Char)
  | [] => [[]]
  | c :: rest =>
    if separates c then
      [] :: splitWhere separates rest
    else
      match splitWhere separates rest with
      | piece :: others => (c :: piece) :: others
      | [] => [[c]]

theorem splitWhere_ne_nil (separates : Char → Bool) (chars : List Char) :
    splitWhere separates chars ≠ [] := by
  cases chars with
  | nil => simp [splitWhere]
  | cons c rest =>
    simp only [splitWhere]
    split
    · simp
    · split <;> simp

/-- Nothing but separators is lost. -/
theorem flatten_splitWhere (separates : Char → Bool) (chars : List Char) :
    (splitWhere separates chars).flatten = chars.filter (fun c => !separates c) := by
  induction chars with
  | nil => simp [splitWhere]
  | cons c rest induction =>
    by_cases separator : separates c = true
    · simp [splitWhere, separator, induction]
    · cases cut : splitWhere separates rest with
      | nil => exact absurd cut (splitWhere_ne_nil separates rest)
      | cons piece others =>
        rw [cut, List.flatten_cons] at induction
        simp [splitWhere, separator, cut, ← induction]

/-- The characters of the pieces are those of the text that separate nothing. -/
theorem mem_of_mem_splitWhere {separates : Char → Bool} {chars piece : List Char} {c : Char}
    (listed : piece ∈ splitWhere separates chars) (inside : c ∈ piece) :
    c ∈ chars ∧ separates c = false := by
  have kept : c ∈ (splitWhere separates chars).flatten :=
    List.mem_flatten.mpr ⟨piece, listed, inside⟩
  rw [flatten_splitWhere, List.mem_filter, Bool.not_eq_true'] at kept
  exact kept

/-- Where nothing separates, there is one piece. -/
theorem splitWhere_unbroken {separates : Char → Bool} {chars : List Char}
    (whole : ∀ c ∈ chars, separates c = false) : splitWhere separates chars = [chars] := by
  induction chars with
  | nil => rfl
  | cons c rest induction =>
    obtain ⟨here, there⟩ := List.forall_mem_cons.1 whole
    rw [splitWhere, induction there, here]
    rfl

def firstPiece (separates : Char → Bool) (chars : List Char) : List Char :=
  chars.takeWhile fun c => !separates c

def lastPiece (separates : Char → Bool) (chars : List Char) : List Char :=
  (chars.reverse.takeWhile fun c => !separates c).reverse

/-- Cuts after the last occurrence of `mark`: the part that ends with it, and the part without it. -/
def cutAfterLast (mark : Char) (chars : List Char) : List Char × List Char :=
  ((chars.reverse.dropWhile (· != mark)).reverse, lastPiece (· == mark) chars)

theorem cutAfterLast_append (mark : Char) (chars : List Char) :
    (cutAfterLast mark chars).1 ++ (cutAfterLast mark chars).2 = chars := by
  have whole := List.takeWhile_append_dropWhile (p := (· != mark)) (l := chars.reverse)
  simp only [cutAfterLast, lastPiece]
  rw [← List.reverse_append]
  exact List.reverse_eq_iff.2 whole

/-- The rest of `chars` after `start`, if they begin with it. -/
def afterStart? : List Char → List Char → Option (List Char)
  | [], chars => some chars
  | _ :: _, [] => none
  | s :: start, c :: chars => if s = c then afterStart? start chars else none

theorem afterStart?_eq_some_iff {start chars rest : List Char} :
    afterStart? start chars = some rest ↔ chars = start ++ rest := by
  induction start generalizing chars with
  | nil => simp [afterStart?, eq_comm]
  | cons s start induction =>
    cases chars with
    | nil => simp [afterStart?]
    | cons c chars =>
      by_cases same : s = c
      · simp [afterStart?, same, induction]
      · simp [afterStart?, same, Ne.symm same]

/-- The rest of `text` after `start`, if it begins with it. -/
def dropStart? (start text : String) : Option String :=
  (afterStart? start.toList text.toList).map String.ofList

theorem dropStart?_eq_some_iff {start text rest : String} :
    dropStart? start text = some rest ↔ text = start ++ rest := by
  simp only [dropStart?, Option.map_eq_some_iff, afterStart?_eq_some_iff]
  constructor
  · rintro ⟨chars, whole, rfl⟩
    rw [← String.toList_inj]
    simp [whole]
  · rintro rfl
    exact ⟨rest.toList, by simp, by simp⟩

/-- Whether `text` begins with `start`. -/
def startsWith (start text : String) : Bool := (dropStart? start text).isSome

/-- The part of `text` before `tail`, if it ends with it. -/
def dropEnd? (tail text : String) : Option String :=
  (afterStart? tail.toList.reverse text.toList.reverse).map fun rest => String.ofList rest.reverse

/-- Whether `text` ends with `tail`. -/
def endsWith (tail text : String) : Bool := (dropEnd? tail text).isSome

/-- A carriage return right before a line feed belongs to the line's end. -/
def withoutReturn (line : List Char) : List Char :=
  match line.reverse with
  | '\r' :: before => before.reverse
  | _ => line

/-- Lines of a text: each ends at a line feed, and nothing follows the last line feed. -/
def linesOf (chars : List Char) : List (List Char) :=
  match (splitWhere (· == '\n') chars).reverse with
  | [] => []
  | [] :: ended => ended.reverse.map withoutReturn
  | last :: ended => ended.reverse.map withoutReturn ++ [last]

def lines (text : String) : List String := (linesOf text.toList).map String.ofList

/-- The last piece of `text` after a separator, as a text. -/
def lastSegment (mark : Char) (text : String) : String :=
  String.ofList (lastPiece (· == mark) text.toList)

/-- The piece of `text` before the first `mark`, as a text. -/
def firstSegment (mark : Char) (text : String) : String :=
  String.ofList (firstPiece (· == mark) text.toList)

/-- Every occurrence of `mark` replaced by `replacement`. -/
def replaceChar (mark : Char) (replacement : String) (text : String) : String :=
  String.ofList (text.toList.flatMap fun c => if c = mark then replacement.toList else [c])

end ApiScaffold.Text
