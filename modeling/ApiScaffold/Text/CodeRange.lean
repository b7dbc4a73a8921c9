/-!
Sets of characters and maps between characters, written as runs of code points. A property of
characters is a list of ranges; a mapping is a list of runs that share one displacement.
-/

namespace ApiScaffold.Text

/-- Every code point from `first` to `last`. -/
structure CodeRange where
  first : Nat
  last : Nat
deriving DecidableEq, Repr

/-- Every `stride`-th code point from `first` to `last`. -/
structure CodeStride where
  first : Nat
  last : Nat
  stride : Nat
deriving DecidableEq, Repr

/-- Every `stride`-th code point from `first` to `last`, mapped so that `first` becomes `image`. -/
structure CodeRun where
  first : Nat
  last : Nat
  stride : Nat
  image : Nat
deriving DecidableEq, Repr

def CodeRange.contains (range : CodeRange) (code : Nat) : Bool :=
  range.first ≤ code && code ≤ range.last

def CodeStride.contains (range : CodeStride) (code : Nat) : Bool :=
  range.first ≤ code && code ≤ range.last && (code - range.first) % range.stride == 0

def CodeRun.map? (run : CodeRun) (code : Nat) : Option Nat :=
  if run.first ≤ code && code ≤ run.last && (code - run.first) % run.stride == 0 then
    some (run.image + (code - run.first))
  else
    none

theorem CodeRun.map?_first (run : CodeRun) (ordered : run.first ≤ run.last) :
    run.map? run.first = some run.image := by
  simp [CodeRun.map?, ordered]

/-- The first run that holds the code point decides. -/
def mapCode? (runs : List CodeRun) (code : Nat) : Option Nat :=
  runs.findSome? (·.map? code)

end ApiScaffold.Text
