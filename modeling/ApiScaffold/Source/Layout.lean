import ApiScaffold.Source.Buffer
import ApiScaffold.Source.Code

/-!
The layout of code: lines, gaps between them, tables and blocks.
-/

namespace ApiScaffold.Source

inductive Layout where
  | line (code : Code)
  /-- Separates what follows. -/
  | gap
  | rows (table : List (List Code))
  | block (opening : Code) (body : List Layout) (closing : Code)
  /-- One level deeper than what is around it. -/
  | nested (body : List Layout)
deriving Repr

namespace Layout

mutual
/-- Writes a layout, its code spelled by `spell`. -/
def write (spell : Code → String) : Layout → Buffer → Buffer
  | line code, buffer => buffer.line (spell code)
  | gap, buffer => buffer.blank
  | rows table, buffer => buffer.rows (table.map (·.map spell))
  | block opening body closing, buffer =>
    (writeAll spell body (buffer.opened (spell opening))).closed (spell closing)
  | nested body, buffer => (writeAll spell body buffer.indent).dedent
termination_by structural layout => layout

def writeAll (spell : Code → String) : List Layout → Buffer → Buffer
  | [], buffer => buffer
  | layout :: rest, buffer => writeAll spell rest (write spell layout buffer)
termination_by structural layouts => layouts
end

mutual
/-- Everything that a layout is made of, in order. -/
def fragments : Layout → List Fragment
  | line code => code
  | gap => []
  | rows table => table.flatten.flatten
  | block opening body closing => opening ++ allFragments body ++ closing
  | nested body => allFragments body
termination_by structural layout => layout

def allFragments : List Layout → List Fragment
  | [] => []
  | layout :: rest => fragments layout ++ allFragments rest
termination_by structural layouts => layouts
end

theorem writeAll_append (spell : Code → String) (first second : List Layout) (buffer : Buffer) :
    writeAll spell (first ++ second) buffer = writeAll spell second (writeAll spell first buffer) := by
  induction first generalizing buffer with
  | nil => rfl
  | cons layout rest induction => simp [writeAll, induction]

theorem allFragments_append (first second : List Layout) :
    allFragments (first ++ second) = allFragments first ++ allFragments second := by
  induction first with
  | nil => rfl
  | cons layout rest induction => simp [allFragments, induction]

end Layout

end ApiScaffold.Source
