import ApiScaffold.Text.Blank
import ApiScaffold.Text.Pieces

/-!
A source text as it is written, line by line. Every line is indented as deep as the blocks around it;
empty lines separate, so they never come first, twice in a row, or at the edge of a block.
-/

namespace ApiScaffold.Source

structure Buffer where
  /-- The indentation of one level. -/
  unit : String
  depth : Nat := 0
  /-- The lines so far, the last one first. -/
  written : List String := []
deriving DecidableEq, Repr

namespace Buffer

def margin (buffer : Buffer) : String := String.join (List.replicate buffer.depth buffer.unit)

/-- Writes one line; an empty one is not indented. -/
def line (buffer : Buffer) (text : String) : Buffer :=
  let written := if text.isEmpty then "" else buffer.margin ++ text
  { buffer with written := written :: buffer.written }

def withoutOuterFeeds (text : String) : String :=
  String.ofList (Text.dropWhileEnd (· == '\n') (text.toList.dropWhile (· == '\n')))

/-- Writes several lines, without blanks at their ends. -/
def text (buffer : Buffer) (lines : String) : Buffer :=
  (Text.lines (withoutOuterFeeds lines)).foldl (fun buffer line => buffer.line (Text.trimEnd line))
    buffer

/-- Lines after which nothing has to be separated. -/
def needsNoGap (last : String) : Bool :=
  last.isEmpty || Text.endsWith "\x7b" last || Text.endsWith "(" last

def blank (buffer : Buffer) : Buffer :=
  match buffer.written with
  | [] => buffer
  | last :: _ =>
    if needsNoGap last then buffer else { buffer with written := "" :: buffer.written }

def indent (buffer : Buffer) : Buffer := { buffer with depth := buffer.depth + 1 }

def dedent (buffer : Buffer) : Buffer := { buffer with depth := buffer.depth - 1 }

def opened (buffer : Buffer) (opening : String) : Buffer := (buffer.line opening).indent

/-- Closes a block with a line; no empty line stands before it. -/
def closed (buffer : Buffer) (closing : String) : Buffer :=
  ({ buffer with written := buffer.written.dropWhile String.isEmpty }.dedent).line closing

/-- The larger of two widths, column by column. -/
def widest : List Nat → List Nat → List Nat
  | [], others => others
  | widths, [] => widths
  | width :: widths, other :: others => max width other :: widest widths others

/-- The widths of columns; the last cell of a row counts for none. -/
def columnWidths (table : List (List String)) : List Nat :=
  table.foldl (fun widths row => widest widths (row.dropLast.map String.length)) []

def padded (width : Nat) (cell : String) : String :=
  cell ++ String.ofList (List.replicate (width - cell.length) ' ')

def alignedRow : List Nat → List String → String
  | _, [] => ""
  | _, [last] => last
  | widths, cell :: next :: rest =>
    padded (widths.headD 0) cell ++ " " ++ alignedRow widths.tail (next :: rest)

/-- Writes a table, its columns aligned. -/
def rows (buffer : Buffer) (table : List (List String)) : Buffer :=
  let widths := columnWidths table
  table.foldl (fun buffer row => buffer.line (Text.trimEnd (alignedRow widths row))) buffer

/-- The lines in order, without empty ones at the end. -/
def lines (buffer : Buffer) : List String := (buffer.written.dropWhile String.isEmpty).reverse

/-- The whole text; its last line is ended. -/
def body (buffer : Buffer) : String := String.intercalate "\n" buffer.lines ++ "\n"

theorem needsNoGap_empty : needsNoGap "" = true := by simp [needsNoGap]

theorem blank_blank (buffer : Buffer) : buffer.blank.blank = buffer.blank := by
  cases written : buffer.written with
  | nil => simp [blank, written]
  | cons last rest =>
    by_cases plain : needsNoGap last = true
    · simp [blank, written, plain]
    · simp [blank, written, plain, needsNoGap_empty]

theorem depth_closed_opened (buffer : Buffer) (opening closing : String) :
    ((buffer.opened opening).closed closing).depth = buffer.depth := by
  simp [opened, closed, line, indent, dedent]

end Buffer

end ApiScaffold.Source
