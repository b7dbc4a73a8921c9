import ApiScaffold.Proofs.WrittenText
import Mathlib.Data.List.Chain
import Mathlib.Data.List.ReduceOption

/-!
Where the empty lines of a source text stand, and how deep all others are. Gaps, lines and blocks
state lines, each with the number of blocks around it. These are written in order, and empty lines
only between them: never first, never two in a row, and not at the edges of a block.
-/

namespace ApiScaffold.Text

theorem ends_with_iff {tail text : String} :
    endsWith tail text = true ↔ tail.toList <:+ text.toList := by
  rw [endsWith, dropEnd?, Option.isSome_map, Option.isSome_iff_exists]
  simp only [afterStart?_eq_some_iff]
  rw [← List.reverse_prefix]
  exact exists_congr fun _ => eq_comm

theorem ends_with_append {tail text : String} (before : String)
    (ends : endsWith tail text = true) : endsWith tail (before ++ text) = true := by
  rw [ends_with_iff] at ends ⊢
  rw [String.toList_append]
  exact ends.trans (List.suffix_append _ _)

def finalFeeds (text : String) : Nat := (text.toList.reverse.takeWhile (· == '\n')).length

theorem final_feeds_feed (text : String) : finalFeeds (text ++ "\n") = finalFeeds text + 1 := by
  simp [finalFeeds]

theorem ends_with_feed_iff {text : String} :
    endsWith "\n" text = true ↔ text.toList.getLast? = some '\n' := by
  rw [ends_with_iff, List.getLast?_eq_some_iff]
  exact exists_congr fun _ => eq_comm

/-- What stands before a text that is not empty has no part in its end. -/
theorem ends_with_feed_append {text : String} (before : String) (filled : text ≠ "") :
    endsWith "\n" (before ++ text) = endsWith "\n" text := by
  rw [Bool.eq_iff_iff, ends_with_feed_iff, ends_with_feed_iff, String.toList_append,
    List.getLast?_append_of_ne_nil]
  simpa using filled

theorem final_feeds_eq_zero_iff {text : String} :
    finalFeeds text = 0 ↔ endsWith "\n" text = false := by
  rw [← Bool.not_eq_true, ends_with_feed_iff, ← List.head?_reverse, finalFeeds]
  cases text.toList.reverse with
  | nil => simp
  | cons last _ => by_cases feed : last = '\n' <;> simp [feed]

theorem intercalate_concat (separator : String) (texts : List String) (last : String) :
    ∃ before, String.intercalate separator (texts ++ [last]) = before ++ last := by
  cases texts with
  | nil => exact ⟨"", by simp⟩
  | cons first others =>
      rw [String.intercalate_append_of_ne_nil (List.cons_ne_nil _ _) (List.cons_ne_nil _ _),
        String.intercalate_singleton]
      exact ⟨_, rfl⟩

end ApiScaffold.Text

namespace ApiScaffold.Source

/-- A text that ends as the opening line of a block does. -/
def Opens (text : String) : Prop :=
  Text.endsWith "\x7b" text = true ∨ Text.endsWith "(" text = true

/-- A line that is not empty, with the number of blocks around it. -/
inductive Line where
  | plain (level : Nat) (text : String) (filled : text ≠ "")
    (unended : Text.endsWith "\n" text = false)
  | opening (level : Nat) (text : String) (opens : Opens text)
  | closing (level : Nat) (text : String) (filled : text ≠ "")

namespace Line

def level : Line → Nat
  | plain level _ _ _ => level
  | opening level _ _ => level
  | closing level _ _ => level

def text : Line → String
  | plain _ text _ _ => text
  | opening _ text _ => text
  | closing _ text _ => text

/-- A line as it is written, with one unit for each block around it; `none` is an empty line. -/
def spelled (unit : String) : Option Line → String
  | none => ""
  | some line => String.join (List.replicate line.level unit) ++ line.text

/-- An empty line follows neither another one nor the opening of a block, and the closing of a block
follows no empty line. -/
def Precedes : Option Line → Option Line → Prop
  | none, none => False
  | some (opening _ _ _), none => False
  | none, some (closing _ _ _) => False
  | _, _ => True

end Line

/-- The lines with empty ones, which are `none`, where these may stand. -/
structure IsSheet (lines : List Line) (sheet : List (Option Line)) : Prop where
  kept : sheet.reduceOption = lines
  first : sheet.head? ≠ some none
  apart : sheet.IsChain Line.Precedes

/-- The buffer has just these lines written, and empty ones where they may stand. -/
structure LaidOut (unit : String) (lines : List Line) (buffer : Buffer) : Prop where
  indented : buffer.unit = unit
  written : ∃ sheet, IsSheet lines sheet ∧
    buffer.written = (sheet.map (Line.spelled unit)).reverse

/-- Gaps, lines and blocks with `level` blocks around them, and the lines that they state. -/
inductive Layout.States (spell : Code → String) : Nat → List Layout → List Line → Prop where
  | nil {level : Nat} : States spell level [] []
  | gap {level : Nat} {rest : List Layout} {lines : List Line}
    (after : States spell level rest lines) :
    States spell level (.gap :: rest) lines
  | line {level : Nat} {code : Code} {rest : List Layout} {lines : List Line}
    (filled : spell code ≠ "") (unended : Text.endsWith "\n" (spell code) = false)
    (after : States spell level rest lines) :
    States spell level (.line code :: rest) (.plain level (spell code) filled unended :: lines)
  | block {level : Nat} {opening closing : Code} {body rest : List Layout}
    {inner lines : List Line} (opens : Opens (spell opening)) (filled : spell closing ≠ "")
    (inside : States spell (level + 1) body inner) (after : States spell level rest lines) :
    States spell level (.block opening body closing :: rest)
      (.opening level (spell opening) opens ::
        (inner ++ .closing level (spell closing) filled :: lines))

theorem Opens.filled {text : String} (opens : Opens text) : text ≠ "" := by
  rintro rfl
  revert opens
  simp [Opens, Text.ends_with_iff]

theorem Opens.needs_no_gap {text : String} (opens : Opens text) (before : String) :
    Buffer.needsNoGap (before ++ text) = true := by
  rcases opens with brace | parenthesis
  · simp [Buffer.needsNoGap, Text.ends_with_append before brace]
  · simp [Buffer.needsNoGap, Text.ends_with_append before parenthesis]

/-- The opening of a block ends in its bracket. -/
theorem Opens.unended {text : String} (opens : Opens text) : Text.endsWith "\n" text = false := by
  rw [← Bool.not_eq_true, Text.ends_with_feed_iff]
  rcases opens with brace | parenthesis
  · obtain ⟨before, same⟩ := Text.ends_with_iff.mp brace
    rw [← same]
    simp
  · obtain ⟨before, same⟩ := Text.ends_with_iff.mp parenthesis
    rw [← same]
    simp

namespace Line

theorem filled : ∀ line : Line, line.text ≠ ""
  | plain _ _ filled _ => filled
  | opening _ _ opens => opens.filled
  | closing _ _ filled => filled

/-- No line is written as an empty one. -/
theorem spelled_filled (unit : String) (line : Line) :
    (spelled unit (some line)).isEmpty = false := by
  rw [Bool.eq_false_iff, Ne, String.isEmpty_iff, spelled, String.append_eq_empty_iff]
  exact fun empty => line.filled empty.2

/-- An empty line may stand below a line that asks for a gap. -/
theorem precedes_empty {unit : String} {entry : Option Line}
    (needs : Buffer.needsNoGap (spelled unit entry) = false) : Precedes entry none := by
  rcases entry with _ | line
  · rw [spelled, Buffer.needsNoGap_empty] at needs
    cases needs
  · cases line with
    | plain => trivial
    | closing => trivial
    | opening level text opens =>
        have none : Buffer.needsNoGap (spelled unit (some (.opening level text opens))) = true :=
          opens.needs_no_gap _
        rw [none] at needs
        cases needs

theorem precedes_line (line next : Line) : Precedes (some line) (some next) := by
  cases line <;> trivial

end Line

namespace IsSheet

variable {lines : List Line} {sheet : List (Option Line)} {entry : Option Line}

theorem start : IsSheet [] [] where
  kept := rfl
  first := nofun
  apart := .nil

theorem snoc (is : IsSheet lines sheet) (line : Line)
    (follows : ∀ last ∈ sheet.getLast?, Line.Precedes last (some line)) :
    IsSheet (lines ++ [line]) (sheet ++ [some line]) where
  kept := by
    rw [List.reduceOption_append, is.kept]
    rfl
  first empty := by
    rw [List.head?_append, Option.or_eq_some_iff] at empty
    exact is.first (empty.resolve_right (by simp))
  apart := List.isChain_append.mpr ⟨is.apart, .singleton _, by simpa using follows⟩

theorem gap (is : IsSheet lines (sheet ++ [entry])) (apart : Line.Precedes entry none) :
    IsSheet lines (sheet ++ [entry] ++ [none]) where
  kept := by
    rw [List.reduceOption_append, is.kept]
    exact List.append_nil lines
  first := by
    rw [List.head?_append_of_ne_nil _ (List.append_ne_nil_of_right_ne_nil _ (List.cons_ne_nil _ _))]
    exact is.first
  apart := List.isChain_append.mpr ⟨is.apart, .singleton _, by simpa using apart⟩

theorem of_gap (is : IsSheet lines (sheet ++ [none])) : IsSheet lines sheet where
  kept := by
    rw [← is.kept, List.reduceOption_append]
    exact (List.append_nil _).symm
  first empty := is.first (by rw [List.head?_append, empty]; rfl)
  apart := is.apart.left_of_append

theorem trimmed (unit : String) (is : IsSheet lines sheet) :
    ∃ trimmed, IsSheet lines trimmed ∧ trimmed.getLast? = lines.getLast?.map some ∧
      (sheet.map (Line.spelled unit)).reverse.dropWhile String.isEmpty =
        (trimmed.map (Line.spelled unit)).reverse := by
  induction sheet using List.reverseRecOn with
  | nil =>
      obtain rfl := is.kept
      exact ⟨[], is, rfl, rfl⟩
  | append_singleton sheet entry induction =>
      cases entry with
      | none =>
          obtain ⟨trimmed, proper, last, same⟩ := induction is.of_gap
          refine ⟨trimmed, proper, last, ?_⟩
          rw [← same, List.map_append, List.reverse_append]
          rfl
      | some line =>
          refine ⟨_, is, ?_, ?_⟩
          · rw [← is.kept, List.reduceOption_append]
            simp [List.reduceOption]
          · rw [List.map_append, List.reverse_append]
            exact List.dropWhile_cons_of_neg (by simp [Line.spelled_filled])

end IsSheet

namespace LaidOut

variable {unit : String} {lines : List Line} {buffer : Buffer}

theorem start (unit : String) : LaidOut unit [] { unit } where
  indented := rfl
  written := ⟨[], .start, rfl⟩

theorem at_depth (laid : LaidOut unit lines buffer) (depth : Nat) :
    LaidOut unit lines { buffer with depth } where
  indented := laid.indented
  written := laid.written

theorem blank (laid : LaidOut unit lines buffer) : LaidOut unit lines buffer.blank := by
  obtain ⟨indented, sheet, is, written⟩ := laid
  rcases List.eq_nil_or_concat' sheet with rfl | ⟨front, entry, rfl⟩
  · have same : buffer.blank = buffer := by simp [Buffer.blank, written]
    rw [same]
    exact ⟨indented, [], is, written⟩
  · by_cases free : Buffer.needsNoGap (Line.spelled unit entry) = true
    · have same : buffer.blank = buffer := by simp [Buffer.blank, written, free]
      rw [same]
      exact ⟨indented, _, is, written⟩
    · have same : buffer.blank = { buffer with written := "" :: buffer.written } := by
        simp [Buffer.blank, written, free]
      rw [Bool.not_eq_true] at free
      rw [same]
      refine ⟨indented, _, is.gap (Line.precedes_empty free), ?_⟩
      rw [List.map_append, List.reverse_append, ← written]
      rfl

theorem line_on (buffer : Buffer) {sheet : List (Option Line)} (is : IsSheet lines sheet)
    (line : Line) (indented : buffer.unit = unit)
    (written : buffer.written = (sheet.map (Line.spelled unit)).reverse)
    (deep : buffer.depth = line.level)
    (follows : ∀ last ∈ sheet.getLast?, Line.Precedes last (some line)) :
    LaidOut unit (lines ++ [line]) (buffer.line line.text) := by
  have filled : line.text.isEmpty = false := by
    rw [Bool.eq_false_iff, Ne, String.isEmpty_iff]
    exact line.filled
  rw [Buffer.line_filled filled]
  refine ⟨indented, _, is.snoc line follows, ?_⟩
  rw [List.map_append, List.reverse_append, ← written, Buffer.margin, indented, deep]
  rfl

theorem plain (laid : LaidOut unit lines buffer) {text : String} (filled : text ≠ "")
    (unended : Text.endsWith "\n" text = false) :
    LaidOut unit (lines ++ [.plain buffer.depth text filled unended]) (buffer.line text) := by
  obtain ⟨indented, sheet, is, written⟩ := laid
  refine line_on buffer is (.plain _ _ _ _) indented written rfl ?_
  rintro (_ | last) -
  · trivial
  · exact Line.precedes_line _ _

theorem opening (laid : LaidOut unit lines buffer) {text : String} (opens : Opens text) :
    LaidOut unit (lines ++ [.opening buffer.depth text opens]) (buffer.opened text) := by
  obtain ⟨indented, sheet, is, written⟩ := laid
  refine at_depth (line_on buffer is (.opening _ _ _) indented written rfl ?_) _
  rintro (_ | last) -
  · trivial
  · exact Line.precedes_line _ _

/-- The empty lines at the end of a block go before its closing line is written. -/
theorem closing (laid : LaidOut unit lines buffer) {text : String} (filled : text ≠ "") :
    LaidOut unit (lines ++ [.closing (buffer.depth - 1) text filled]) (buffer.closed text) := by
  obtain ⟨indented, sheet, is, written⟩ := laid
  obtain ⟨trimmed, proper, last, same⟩ := is.trimmed unit
  refine line_on (Buffer.dedent _) proper (.closing _ _ _) indented ?_ rfl ?_
  · rw [← same, ← written]
    rfl
  · rw [last]
    rintro _ final
    obtain ⟨line, -, rfl⟩ := Option.map_eq_some_iff.mp final
    exact Line.precedes_line _ _

/-- The body ends as its last line does, with one more line feed. -/
theorem final_feeds_iff (laid : LaidOut unit lines buffer) :
    Text.finalFeeds buffer.body = 1 ↔
      ∀ line ∈ lines.getLast?, Text.endsWith "\n" line.text = false := by
  obtain ⟨-, sheet, is, written⟩ := laid
  obtain ⟨trimmed, -, last, same⟩ := is.trimmed unit
  have body : buffer.body = String.intercalate "\n" (trimmed.map (Line.spelled unit)) ++ "\n" := by
    rw [Buffer.body, Buffer.lines, written, same, List.reverse_reverse]
  rw [body, Text.final_feeds_feed, Nat.add_eq_right, Text.final_feeds_eq_zero_iff]
  cases final : lines.getLast? with
  | none =>
      rw [final] at last
      obtain rfl := List.getLast?_eq_none_iff.mp last
      rw [List.map_nil, String.intercalate_nil]
      exact iff_of_true (by decide) nofun
  | some line =>
      rw [final] at last
      obtain ⟨front, rfl⟩ := List.getLast?_eq_some_iff.mp last
      obtain ⟨before, joined⟩ : ∃ before,
          String.intercalate "\n" ((front ++ [some line]).map (Line.spelled unit)) =
            before ++ line.text := by
        rw [List.map_append]
        obtain ⟨before, joined⟩ := Text.intercalate_concat "\n"
          (front.map (Line.spelled unit)) (Line.spelled unit (some line))
        exact ⟨before ++ _, joined.trans (String.append_assoc ..).symm⟩
      rw [joined, Text.ends_with_feed_append before line.filled]
      simp

end LaidOut

namespace Layout

variable {spell : Code → String}

/-- What is stated is written below the lines that are there. -/
theorem States.laid_out {unit : String} {level : Nat} {layouts : List Layout}
    {lines before : List Line} {buffer : Buffer} (states : States spell level layouts lines)
    (laid : LaidOut unit before buffer) (deep : buffer.depth = level) :
    LaidOut unit (before ++ lines) (writeAll spell layouts buffer) := by
  induction states generalizing before buffer with
  | nil =>
      rw [List.append_nil]
      exact laid
  | gap after induction => exact induction laid.blank (buffer.blank_depth.trans deep)
  | line filled unended after induction =>
      subst deep
      rw [writeAll, write, ← List.singleton_append, ← List.append_assoc]
      exact induction (laid.plain filled unended) rfl
  | @block _ opening closing body _ _ _ opens filled inside after within behind =>
      subst deep
      -- only the depth at the end of the body tells where its closing line stands
      have back : (writeAll spell body (buffer.opened (spell opening))).depth - 1 =
          buffer.depth := by
        rw [write_all_depth]
        rfl
      have whole := (within (laid.opening opens) rfl).closing filled
      rw [back] at whole
      rw [writeAll, write]
      simpa using behind whole back

/-- The lines of gaps, lines and blocks are written one below the other, as deep as there are blocks
around them, and empty lines stand nowhere but where they may. A block ends as deep as it starts.
The text ends in one line feed, unless its last line closes a block and ends in one itself. -/
theorem blocks_laid_out {layouts : List Layout} {lines : List Line} (unit : String)
    (states : States spell 0 layouts lines) :
    LaidOut unit lines (writeAll spell layouts { unit }) ∧
      (∀ (opening : Code) (body : List Layout) (closing : Code) (buffer : Buffer),
        (write spell (.block opening body closing) buffer).depth = buffer.depth) ∧
      (Text.finalFeeds (writeAll spell layouts { unit }).body = 1 ↔
        ∀ level text filled, lines.getLast? = some (.closing level text filled) →
          Text.endsWith "\n" text = false) := by
  have laid : LaidOut unit lines (writeAll spell layouts { unit }) := by
    simpa using states.laid_out (.start unit) rfl
  refine ⟨laid, fun opening body closing buffer => write_depth _ buffer, ?_⟩
  rw [laid.final_feeds_iff]
  constructor
  · intro unended level text filled last
    exact unended (.closing level text filled) last
  · intro closings line last
    cases line with
    | plain _ _ _ unended => exact unended
    | opening _ _ opens => exact opens.unended
    | closing level text filled => exact closings level text filled last

def gatehouse : List Layout := [
  .gap, .line "package gate", .gap, .gap,
  .block "func Open() \x7b" [
    .gap,
    .block "if locked \x7b" [.gap, .line "return", .gap] "\x7d",
    .gap] "\x7d",
  .gap]

theorem gatehouse_laid_out :
    ∃ lines, States (Code.spelled { package := "gate" } []) 0 gatehouse lines ∧
      LaidOut "\t" lines (writeAll (Code.spelled { package := "gate" } []) gatehouse
        { unit := "\t" }) ∧
      Text.finalFeeds (writeAll (Code.spelled { package := "gate" } []) gatehouse
        { unit := "\t" }).body = 1 ∧
      (writeAll (Code.spelled { package := "gate" } []) gatehouse { unit := "\t" }).lines =
        ["package gate", "", "func Open() \x7b", "\tif locked \x7b", "\t\treturn", "\t\x7d",
          "\x7d"] := by
  have states : States (Code.spelled { package := "gate" } []) 0 gatehouse _ :=
    .gap (.line (by decide) (by decide) (.gap (.gap (.block (.inl (by decide)) (by decide)
      (.gap (.block (.inl (by decide)) (by decide)
        (.gap (.line (by decide) (by decide) (.gap .nil))) (.gap .nil))) (.gap .nil)))))
  obtain ⟨laid, -, single⟩ := blocks_laid_out "\t" states
  refine ⟨_, states, laid, single.mpr ?_, by decide⟩
  rintro level text filled last
  cases last
  decide

/-- A line feed at the end of the last line stays, so the text ends in two. -/
theorem closing_feed_kept :
    (∃ lines, States (Code.spelled { package := "gate" } []) 0 [.block "f(" [] ")\n"] lines) ∧
      (writeAll (Code.spelled { package := "gate" } []) [.block "f(" [] ")\n"]
        { unit := "\t" }).body = "f(\n)\n\n" ∧
      Text.finalFeeds (writeAll (Code.spelled { package := "gate" } []) [.block "f(" [] ")\n"]
        { unit := "\t" }).body = 2 := by
  have states : States (Code.spelled { package := "gate" } []) 0 [.block "f(" [] ")\n"] _ :=
    .block (.inr (by decide)) (by decide) .nil .nil
  exact ⟨⟨_, states⟩, by decide, by decide⟩

end Layout

end ApiScaffold.Source
