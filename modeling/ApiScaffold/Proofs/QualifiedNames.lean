import ApiScaffold.Identifier.Qualified
import Mathlib.Data.List.DropRight

/-!
The spelling of qualified names. A name without a package is a text of one segment without a dot; one
of a package has its only dot in the last segment, between two texts that are not empty. Reading
accepts exactly these spellings, with blanks around them, and writing gives the spelling back.
-/

namespace ApiScaffold

namespace Text

/-- What has no blanks to lose at its start has none after its end is cut off. -/
theorem trim_end_started {chars : List Char} (started : chars.dropWhile isBlank = chars) :
    (trimEndChars chars).dropWhile isBlank = trimEndChars chars := by
  have front : trimEndChars chars <+: chars := List.rdropWhile_prefix isBlank chars
  rw [List.dropWhile_eq_self_iff] at started ⊢
  intro filled
  rw [front.getElem filled]
  exact started (filled.trans_le front.length_le)

theorem trim_chars_idem (chars : List Char) : trimChars (trimChars chars) = trimChars chars := by
  have started : (trimChars chars).dropWhile isBlank = trimChars chars :=
    trim_end_started (List.dropWhile_idempotent isBlank _)
  have ended : trimEndChars (trimChars chars) = trimChars chars :=
    List.rdropWhile_idempotent isBlank _
  rw [trimChars, started, ended]

theorem trim_idem (text : String) : trim (trim text) = trim text := by
  unfold trim
  rw [String.toList_ofList, trim_chars_idem]

/-- Nothing, or a text that ends with the mark. -/
def ClosedBy (mark : Char) (chars : List Char) : Prop :=
  chars = [] ∨ ∃ front, chars = front ++ [mark]

/-- A text is cut in one way only: the first part is closed by the mark, the second is free of it. -/
theorem cut_after_last_eq_iff {mark : Char} {chars front last : List Char} :
    cutAfterLast mark chars = (front, last) ↔
      chars = front ++ last ∧ ClosedBy mark front ∧ mark ∉ last := by
  constructor
  · intro cut
    have whole := cutAfterLast_append mark chars
    rw [cut] at whole
    obtain ⟨rfl, rfl⟩ := Prod.mk.inj cut
    refine ⟨whole.symm, ?_, ?_⟩
    · cases remaining : chars.reverse.dropWhile (· != mark) with
      | nil => exact .inl rfl
      | cons c rest =>
          have stopped := List.head?_dropWhile_not (· != mark) chars.reverse
          rw [remaining] at stopped
          have marked : c = mark := by simpa using stopped
          exact .inr ⟨rest.reverse, by rw [List.reverse_cons, marked]⟩
    · intro member
      rw [lastPiece, List.mem_reverse] at member
      simpa using List.mem_takeWhile_imp member
  · rintro ⟨rfl, closed, free⟩
    have passed : ∀ c ∈ last.reverse, (c != mark) = true := by
      intro c member
      rw [bne_iff_ne]
      rintro rfl
      exact free (List.mem_reverse.mp member)
    have stops : front.reverse.dropWhile (· != mark) = front.reverse ∧
        front.reverse.takeWhile (· != mark) = [] := by
      rcases closed with rfl | ⟨parents, rfl⟩
      · exact ⟨rfl, rfl⟩
      · simp
    have pieces : (fun c => !(c == mark)) = (· != mark) := rfl
    rw [cutAfterLast, lastPiece, pieces, List.reverse_append, List.dropWhile_append_of_pos passed,
      List.takeWhile_append_of_pos passed, stops.1, stops.2]
    simp

theorem first_piece_of_free {mark : Char} {chars : List Char} (free : mark ∉ chars) :
    firstPiece (· == mark) chars = chars := by
  apply List.takeWhile_eq_self_iff.mpr
  intro c member
  rw [Bool.not_eq_true', beq_eq_false_iff_ne]
  rintro rfl
  exact free member

theorem first_piece_of_marked {mark : Char} {piece : List Char} (rest : List Char)
    (free : mark ∉ piece) : firstPiece (· == mark) (piece ++ mark :: rest) = piece := by
  have passed : ∀ c ∈ piece, (!(c == mark)) = true := by
    intro c member
    rw [Bool.not_eq_true', beq_eq_false_iff_ne]
    rintro rfl
    exact free member
  rw [firstPiece, List.takeWhile_append_of_pos passed]
  simp

end Text

namespace QualifiedName

open Text (ClosedBy)

inductive Spells : QualifiedName → String → Prop where
  | bare {name : String} (filled : name ≠ "") (whole : '/' ∉ name.toList)
    (undotted : '.' ∉ name.toList) : Spells ⟨none, name⟩ name
  | inPackage {directory package name : String} (closed : ClosedBy '/' directory.toList)
    (segment : '/' ∉ (package ++ "." ++ name).toList) (housed : package ≠ "")
    (dotless : '.' ∉ package.toList) (filled : name ≠ "") (undotted : '.' ∉ name.toList) :
    Spells ⟨some (directory ++ package), name⟩ (directory ++ (package ++ "." ++ name))

theorem Spells.displayed {name : QualifiedName} {text : String} (spells : Spells name text) :
    name.display = text := by
  cases spells with
  | bare => rfl
  | inPackage => simp only [display, String.append_assoc]

/-- The last segment of a name without a package has no dot, and nothing stands before it. -/
theorem parse_tail_undotted {directory tail : List Char} (undotted : '.' ∉ tail) :
    parseTail? directory tail =
      if directory = [] ∧ tail ≠ [] then some (ofChars none tail) else none := by
  rw [parseTail?, Text.first_piece_of_free undotted, List.drop_length]
  simp

/-- The last segment of a name with a package is cut at its first dot, which must be the only one. -/
theorem parse_tail_dotted {directory package name : List Char} (dotless : '.' ∉ package) :
    parseTail? directory (package ++ '.' :: name) =
      if package ≠ [] ∧ name ≠ [] ∧ '.' ∉ name then
        some (ofChars (some (directory ++ package)) name)
      else none := by
  rw [parseTail?, Text.first_piece_of_marked name dotless, List.drop_left]
  grind

theorem spells_of_parse {text : String} {name : QualifiedName}
    (read : parse? text = some name) : Spells name (Text.trim text) := by
  unfold parse? at read
  unfold Text.trim
  generalize Text.trimChars text.toList = chars at read ⊢
  obtain ⟨whole, closed, free⟩ :=
    Text.cut_after_last_eq_iff.mp (Prod.eta (Text.cutAfterLast '/' chars)).symm
  dsimp only at read
  generalize (Text.cutAfterLast '/' chars).1 = directory at *
  generalize (Text.cutAfterLast '/' chars).2 = tail at *
  subst whole
  by_cases dotted : '.' ∈ tail
  · obtain ⟨package, rest, rfl, dotless⟩ := List.eq_append_cons_of_mem dotted
    rw [parse_tail_dotted dotless] at read
    split at read
    case isTrue parts =>
      obtain ⟨housed, filled, undotted⟩ := parts
      cases read
      have spells := @Spells.inPackage (String.ofList directory) (String.ofList package)
        (String.ofList rest) (by simpa using closed) (by simpa using free) (by simpa using housed)
        (by simpa using dotless) (by simpa using filled) (by simpa using undotted)
      simpa [ofChars, String.append_assoc] using spells
    case isFalse => cases read
  · rw [parse_tail_undotted dotted] at read
    split at read
    case isTrue parts =>
      obtain ⟨rfl, filled⟩ := parts
      cases read
      exact .bare (by simpa using filled) (by simpa using free) (by simpa using dotted)
    case isFalse => cases read

/-- Whatever is spelt like a name is read as that name. -/
theorem Spells.parsed {text : String} {name : QualifiedName}
    (spells : Spells name (Text.trim text)) : parse? text = some name := by
  unfold parse?
  generalize same : Text.trim text = trimmed at spells
  have chars : Text.trimChars text.toList = trimmed.toList := by
    rw [← same, Text.trim, String.toList_ofList]
  rw [chars]
  cases spells with
  | bare filled whole undotted =>
      have cut : Text.cutAfterLast '/' trimmed.toList = ([], trimmed.toList) :=
        Text.cut_after_last_eq_iff.mpr ⟨rfl, .inl rfl, whole⟩
      rw [cut]
      dsimp only
      rw [parse_tail_undotted undotted, if_pos ⟨rfl, by simpa using filled⟩]
      simp [ofChars]
  | @inPackage directory package name closed segment housed dotless filled undotted =>
      have cut : Text.cutAfterLast '/' (directory ++ (package ++ "." ++ name)).toList =
          (directory.toList, package.toList ++ '.' :: name.toList) :=
        Text.cut_after_last_eq_iff.mpr ⟨by simp, closed, by simpa using segment⟩
      rw [cut]
      dsimp only
      rw [parse_tail_dotted dotless,
        if_pos ⟨by simpa using housed, by simpa using filled, undotted⟩]
      simp [ofChars]

theorem parse_eq_some_iff {text : String} {name : QualifiedName} :
    parse? text = some name ↔ Spells name (Text.trim text) := ⟨spells_of_parse, Spells.parsed⟩

/-- A text is read as a name iff it is spelt like one, up to blanks around it. What is read is
displayed as it was spelt, and read again from there. -/
theorem qualified_names_round_trip (text : String) :
    ((parse? text).isSome ↔ ∃ name, Spells name (Text.trim text)) ∧
      ∀ name, parse? text = some name →
        Spells name (Text.trim text) ∧ name.display = Text.trim text ∧
          parse? name.display = some name := by
  constructor
  · rw [Option.isSome_iff_exists]
    exact exists_congr fun name => parse_eq_some_iff
  · intro name read
    have spells := spells_of_parse read
    have displayed := spells.displayed
    refine ⟨spells, displayed, Spells.parsed ?_⟩
    rwa [displayed, Text.trim_idem]

theorem duration_name_round_trips :
    parse? "\tstd lib/time.Duration " = some ⟨some "std lib/time", "Duration"⟩ ∧
      (⟨some "std lib/time", "Duration"⟩ : QualifiedName).display = "std lib/time.Duration" ∧
      parse? (⟨some "std lib/time", "Duration"⟩ : QualifiedName).display =
        some ⟨some "std lib/time", "Duration"⟩ := by
  have read : parse? "\tstd lib/time.Duration " = some ⟨some "std lib/time", "Duration"⟩ := by
    decide +kernel
  obtain ⟨_, displayed, again⟩ := (qualified_names_round_trip _).2 _ read
  exact ⟨read, displayed.trans (by decide +kernel), again⟩

end QualifiedName

end ApiScaffold
