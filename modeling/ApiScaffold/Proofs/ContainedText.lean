import ApiScaffold.Proofs.DeclaredOnce
import ApiScaffold.Proofs.DenotedText
import ApiScaffold.Proofs.ProgramPlan
import ApiScaffold.Proofs.ShortDocuments
import ApiScaffold.Proofs.WrittenText

/-!
Texts of a document within the files that are written. A text in a literal is read back as it was,
and a text in a comment stays in it, as each of its lines gets the marks of a comment in front. So a
reader of the router gets the bytes of the document itself, whatever the document says.
-/

namespace ApiScaffold.Text

theorem mem_of_mem_trim {text : String} {c : Char} (listed : c ∈ (trim text).toList) :
    c ∈ text.toList := by
  have chars : (trim text).toList = trimChars text.toList := String.toList_ofList
  rw [chars, trimChars, trimEndChars, dropWhileEnd, List.mem_reverse] at listed
  have kept := (List.dropWhile_sublist _).mem listed
  exact (List.dropWhile_sublist _).mem (List.mem_reverse.mp kept)

theorem mem_of_mem_without_return {line : List Char} {c : Char} (listed : c ∈ withoutReturn line) :
    c ∈ line := by
  unfold withoutReturn at listed
  split at listed
  case h_1 before same =>
    rw [← List.mem_reverse, same]
    exact List.mem_cons_of_mem _ (List.mem_reverse.mp listed)
  case h_2 => exact listed

theorem lines_of_piece {chars line : List Char} (listed : line ∈ linesOf chars) :
    ∃ piece ∈ splitWhere (· == '\n') chars, ∀ c ∈ line, c ∈ piece := by
  unfold linesOf at listed
  have pieces {piece : List Char} (inside : piece ∈ (splitWhere (· == '\n') chars).reverse) :
      piece ∈ splitWhere (· == '\n') chars := List.mem_reverse.mp inside
  have ended {pieces : List (List Char)} (among : line ∈ pieces.reverse.map withoutReturn) :
      ∃ piece ∈ pieces, ∀ c ∈ line, c ∈ piece := by
    obtain ⟨piece, inside, rfl⟩ := List.mem_map.mp among
    exact ⟨piece, List.mem_reverse.mp inside, fun _ => mem_of_mem_without_return⟩
  split at listed
  case h_1 => cases listed
  case h_2 others cut =>
    obtain ⟨piece, inside, within⟩ := ended listed
    exact ⟨piece, pieces (cut ▸ List.mem_cons_of_mem _ inside), within⟩
  case h_3 last others _ cut =>
    rcases List.mem_append.mp listed with among | same
    · obtain ⟨piece, inside, within⟩ := ended among
      exact ⟨piece, pieces (cut ▸ List.mem_cons_of_mem _ inside), within⟩
    · exact ⟨last, pieces (cut ▸ List.mem_cons_self), fun _ => List.mem_singleton.mp same ▸ id⟩

theorem line_unbroken {text line : String} (listed : line ∈ lines text) : '\n' ∉ line.toList := by
  obtain ⟨chars, among, rfl⟩ := List.mem_map.mp listed
  obtain ⟨piece, inside, within⟩ := lines_of_piece among
  rw [String.toList_ofList]
  intro feed
  have apart := (mem_of_mem_splitWhere inside (within _ feed)).2
  cases apart

end ApiScaffold.Text

namespace ApiScaffold.Source

namespace Buffer

/-- A line of a comment: marks behind the indentation, and no line feed behind them. -/
def IsComment (buffer : Buffer) (line : String) : Prop :=
  ∃ rest, line = buffer.margin ++ "//" ++ rest ∧ '\n' ∉ rest.toList

theorem body_line {buffer : Buffer} {text : String} (top : buffer.depth = 0)
    (started : buffer.written ≠ []) (filled : text.isEmpty = false) :
    (buffer.line text).body =
      String.intercalate "\n" buffer.written.reverse ++ "\n" ++ text ++ "\n" := by
  have flush : buffer.margin ++ text = text := by
    rw [margin, top]
    rfl
  have kept : (text :: buffer.written).dropWhile String.isEmpty = text :: buffer.written :=
    List.dropWhile_cons_of_neg (by rw [filled]; decide)
  have before : buffer.written.reverse ≠ [] := List.reverse_ne_nil_iff.mpr started
  rw [line_filled filled, body, lines, flush, kept, List.reverse_cons,
    String.intercalate_append_of_ne_nil before (List.cons_ne_nil _ _), String.intercalate_singleton]

end Buffer

theorem spelled_text (scope : Scope) (imports : Imports) (text : String) :
    Code.spelled scope imports [Fragment.text text] = text := by
  simp [Code.spelled, Fragment.spelled, Fragment.importPath?, Fragment.bare]

end ApiScaffold.Source

namespace ApiScaffold.Go

open Source StringLiteral

/-- The lines of a comment are single lines, if the name in front of them is. -/
theorem comment_unbroken {name : String} {text : Option String} (single : '\n' ∉ name.toList) :
    ∀ line ∈ commentOn name text, '\n' ∉ line.toList := by
  have trimmed {line : String} (unbroken : '\n' ∉ line.toList) : '\n' ∉ (Text.trim line).toList :=
    fun feed => unbroken (Text.mem_of_mem_trim feed)
  intro line listed
  unfold commentOn at listed
  split at listed
  case h_2 => cases listed
  case h_1 text =>
    split at listed
    case h_1 => cases listed
    case h_2 first others cut =>
      have unbroken {other : String} (among : other ∈ first :: others) : '\n' ∉ other.toList :=
        Text.line_unbroken (cut ▸ among)
      rcases List.mem_cons.mp listed with rfl | behind
      · simp only [String.toList_append, List.mem_append, not_or]
        exact ⟨⟨single, by decide⟩, trimmed (unbroken List.mem_cons_self)⟩
      · obtain ⟨other, among, rfl⟩ := List.mem_map.mp behind
        exact trimmed (unbroken (List.mem_cons_of_mem _ among))

theorem comment_line_marked (line : String) :
    ∃ rest, commentLine line = "//" ++ rest ∧ ∀ c ∈ rest.toList, c = ' ' ∨ c ∈ line.toList := by
  unfold commentLine
  split
  · exact ⟨"", rfl, nofun⟩
  · refine ⟨" " ++ line, ?_, fun c listed => ?_⟩
    · rw [← String.append_assoc]
      rfl
    · simpa using listed

/-- A comment only adds its lines. -/
theorem comment_written (scope : Scope) (imports : Imports) (comment : List String)
    (buffer : Buffer) :
    Layout.writeAll (Code.spelled scope imports) (commentLayout comment) buffer =
      { buffer with
        written := (comment.map fun line => buffer.margin ++ commentLine line).reverse ++
          buffer.written } := by
  induction comment generalizing buffer with
  | nil => rfl
  | cons line rest induction =>
      have filled : (commentLine line).isEmpty = false := by
        obtain ⟨rest, marked, _⟩ := comment_line_marked line
        rw [marked, Bool.eq_false_iff, Ne, String.isEmpty_iff]
        intro empty
        exact absurd (congrArg String.length empty) (by simp)
      have step : Layout.write (Code.spelled scope imports) (.line (commentLine line)) buffer =
          { buffer with written := (buffer.margin ++ commentLine line) :: buffer.written } := by
        rw [Layout.write, spelled_text, Buffer.line_filled filled]
      rw [commentLayout, List.map_cons, Layout.writeAll, step, List.map_cons, List.reverse_cons,
        List.append_assoc]
      exact induction { buffer with written := _ :: buffer.written }

/-- Whatever a text says, its comment adds lines of comments only. -/
theorem comment_contained (scope : Scope) (imports : Imports) (buffer : Buffer) {name : String}
    (text : Option String) (single : '\n' ∉ name.toList) :
    ∃ lines,
      Layout.writeAll (Code.spelled scope imports) (commentLayout (commentOn name text)) buffer =
        { buffer with written := lines ++ buffer.written } ∧
      ∀ line ∈ lines, buffer.IsComment line := by
  refine ⟨_, comment_written scope imports (commentOn name text) buffer, fun line listed => ?_⟩
  obtain ⟨own, among, rfl⟩ := List.mem_map.mp (List.mem_reverse.mp listed)
  obtain ⟨rest, marked, chars⟩ := comment_line_marked own
  refine ⟨rest, by rw [marked, String.append_assoc], fun feed => ?_⟩
  rcases chars _ feed with blank | inside
  · exact absurd blank (by decide)
  · exact comment_unbroken single own among inside

/-- A global variable at the end of a file stands on a line of its own, which is the last one. -/
theorem global_at_end (package : String) (scope : Scope) (front : Part) {last : Part}
    {name value remark : String}
    (ends : last.declarations = [{ comment := [remark], form := .global name value }]) :
    ∃ start, File.write package scope (front ++ last) =
      start ++ "\n" ++ ("var " ++ name ++ " = " ++ value) ++ "\n" := by
  have layouts : (front ++ last).layouts = front.layouts ++
      (.gap :: (commentLayout [remark] ++ [.line (code ["var ", name, " = ", value])])) := by
    have own : last.layouts = .gap :: (commentLayout [remark] ++
        [.line (code ["var ", name, " = ", value])]) := by
      rw [Part.layouts, ends]
      rfl
    rw [← own]
    exact List.flatMap_append
  unfold File.write
  dsimp only
  rw [layouts, Layout.writeAll_append, Layout.writeAll, Layout.writeAll_append, comment_written,
    Layout.writeAll, Layout.writeAll, Layout.write, Layout.write]
  generalize importsOf Package.aliases scope (front ++ last).mentions = imports
  have spelled : Code.spelled scope imports (code ["var ", name, " = ", value]) =
      "var " ++ name ++ " = " ++ value := by
    simp [code, Code.spelled, Fragment.spelled, Fragment.importPath?, Fragment.bare,
      String.append_assoc]
  have joined (head middle line : String) :
      ∃ start, head ++ (middle ++ "\n" ++ line ++ "\n") = start ++ "\n" ++ line ++ "\n" :=
    ⟨head ++ middle, by simp only [String.append_assoc]⟩
  rw [spelled, Buffer.body_line]
  case top => exact (Buffer.blank_depth _).trans (Layout.write_all_depth _ _)
  case started => exact List.append_ne_nil_of_left_ne_nil (List.cons_ne_nil _ _) _
  case filled =>
    rw [Bool.eq_false_iff, Ne, String.isEmpty_iff]
    intro empty
    exact absurd (congrArg String.length empty) (by simp)
  exact joined _ _ _

end ApiScaffold.Go

namespace ApiScaffold.Server

open Blueprint Go Source StringLiteral

/-- A source text ends in the declaration of a variable with the bytes of a literal. -/
def EndsInBytes (contents : String) (name : String) (bytes : List UInt8) : Prop :=
  ∃ front literal, contents.toList = front ++ ("\nvar " ++ name ++ " = []byte(").toList ++ literal ∧
    read? literal = some (bytes, [')', '\n'])

/-- The router ends in the bytes of the document that its program comes of. -/
theorem router_ends_in_document {document : OpenApi.Document} {config : Config} {program : Program}
    {artifacts : Artifact × Artifact} (compiled : (compile document config).1 = .ok program)
    (emitted : Artifact.all program = .ok artifacts) :
    EndsInBytes artifacts.2.contents "OpenAPISpec" (utf8 document.canonicalText.toList) := by
  obtain ⟨_, _, _, _, rfl⟩ := Artifact.all_cases.mp emitted
  have kept : program.document = document.canonicalText := by
    obtain ⟨schemes, operations, effects, _, _, rfl⟩ := lowered_iff.mp (compiled_iff.mp compiled)
    rfl
  have ends : (documentPart program).declarations = [{
      comment := ["OpenAPISpec is the source document, keys sorted, as JSON."]
      form := .global "OpenAPISpec" [.text ("[]byte(" ++ quote program.document ++ ")")] }] := rfl
  obtain ⟨front, split⟩ : ∃ front, routerPart program = front ++ documentPart program := ⟨_, rfl⟩
  obtain ⟨start, contents⟩ := global_at_end program.config.routerPackageName
    (Artifact.routerScope program.config) front ends
  rw [← split] at contents
  refine ⟨start.toList, (quote program.document).toList ++ [')', '\n'], ?_, ?_⟩
  · exact (congrArg String.toList contents).trans (by simp)
  · rw [← kept]
    exact quote_denotes program.document _

/-- No text of a document ends its literal or its comment: literals give it back, lines of comments
stay such, and the router ends in the document as it is. -/
theorem document_texts_contained :
    (∀ text, Interpreted (quote text) ∧ Denotes (quote text) text) ∧
      (∀ pattern, (Raw (quotePattern pattern) ∨ Interpreted (quotePattern pattern)) ∧
        Denotes (quotePattern pattern) pattern) ∧
      (∀ (scope : Scope) (imports : Imports) (buffer : Buffer) (name : String) (text : Option String),
        '\n' ∉ name.toList → ∃ lines,
          Layout.writeAll (Code.spelled scope imports) (commentLayout (commentOn name text)) buffer =
            { buffer with written := lines ++ buffer.written } ∧
          ∀ line ∈ lines, buffer.IsComment line) ∧
      ∀ (document : OpenApi.Document) (config : Config) (program : Program)
        (artifacts : Artifact × Artifact), (compile document config).1 = .ok program →
        Artifact.all program = .ok artifacts →
        EndsInBytes artifacts.2.contents "OpenAPISpec" (utf8 document.canonicalText.toList) :=
  ⟨fun text => ⟨quote_interpreted text, quote_denotes text⟩,
    fun pattern => ⟨quote_pattern_form pattern, quote_pattern_denotes pattern⟩,
    fun scope imports buffer _ text => comment_contained scope imports buffer text,
    fun _ _ _ _ => router_ends_in_document⟩

/-- A document whose text has quotes, marks of comments and line feeds, and whose schema has a
comment of several lines. -/
def graffiti : OpenApi.Document where
  specification := {
    openapi := "3.0.0"
    components := {
      schemas := [
        ("wall", .object {
          type := some (.single "string")
          description := some "painted\nvar _ = 1 // */"
          pattern := some "^`+$" })] } }
  raw := .object [("wall", .string "\")\n//")]

theorem graffiti_contained :
    (∃ program artifacts, (compile graffiti { package := "street", path := "" }).1 = .ok program ∧
      Artifact.all program = .ok artifacts ∧
      EndsInBytes artifacts.2.contents "OpenAPISpec"
        (utf8 "\x7b\"wall\":\"\\\")\\n//\"\x7d".toList)) ∧
      ∃ lines, Layout.writeAll (Code.spelled { package := "street" } [])
          (commentLayout (commentOn "Wall" (some "painted\nvar _ = 1 // */"))) { unit := "\t" } =
        { unit := "\t", written := lines ++ [] } ∧
        ∀ line ∈ lines, ({ unit := "\t" } : Buffer).IsComment line := by
  have holds : (compileShort graffiti { package := "street", path := "" }).any fun program =>
      decide ((componentsPart program).taken.Nodup ∧
        (Artifact.sharedTaken program ++ (routerPart program).taken).Nodup) := by decide +kernel
  have text : graffiti.canonicalText = "\x7b\"wall\":\"\\\")\\n//\"\x7d" := by decide +kernel
  refine ⟨?_, document_texts_contained.2.2.1 _ [] { unit := "\t" } "Wall" _ (by decide)⟩
  obtain ⟨program, result, holds⟩ := compiled_of_short holds
  obtain ⟨artifacts, emitted⟩ := Artifact.all_succeeds_iff.mpr (of_decide_eq_true holds)
  exact ⟨program, artifacts, result, emitted,
    text ▸ document_texts_contained.2.2.2 graffiti _ program artifacts result emitted⟩

end ApiScaffold.Server
