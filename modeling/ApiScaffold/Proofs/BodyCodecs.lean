import ApiScaffold.Proofs.CompiledProgram
import ApiScaffold.Proofs.DecoderPresence
import ApiScaffold.Proofs.NestedStatements
import ApiScaffold.Proofs.Permuted
import ApiScaffold.Proofs.RequestScope
import ApiScaffold.Proofs.ShortDocuments
import ApiScaffold.Proofs.SwitchStatements
import ApiScaffold.Server.Artifact

/-!
How the two directions of a body are coded. A parser decides by the ending of a media type whether
it reads XML; `marshalBody` writes XML for the media types of a list, and only after it has looked
at the type of the body. So they are at odds about all the endings that the list leaves out.
-/

namespace ApiScaffold.Server.BodyDecoding

open Blueprint

def XmlEnding (media : String) : Prop := Text.endsWith "/xml" media ∨ Text.endsWith "+xml" media

instance (media : String) : Decidable (XmlEnding media) := inferInstanceAs (Decidable (_ ∨ _))

theorem of_media_type_xml (media : String) : ofMediaType media = xml ↔ XmlEnding media := by
  unfold ofMediaType XmlEnding
  rw [← Bool.or_eq_true]
  split
  · rename_i ending
    exact iff_of_true rfl ending
  · rename_i ending
    exact iff_of_false nofun ending

/-- Bodies that are neither bytes nor texts are read by their media type alone. -/
theorem of_content_plain {resolved : Shape} (bytes : resolved.kind? ≠ some .bytes)
    (text : resolved.kind? ≠ some .string) (content : BodyContent) :
    ofContent resolved content = ofMediaType (mediaType content.contentType) := by
  unfold ofContent
  split
  · exact absurd ‹_› bytes
  · exact absurd ‹_› text
  · rfl

end ApiScaffold.Server.BodyDecoding

namespace ApiScaffold.Server.Reply

open Blueprint Go Source
open OpenApi (Document)

/-- What is given back for the types of bodies that are not encoded. -/
def rawResults : List (String × List Code) := [
  ("nil", ["nil", "nil"]), ("[]byte", ["value", "nil"]), ("string", ["[]byte(value)", "nil"])]

def rawTypes : List String := rawResults.map (·.1)

def xmlCall : Code := [.imported Package.xml "Marshal", "(body)"]

def jsonCall : Code := [.imported Package.json "Marshal", "(body)"]

/-- What is given back for a body of some type: texts and bytes as they are, else its encoding. -/
def written (type media : String) : List Code :=
  (rawResults.lookup type).getD [if media ∈ xmlMedia then xmlCall else jsonCall]

/-- The labels that fit when a body of some type is written with a content type: types are asked for
first, then the media type that `parse` finds. -/
def fits (parse : String → String) (type contentType : String) (subject label : Code) : Bool :=
  if subject = "value := body.(type)" then label.contains (Fragment.text type)
  else label.contains (Fragment.text (quote (parse contentType)))

/-- What `marshalBody` gives back, where `parse` finds the media type of a content type. -/
def Marshals (parse : String → String) (type contentType : String) (values : List Code) : Prop :=
  Statement.Gives (fits parse type contentType) marshalBody.form.body (some values)

theorem quote_ne_comma (media : String) : quote media ≠ ", " := by
  intro same
  have first := congrArg (fun text => text.toList.head?) same
  simp [quote] at first

theorem xml_label_contains (media : String) :
    (separated ", " (xmlMedia.map fun media => (quote media : Code))).contains
      (Fragment.text (quote media)) = true ↔ media ∈ xmlMedia := by
  have label : separated ", " (xmlMedia.map fun media => (quote media : Code)) =
      [Fragment.text (quote "application/xml"), ", ", Fragment.text (quote "text/xml")] := rfl
  have own {first second : String} : Fragment.text (quote first) = Fragment.text (quote second) ↔
      first = second :=
    ⟨fun same => quote_injective (Fragment.text.inj same), fun same => by rw [same]⟩
  have comma : Fragment.text (quote media) ≠ ", " := fun same =>
    quote_ne_comma media (Fragment.text.inj same)
  rw [label, List.contains_iff_mem, xmlMedia]
  simp [own, comma]

section Marshalling

variable {parse : String → String} {type contentType : String}

theorem type_fits (label : String) :
    fits parse type contentType "value := body.(type)" label = true ↔ type = label := by
  unfold fits
  rw [if_pos rfl]
  simp

theorem media_fits : fits parse type contentType "mediaType"
    (separated ", " (xmlMedia.map fun media => (quote media : Code))) = true ↔
      parse contentType ∈ xmlMedia := by
  unfold fits
  rw [if_neg (by decide)]
  exact xml_label_contains _

theorem type_chosen (results : List (String × List Code)) :
    Statement.chosen (fits parse type contentType "value := body.(type)")
      (results.map fun entry => ((entry.1 : Code), [.give entry.2])) none =
        (results.lookup type).map fun values => [.give values] := by
  induction results with
  | nil => rfl
  | cons entry rest induction =>
      rw [List.map_cons, Statement.chosen_cons, List.lookup_cons, induction]
      by_cases own : type = entry.1
      · simp [type_fits, own]
      · simp [type_fits, own, beq_eq_false_iff_ne.mpr own]

theorem media_chosen : Statement.chosen (fits parse type contentType "mediaType")
    [(separated ", " (xmlMedia.map fun media => (quote media : Code)), [.give [xmlCall]])]
    (some [.give [jsonCall]]) =
      some [.give [if parse contentType ∈ xmlMedia then xmlCall else jsonCall]] := by
  rw [Statement.chosen_cons, Statement.chosen_nil]
  simp only [media_fits]
  split <;> rfl

theorem marshals_written : Marshals parse type contentType (written type (parse contentType)) := by
  have typed := @type_chosen parse type contentType rawResults
  unfold written
  cases raw : rawResults.lookup type with
  | some values =>
      rw [raw] at typed
      exact .returned _ typed (.give values _)
  | none =>
      rw [raw] at typed
      exact .past typed (.define _ _ (.returned _ media_chosen (.give _ _)))

/-- That is all that `marshalBody` can give back. -/
theorem marshals_iff {values : List Code} : Marshals parse type contentType values ↔
    values = written type (parse contentType) := by
  constructor
  · exact fun gives => Option.some.inj (gives.unique marshals_written)
  · rintro rfl
    exact marshals_written

theorem marshals_xml_iff : Marshals parse type contentType [xmlCall] ↔
    type ∉ rawTypes ∧ parse contentType ∈ xmlMedia := by
  rw [marshals_iff]
  unfold written
  cases raw : rawResults.lookup type with
  | some values =>
      obtain ⟨before, after, whole, _⟩ := List.lookup_eq_some_iff.mp raw
      have listed : (type, values) ∈ rawResults := by simp [whole]
      have plain : ∀ entry ∈ rawResults, entry.2 ≠ [xmlCall] := by decide
      have typed : type ∈ rawTypes := List.mem_map.mpr ⟨_, listed, rfl⟩
      exact iff_of_false (plain _ listed).symm fun both => both.1 typed
  | none =>
      have other : type ∉ rawTypes := by
        intro typed
        obtain ⟨entry, listed, rfl⟩ := List.mem_map.mp typed
        simpa using List.lookup_eq_none_iff.mp raw entry listed
      rw [and_iff_right other, Option.getD_none]
      split
      · exact iff_of_true rfl ‹_›
      · exact iff_of_false (by decide) ‹_›

end Marshalling

theorem xml_media_ending {media : String} (listed : media ∈ xmlMedia) :
    BodyDecoding.XmlEnding media := by
  simp only [xmlMedia, List.mem_cons, List.not_mem_nil, or_false] at listed
  rcases listed with rfl | rfl <;> decide

theorem marshal_body_declared (program : Program) :
    marshalBody ∈ (routerPart program).declarations := by
  have own : marshalBody ∈ part.declarations := by
    simp [part, declarations]
  unfold routerPart
  dsimp only
  simp only [Part.declarations_append, List.mem_append]
  exact .inl (.inl (.inl (.inl (.inl own))))

/-- A parser and `marshalBody` agree on whether a body of a content type is XML just if its media
type has no ending of XML, or is on the list and the body is not written as it is. -/
theorem codecs_agree_iff (program : Program) (operation : Operation) {content : BodyContent}
    (bytes : (program.resolve content.shape).kind? ≠ some .bytes)
    (text : (program.resolve content.shape).kind? ≠ some .string) {parse : String → String}
    (parses : parse content.contentType = BodyDecoding.mediaType content.contentType)
    (type : String) :
    marshalBody ∈ (routerPart program).declarations ∧
    ((BodyReading.ofContent (Outline.ofProgram program) operation content).decoding = .xml ↔
      BodyDecoding.XmlEnding (BodyDecoding.mediaType content.contentType)) ∧
    (Marshals parse type content.contentType [xmlCall] ↔
      type ∉ rawTypes ∧ BodyDecoding.mediaType content.contentType ∈ xmlMedia) ∧
    (((BodyReading.ofContent (Outline.ofProgram program) operation content).decoding = .xml ↔
        Marshals parse type content.contentType [xmlCall]) ↔
      (BodyDecoding.XmlEnding (BodyDecoding.mediaType content.contentType) →
        type ∉ rawTypes ∧ BodyDecoding.mediaType content.contentType ∈ xmlMedia)) := by
  have reads :
      (BodyReading.ofContent (Outline.ofProgram program) operation content).decoding = .xml ↔
        BodyDecoding.XmlEnding (BodyDecoding.mediaType content.contentType) := by
    rw [← BodyDecoding.of_media_type_xml, ← BodyDecoding.of_content_plain bytes text]
    unfold BodyReading.ofContent Outline.resolve
    rw [outline_program]
  have writes : Marshals parse type content.contentType [xmlCall] ↔
      type ∉ rawTypes ∧ BodyDecoding.mediaType content.contentType ∈ xmlMedia := by
    rw [marshals_xml_iff, parses]
  refine ⟨marshal_body_declared program, reads, writes, ?_⟩
  rw [reads, writes]
  exact ⟨fun agree => agree.mp, fun kept => ⟨kept, fun both => xml_media_ending both.2⟩⟩

/-- An operation whose body has a content type that is XML by its ending alone. -/
def complaints : Document where
  specification := {
    openapi := "3.0.0"
    paths := [("/complaints", { declared := [(.post, {
      requestBody := some (.object {
        required := true
        content := [("application/problem+xml", {
          schema := some (.object {
            type := some (.single "object")
            properties := [("title", .object { type := some (.single "string") })] })
          })] }) })] })] }
  raw := .null

theorem complaints_at_odds :
    ∃ program, (compile complaints { package := "complaints", path := "" }).1 = .ok program ∧
      ∃ operation ∈ program.operations, ∃ content ∈ operation.bodyContents,
        content.contentType = "application/problem+xml" ∧
        (BodyReading.ofContent (Outline.ofProgram program) operation content).decoding = .xml ∧
        ¬ Marshals BodyDecoding.mediaType "*Complaint" content.contentType [xmlCall] := by
  have holds : (compileShort complaints { package := "complaints", path := "" }).any
      fun program => program.operations.any fun operation =>
        operation.bodyContents.any fun content =>
          content.contentType == "application/problem+xml" &&
            (program.resolve content.shape).kind?.isNone := by decide +kernel
  obtain ⟨program, result, known⟩ := compiled_of_short holds
  simp only [List.any_eq_true, Bool.and_eq_true, beq_iff_eq, Option.isNone_iff_eq_none] at known
  obtain ⟨operation, listed, content, among, stated, object⟩ := known
  have media : BodyDecoding.mediaType content.contentType = "application/problem+xml" := by
    rw [stated]
    decide +kernel
  obtain ⟨_, reads, writes, _⟩ := @codecs_agree_iff program operation content
    (by simp [object]) (by simp [object]) BodyDecoding.mediaType rfl "*Complaint"
  refine ⟨program, result, operation, listed, content, among, stated, reads.mpr ?_, ?_⟩
  · rw [media]
    decide
  · rw [writes, media]
    decide

end ApiScaffold.Server.Reply
