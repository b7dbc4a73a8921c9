import ApiScaffold.Proofs.CaseForms
import ApiScaffold.Proofs.DecoderPresence
import ApiScaffold.Proofs.MountedRoutes
import ApiScaffold.Proofs.SwitchStatements

/-!
The labels of the content types that an operation reads. A slash belongs to no word, so a text can
be put into lower case before it is cut at its slashes or after that. Thus the tag of a content type
depends on its media type alone, and content types whose tags differ have labels that differ.
-/

namespace ApiScaffold.Text

theorem starts_with_cased_slash (chars rest : List Char) :
    startsWithCased (chars ++ '/' :: rest) = startsWithCased chars := by
  unfold startsWithCased
  induction chars with
  | nil =>
      have plain : isCaseIgnorable '/' = false ∧ isCased '/' = false := by decide +kernel
      simp [plain.1, plain.2]
  | cons c chars induction =>
      by_cases ignorable : isCaseIgnorable c
      · simpa [List.dropWhile_cons, ignorable] using induction
      · simp [ignorable]

/-- What stands before a slash does not change the case of a text behind it. -/
theorem lower_after_slash (chars near far : List Char) :
    lowerAfter (near ++ '/' :: far) chars = lowerAfter near chars := by
  induction chars generalizing near with
  | nil => rfl
  | cons c rest induction =>
      have behind := induction (c :: near)
      rw [List.cons_append] at behind
      rw [lowerAfter, lowerAfter, behind, starts_with_cased_slash]

/-- The parts of a text around a slash have their case by themselves. -/
theorem lower_around_slash (chars rest before : List Char) :
    lowerAfter before (chars ++ '/' :: rest) =
      lowerAfter before chars ++ '/' :: lowerChars rest := by
  induction chars generalizing before with
  | nil =>
      have alone : lowerChar '/' = ['/'] := by decide
      have plain : '/' ≠ 'Σ' := by decide
      rw [List.nil_append, lowerAfter, List.nil_append, lowerAfter]
      simp only [if_neg plain, alone]
      exact congrArg ('/' :: ·) (lower_after_slash rest [] before)
  | cons c chars induction =>
      rw [List.cons_append, lowerAfter, lowerAfter, induction, starts_with_cased_slash,
        List.append_assoc]

theorem slash_lowered {chars : List Char} (fresh : '/' ∉ chars) : '/' ∉ lowerChars chars := by
  intro inside
  obtain ⟨d, listed, form⟩ := mem_lower_after inside
  rcases mem_case_forms form with foreign | letter | rfl
  · exact absurd foreign (by decide)
  · exact absurd letter (by decide)
  · exact fresh listed

theorem split_where_whole {mark : Char} {chars : List Char} (fresh : mark ∉ chars) :
    splitWhere (· == mark) chars = [chars] :=
  splitWhere_unbroken fun _ member => beq_false_of_ne fun same => fresh (same ▸ member)

theorem split_where_first {mark : Char} {chars rest : List Char} (fresh : mark ∉ chars) :
    splitWhere (· == mark) (chars ++ mark :: rest) = chars :: splitWhere (· == mark) rest := by
  induction chars with
  | nil => rw [List.nil_append, splitWhere, if_pos (beq_self_eq_true mark)]
  | cons c chars induction =>
      rw [List.mem_cons, not_or] at fresh
      rw [List.cons_append, splitWhere, if_neg (by simpa using Ne.symm fresh.1), induction fresh.2]

/-- A text can be cut at its slashes before it is put into lower case, or after that. -/
theorem split_lower (chars : List Char) :
    splitWhere (· == '/') (lowerChars chars) = (splitWhere (· == '/') chars).map lowerChars := by
  -- Behind the first slash the text is lowered as one of its own, so it is cut in the same way.
  by_cases cut : '/' ∈ chars
  · obtain ⟨first, rest, whole, fresh⟩ := List.eq_append_cons_of_mem cut
    have shorter : rest.length < chars.length := by
      rw [whole, List.length_append, List.length_cons]
      omega
    have lowered : lowerChars chars = lowerChars first ++ '/' :: lowerChars rest := by
      rw [whole]
      exact lower_around_slash first rest []
    rw [lowered, split_where_first (slash_lowered fresh), split_lower rest, whole,
      split_where_first fresh, List.map_cons]
  · rw [split_where_whole cut, split_where_whole (slash_lowered cut), List.map_singleton]
termination_by chars.length

end ApiScaffold.Text

namespace ApiScaffold.Identifier

open Server (BodyDecoding)

def ofMediaType (media : String) : String :=
  String.ofList ((Text.splitWhere (· == '/') media.toList).flatMap fun segment =>
    normaliseChars (Text.capitalise segment))

theorem of_content_type_media (contentType : String) :
    ofContentType contentType = ofMediaType (BodyDecoding.mediaType contentType) := by
  have media : (BodyDecoding.mediaType contentType).toList =
      Text.lowerChars (Text.trimChars (Text.firstPiece (· == ';') contentType.toList)) := by
    simp [BodyDecoding.mediaType, Text.lower, Text.trim, Text.firstSegment]
  unfold ofMediaType
  rw [media, Text.split_lower, List.flatMap_map]
  rfl

end ApiScaffold.Identifier

namespace ApiScaffold.Server.Service

open Blueprint Go Source
open OpenApi (Document)

section Contents

variable {contents : List BodyContent}

/-- Contents with different tags have different media types. -/
theorem media_types_distinct (tagged : ∀ content ∈ contents, content.Tagged)
    (tags : (contents.map (·.tag)).Nodup) :
    (contents.map fun content => BodyDecoding.mediaType content.contentType).Nodup := by
  have same : contents.map (·.tag) =
      (contents.map fun content => BodyDecoding.mediaType content.contentType).map
        Identifier.ofMediaType := by
    rw [List.map_map]
    refine List.map_congr_left fun content listed => ?_
    rw [tagged content listed]
    exact Identifier.of_content_type_media _
  exact .of_map _ (same ▸ tags)

end Contents

def mediaCase (media : String) : Code := quote media

theorem media_case_injective {first second : String} (same : mediaCase first = mediaCase second) :
    first = second :=
  quote_injective (Fragment.text.inj (List.cons.inj same).1)

def unsupported : List Statement :=
  [.plain ["w.WriteHeader(", Reply.http "StatusUnsupportedMediaType", ")"], .give []]

theorem variants_several {operation : Operation} (several : 2 ≤ operation.bodyContents.length) :
    RequestVariant.ofOperation operation = operation.bodyContents.map fun content =>
      { typeName := s!"{operation.name}{content.tag}Request"
        method := operation.name ++ content.tag
        content := some content } := by
  unfold RequestVariant.ofOperation
  match contents : operation.bodyContents with
  | [] => simp [contents] at several
  | [_] => simp [contents] at several
  | _ :: _ :: _ => rfl

def mediaBranches (operation : Operation) : List (Code × List Statement) :=
  (RequestVariant.ofOperation operation).map variantBranch

theorem response_switched {operation : Operation} (several : 2 ≤ operation.bodyContents.length) :
    responseStatements operation = [
      .define ["mediaType", "_", "_"] [
        .qualified Package.mime "ParseMediaType", "(r.Header.Get(\"Content-Type\"))"],
      .zeroed "response" (Fragment.own (Builder.interface operation)),
      .cases "mediaType" (mediaBranches operation) (some unsupported)] := by
  unfold responseStatements mediaBranches
  rw [variants_several several]
  match operation.bodyContents, several with
  | _ :: _ :: _, _ => rfl

theorem media_labels {operation : Operation} (several : 2 ≤ operation.bodyContents.length) :
    (mediaBranches operation).map (·.1) = operation.bodyContents.map fun content =>
      mediaCase (BodyDecoding.mediaType content.contentType) := by
  unfold mediaBranches
  rw [variants_several several, List.map_map, List.map_map]
  rfl

/-- An operation that reads several content types switches over their media types, and no two labels
of the switch are equal, whatever the case of the content types, their parameters and the white
space around them. So every media type that is declared leads to the branch of its own content. -/
theorem media_labels_distinct {document : Document} {config : Config} {program : Program}
    (compiled : (compile document config).1 = .ok program) {operation : Operation}
    (listed : operation ∈ program.operations) (several : 2 ≤ operation.bodyContents.length) :
    handlerMethod operation.tag operation ∈ (routerPart program).declarations ∧
    Statement.cases "mediaType" (mediaBranches operation) (some unsupported) ∈
      responseStatements operation ∧
    (mediaBranches operation).map (·.1) = (operation.bodyContents.map fun content =>
      mediaCase (BodyDecoding.mediaType content.contentType)) ∧
    (operation.bodyContents.map fun content =>
      BodyDecoding.mediaType content.contentType).Nodup ∧
    ((mediaBranches operation).map (·.1)).Nodup ∧
    ∀ variant ∈ RequestVariant.ofOperation operation,
      Statement.chosen (· == mediaCase (mediaLabel variant)) (mediaBranches operation)
        (some unsupported) = some (variantBranch variant).2 := by
  obtain ⟨whole, given⟩ := lowered_given (compiled_iff.mp compiled)
  obtain ⟨_, member, inside⟩ := Program.operation_tagged listed
  have media := media_types_distinct ((compiled_drafted compiled).operations _ listed).requests
    (given.operations.each _ listed).request.tags
  have labels : ((mediaBranches operation).map (·.1)).Nodup := by
    have mapped := media.map fun _ _ => media_case_injective
    rw [List.map_map] at mapped
    rw [media_labels several]
    exact mapped
  refine ⟨handler_emitted member inside, ?_, media_labels several, media, labels,
    fun variant among => ?_⟩
  · rw [response_switched several]
    simp
  · exact Statement.chosen_own labels (List.mem_map_of_mem among) _

/-- An operation that reads two content types, neither of them written as its label. -/
def delivery : OpenApi.Operation where
  requestBody := some (.object {
    content := [("Application/JSON; charset=utf-8", {}), (" Text/XML", {})] })

def depot : Document where
  specification := {
    openapi := "3.0.0"
    paths := [("/crates", { declared := [(.post, delivery)] })] }
  raw := .null

theorem depot_labels_distinct :
    ∃ program, (compile depot { package := "depot", path := "" }).1 = .ok program ∧
      ∃ operation ∈ program.operations,
        operation.bodyContents.map (·.contentType) =
          [" Text/XML", "Application/JSON; charset=utf-8"] ∧
        (mediaBranches operation).map (·.1) = [mediaCase "text/xml", mediaCase "application/json"] ∧
        ((mediaBranches operation).map (·.1)).Nodup := by
  have holds : (compile depot { package := "depot", path := "" }).1.toOption.any fun program =>
      program.operations.any fun operation =>
        operation.bodyContents.map (·.contentType) ==
          [" Text/XML", "Application/JSON; charset=utf-8"] := by
    have stated : ({ declared := [(.post, delivery)] } : OpenApi.PathItem).operations =
      [(.post, delivery)] := rfl
    -- The contents are sorted too, so the operation is unfolded down to them.
    simp only [compile, lower, programOf, declareSchemas, operationsOf, depot, collectPaths, stated,
      List.map, collectOperations, operationOf, requestBodyOf, contentsOf, sortByKey,
      securitySchemesOf, merge_sort_short]
    decide +kernel
  obtain ⟨program, result, known⟩ := exists_ok_of_any holds
  simp only [List.any_eq_true, beq_iff_eq] at known
  obtain ⟨operation, listed, contents⟩ := known
  have several : 2 ≤ operation.bodyContents.length := by
    have lengths := congrArg List.length contents
    rw [List.length_map] at lengths
    exact lengths.ge
  obtain ⟨_, _, labels, _, distinct, _⟩ := media_labels_distinct result listed several
  have media : (operation.bodyContents.map (·.contentType)).map
      (mediaCase ∘ BodyDecoding.mediaType) =
        [mediaCase "text/xml", mediaCase "application/json"] := by
    rw [contents]
    decide +kernel
  rw [List.map_map] at media
  exact ⟨program, result, operation, listed, contents, labels.trans media, distinct⟩

end ApiScaffold.Server.Service
