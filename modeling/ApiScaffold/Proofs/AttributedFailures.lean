import ApiScaffold.Proofs.FailurePlaces
import ApiScaffold.Proofs.ProgramPlan
import ApiScaffold.Proofs.SchemaPlaces

/-!
Failures inside of operations. Whatever an operation is lowered to, the steps on the way stay at the
places that the operation is stated at, and if one of them fails, the operation is named. The checks
of texts are put off to the end; they stay at those places as well, but nobody names the operation
there.
-/

namespace ApiScaffold.Blueprint

open OpenApi (Schema OrRef Specification Table MediaType Document)

variable {specification : Specification} {hint location : String}

section Values

theorem scalar_field_stays {name : String} {schema : Option (OrRef Schema)} {required : Bool}
    {listsAllowed : Bool} : StaysIn (Under location)
      (scalarField specification name schema required hint location listsAllowed) := by
  have given : StaysIn (Under s!"{location}/schema")
      (givenField specification name schema required hint s!"{location}/schema") := by
    cases schema with
    | none => exact .pure
    | some item => exact .bind item_stays fun _ => field_stays
  have scalar (field : Field Shape) : StaysIn (Under s!"{location}/schema")
      (scalarOf name required s!"{location}/schema" listsAllowed field) := by
    apply Confined.bind .resolve
    intro resolved
    have reads : StaysIn (Under s!"{location}/schema") (readsFromText listsAllowed resolved) := by
      unfold readsFromText
      split
      · split
        · exact .bind .resolve fun _ => .pure
        · exact .pure
      · exact .pure
    apply Confined.bind reads
    intro read
    dsimp only
    split
    · exact .fail (.report rfl .refl)
    · exact .pure
  rw [scalar_field_of_given]
  exact StaysIn.outward (.bind given scalar) (.step rfl)

theorem parameter_stays {operation identifier : String} {place : Place}
    {stated : StatedParameter} : StaysIn (Under stated.location)
      (parameterAt specification operation identifier place stated) := by
  apply Confined.bind scalar_field_stays
  intro plain
  apply Confined.bind (.lift_except read_extensions_fails_at)
  intro extensions
  dsimp only
  split
  · exact .bind (.check_text_later .refl) fun _ => .pure
  · exact .pure

theorem collect_parameters_stays {places : String → Prop} {operation : String}
    {known : List (Place × String)} {statements : List StatedParameter}
    (here : ∀ stated ∈ statements, ∀ location, Under stated.location location → places location) :
    StaysIn places (collectParameters specification operation known statements) := by
  induction statements generalizing known with
  | nil => exact .pure
  | cons stated rest induction =>
      obtain ⟨first, others⟩ := List.forall_mem_cons.mp here
      have own := first stated.location .refl
      unfold collectParameters
      simp only [Drafting.fail_bind, Drafting.throw_bind]
      split
      · exact .bind .warn fun _ => induction others
      split
      · exact .fail (.report rfl own)
      split
      · exact .throw (.collision_at own)
      · apply Confined.bind (parameter_stays.imp first)
        intro lowered
        exact .bind (induction others) fun _ => .pure

theorem content_shape_stays {component contentType : String} {mediaType : MediaType} :
    StaysIn (Under location)
      (contentShape specification component contentType location mediaType) := by
  unfold contentShape
  split
  · exact .lift_except reference_shape_fails_at
  · apply Confined.bind (shape_stays _ _ _ _)
    intro shape
    apply Confined.bind (.lift_except read_extensions_fails_at)
    intro extensions
    exact .bind (.register fun _ _ _ => .collision) fun _ => .pure
  · exact .bind (.register fun _ _ _ => .collision) fun _ => .pure

theorem collect_contents_stays {componentName : String → String} {known : List BodyContent}
    {content : Table MediaType} : StaysIn (Under location)
      (collectContents specification componentName location known content) := by
  induction content generalizing known with
  | nil => exact .pure
  | cons entry rest induction =>
      obtain ⟨contentType, mediaType⟩ := entry
      have here : Under location s!"{location}/content/{contentType}" := .named rfl
      unfold collectContents
      simp only [Drafting.fail_bind]
      split
      · exact .throw (.collision_at .refl)
      apply Confined.bind (content_shape_stays.outward here)
      intro shape
      apply Confined.bind .resolve
      intro resolved
      split
      · exact .fail (.report rfl here)
      · exact induction

theorem request_body_stays {name : String} {operation : OpenApi.Operation} :
    StaysIn (Under location) (requestBodyOf specification name operation location) := by
  unfold requestBodyOf
  split
  · exact .pure
  dsimp only
  split
  · exact .fail (.report rfl (.step rfl))
  · exact .bind (collect_contents_stays.outward (.step rfl)) fun _ => .pure

theorem headers_stays {headers : Table (OrRef OpenApi.Header)} :
    StaysIn (Under location) (headersOf specification hint location headers) := by
  induction headers with
  | nil => exact .pure
  | cons entry rest induction =>
      have here : Under location s!"{location}/headers/{entry.1}" := .named rfl
      unfold headersOf
      dsimp only
      split
      · exact .fail (.report rfl here)
      · apply Confined.bind (scalar_field_stays.outward here)
        intro field
        exact .bind induction fun _ => .pure

theorem collect_responses_stays {name : String} {known : List Response}
    {responses : Table (OrRef OpenApi.Response)} : StaysIn (Under location)
      (collectResponses specification name location known responses) := by
  induction responses generalizing known with
  | nil => exact .pure
  | cons entry rest induction =>
      have here : Under location s!"{location}/responses/{entry.1}" := .named rfl
      unfold collectResponses
      simp only [Drafting.throw_bind]
      split
      · exact .fail (.report rfl here)
      split
      · exact .throw (.collision_at here)
      split
      · exact .fail (.report rfl here)
      · rename_i response _
        have lowered (status : Status) : StaysIn (Under s!"{location}/responses/{entry.1}")
            (responseAt specification name s!"{location}/responses/{entry.1}" status response) :=
          .bind collect_contents_stays fun _ => .bind headers_stays fun _ => .pure
        exact .bind ((lowered _).outward here) fun _ => induction

end Values

/-- What an operation is stated at: its own place, and the parameters of its path. -/
def StatedOperation.Covers (stated : StatedOperation) (location : String) : Prop :=
  Under stated.location location ∨ ∃ index < stated.item.parameters.length,
    Under s!"{pathLocation stated.path}/parameters/{index}" location

section Places

def pointerCode (c : Char) : List Char :=
  if c = '~' then ['~', '0'] else if c = '/' then ['~', '1'] else [c]

theorem path_location_chars (path : String) :
    (pathLocation path).toList = "#/paths/".toList ++ path.toList.flatMap pointerCode := by
  simp only [pathLocation, String.toList_append, Text.replaceChar, String.toList_ofList,
    List.flatMap_assoc]
  congr 2
  funext c
  unfold pointerCode
  split
  · rfl
  · exact List.flatMap_singleton _ c

theorem pointer_code_cases (c : Char) :
    c = '~' ∧ pointerCode c = ['~', '0'] ∨ c = '/' ∧ pointerCode c = ['~', '1'] ∨
      (c ≠ '~' ∧ c ≠ '/') ∧ pointerCode c = [c] := by
  unfold pointerCode
  split
  · exact .inl ⟨‹_›, rfl⟩
  split
  · exact .inr (.inl ⟨‹_›, rfl⟩)
  · exact .inr (.inr ⟨⟨‹_›, ‹_›⟩, rfl⟩)

/-- No path is written with a slash, so what stands before the first one is that path. -/
theorem pointer_codes_injective {path other rest tail : List Char}
    (same : path.flatMap pointerCode ++ '/' :: rest = other.flatMap pointerCode ++ '/' :: tail) :
    path = other ∧ rest = tail := by
  have filled (c : Char) (chars behind rest : List Char) :
      (c :: chars).flatMap pointerCode ++ behind ≠ '/' :: rest := by
    rw [List.flatMap_cons]
    rcases pointer_code_cases c with ⟨_, code⟩ | ⟨_, code⟩ | ⟨⟨_, slash⟩, code⟩
    all_goals simp_all
  induction path generalizing other with
  | nil =>
      cases other with
      | nil => exact ⟨rfl, (List.cons.inj same).2⟩
      | cons c other => exact absurd same.symm (filled c other _ rest)
  | cons c path induction =>
      cases other with
      | nil => exact absurd same (filled c path _ tail)
      | cons d other =>
          rw [List.flatMap_cons, List.flatMap_cons] at same
          have first : c = d ∧ path.flatMap pointerCode ++ '/' :: rest =
              other.flatMap pointerCode ++ '/' :: tail := by
            rcases pointer_code_cases c with ⟨_, code⟩ | ⟨_, code⟩ | ⟨⟨_, _⟩, code⟩
            all_goals
              rcases pointer_code_cases d with ⟨_, own⟩ | ⟨_, own⟩ | ⟨⟨_, _⟩, own⟩
              all_goals
                rw [code, own] at same
                grind
          rw [first.1]
          exact (induction first.2).imp_left (congrArg _)

theorem segment_ends {segment rest : List Char} (whole : '/' ∉ segment)
    (ended : rest = [] ∨ rest.head? = some '/') :
    (segment ++ rest).takeWhile (· != '/') = segment := by
  have free : ∀ c ∈ segment, (c != '/') = true :=
    fun c member => bne_iff_ne.mpr fun same => whole (same ▸ member)
  rw [List.takeWhile_append_of_pos free]
  cases rest with
  | nil => exact List.append_nil _
  | cons c rest =>
      rw [Option.some.inj (ended.resolve_left (List.cons_ne_nil c rest))]
      exact List.append_nil _

/-- What is below a segment of a path tells both. -/
theorem path_segment_unique {path other segment again location : String}
    (whole : '/' ∉ segment.toList) (undivided : '/' ∉ again.toList)
    (here : Under (pathLocation path ++ "/" ++ segment) location)
    (there : Under (pathLocation other ++ "/" ++ again) location) :
    path = other ∧ segment = again := by
  have chars (path segment : String) : (pathLocation path ++ "/" ++ segment).toList =
      "#/paths/".toList ++ (path.toList.flatMap pointerCode ++ '/' :: segment.toList) := by
    rw [String.toList_append, String.toList_append, path_location_chars, List.append_assoc,
      List.append_assoc]
    rfl
  obtain ⟨rest, same, ended⟩ := here
  obtain ⟨tail, reached, closed⟩ := there
  rw [reached, chars, chars] at same
  simp only [List.append_assoc, List.cons_append] at same
  obtain ⟨paths, segments⟩ := pointer_codes_injective (List.append_cancel_left same)
  have first := congrArg (List.takeWhile (· != '/')) segments
  rw [segment_ends undivided closed, segment_ends whole ended] at first
  exact ⟨(String.toList_injective paths).symm, (String.toList_injective first).symm⟩

/-- If a place lies below an operation itself, all operations that cover it have one name. -/
theorem StatedOperation.Covers.name_eq {stated other : StatedOperation} {location : String}
    (covers : stated.Covers location) (there : Under other.location location) :
    other.name = stated.name := by
  have undivided (method : OpenApi.Method) : '/' ∉ method.name.toList := by
    cases method <;> decide
  rcases covers with here | ⟨index, _, here⟩
  · obtain ⟨paths, methods⟩ :=
      path_segment_unique (undivided stated.method) (undivided other.method) here there
    rw [name, name, paths, methods]
  · -- no method is called like the list of parameters
    have below : Under (pathLocation stated.path ++ "/" ++ "parameters")
        s!"{pathLocation stated.path}/parameters/{index}" := by
      refine ⟨'/' :: (toString index).toList, ?_, .inr rfl⟩
      change (pathLocation stated.path ++ "/parameters/" ++ toString index).toList = _
      simp
    obtain ⟨_, methods⟩ :=
      path_segment_unique (by decide) (undivided other.method) (below.trans here) there
    exact absurd methods (by cases other.method <;> decide)

end Places

section Operations

variable {schemes : List SecurityScheme}

theorem located {items : List (OrRef OpenApi.Parameter)}
    {entry : OrRef OpenApi.Parameter × String} (member : entry ∈ locate location items) :
    ∃ index < items.length, entry.2 = s!"{location}/parameters/{index}" := by
  obtain ⟨⟨item, index⟩, listed, rfl⟩ := List.mem_map.mp member
  exact ⟨index, (List.mem_zipIdx' listed).1, rfl⟩

theorem restate_all {holds : StatedParameter → Prop} {next : StatedParameter}
    {merged : List StatedParameter} (added : holds next) (known : ∀ entry ∈ merged, holds entry) :
    ∀ entry ∈ restate next merged, holds entry := by
  induction merged with
  | nil => exact List.forall_mem_singleton.mpr added
  | cons first rest induction =>
      obtain ⟨here, others⟩ := List.forall_mem_cons.mp known
      unfold restate
      split
      · exact List.forall_mem_cons.mpr ⟨added, others⟩
      · exact List.forall_mem_cons.mpr ⟨here, induction others⟩

/-- Statements stand where the entries that they are read from stand. -/
theorem statements_located (places : String → Prop) {known statements : List StatedParameter}
    {items : List (OrRef OpenApi.Parameter × String)} (here : ∀ entry ∈ items, places entry.2)
    (before : ∀ stated ∈ known, places stated.location)
    (read : statedParameters specification known items = .ok statements) :
    ∀ stated ∈ statements, places stated.location := by
  induction items generalizing known with
  | nil =>
      cases read
      exact before
  | cons entry rest induction =>
      obtain ⟨first, others⟩ := List.forall_mem_cons.mp here
      unfold statedParameters at read
      split at read
      · cases read
      · exact induction others (restate_all first before) read

/-- Each parameter is stated at a place of the operation, and everything below it is. -/
theorem statements_covered (stated : StatedOperation) :
    ∀ entry ∈ locate (pathLocation stated.path) stated.item.parameters ++
        locate stated.location stated.operation.parameters,
      ∀ location, Under entry.2 location → stated.Covers location := by
  rw [List.forall_mem_append]
  constructor
  · intro entry member location under
    obtain ⟨index, short, same⟩ := located member
    exact .inr ⟨index, short, same ▸ under⟩
  · intro entry member location under
    obtain ⟨index, _, same⟩ := located member
    rw [same] at under
    exact .inl (Under.trans (.named rfl) under)

theorem parameters_stays (stated : StatedOperation) :
    StaysIn stated.Covers (parametersOf specification stated.name stated.item stated.operation
      (pathLocation stated.path) stated.location) := by
  have covered := statements_covered stated
  apply Confined.lift_bind
    (stated_parameters_fails_at fun entry member => covered entry member entry.2 .refl)
  intro statements read
  apply collect_parameters_stays
  exact statements_located
    (fun place => ∀ location, Under place location → stated.Covers location)
    covered (List.forall_mem_nil _) read

/-- Every step of lowering an operation stays at the places that it is stated at. -/
theorem operation_stays {stated : StatedOperation} :
    StaysIn stated.Covers (operationOf specification schemes stated) := by
  have own {location : String} (under : Under stated.location location) :
      stated.Covers location := .inl under
  apply Confined.bind (StaysIn.imp (.lift_except read_extensions_fails_at) fun _ => own)
  intro extensions
  apply Confined.bind (parameters_stays stated)
  intro parameters
  apply Confined.bind (request_body_stays.imp fun _ => own)
  intro body
  have responses : StaysIn (Under stated.location)
      (responsesOf specification stated.name stated.operation stated.location) :=
    .bind collect_responses_stays fun _ => .pure
  apply Confined.bind (responses.imp fun _ => own)
  intro responses
  exact .bind (StaysIn.imp (.lift_except security_fails_at) fun _ => own) fun _ => .pure

def OnPath (location : String) : Prop := "#/paths/".toList <+: location.toList

/-- If the diagnostic blames a place on a path, one of the operations covers the place and is
named. -/
def Attributed (stated : List StatedOperation) (diagnostic : Diagnostic) : Prop :=
  ∀ location, diagnostic.location = some location → OnPath location →
    ∃ operation ∈ stated, operation.Covers location ∧ diagnostic.operation = some operation.name

/-- If the place is on a path, one of the operations covers it. -/
def Covered (stated : List StatedOperation) (location : String) : Prop :=
  OnPath location → ∃ operation ∈ stated, operation.Covers location

theorem operation_attributes {stated : StatedOperation} {all : List StatedOperation}
    (member : stated ∈ all) : Confined (Attributed all) (Covered all)
      (Drafting.attributing stated.name (operationOf specification schemes stated)) := by
  have stays : Confined (Blames stated.Covers) (Covered all)
      (operationOf specification schemes stated) :=
    Confined.imp operation_stays (fun _ => id) fun location covers _ => ⟨stated, member, covers⟩
  apply stays.attributing
  intro diagnostic blames location same _
  unfold Diagnostic.attributeTo at same ⊢
  rw [blames.unattributed] at same ⊢
  exact ⟨stated, member, blames.inside location same, rfl⟩

theorem collect_operations_attributes {all stated : List StatedOperation}
    {known : List (String × String)} (included : stated ⊆ all) :
    Confined (Attributed all) (Covered all)
      (collectOperations specification schemes known stated) := by
  induction stated generalizing known with
  | nil => exact .pure
  | cons first rest induction =>
      obtain ⟨member, others⟩ := List.cons_subset.mp included
      unfold collectOperations
      dsimp only
      split
      · exact .throw fun _ => nofun
      · apply Confined.bind (operation_attributes member)
        intro operation
        exact .bind (induction others) fun _ => .pure

theorem collect_paths_attributes {all : List StatedOperation} {known : List (String × String)}
    {paths : Table OpenApi.PathItem} (included : statedOperations paths ⊆ all) :
    Confined (Attributed all) (Covered all)
      (collectPaths specification schemes known paths) := by
  induction paths generalizing known with
  | nil => exact .pure
  | cons entry rest induction =>
      obtain ⟨path, item⟩ := entry
      rw [statedOperations, List.flatMap_cons, List.append_subset] at included
      obtain ⟨here, others⟩ := included
      unfold collectPaths
      dsimp only
      split
      · apply Confined.bind .warn
        intro _
        apply Confined.bind (collect_operations_attributes here)
        intro collected
        exact .bind (induction others) fun _ => .pure
      · apply Confined.bind (collect_operations_attributes here)
        intro collected
        exact .bind (induction others) fun _ => .pure

end Operations

section Programs

theorem Under.not_on_path {place location : String} (under : Under place location)
    (elsewhere : "#/components/".toList <+: place.toList) : ¬ OnPath location := by
  obtain ⟨rest, same, _⟩ := under
  obtain ⟨tail, whole⟩ := elsewhere
  rintro ⟨others, again⟩
  rw [same, ← whole] at again
  exact absurd (congrArg (·[2]?) again) (by simp)

theorem declare_schema_stays {key : String} {item : OrRef Schema} :
    StaysIn (fun location => ¬ OnPath location) (declareSchema specification key item) := by
  have own : ∀ location, Under (OpenApi.schemasPlace ++ key) location → ¬ OnPath location := by
    intro location under
    apply under.not_on_path
    rw [String.toList_append]
    exact (List.prefix_append _ "schemas/".toList).trans (List.prefix_append _ _)
  unfold declareSchema
  simp only [Drafting.fail_bind]
  split
  · exact .fail (.report rfl (own _ .refl))
  split
  · apply Confined.bind (StaysIn.imp (.lift_except reference_shape_fails_at) own)
    intro shape
    exact .register fun _ _ _ => .collision
  · apply Confined.bind (StaysIn.imp (.lift_except read_extensions_fails_at) own)
    intro extensions
    apply Confined.bind (StaysIn.imp (shape_stays _ _ _ _) own)
    intro shape
    exact .register fun _ _ _ => .collision

theorem declare_schemas_stays :
    StaysIn (fun location => ¬ OnPath location) (declareSchemas specification) := by
  unfold declareSchemas
  exact .bind (.each fun entry _ => .bind declare_schema_stays fun _ => .pure) fun _ => .pure

theorem scheme_place_elsewhere {location : String} (place : SchemePlace location) :
    ¬ OnPath location := by
  obtain ⟨name, under⟩ := place
  apply under.not_on_path
  rw [String.toList_append]
  exact (List.prefix_append _ "securitySchemes/".toList).trans (List.prefix_append _ _)

/-- Before the texts are checked, whatever fails on a path is attributed. -/
theorem outline_attributes {paths : Table OpenApi.PathItem} :
    Confined (Attributed (statedOperations paths)) (Covered (statedOperations paths))
      (outlineOf specification paths) := by
  have elsewhere (diagnostic : Diagnostic)
      (blames : Blames (fun location => ¬ OnPath location) diagnostic) :
      Attributed (statedOperations paths) diagnostic :=
    fun location same onPath => absurd onPath (blames.inside location same)
  apply Confined.bind (Confined.imp declare_schemas_stays elsewhere
    fun location outside onPath => absurd onPath outside)
  intro _
  apply Confined.bind
    (.lift_except fun diagnostic failed =>
      elsewhere _
        ((security_schemes_fails_at diagnostic failed).imp fun _ => scheme_place_elsewhere))
  intro schemes
  exact .bind (collect_paths_attributes (List.Subset.refl _)) fun _ => .pure

/-- Texts that were put off fail where they stand, and no operation is named. -/
theorem check_texts_fails {draft after : Draft} {diagnostic : Diagnostic}
    (failed : Drafting.checkTexts.run.run draft = (.error diagnostic, after)) :
    ∃ check ∈ draft.textChecks, diagnostic = Problem.notText.report check.2 := by
  have ends : Confines
      (fun diagnostic => ∃ check ∈ draft.textChecks, diagnostic = Problem.notText.report check.2)
      (fun _ => True) draft (Drafting.checkTexts.run.run draft) := by
    have got : (get : Drafting Draft).run.run draft = (.ok draft, draft) := rfl
    unfold Drafting.checkTexts
    rw [Drafting.run_bind, got]
    refine Confined.confines (.bind (.each fun check member => ?_) fun _ => .pure) draft
    apply Confined.bind .resolve
    intro resolved
    split
    · exact .bind (.fail ⟨check, member, rfl⟩) fun _ => .pure
    · exact .pure
  rw [failed] at ends
  exact ends

/-- Lowering fails on the way, or when the texts that were put off are checked. -/
theorem lowering_fails {document : Document} {config : Config} {diagnostic : Diagnostic}
    (failed : (lower document config).1 = .error diagnostic) :
    ∃ outcome draft,
      (outlineOf document.specification document.specification.paths).run.run {} =
        (outcome, draft) ∧
      (outcome = .error diagnostic ∨ (∃ outline, outcome = .ok outline) ∧
        ∃ check ∈ draft.textChecks, diagnostic = Problem.notText.report check.2) := by
  unfold lower at failed
  rw [program_of_outline, Drafting.run_bind] at failed
  generalize ran : (outlineOf document.specification document.specification.paths).run.run {} =
    result at failed
  obtain ⟨outcome, draft⟩ := result
  refine ⟨outcome, draft, rfl, ?_⟩
  cases outcome with
  | error first =>
      cases failed
      exact .inl rfl
  | ok outline =>
      dsimp only at failed
      rw [Drafting.run_bind] at failed
      generalize checked : Drafting.checkTexts.run.run draft = result at failed
      obtain ⟨first | _, after⟩ := result
      · cases failed
        exact .inr ⟨⟨outline, rfl⟩, check_texts_fails checked⟩
      · cases failed

/-- If lowering fails on a path, one of the operations of the document covers the place, and if the
place lies below an operation itself, all of that name. The diagnostic names it, unless it is that of
a text whose check was put off. -/
theorem failures_attributed_unless_put_off (document : Document) (config : Config)
    (diagnostic : Diagnostic) (location : String)
    (failed : (lower document config).1 = .error diagnostic)
    (blamed : diagnostic.location = some location) (onPath : OnPath location) :
    ∃ stated ∈ statedOperations document.specification.paths, stated.Covers location ∧
      (∀ other : StatedOperation, Under other.location location → other.name = stated.name) ∧
      (diagnostic.operation = some stated.name ↔
        diagnostic ≠ Problem.notText.report location) := by
  obtain ⟨outcome, draft, ran, ends⟩ := lowering_fails failed
  have outline : Confined (Attributed (statedOperations document.specification.paths))
      (Covered (statedOperations document.specification.paths))
      (outlineOf document.specification document.specification.paths) := outline_attributes
  have confines := outline.confines {}
  rw [ran] at confines
  obtain rfl | ⟨⟨outline, rfl⟩, check, member, rfl⟩ := ends
  · obtain ⟨stated, used, covers, named⟩ := confines location blamed onPath
    refine ⟨stated, used, covers, fun _ => covers.name_eq, fun _ same => ?_, fun _ => named⟩
    rw [same] at named
    cases named
  · cases blamed
    obtain known | covered := confines check member
    · cases known
    · obtain ⟨stated, used, covers⟩ := covered onPath
      exact ⟨stated, used, covers, fun _ => covers.name_eq, nofun,
        fun differs => absurd rfl differs⟩

def trimmed : Document where
  specification := {
    openapi := "3.0.0"
    paths := [("/f", { declared := [(.get, {
      parameters := [.object {
        name := "limit"
        place := .query
        schema := some (.object {
          type := some (.single "integer")
          extensions := [("x-go-string-trimmable", .bool true)] }) }] })] })] }
  raw := .null

theorem trimmed_number_unattributed :
    ∃ diagnostic location, (lower trimmed { package := "f", path := "" }).1 = .error diagnostic ∧
      diagnostic.location = some location ∧ OnPath location ∧ diagnostic.operation = none ∧
      ∃ stated ∈ statedOperations trimmed.specification.paths, stated.Covers location ∧
        diagnostic = Problem.notText.report location := by
  have told : (match (lower trimmed { package := "f", path := "" }).1 with
      | .error diagnostic => (diagnostic.location, diagnostic.operation)
      | .ok _ => (none, none)) = (some "#/paths/~1f/get/parameters/0/schema", none) := by
    decide +kernel
  cases failed : (lower trimmed { package := "f", path := "" }).1 with
  | ok program =>
      rw [failed] at told
      cases told
  | error diagnostic =>
      rw [failed, Prod.mk.injEq] at told
      obtain ⟨blamed, unnamed⟩ := told
      have onPath : OnPath "#/paths/~1f/get/parameters/0/schema" := by
        unfold OnPath
        decide
      obtain ⟨stated, used, covers, _, named⟩ :=
        failures_attributed_unless_put_off trimmed _ diagnostic _ failed blamed onPath
      refine ⟨diagnostic, _, rfl, blamed, onPath, unnamed, stated, used, covers, ?_⟩
      by_contra differs
      rw [named.mpr differs] at unnamed
      cases unnamed

end Programs

end ApiScaffold.Blueprint
