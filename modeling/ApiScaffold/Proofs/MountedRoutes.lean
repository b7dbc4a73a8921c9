import ApiScaffold.Proofs.DeclaredOnce
import ApiScaffold.Proofs.DenotedText
import ApiScaffold.Proofs.MountMethods
import ApiScaffold.Proofs.NestedStatements
import ApiScaffold.Proofs.OperationDrawing
import ApiScaffold.Proofs.ProgramParts
import ApiScaffold.Proofs.Registry
import ApiScaffold.Proofs.ShortDocuments
import ApiScaffold.Proofs.StableNames

/-!
Routes of all routers, as the lines that register them. Every operation is handled under one tag, and
a slash at the end of a path does not count in the name of an operation. So whatever is registered
for an operation, its path or the one that is sent on to it, bears the operation's name, by which
operations differ.
-/

namespace ApiScaffold.Go.Part

theorem taken_join (parts : List Part) : (join parts).taken = parts.flatMap taken := by
  induction parts with
  | nil => rfl
  | cons part rest induction =>
      have both : (part ++ join rest).taken = part.taken ++ (join rest).taken := taken_append _ _
      rw [List.flatMap_cons, ← induction]
      exact both

end ApiScaffold.Go.Part

namespace ApiScaffold.Blueprint

theorem insert_flatten_perm {α : Type} {registry : Registry (List α)} (ordered : registry.Ordered)
    (key : String) (item : α) :
    (registry.insert key ((registry.find? key).getD [] ++ [item])).values.flatten.Perm
      (item :: registry.values.flatten) := by
  induction registry with
  | nil => exact .refl _
  | cons entry rest induction =>
      obtain ⟨known, items⟩ := entry
      obtain ⟨above, others⟩ := List.pairwise_cons.mp ordered
      rw [Registry.insert]
      split
      case isTrue same =>
        subst same
        have found : Registry.find? ((key, items) :: rest) key = some items := by
          simp [Registry.find?]
        rw [found, Option.getD_some]
        change ((items ++ [item]) ++ (Registry.values rest).flatten).Perm
          (item :: (items ++ (Registry.values rest).flatten))
        rw [List.append_assoc]
        exact List.perm_middle
      case isFalse differs =>
        split
        case isTrue less =>
          have unknown : Registry.find? ((known, items) :: rest) key = none := by
            rw [Registry.find?_eq_none_iff]
            intro listed
            rcases List.mem_cons.mp listed with same | inside
            · exact differs same
            · exact String.lt_irrefl _ (String.lt_trans less (above key inside))
          rw [unknown]
          exact .refl _
        case isFalse greater =>
          have behind : Registry.find? ((known, items) :: rest) key = Registry.find? rest key := by
            have plain : (key == known) = false := beq_eq_false_iff_ne.mpr differs
            simp [Registry.find?, List.lookup_cons, plain]
          rw [behind]
          exact ((induction others).append_left items).trans List.perm_middle

/-- Every operation stands under one tag, once. -/
theorem Program.tags_perm (program : Program) :
    program.tags.values.flatten.Perm program.operations := by
  have kept : ∀ (operations : List Operation) (tags : Registry (List Operation)), tags.Ordered →
      (Registry.values (operations.foldl (fun tags operation => tags.insert operation.tag
        ((tags.find? operation.tag).getD [] ++ [operation])) tags)).flatten.Perm
        (operations ++ tags.values.flatten) := by
    intro operations
    induction operations with
    | nil => exact fun _ _ => .refl _
    | cons operation rest induction =>
        intro tags ordered
        rw [List.foldl_cons]
        refine (induction _ (ordered.insert _ _)).trans ?_
        exact ((insert_flatten_perm ordered operation.tag operation).append_left rest).trans
          List.perm_middle
  have whole := kept program.operations [] .nil
  rwa [show (Registry.values ([] : Registry (List Operation))).flatten = [] from rfl,
    List.append_nil] at whole

theorem Program.operation_tagged {program : Program} {operation : Operation}
    (listed : operation ∈ program.operations) :
    ∃ operations, (operation.tag, operations) ∈ program.tags ∧ operation ∈ operations := by
  obtain ⟨operations, among, inside⟩ :=
    List.mem_flatten.mp ((Program.tags_perm program).mem_iff.mpr listed)
  obtain ⟨⟨tag, own⟩, member, rfl⟩ := List.mem_map.mp among
  have same := (Program.tagged _ member operation inside).2
  exact ⟨own, same ▸ member, inside⟩

end ApiScaffold.Blueprint

namespace ApiScaffold.Server.Service

open Blueprint Go Source
open OpenApi (Document)

section Lines

/-- What a router of requests calls the registration for a method. -/
def registrar : OpenApi.Method → String
  | .get => "Get"
  | .put => "Put"
  | .post => "Post"
  | .delete => "Delete"
  | .options => "Options"
  | .head => "Head"
  | .patch => "Patch"
  | .trace => "Trace"

/-- The line that registers an action for requests of a method to a pattern of paths. -/
def registering (method : OpenApi.Method) (pattern : String) (action : Code) : Statement :=
  .plain ([Fragment.text s!"router.router.{registrar method}({quote pattern}, "] ++ action ++
    [Fragment.text ")"])

def Registers (line : Statement) (method : OpenApi.Method) (pattern : String) : Prop :=
  ∃ action, line = registering method pattern action

theorem registration_eq (method : OpenApi.Method) : registration method = registrar method := by
  cases method <;> decide

theorem registrar_injective : ∀ first second : OpenApi.Method,
    registrar first = registrar second → first = second := by
  intro first second
  cases first <;> cases second <;> decide

theorem registrar_unbracketed (method : OpenApi.Method) :
    ∀ c ∈ (registrar method).toList, (c != '(') = true := by
  cases method <;> decide

/-- A line registers one action, for one method and one pattern. -/
theorem Registers.unique {line : Statement} {method other : OpenApi.Method}
    {pattern second : String} (here : Registers line method pattern)
    (there : Registers line other second) : method = other ∧ pattern = second := by
  obtain ⟨action, rfl⟩ := here
  obtain ⟨action', same⟩ := there
  have codes := Statement.plain.inj same
  have texts := congrArg String.toList (Fragment.text.inj (List.cons.inj codes).1)
  -- The name of the registration ends at the first bracket, and a literal says what it denotes.
  have cut : (registrar method).toList ++ '(' :: ((quote pattern).toList ++ [',', ' ']) =
      (registrar other).toList ++ '(' :: ((quote second).toList ++ [',', ' ']) := by
    simpa [toString, String.toList_append] using texts
  have names := congrArg (List.takeWhile (· != '(')) cut
  rw [List.takeWhile_append_of_pos (registrar_unbracketed method),
    List.takeWhile_append_of_pos (registrar_unbracketed other)] at names
  have methods : registrar method = registrar other := by
    apply String.toList_injective
    simpa using names
  rw [methods] at cut
  have literals := List.append_cancel_right (List.cons.inj (List.append_cancel_left cut)).2
  exact ⟨registrar_injective _ _ methods, quote_injective (String.toList_injective literals)⟩

def handling (operation : Operation) : Statement :=
  registering operation.method operation.path [.text s!"router.{handler operation}"]

def redirecting (operation : Operation) : Statement :=
  registering operation.method (operation.path ++ "/")
    [.text s!"redirectHandler(router.hooks, {quote operation.name})"]

def lines (operation : Operation) : List Statement :=
  if Text.endsWith "/" operation.path then [handling operation]
  else [handling operation, redirecting operation]

/-- No method and pattern are registered by both lines. -/
def Apart (first second : Statement) : Prop :=
  ∀ method pattern, Registers first method pattern → ¬ Registers second method pattern

theorem Apart.symm {first second : Statement} (apart : Apart first second) : Apart second first :=
  fun method pattern there here => apart method pattern here there

variable {operation other : Operation}

theorem handling_registers (operation : Operation) :
    Registers (handling operation) operation.method operation.path := ⟨_, rfl⟩

theorem redirecting_registers (operation : Operation) :
    Registers (redirecting operation) operation.method (operation.path ++ "/") := ⟨_, rfl⟩

theorem route_statements (operation : Operation) :
    (Route.ofOperation operation).map Route.statement = lines operation := by
  unfold Route.ofOperation lines handling redirecting registering
  rw [← registration_eq]
  dsimp only
  split <;> rfl

theorem mem_lines_iff {line : Statement} : line ∈ lines operation ↔ line = handling operation ∨
    Text.endsWith "/" operation.path = false ∧ line = redirecting operation := by
  unfold lines
  split
  case isTrue slashed => simp [slashed]
  case isFalse plain => simp [plain]

/-- Whatever is registered for an operation bears its name. -/
theorem line_named {line : Statement} (listed : line ∈ lines operation) {method : OpenApi.Method}
    {pattern : String} (registers : Registers line method pattern) :
    method = operation.method ∧ Identifier.ofOperation pattern method.name =
      Identifier.ofOperation operation.path operation.method.name := by
  rcases mem_lines_iff.mp listed with rfl | ⟨_, rfl⟩
  · obtain ⟨rfl, rfl⟩ := registers.unique (handling_registers operation)
    exact ⟨rfl, rfl⟩
  · obtain ⟨rfl, rfl⟩ := registers.unique (redirecting_registers operation)
    exact ⟨rfl, Identifier.of_operation_slash _ _⟩

theorem lines_apart (operation : Operation) : (lines operation).Pairwise Apart := by
  have longer : operation.path ≠ operation.path ++ "/" := by
    intro same
    have lengths := congrArg String.length same
    rw [String.length_append] at lengths
    have : "/".length = 1 := by decide
    omega
  have apart : Apart (handling operation) (redirecting operation) := by
    intro method pattern here there
    obtain ⟨_, rfl⟩ := here.unique (handling_registers operation)
    exact longer (there.unique (redirecting_registers operation)).2
  unfold lines
  split
  · exact List.pairwise_singleton _ _
  · exact List.pairwise_pair.mpr apart

/-- Operations of different names have nothing registered in common. -/
theorem apart_of_names (drafted : operation.Drafted) (drafted' : other.Drafted)
    (differ : operation.name ≠ other.name) {first second : Statement}
    (here : first ∈ lines operation) (there : second ∈ lines other) : Apart first second := by
  intro method pattern registers registers'
  obtain ⟨rfl, named⟩ := line_named here registers
  obtain ⟨_, named'⟩ := line_named there registers'
  apply differ
  rw [drafted.named, drafted'.named, ← named, ← named']

end Lines

section Programs

variable {program : Program}

/-- The lines of all methods that mount routes. -/
def mounted (program : Program) : List Statement := (routerPart program).mounts.flatMap (·.2)

theorem mounted_perm (drafted : program.Drafted) :
    (mounted program).Perm (program.operations.flatMap lines) := by
  have grouped : mounted program = program.tags.values.flatten.flatMap lines := by
    unfold mounted
    rw [router_mounts drafted, List.flatMap_map, List.flatten_eq_flatMap, List.flatMap_assoc,
      Registry.values, List.flatMap_map]
    simp only [List.map_flatMap, route_statements, id_eq]
  rw [grouped]
  exact (Program.tags_perm program).flatMap_right lines

theorem mem_mounted_iff (drafted : program.Drafted) {line : Statement} :
    line ∈ mounted program ↔ ∃ operation ∈ program.operations, line ∈ lines operation := by
  rw [(mounted_perm drafted).mem_iff, List.mem_flatMap]

theorem mounted_apart (drafted : program.Drafted)
    (names : (program.operations.map (·.name)).Nodup) : (mounted program).Pairwise Apart := by
  rw [(mounted_perm drafted).pairwise_iff Apart.symm, List.pairwise_flatMap]
  refine ⟨fun operation _ => lines_apart operation, ?_⟩
  have differ := List.pairwise_map.mp names
  refine differ.imp_of_mem fun here there differ first listed second listed' => ?_
  exact apart_of_names (drafted.operations _ here) (drafted.operations _ there) differ listed
    listed'

/-- Among lines that are apart, one is the only line for what it registers. -/
theorem registered_once {line : Statement} {all : List Statement} (apart : all.Pairwise Apart)
    (listed : line ∈ all) {method : OpenApi.Method} {pattern : String}
    (registers : Registers line method pattern) : ∃ before after, all = before ++ line :: after ∧
      ∀ other ∈ before ++ after, ¬ Registers other method pattern := by
  obtain ⟨before, after, rfl⟩ := List.append_of_mem listed
  refine ⟨before, after, rfl, fun other among => ?_⟩
  obtain ⟨_, later, earlier⟩ := List.pairwise_append.mp apart
  rcases List.mem_append.mp among with inside | inside
  · exact fun taken => earlier other inside line List.mem_cons_self method pattern taken registers
  · exact (List.pairwise_cons.mp later).1 other inside method pattern registers

theorem redirect_shadows_nothing {operation other : Operation}
    (apart : (mounted program).Pairwise Apart) (here : redirecting operation ∈ mounted program)
    (there : handling other ∈ mounted program) (methods : other.method = operation.method) :
    other.path ≠ operation.path ++ "/" := by
  intro paths
  have both := handling_registers other
  rw [methods, paths] at both
  obtain ⟨before, after, whole, alone⟩ :=
    registered_once apart here (redirecting_registers operation)
  rw [whole, List.mem_append, List.mem_cons] at there
  have same : handling other = redirecting operation := by
    rcases there with inside | same | inside
    · exact absurd both (alone _ (List.mem_append_left _ inside))
    · exact same
    · exact absurd both (alone _ (List.mem_append_right _ inside))
  -- One calls a function and the other names a method of the router.
  unfold handling redirecting registering at same
  rw [methods, paths] at same
  have action := (List.cons.inj (List.cons.inj (Statement.plain.inj same)).2).1
  have second := congrArg (·.toList[1]?) (Fragment.text.inj action)
  simp [toString, String.toList_append] at second

theorem service_declared {entry : String × List Operation} (member : entry ∈ program.tags) :
    (Service.part entry.1 entry.2).declarations ⊆ (routerPart program).declarations := by
  have among : Service.part entry.1 entry.2 ∈
      program.tags.map fun entry => Service.part entry.1 entry.2 := List.mem_map_of_mem member
  refine List.Subset.trans (Part.declarations_subset_join among) ?_
  refine List.subset_append_of_subset_left _ ?_
  exact List.subset_append_right _ _

theorem handler_emitted {entry : String × List Operation} (member : entry ∈ program.tags)
    {operation : Operation} (listed : operation ∈ entry.2) :
    handlerMethod entry.1 operation ∈ (routerPart program).declarations := by
  refine service_declared member (List.mem_append_right _ ?_)
  exact Part.declarations_subset_join (List.mem_map_of_mem listed) List.mem_cons_self

theorem service_taken (tag : String) (operations : List Operation) :
    (operations.map fun operation => s!"{router tag}.{handler operation}").Sublist
      (Service.part tag operations).taken := by
  have handlers : (Part.join (operations.map (handlerPart tag))).taken =
      operations.map fun operation => s!"{router tag}.{handler operation}" := by
    rw [Part.taken_join, List.flatMap_map]
    exact List.flatMap_pure_eq_map _ _
  unfold Service.part
  dsimp only
  rw [Part.taken_append, handlers]
  exact List.sublist_append_right _ _

theorem handlers_taken (program : Program) :
    (program.tags.values.flatten.map fun operation =>
      s!"{router operation.tag}.{handler operation}").Sublist (routerPart program).taken := by
  have grouped : (program.tags.values.flatten.map fun operation =>
      s!"{router operation.tag}.{handler operation}") = program.tags.flatMap fun entry =>
        entry.2.map fun operation => s!"{router entry.1}.{handler operation}" := by
    rw [List.map_flatten, Registry.values, List.map_map, ← List.flatMap_def]
    apply List.flatMap_congr
    intro entry member
    apply List.map_congr_left
    intro operation listed
    rw [(Program.tagged entry member operation listed).2]
  have services : (program.tags.flatMap fun entry =>
      entry.2.map fun operation => s!"{router entry.1}.{handler operation}").Sublist
        (Part.join (program.tags.map fun entry => Service.part entry.1 entry.2)).taken := by
    rw [Part.taken_join, List.flatMap_map]
    exact List.Sublist.flatMap_right _ fun entry _ => service_taken entry.1 entry.2
  rw [grouped]
  refine services.trans ?_
  unfold routerPart
  dsimp only
  rw [Part.taken_append, Part.taken_append]
  exact (List.sublist_append_right _ _).trans (List.sublist_append_left _ _)

theorem handlers_distinct {artifacts : Artifact × Artifact}
    (written : Artifact.all program = .ok artifacts) : (program.operations.map fun operation =>
      s!"{router operation.tag}.{handler operation}").Nodup := by
  obtain ⟨_, both⟩ := Artifact.all_succeeds_iff.mp ⟨artifacts, written⟩
  have distinct := (List.nodup_append.mp both).2.1.sublist (handlers_taken program)
  exact ((Program.tags_perm program).map _).nodup_iff.mp distinct

end Programs

/-- Somewhere in a body the service is asked for the response to a request, which a parser reads. -/
def AsksService (variant : RequestVariant) (body : List Statement) : Prop :=
  .define ["response"] [.text s!"router.service.{variant.method}(r.Context(), request)"] ∈
      Statement.wholes body ∧
    .define ["request"] [.own variant.parser, .text "(r, router.hooks, router.processors)"] ∈
      Statement.wholes body ∨
  .assign [.text "response"] [.text s!"router.service.{variant.method}(r.Context(), ",
    .own variant.parser, .text "(r, router.hooks, router.processors)", .text ")"] ∈
      Statement.wholes body

/-- A method of the router of a tag handles an operation: the service is asked for the response to
each of its requests, and what it answers is written under the name of the operation. -/
def Handles (program : Program) (operation : Operation) (tag method : String) : Prop :=
  ∃ declaration ∈ (routerPart program).declarations, ∃ signature body,
    declaration.form =
      .method { name := "router", type := s!"{tag}Router", pointer := true } method signature body ∧
    (∀ variant ∈ RequestVariant.ofOperation operation, AsksService variant body) ∧
    .plain [.text s!"writeResponse(w, r, router.hooks, {quote operation.name}, response)"] ∈ body

/-- Over the routers of all tags, every operation is registered once. -/
structure RegisteredOnce (program : Program) : Prop where
  /-- There is one method that mounts routes for every tag. -/
  routers : (routerPart program).mounts.map (·.1) =
    program.tags.map fun entry => s!"{entry.1}Router"
  /-- All that these methods do is to register handlers, and redirections to paths that have no slash
  at the end from those that have one. -/
  lines : ∀ line ∈ mounted program, ∃ operation ∈ program.operations,
    line = registering operation.method operation.path [.text s!"router.{handler operation}"] ∨
    Text.endsWith "/" operation.path = false ∧
      line = registering operation.method (operation.path ++ "/")
        [.text s!"redirectHandler(router.hooks, {quote operation.name})"]
  /-- Nothing is registered twice. -/
  apart : (mounted program).Pairwise fun first second => ∀ method pattern,
    Registers first method pattern → ¬ Registers second method pattern
  handled : ∀ operation ∈ program.operations, ∃ before after,
    mounted program = before ++
      registering operation.method operation.path [.text s!"router.{handler operation}"] :: after ∧
    ∀ line ∈ before ++ after, ¬ Registers line operation.method operation.path
  /-- The method that an operation is registered with belongs to the same router, and handles it. -/
  own : ∀ operation ∈ program.operations, ∃ lines,
    (s!"{operation.tag}Router", lines) ∈ (routerPart program).mounts ∧
    registering operation.method operation.path [.text s!"router.{handler operation}"] ∈ lines ∧
    Handles program operation operation.tag (handler operation)
  handlers : ∀ artifacts, Artifact.all program = .ok artifacts →
    ∀ first ∈ program.operations, ∀ second ∈ program.operations, first.tag = second.tag →
      handler first = handler second → first = second
  redirected : ∀ operation ∈ program.operations, Text.endsWith "/" operation.path = false →
    registering operation.method (operation.path ++ "/")
      [.text s!"redirectHandler(router.hooks, {quote operation.name})"] ∈ mounted program ∧
    ∀ other ∈ program.operations, other.method = operation.method →
      other.path ≠ operation.path ++ "/"

theorem AsksService.append {variant : RequestVariant} {body : List Statement}
    (asks : AsksService variant body) (more : List Statement) :
    AsksService variant (body ++ more) := by
  unfold AsksService at asks ⊢
  rw [Statement.wholes_append]
  exact asks.imp (And.imp (List.mem_append_left _) (List.mem_append_left _))
    (List.mem_append_left _)

theorem service_asked {operation : Operation} {variant : RequestVariant}
    (among : variant ∈ RequestVariant.ofOperation operation) :
    AsksService variant (responseStatements operation) := by
  unfold responseStatements
  split
  · rename_i only single
    rw [single] at among
    rw [List.mem_singleton.mp among]
    exact .inl ⟨List.mem_cons_of_mem _ List.mem_cons_self, List.mem_cons_self⟩
  · right
    simp only [Statement.wholes_cons, Statement.whole, Statement.branch_wholes]
    refine List.mem_append_right _ (List.mem_append_right _ (List.mem_append_left _ ?_))
    refine List.mem_cons_of_mem _ (List.mem_append_left _ ?_)
    exact List.mem_flatMap.mpr ⟨_, List.mem_map_of_mem among, List.mem_cons_self⟩

theorem handler_handles {program : Program} {operation : Operation} {operations : List Operation}
    (member : (operation.tag, operations) ∈ program.tags) (listed : operation ∈ operations) :
    Handles program operation operation.tag (handler operation) := by
  refine ⟨_, handler_emitted member listed, _, _, rfl, fun variant among => ?_, ?_⟩
  · exact (service_asked among).append _
  · exact List.mem_append_right _ (List.mem_cons_of_mem _ List.mem_cons_self)

/-- For every program, all that the routers mount are the lines `router.router.METHOD(pattern, action)`
of its operations: one for the method and the path of each, which leads to its own handler, and one
that sends requests on from the path with a slash behind it. No two are for one method and pattern, so
no redirection hides a path that is declared. This does not depend on validators, which are drawn up
for the same file (`Outline.nestedValidates`). -/
theorem routes_registered_once {document : Document} {config : Config} {program : Program}
    (compiled : (compile document config).1 = .ok program) : RegisteredOnce program := by
  have drafted := compiled_drafted compiled
  obtain ⟨whole, given⟩ := lowered_given (compiled_iff.mp compiled)
  have apart := mounted_apart drafted given.operations.names
  have present {operation : Operation} (listed : operation ∈ program.operations) :
      handling operation ∈ mounted program :=
    (mem_mounted_iff drafted).mpr ⟨operation, listed, mem_lines_iff.mpr (.inl rfl)⟩
  refine
    { routers := ?routers, lines := ?lines, apart := apart, handled := ?handled, own := ?own,
      handlers := ?handlers, redirected := ?redirected }
  case routers =>
    rw [router_mounts drafted, List.map_map]
    rfl
  case lines =>
    intro line listed
    obtain ⟨operation, among, own⟩ := (mem_mounted_iff drafted).mp listed
    exact ⟨operation, among, mem_lines_iff.mp own⟩
  case handled =>
    intro operation listed
    exact registered_once apart (present listed) (handling_registers operation)
  case own =>
    intro operation listed
    obtain ⟨operations, member, inside⟩ := Program.operation_tagged listed
    refine ⟨operations.flatMap lines, ?_, ?_, handler_handles member inside⟩
    · rw [router_mounts drafted]
      refine List.mem_map.mpr ⟨_, member, ?_⟩
      simp only [List.map_flatMap, route_statements]
      rfl
    · exact List.mem_flatMap.mpr ⟨operation, inside, mem_lines_iff.mpr (.inl rfl)⟩
  case handlers =>
    intro artifacts written first here second there tags same
    exact List.inj_on_of_nodup_map (handlers_distinct written) here there (by rw [tags, same])
  case redirected =>
    intro operation listed plain
    have redirects : redirecting operation ∈ mounted program :=
      (mem_mounted_iff drafted).mpr ⟨operation, listed, mem_lines_iff.mpr (.inr ⟨plain, rfl⟩)⟩
    exact ⟨redirects, fun other among => redirect_shadows_nothing apart redirects (present among)⟩

def harbour : Document where
  specification := {
    openapi := "3.0.0"
    paths := [
      ("/piers", { declared := [(.get, { tags := ["pier"] })] }),
      ("/piers/{pier}/", { declared := [(.delete, {})] })] }
  raw := .null

theorem harbour_routes_registered :
    ∃ program, (compile harbour { package := "harbour", path := "" }).1 = .ok program ∧
      (mounted program).length = 3 ∧ RegisteredOnce program ∧
      ∃ operation ∈ program.operations, operation.name = "GetPiers" ∧
        registering .get "/piers/" [.text "redirectHandler(router.hooks, \"GetPiers\")"] ∈
          mounted program ∧
        ∀ other ∈ program.operations, other.method = .get → other.path ≠ "/piers/" := by
  have holds : (compileShort harbour { package := "harbour", path := "" }).any fun program =>
      (mounted program).length == 3 &&
        program.operations.any fun operation =>
          operation.name == "GetPiers" && operation.method == .get &&
            operation.path == "/piers" := by
    decide +kernel
  obtain ⟨program, result, known⟩ := compiled_of_short holds
  simp only [Bool.and_eq_true, List.any_eq_true, beq_iff_eq] at known
  obtain ⟨count, operation, listed, ⟨named, method⟩, path⟩ := known
  have once := routes_registered_once result
  obtain ⟨redirects, shadows⟩ := once.redirected operation listed (by rw [path]; decide)
  rw [named, method, path] at redirects
  rw [method, path] at shadows
  exact ⟨program, result, count, once, operation, listed, named, redirects, shadows⟩

end ApiScaffold.Server.Service
