import ApiScaffold.OpenApi.Document
import ApiScaffold.Proofs.ReorderedSchema

/-!
Documents whose objects are written in another order: each definition of a document is read alike, up
to the whole specification, so both documents are read or neither is.
-/

namespace ApiScaffold.OpenApi

namespace Decode

variable {value : Json}

theorem schema_alike : ReadsAlike (Option.Rel (OrRef.Similar Schema.Similar)) (optional schemaOrRef)
    value :=
  optional_alike (schema_or_ref_alike value)

theorem is_null_alike (value other : Json) (reordered : value.Reordered other) :
    isNull value = isNull other := by
  cases reordered <;> rfl

theorem is_null_or_empty_alike (value other : Json) (reordered : value.Reordered other) :
    isNullOrEmpty value = isNullOrEmpty other := by
  have object : ∀ members, isNullOrEmpty (.object members) = members.isEmpty := by
    intro members
    cases members <;> rfl
  cases reordered with
  | object permuted => rw [object, object, permuted.is_empty_eq]
  | _ => rfl

/-- A member that is read to the same value, and stored into the same record. -/
theorem same_storing_alike {α σ : Type} {name : String} {presence : Presence} {read : Reader α}
    {store : α → σ → σ} (alike : ReadsAlike Eq read value) :
    (Member.storing name presence read store).Alike Eq value := by
  apply storing_alike alike
  rintro first _ record _ rfl rfl
  rfl

section Definitions

theorem parameter_extensions_kept :
    Keeps Parameter.extensions fun extensions record => { record with extensions } :=
  ⟨fun _ _ => rfl, fun _ _ _ => rfl, fun _ => rfl⟩

theorem parameter_alike : ReadsAlike Parameter.Similar parameter value := by
  refine open_record_alike parameter_extensions_kept ?apart (fun _ _ _ => rfl)
    (.of_exchanges ?exchanges) ?alike ?extended ⟨rfl, rfl, rfl, rfl, .none, .nil⟩ rfl
  case apart => simp
  case exchanges => simp
  case alike =>
    simp only [List.forall_mem_cons]
    exact ⟨fun _ _ => storing_alike text_alike fun _ _ _ _ name known => { known with name },
      fun _ _ => storing_alike (choice_alike is_null_alike) fun _ _ _ _ place known =>
        { known with place },
      fun _ _ => storing_alike (optional_same text_alike) fun _ _ _ _ description known =>
        { known with description },
      fun _ _ => storing_alike flag_alike fun _ _ _ _ required known => { known with required },
      fun _ _ => storing_alike schema_alike fun _ _ _ _ schema known => { known with schema },
      fun _ member => absurd member List.not_mem_nil⟩
  case extended => exact fun _ _ _ _ known extensions => { known with extensions }

theorem media_type_alike : ReadsAlike MediaType.Similar mediaType value := by
  refine closed_record_alike (.of_exchanges (List.pairwise_singleton _ _)) ?alike ⟨.none⟩
  simp only [List.forall_mem_cons]
  exact ⟨fun _ _ => storing_alike schema_alike fun _ _ _ _ schema _ => ⟨schema⟩,
    fun _ member => absurd member List.not_mem_nil⟩

theorem request_body_alike : ReadsAlike RequestBody.Similar requestBody value := by
  refine closed_record_alike (.of_exchanges ?exchanges) ?alike ⟨rfl, .nil, rfl⟩
  case exchanges => simp
  case alike =>
    simp only [List.forall_mem_cons]
    exact ⟨fun _ _ => storing_alike (optional_same text_alike) fun _ _ _ _ description known =>
        { known with description },
      fun _ _ => storing_alike (table_alike fun _ _ => media_type_alike) fun _ _ _ _ content known =>
        { known with content },
      fun _ _ => storing_alike flag_alike fun _ _ _ _ required known => { known with required },
      fun _ member => absurd member List.not_mem_nil⟩

theorem header_extensions_kept :
    Keeps Header.extensions fun extensions record => { record with extensions } :=
  ⟨fun _ _ => rfl, fun _ _ _ => rfl, fun _ => rfl⟩

theorem header_alike : ReadsAlike Header.Similar header value := by
  refine open_record_alike header_extensions_kept ?apart (fun _ _ _ => rfl)
    (.of_exchanges ?exchanges) ?alike ?extended ⟨rfl, rfl, .none, .nil⟩ rfl
  case apart => simp
  case exchanges => simp
  case alike =>
    simp only [List.forall_mem_cons]
    exact ⟨fun _ _ => storing_alike (optional_same text_alike) fun _ _ _ _ description known =>
        { known with description },
      fun _ _ => storing_alike flag_alike fun _ _ _ _ required known => { known with required },
      fun _ _ => storing_alike schema_alike fun _ _ _ _ schema known => { known with schema },
      fun _ member => absurd member List.not_mem_nil⟩
  case extended => exact fun _ _ _ _ known extensions => { known with extensions }

theorem response_alike : ReadsAlike Response.Similar response value := by
  refine closed_record_alike (.of_exchanges ?exchanges) ?alike ⟨rfl, .nil, .nil⟩
  case exchanges => simp
  case alike =>
    simp only [List.forall_mem_cons]
    exact ⟨fun _ _ => storing_alike (optional_same text_alike) fun _ _ _ _ description known =>
        { known with description },
      fun _ _ => storing_alike (table_alike fun _ _ => or_ref_alike header_alike)
        fun _ _ _ _ headers known => { known with headers },
      fun _ _ => storing_alike (table_alike fun _ _ => media_type_alike) fun _ _ _ _ content known =>
        { known with content },
      fun _ member => absurd member List.not_mem_nil⟩

theorem responses_alike : ReadsAlike (Table.Similar (OrRef.Similar Response.Similar)) responses
    value := by
  intro other distinct reordered
  cases reordered with
  | @object members others permuted =>
      have listed := Table.Similar.filter ⟨distinct.keys, permuted⟩ fun key => !isExtensionKey key
      rw [responses, responses, to_option_mapM, to_option_mapM]
      apply entries_alike _ listed.distinct listed.permuted
      · intro member known
        have within : member.2.Within (.object members) := .member (List.mem_of_mem_filter known)
        exact fun inner => or_ref_alike response_alike inner (distinct.within within)
      · intro key inner
        dsimp only
        cases orRef response inner <;> rfl
  | _ => exact .none

theorem security_requirements_alike :
    ReadsAlike SimilarRequirements securityRequirements value :=
  list_alike fun _ _ => table_alike fun _ _ => list_same fun _ _ => text_alike

theorem operation_extensions_kept :
    Keeps Operation.extensions fun extensions record => { record with extensions } :=
  ⟨fun _ _ => rfl, fun _ _ _ => rfl, fun _ => rfl⟩

theorem operation_alike : ReadsAlike Operation.Similar operation value := by
  refine open_record_alike operation_extensions_kept ?apart (fun _ _ _ => rfl)
    (.of_exchanges ?exchanges) ?alike ?extended
    ⟨rfl, rfl, rfl, rfl, .nil, .none, .nil, .none, rfl, .nil⟩ rfl
  case apart => simp
  case exchanges => simp
  case alike =>
    simp only [List.forall_mem_cons]
    exact ⟨fun _ _ => storing_alike (list_same fun _ _ => text_alike) fun _ _ _ _ tags known =>
        { known with tags },
      fun _ _ => storing_alike (optional_same text_alike) fun _ _ _ _ summary known =>
        { known with summary },
      fun _ _ => storing_alike (optional_same text_alike) fun _ _ _ _ description known =>
        { known with description },
      fun _ _ => storing_alike (optional_same text_alike) fun _ _ _ _ operationId known =>
        { known with operationId },
      fun _ _ => storing_alike (list_alike fun _ _ => or_ref_alike parameter_alike)
        fun _ _ _ _ parameters known => { known with parameters },
      fun _ _ => storing_alike (optional_alike (or_ref_alike request_body_alike))
        fun _ _ _ _ requestBody known => { known with requestBody },
      fun _ _ => storing_alike responses_alike fun _ _ _ _ responses known =>
        { known with responses },
      fun _ _ => storing_alike (optional_alike security_requirements_alike)
        fun _ _ _ _ security known => { known with security },
      fun _ _ => storing_alike flag_alike fun _ _ _ _ deprecated known => { known with deprecated },
      fun _ member => absurd member List.not_mem_nil⟩
  case extended => exact fun _ _ _ _ known extensions => { known with extensions }

section PathItems

/-- What is seen of a path item: its operations by their methods, and all that is beside them. -/
def pathView (item : PathItem) : PathItem × (Method → Option Operation) :=
  ({ item with declared := [] }, item.operation?)

theorem path_view_eq {item other : PathItem} (rest : { item with declared := [] } =
      { other with declared := [] }) (operation : item.operation? = other.operation?) :
    pathView item = pathView other := Prod.ext rest operation

def storeOperation (method : Method) (operation : Option Operation) (item : PathItem) : PathItem :=
  match operation with
  | some operation => { item with declared := item.declared ++ [(method, operation)] }
  | none => item

theorem stored_operation (method : Method) (operation : Option Operation) (item : PathItem)
    (other : Method) : (storeOperation method operation item).operation? other =
      (item.operation? other).or (if other = method then operation else none) := by
  unfold storeOperation PathItem.operation?
  cases operation with
  | none => simp
  | some operation =>
      rw [List.lookup_append, List.lookup_cons]
      by_cases same : other = method
      · simp [same]
      · simp [same, beq_false_of_ne same]

theorem stored_rest (method : Method) (operation : Option Operation) (item : PathItem) :
    { storeOperation method operation item with declared := [] } =
      { item with declared := [] } := by
  cases operation <;> rfl

def describingPathMembers : List (Member PathItem) := [
  .storing "$ref" .optional (optional text) fun value record => { record with reference := value },
  .storing "summary" .optional (optional text) fun value record => { record with summary := value },
  .storing "description" .optional (optional text) fun value record =>
    { record with description := value }]

def pathParametersMember : Member PathItem :=
  .storing "parameters" .defaulted (list (orRef parameter)) fun value record =>
    { record with parameters := value }

theorem path_item_eq : pathItem = closedRecord "PathItem"
    (describingPathMembers ++ Method.all.map methodMember ++ [pathParametersMember]) {} := rfl

theorem storing_respects {α σ τ : Type} {view : σ → τ} {name : String} {presence : Presence}
    {read : Reader α} {store : α → σ → σ}
    (respects : ∀ first record other, view record = view other →
      view (store first record) = view (store first other))
    (value : Json) (record other : σ) (same : view record = view other) :
    ((Member.storing name presence read store).read value record).toOption.map view =
      ((Member.storing name presence read store).read value other).toOption.map view := by
  unfold Member.storing
  rw [to_option_map, to_option_map, Option.map_map, Option.map_map]
  congr 1
  funext first
  exact respects first record other same

theorem beside_respects {α : Type} {store : α → PathItem → PathItem}
    (apart : ∀ first item, pathView (store first item) =
      (store first (pathView item).1, (pathView item).2))
    (first : α) (item other : PathItem) (same : pathView item = pathView other) :
    pathView (store first item) = pathView (store first other) := by
  rw [apart, apart, same]

theorem operation_respects (method : Method) (first : Option Operation) (item other : PathItem)
    (same : pathView item = pathView other) :
    pathView (storeOperation method first item) = pathView (storeOperation method first other) := by
  obtain ⟨rest, operation⟩ := Prod.mk.inj same
  apply path_view_eq
  · rw [stored_rest, stored_rest]
    exact rest
  · funext asked
    rw [stored_operation, stored_operation, operation]

theorem operation_exchanges {method method' : Method} (differs : method ≠ method') :
    Member.Exchanges pathView (methodMember method) (methodMember method') := by
  apply storing_exchanges
  intro first second item
  change pathView (storeOperation method' second (storeOperation method first item)) =
    pathView (storeOperation method first (storeOperation method' second item))
  apply path_view_eq
  · simp only [stored_rest]
  · funext asked
    simp only [stored_operation]
    by_cases here : asked = method
    · subst here
      rw [if_neg differs]
      simp
    · rw [if_neg here]
      simp

theorem beside_exchanges {α : Type} {name : String} {presence : Presence} {read : Reader α}
    {store : α → PathItem → PathItem} (method : Method)
    (apart : ∀ first second item, store first (storeOperation method second item) =
      storeOperation method second (store first item)) :
    Member.Exchanges pathView (.storing name presence read store) (methodMember method) := by
  apply storing_exchanges
  intro first second item
  exact congrArg pathView (apart first second item).symm

theorem path_members_independent : Independent pathView PathItem.Similar
    (describingPathMembers ++ Method.all.map methodMember ++ [pathParametersMember]) where
  respects := by
    simp only [List.forall_mem_append, describingPathMembers, List.forall_mem_cons,
      List.forall_mem_map]
    refine ⟨⟨⟨?_, ?_, ?_, fun _ member => absurd member List.not_mem_nil⟩, ?_⟩, ?_,
      fun _ member => absurd member List.not_mem_nil⟩
    · exact storing_respects (beside_respects fun _ _ => rfl)
    · exact storing_respects (beside_respects fun _ _ => rfl)
    · exact storing_respects (beside_respects fun _ _ => rfl)
    · exact fun method _ => storing_respects (operation_respects method)
    · exact storing_respects (beside_respects fun _ _ => rfl)
  exchanges := by
    have described : ∀ member ∈ describingPathMembers, ∀ method ∈ Method.all,
        Member.Exchanges pathView member (methodMember method) := by
      simp only [describingPathMembers, List.forall_mem_cons, List.not_mem_nil, false_imp_iff,
        implies_true, and_true]
      and_intros <;> intro method _ <;>
        exact beside_exchanges method fun _ second _ => by cases second <;> rfl
    have last : ∀ member ∈ describingPathMembers,
        Member.Exchanges pathView member pathParametersMember := by
      simp [describingPathMembers, pathParametersMember]
    have plain : describingPathMembers.Pairwise (Member.Exchanges pathView) := by
      simp [describingPathMembers]
    have methods : Method.all.Pairwise (· ≠ ·) := by decide
    rw [List.pairwise_append, List.pairwise_append, List.pairwise_map]
    simp only [List.forall_mem_append, List.forall_mem_map, List.forall_mem_singleton]
    refine ⟨⟨plain, methods.imp operation_exchanges, described⟩, List.pairwise_singleton _ _, last,
      ?_⟩
    intro method _
    exact Std.Symm.symm _ _ (beside_exchanges method fun _ second _ => by cases second <;> rfl)
  shown := by
    intro item other item' same similar
    obtain ⟨rest, operation⟩ := Prod.mk.inj same
    obtain ⟨reference, summary, description, _, parameters⟩ := PathItem.mk.inj rest
    exact ⟨reference.trans similar.reference, summary.trans similar.summary,
      description.trans similar.description, fun method => operation ▸ similar.operation method,
      parameters ▸ similar.parameters⟩

theorem operation_member_alike (method : Method) :
    (methodMember method).Alike PathItem.Similar value := by
  apply storing_alike (optional_alike operation_alike)
  intro first first' item item' known similar
  change (storeOperation method first item).Similar (storeOperation method first' item')
  have operation (asked : Method) :
      Option.Rel Operation.Similar ((storeOperation method first item).operation? asked)
        ((storeOperation method first' item').operation? asked) := by
    rw [stored_operation, stored_operation]
    apply rel_or (similar.operation asked)
    split
    · exact known
    · exact .none
  obtain ⟨reference, summary, description, _, parameters⟩ :=
    PathItem.mk.inj (stored_rest method first item)
  obtain ⟨reference', summary', description', _, parameters'⟩ :=
    PathItem.mk.inj (stored_rest method first' item')
  refine ⟨?_, ?_, ?_, operation, ?_⟩
  · rw [reference, reference', similar.reference]
  · rw [summary, summary', similar.summary]
  · rw [description, description', similar.description]
  · rw [parameters, parameters']
    exact similar.parameters

theorem path_item_alike : ReadsAlike PathItem.Similar pathItem value := by
  rw [path_item_eq]
  refine closed_record_alike path_members_independent ?alike
    ⟨rfl, rfl, rfl, fun _ => .none, .nil⟩
  simp only [List.forall_mem_append, describingPathMembers, List.forall_mem_cons, List.forall_mem_map]
  exact ⟨⟨⟨fun _ _ => storing_alike (optional_same text_alike) fun _ _ _ _ reference known =>
        { known with reference },
      fun _ _ => storing_alike (optional_same text_alike) fun _ _ _ _ summary known =>
        { known with summary },
      fun _ _ => storing_alike (optional_same text_alike) fun _ _ _ _ description known =>
        { known with description },
      fun _ member => absurd member List.not_mem_nil⟩,
    fun method _ _ _ => operation_member_alike method⟩,
    fun _ _ => storing_alike (list_alike fun _ _ => or_ref_alike parameter_alike)
      fun _ _ _ _ parameters known => { known with parameters },
    fun _ member => absurd member List.not_mem_nil⟩

theorem paths_alike : ReadsAlike (Table.Similar PathItem.Similar) paths value := by
  intro other distinct reordered
  cases reordered with
  | @object members others permuted =>
      have listed := Table.Similar.filter ⟨distinct.keys, permuted⟩ fun key => !isExtensionKey key
      rw [paths, paths, to_option_mapM, to_option_mapM]
      apply entries_alike _ listed.distinct listed.permuted
      · intro member known
        have within : member.2.Within (.object members) := .member (List.mem_of_mem_filter known)
        exact fun inner => path_item_alike inner (distinct.within within)
      · intro key inner
        dsimp only
        cases pathItem inner <;> rfl
  | _ => exact .none

end PathItems

section Schemes

theorem scheme_kind_alike : ReadsAlike Eq schemeKind value := by
  intro other _ reordered
  cases reordered with
  | string word => exact rel_of_eq rfl
  | _ => exact .none

theorem scheme_members_independent (kind : SchemeKind) :
    Independent id Eq kind.members := by
  apply Independent.of_exchanges
  cases kind <;> simp [SchemeKind.members, SchemeMembers.describing]

theorem scheme_members_alike (kind : SchemeKind) :
    ∀ member ∈ kind.members, member.Alike Eq value := by
  cases kind <;> simp only [SchemeKind.members, SchemeMembers.describing, List.forall_mem_cons]
  · exact ⟨same_storing_alike text_alike, same_storing_alike (optional_same text_alike),
      same_storing_alike (optional_same text_alike), fun _ member => absurd member List.not_mem_nil⟩
  · exact ⟨same_storing_alike text_alike, same_storing_alike (choice_alike is_null_or_empty_alike),
      same_storing_alike (optional_same text_alike), fun _ member => absurd member List.not_mem_nil⟩
  · exact ⟨same_storing_alike (optional_same text_alike),
      fun _ member => absurd member List.not_mem_nil⟩
  · exact ⟨same_storing_alike (optional_same text_alike),
      same_storing_alike (optional_same text_alike), fun _ member => absurd member List.not_mem_nil⟩

/-- After the kind is known, the other members are those of a record. -/
theorem tagged_scheme_eq (members : List (String × Json)) :
    (securityScheme (.object members)).toOption =
      (members.lookup "type").bind fun tag => (schemeKind tag).toOption.bind fun kind =>
        (closedRecord "SecurityScheme" kind.members {}
          (.object (members.filter (·.1 != "type")))).toOption.map kind.build := by
  rw [securityScheme]
  cases members.lookup "type" with
  | none => rfl
  | some tag =>
      dsimp only [Option.bind_some]
      rw [to_option_bind]
      congr 1
      funext kind
      rw [closedRecord]
      simp only [to_option_bind, Option.map_bind]
      congr 1
      funext record
      dsimp only [Function.comp]
      cases checkRequired kind.members (members.filter (·.1 != "type")) <;> rfl

theorem security_scheme_alike : ReadsAlike Eq securityScheme value := by
  intro other distinct reordered
  cases reordered with
  | @object members others permuted =>
      have listed := Table.Similar.filter ⟨distinct.keys, permuted⟩ fun key => key != "type"
      have rest : (Json.object (members.filter (·.1 != "type"))).KeysDistinct := by
        apply Json.KeysDistinct.object listed.distinct
        intro member known
        exact distinct.within (.member (List.mem_of_mem_filter known))
      rw [tagged_scheme_eq, tagged_scheme_eq]
      apply rel_bind (permuted.lookup distinct.keys "type")
      intro tag tag' found known
      have kinds := scheme_kind_alike tag' (distinct.within (.member (mem_of_lookup found))) known
      rw [eq_of_rel kinds]
      cases (schemeKind tag').toOption with
      | none => exact .none
      | some kind =>
          have records : ReadsAlike Eq (closedRecord "SecurityScheme" kind.members {})
              (.object (members.filter (·.1 != "type"))) :=
            closed_record_alike (scheme_members_independent kind)
              (fun member listed _ _ => scheme_members_alike kind member listed) rfl
          exact rel_map (records _ rest (.object listed.permuted)) fun _ _ same =>
            congrArg kind.build same
  | @array items others pairs =>
      cases pairs with
      | nil => exact .none
      | @cons tag tag' items items' known pairs =>
          have kinds := scheme_kind_alike tag'
            (distinct.within (.item List.mem_cons_self)) known
          rw [securityScheme, securityScheme, to_option_bind, to_option_bind, eq_of_rel kinds]
          cases (schemeKind tag').toOption with
          | none => exact .none
          | some kind =>
              dsimp only [Option.bind_some]
              rw [to_option_bind, to_option_bind]
              apply rel_bind (read_elements_alike pairs
                (fun item member => distinct.within (.item (List.mem_cons_of_mem _ member)))
                (fun member listed _ _ => scheme_members_alike kind member listed) rfl)
              rintro ⟨record, rest⟩ ⟨record', rest'⟩ _ ⟨same, ended⟩
              dsimp only at same ended ⊢
              rw [same, ended]
              split
              · exact .some rfl
              · exact .none
  | _ => exact .none

end Schemes

theorem info_alike : ReadsAlike Eq info value := by
  refine closed_record_alike (.of_exchanges ?exchanges) ?alike rfl
  case exchanges => simp
  case alike =>
    simp only [List.forall_mem_cons]
    exact ⟨fun _ _ => same_storing_alike text_alike, fun _ _ => same_storing_alike text_alike,
      fun _ _ => same_storing_alike (optional_same text_alike),
      fun _ member => absurd member List.not_mem_nil⟩

theorem components_alike : ReadsAlike Components.Similar components value := by
  refine closed_record_alike (.of_exchanges ?exchanges) ?alike ⟨.nil, .nil, .nil, .nil, .nil, .nil⟩
  case exchanges => simp
  case alike =>
    simp only [List.forall_mem_cons]
    exact ⟨fun _ _ => storing_alike (table_alike fun _ _ => schema_or_ref_alike _)
        fun _ _ _ _ schemas known => { known with schemas },
      fun _ _ => storing_alike (table_alike fun _ _ => or_ref_alike parameter_alike)
        fun _ _ _ _ parameters known => { known with parameters },
      fun _ _ => storing_alike (table_alike fun _ _ => or_ref_alike request_body_alike)
        fun _ _ _ _ requestBodies known => { known with requestBodies },
      fun _ _ => storing_alike (table_alike fun _ _ => or_ref_alike response_alike)
        fun _ _ _ _ responses known => { known with responses },
      fun _ _ => storing_alike (table_alike fun _ _ => or_ref_alike header_alike)
        fun _ _ _ _ headers known => { known with headers },
      fun _ _ => storing_alike (table_alike fun _ _ => or_ref_alike security_scheme_alike)
        fun _ _ _ _ securitySchemes known => { known with securitySchemes },
      fun _ member => absurd member List.not_mem_nil⟩

theorem specification_alike : ReadsAlike Specification.Similar specification value := by
  refine closed_record_alike (.of_exchanges ?exchanges) ?alike
    ⟨rfl, rfl, .nil, ⟨.nil, .nil, .nil, .nil, .nil, .nil⟩, .none⟩
  case exchanges => simp
  case alike =>
    simp only [List.forall_mem_cons]
    exact ⟨fun _ _ => storing_alike text_alike fun _ _ _ _ openapi known => { known with openapi },
      fun _ _ => storing_alike info_alike fun _ _ _ _ info known => { known with info },
      fun _ _ => storing_alike paths_alike fun _ _ _ _ paths known => { known with paths },
      fun _ _ => storing_alike components_alike fun _ _ _ _ components known =>
        { known with components },
      fun _ _ => storing_alike (optional_alike security_requirements_alike)
        fun _ _ _ _ security known => { known with security },
      fun _ member => absurd member List.not_mem_nil⟩

end Definitions

end Decode

namespace Document

/-- Documents with one canonical text, whose specifications differ in the order of tables only. -/
structure Similar (document other : Document) : Prop where
  specification : document.specification.Similar other.specification
  text : document.canonicalText = other.canonicalText

/-- A member that is there is replaced where it stands. -/
theorem set_known_member {key : String} (value : Json) {members : List (String × Json)}
    (distinct : DistinctKeys members) (known : key ∈ members.map (·.1)) :
    Json.setMember key value members =
      members.map fun member => (member.1, if member.1 = key then value else member.2) := by
  induction members with
  | nil => cases known
  | cons member rest induction =>
      obtain ⟨own, old⟩ := member
      obtain ⟨fresh, others⟩ := List.nodup_cons.mp distinct
      rw [Json.setMember, List.map_cons]
      by_cases same : own = key
      · rw [if_pos same, if_pos same]
        subst same
        congr 1
        apply Eq.symm
        apply List.map_congr_left _ |>.trans (List.map_id _)
        intro other member
        have differs : other.1 ≠ own := by
          rintro rfl
          exact fresh (List.mem_map.mpr ⟨other, member, rfl⟩)
        rw [if_neg differs]
        rfl
      · rw [if_neg same, if_neg same]
        rcases List.mem_cons.mp known with here | there
        · exact absurd here.symm same
        · rw [induction others there]

theorem set_member_alike {key : String} (value : Json) {members others : List (String × Json)}
    (distinct : (Json.object members).KeysDistinct) (plain : value.KeysDistinct)
    (permuted : Permuted (Keyed Json.Reordered) members others)
    (known : key ∈ members.map (·.1)) :
    (Json.object (Json.setMember key value members)).KeysDistinct ∧
      (Json.object (Json.setMember key value members)).Reordered
        (.object (Json.setMember key value others)) := by
  have keys := permuted.keys_perm
  rw [set_known_member value distinct.keys known,
    set_known_member value (keys.nodup_iff.mp distinct.keys) (keys.mem_iff.mp known)]
  constructor
  · constructor
    · unfold DistinctKeys
      rw [List.map_map]
      exact distinct.keys
    · intro member listed
      obtain ⟨⟨own, old⟩, inside, rfl⟩ := List.mem_map.mp listed
      dsimp only
      split
      · exact plain
      · exact distinct.within (.member inside)
  · apply Json.Reordered.object
    apply permuted.map
    intro member member' keyed
    cases keyed with
    | intro own inner =>
        apply Keyed.intro
        dsimp only
        split
        · exact .refl value
        · exact inner

theorem normalise_version_alike {value other : Json} (distinct : value.KeysDistinct)
    (reordered : value.Reordered other) :
    (normaliseVersion value).KeysDistinct ∧
      (normaliseVersion value).Reordered (normaliseVersion other) := by
  have unchanged := And.intro distinct reordered
  cases reordered with
  | @object members others permuted =>
      have keys := distinct.keys
      have version := permuted.lookup keys "openapi"
      rw [normaliseVersion, normaliseVersion]
      revert version
      cases found : members.lookup "openapi" with
      | none =>
          cases others.lookup "openapi" with
          | none => exact fun _ => unchanged
          | some _ => exact nofun
      | some version =>
          cases found' : others.lookup "openapi" with
          | none => exact nofun
          | some version' =>
              intro same
              cases same with
              | some same =>
                  cases same with
                  | number version =>
                      exact set_member_alike _ distinct (.string _) permuted
                        (List.mem_map.mpr ⟨_, mem_of_lookup found, rfl⟩)
                  | _ => exact unchanged
  | _ => exact unchanged

/-- A value and all reordered ones are documents alike. -/
theorem of_value_alike {value other : Json} (source : String) (distinct : value.KeysDistinct)
    (reordered : value.Reordered other) :
    Option.Rel Similar (ofValue value source).toOption (ofValue other source).toOption := by
  obtain ⟨distinct, reordered⟩ := normalise_version_alike distinct reordered
  unfold ofValue
  generalize normaliseVersion value = raw, normaliseVersion other = raw' at distinct reordered ⊢
  have version : (raw.member? "openapi").bind Json.string? =
      (raw'.member? "openapi").bind Json.string? := by
    cases reordered with
    | object permuted =>
        apply eq_of_rel
        apply rel_bind (permuted.lookup distinct.keys "openapi")
        intro inner inner' _ known
        cases known <;> first | exact .none | exact .some rfl
    | _ => rfl
  dsimp only
  rw [version]
  cases (raw'.member? "openapi").bind Json.string? with
  | none => exact .none
  | some version =>
      dsimp only
      split
      · have known := Decode.specification_alike raw' distinct reordered
        have text := congrArg Json.compact
          (Json.canonical_eq_of_reordered raw raw' distinct reordered)
        revert known
        cases Decode.specification raw with
        | error _ => cases Decode.specification raw' with
          | error _ => exact fun _ => .none
          | ok _ => exact nofun
        | ok specification => cases Decode.specification raw' with
          | error _ => exact nofun
          | ok specification' =>
              intro known
              cases known with
              | some similar => exact .some ⟨similar, text⟩
      · exact .none

end Document

end ApiScaffold.OpenApi
