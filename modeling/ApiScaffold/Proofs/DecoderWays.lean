import ApiScaffold.Proofs.LocalVariables
import ApiScaffold.Proofs.StatementRuns

/-!
The ways through a decoder. All checks of a field return, so past its statements every field is left
with few ways: one, or one for each outcome of the condition under which there is a value at all.
What happens on them speaks of that field alone, so the ways of several fields are put together
without one getting into the other's way.
-/

namespace ApiScaffold.Server

open Blueprint Go Source Statement

theorem variable_undotted {name : String} (clean : Identifier.Clean name) :
    '.' ∉ (variableName name).toList := by
  have camel : '.' ∉ (Identifier.camelCase name).toList := by
    intro member
    obtain ⟨c, listed, form⟩ := Identifier.mem_camel_case member
    have kept := Identifier.case_form_clean (clean c listed) form
    cases kept
  unfold variableName avoidKeyword
  split
  · rw [String.toList_append, List.mem_append]
    rintro (inside | last)
    · exact camel inside
    · revert last
      decide
  · exact camel

namespace FieldReading

theorem member_clean (reading : FieldReading) : Identifier.Clean reading.member :=
  Identifier.exported_clean _

section Ways

variable (reading : FieldReading) (type receiver : String)

def presenceEvents : List Event :=
  if reading.checked then
    [.fails s!"{reading.shadow}.IsNull()", .fails s!"!{reading.shadow}.IsSet()"]
  else []

def changeEvents : List Event :=
  (if reading.field.trimmable then [.assigns reading.valueName] else []) ++
    (if reading.field.regex.isSome then
      [.fails ["!", .own (reading.regexName type), s!".MatchString({reading.valueName})"]] else []) ++
    if reading.parser.isSome then [.fails "err != nil"] else []

def valueWays : List (List Event) :=
  let set : List Event := [.assigns (reading.target receiver)]
  if reading.isTransformed then
    let changed := reading.changeEvents type ++ set
    match reading.source.1 with
    | none => [changed]
    | some guard =>
      match reading.field.optionality with
      | .optionalNullable => [.holds guard :: changed, .fails guard :: set]
      | _ => [.holds guard :: changed, [.fails guard]]
  else [set]

variable {reading type receiver} {events : List Event} {rest : List Statement}

theorem passes_presence :
    Passes ((if reading.checked then reading.presenceGuards else []) ++ rest) events ↔
      ∃ after, Passes rest after ∧ events = reading.presenceEvents ++ after := by
  unfold presenceEvents presenceGuards
  split
  · simp
  · simp

theorem passes_trimming : Passes (reading.trimming ++ rest) events ↔
    ∃ after, Passes rest after ∧
      events = (if reading.field.trimmable then [.assigns reading.valueName] else []) ++ after := by
  unfold trimming
  split <;> simp

theorem passes_matching : Passes (reading.matching type ++ rest) events ↔
    ∃ after, Passes rest after ∧ events = (if reading.field.regex.isSome then
      [.fails ["!", .own (reading.regexName type), s!".MatchString({reading.valueName})"]]
        else []) ++ after := by
  unfold matching
  split <;> simp

theorem passes_parsing : Passes (reading.parsing ++ rest) events ↔
    ∃ after, Passes rest after ∧
      events = (if reading.parser.isSome then [.fails "err != nil"] else []) ++ after := by
  unfold parsing
  cases reading.parser <;> simp

theorem passes_final : Passes [reading.finalAssignment receiver] events ↔
    events = [.assigns (reading.target receiver)] := by
  unfold finalAssignment
  cases reading.field.optionality <;> simp

theorem passes_transformation : Passes (reading.transformation type receiver) events ↔
    events = reading.changeEvents type ++ [.assigns (reading.target receiver)] := by
  unfold transformation changeEvents
  rw [passes_define, List.append_assoc, List.append_assoc, passes_trimming]
  simp only [passes_matching, passes_parsing, passes_final]
  constructor
  · rintro ⟨_, ⟨_, ⟨_, rfl, rfl⟩, rfl⟩, rfl⟩
    simp
  · rintro rfl
    exact ⟨_, ⟨_, ⟨_, rfl, rfl⟩, rfl⟩, by simp⟩

theorem passes_plain : Passes (reading.plainAssignment receiver) events ↔
    events = [.assigns (reading.target receiver)] := by
  unfold plainAssignment
  cases reading.field.optionality <;> cases reading.checked <;> simp

theorem passes_value : Passes (if reading.isTransformed then
      reading.transformedAssignment type receiver else reading.plainAssignment receiver) events ↔
    events ∈ reading.valueWays type receiver := by
  unfold valueWays transformedAssignment
  cases reading.isTransformed with
  | false => simp [passes_plain]
  | true =>
      unfold source emptyAssignment
      cases reading.field.optionality <;> cases reading.checked <;>
        simp [passes_transformation, passes_when, passes_choose]

theorem passes_statements : Passes (reading.statements type receiver) events ↔
    ∃ way ∈ reading.valueWays type receiver, events = reading.presenceEvents ++ way := by
  unfold statements
  rw [passes_presence]
  simp only [passes_value]

end Ways

/-- The condition without which a member stays as it is. It is that of an optional text and of a
pointer that may be absent, if more happens to them than that they are assigned. -/
def unsetUnless (reading : FieldReading) : Option Code :=
  if reading.isTransformed then
    match reading.field.optionality with
    | .optional => some s!"{reading.shadow} != \"\""
    | .pointer => if reading.checked then none else some s!"{reading.shadow} != nil"
    | _ => none
  else none

/-- A member is assigned once on a way; one that may stay as it is, if its condition holds. -/
def SetOnce (receiver : String) (reading : FieldReading) (events : List Event) : Prop :=
  let times := events.count (.assigns (reading.target receiver))
  match reading.unsetUnless with
  | none => times = 1
  | some guard => (.holds guard ∈ events ∨ .fails guard ∈ events) ∧
      (.holds guard ∈ events → times = 1) ∧ (.fails guard ∈ events → times = 0)

section Events

variable {reading other : FieldReading} {type receiver : String}

def checkConditions (type : String) (reading : FieldReading) : List Code := [
  s!"{reading.shadow}.IsNull()", s!"!{reading.shadow}.IsSet()",
  ["!", .own (reading.regexName type), s!".MatchString({reading.valueName})"], "err != nil"]

def sourceConditions (reading : FieldReading) : List Code := [
  s!"{reading.shadow} != \"\"", s!"{reading.shadow}.IsSet()", s!"{reading.shadow} != nil"]

inductive Happens (type receiver : String) (reading : FieldReading) : Event → Prop where
  | set : Happens type receiver reading (.assigns (reading.target receiver))
  | trimmed : Happens type receiver reading (.assigns reading.valueName)
  | checked {condition : Code} (listed : condition ∈ reading.checkConditions type) :
    Happens type receiver reading (.fails condition)
  | sourced {condition : Code} (listed : condition ∈ reading.sourceConditions) :
    Happens type receiver reading (.holds condition)
  | unsourced {condition : Code} (listed : condition ∈ reading.sourceConditions) :
    Happens type receiver reading (.fails condition)

/-- Before a value is assigned, checks fail and it may be trimmed. -/
theorem check_events {event : Event}
    (member : event ∈ reading.presenceEvents ∨ event ∈ reading.changeEvents type) :
    event = .assigns reading.valueName ∨
      ∃ condition ∈ reading.checkConditions type, event = .fails condition := by
  unfold presenceEvents changeEvents at member
  unfold checkConditions
  simp only [List.mem_append] at member
  rcases member with presence | (trimmed | matched) | parsed
  · split at presence
    · simp only [List.mem_cons, List.not_mem_nil, or_false] at presence
      rcases presence with rfl | rfl
      · exact .inr ⟨_, List.mem_cons_self, rfl⟩
      · exact .inr ⟨_, List.mem_cons_of_mem _ List.mem_cons_self, rfl⟩
    · cases presence
  · split at trimmed
    · exact .inl (List.mem_singleton.mp trimmed)
    · cases trimmed
  · split at matched
    · exact .inr ⟨_, by simp, List.mem_singleton.mp matched⟩
    · cases matched
  · split at parsed
    · exact .inr ⟨_, by simp, List.mem_singleton.mp parsed⟩
    · cases parsed

theorem check_happens {event : Event}
    (member : event ∈ reading.presenceEvents ∨ event ∈ reading.changeEvents type) :
    Happens type receiver reading event := by
  rcases check_events member with rfl | ⟨condition, listed, rfl⟩
  · exact .trimmed
  · exact .checked listed

theorem source_listed {guard : Code} (stated : reading.source.1 = some guard) :
    guard ∈ reading.sourceConditions := by
  unfold source at stated
  unfold sourceConditions
  split at stated
  · cases stated
  · cases stated
    exact List.mem_cons_self
  · cases stated
    exact List.mem_cons_of_mem _ List.mem_cons_self
  · split at stated
    · cases stated
    · cases stated
      exact List.mem_cons_of_mem _ (List.mem_cons_of_mem _ List.mem_cons_self)

theorem value_happens {way : List Event} (among : way ∈ reading.valueWays type receiver)
    {event : Event} (member : event ∈ way) : Happens type receiver reading event := by
  have set {event : Event} (last : event ∈ [Event.assigns (reading.target receiver)]) :
      Happens type receiver reading event := by
    rw [List.mem_singleton.mp last]
    exact .set
  have changed {event : Event}
      (inside : event ∈ reading.changeEvents type ++ [.assigns (reading.target receiver)]) :
      Happens type receiver reading event := by
    rcases List.mem_append.mp inside with change | last
    · exact check_happens (.inr change)
    · exact set last
  unfold valueWays at among
  dsimp only at among
  split at among
  case isFalse =>
    rw [List.mem_singleton.mp among] at member
    exact set member
  split at among
  case h_1 =>
    rw [List.mem_singleton.mp among] at member
    exact changed member
  case h_2 guard stated =>
    have listed := source_listed stated
    split at among
    · simp only [List.mem_cons, List.not_mem_nil, or_false] at among
      rcases among with rfl | rfl
      · rcases List.mem_cons.mp member with rfl | member
        · exact .sourced listed
        · exact changed member
      · rcases List.mem_cons.mp member with rfl | member
        · exact .unsourced listed
        · exact set member
    · simp only [List.mem_cons, List.not_mem_nil, or_false] at among
      rcases among with rfl | rfl
      · rcases List.mem_cons.mp member with rfl | member
        · exact .sourced listed
        · exact changed member
      · rw [List.mem_singleton.mp member]
        exact .unsourced listed

theorem statements_happen {events : List Event}
    (passes : Passes (reading.statements type receiver) events) {event : Event}
    (member : event ∈ events) : Happens type receiver reading event := by
  obtain ⟨way, among, rfl⟩ := passes_statements.mp passes
  rcases List.mem_append.mp member with presence | value
  · exact check_happens (.inl presence)
  · exact value_happens among value

theorem target_ne_value : reading.target receiver ≠ (other.valueName : Code) := by
  intro same
  have text : receiver ++ "." ++ reading.member = other.valueName :=
    Fragment.text.inj (List.cons.inj same).1
  have ending : Identifier.Clean "Value" := by
    unfold Identifier.Clean Identifier.CleanChars
    decide
  apply variable_undotted (other.member_clean.append ending)
  change '.' ∈ other.valueName.toList
  rw [← text, String.toList_append, String.toList_append]
  exact List.mem_append_left _ (List.mem_append_right _ List.mem_cons_self)

theorem target_inj (same : reading.target receiver = other.target receiver) :
    reading.member = other.member := by
  have text : receiver ++ "." ++ reading.member = receiver ++ "." ++ other.member :=
    Fragment.text.inj (List.cons.inj same).1
  exact String.append_right_inj _ |>.mp text

theorem unset_unless_text {guard : Code} (stated : reading.unsetUnless = some guard) :
    guard = [.text ("shadow." ++ reading.member ++ " != \"\"")] ∨
      guard = [.text ("shadow." ++ reading.member ++ " != nil")] := by
  unfold unsetUnless at stated
  split at stated
  · split at stated
    · cases stated
      exact .inl rfl
    · split at stated
      · cases stated
      · cases stated
        exact .inr rfl
    · cases stated
  · cases stated

theorem ends_apart {first second here there : String} {last other : Char}
    (ends : here.toList.getLast? = some last) (differs : there.toList.getLast? = some other)
    (apart : last ≠ other) : first ++ here ≠ second ++ there := by
  intro same
  have lasts := congrArg (fun text => text.toList.getLast?) same
  simp only [String.toList_append, List.getLast?_append, ends, differs, Option.some_or] at lasts
  exact apart (Option.some.inj lasts)

/-- Such a condition is none of the others, and no field has that of another one. -/
theorem unset_unless_apart {guard : Code} (stated : reading.unsetUnless = some guard) :
    (∀ type, guard ∉ other.checkConditions type) ∧
      (guard ∈ other.sourceConditions → reading.member = other.member) := by
  have null : ".IsNull()".toList.getLast? = some ')' := by decide
  have set : ".IsSet()".toList.getLast? = some ')' := by decide
  have empty : " != \"\"".toList.getLast? = some '"' := by decide
  have pointer : " != nil".toList.getLast? = some 'l' := by decide
  have failed (ending : String) : "shadow." ++ reading.member ++ ending ≠ "err != nil" := by
    intro same
    have head := congrArg (fun text => text.toList.head?) same
    simp [String.toList_append] at head
  have alike {ending : String} (same : "shadow." ++ reading.member ++ ending =
      other.shadow ++ ending) : reading.member = other.member :=
    String.append_right_inj _ |>.mp (String.append_left_inj _ |>.mp same)
  rcases unset_unless_text stated with rfl | rfl
  · constructor
    · intro type listed
      simp only [checkConditions, List.mem_cons, List.not_mem_nil, or_false, List.cons.injEq,
        Fragment.text.injEq, and_true, reduceCtorEq, and_false, false_or] at listed
      rcases listed with same | same | same
      · exact ends_apart empty null (by decide) same
      · exact ends_apart empty set (by decide) same
      · exact failed _ same
    · intro listed
      simp only [sourceConditions, List.mem_cons, List.not_mem_nil, or_false, List.cons.injEq,
        Fragment.text.injEq, and_true] at listed
      rcases listed with same | same | same
      · exact alike same
      · exact absurd same (ends_apart empty set (by decide))
      · exact absurd same (ends_apart empty pointer (by decide))
  · constructor
    · intro type listed
      simp only [checkConditions, List.mem_cons, List.not_mem_nil, or_false, List.cons.injEq,
        Fragment.text.injEq, and_true, reduceCtorEq, and_false, false_or] at listed
      rcases listed with same | same | same
      · exact ends_apart pointer null (by decide) same
      · exact ends_apart pointer set (by decide) same
      · exact failed _ same
    · intro listed
      simp only [sourceConditions, List.mem_cons, List.not_mem_nil, or_false, List.cons.injEq,
        Fragment.text.injEq, and_true] at listed
      rcases listed with same | same | same
      · exact absurd same (ends_apart pointer empty (by decide))
      · exact absurd same (ends_apart pointer set (by decide))
      · exact alike same

/-- An event neither sets a member nor decides whether it is set. -/
def Aside (receiver : String) (reading : FieldReading) (event : Event) : Prop :=
  event ≠ .assigns (reading.target receiver) ∧ ∀ guard, reading.unsetUnless = some guard →
    event ≠ .holds guard ∧ event ≠ .fails guard

theorem Happens.aside {event : Event} (happens : Happens type receiver other event)
    (apart : reading.member ≠ other.member) : reading.Aside receiver event := by
  cases happens with
  | set =>
      refine ⟨fun same => ?_, fun guard _ => ⟨nofun, nofun⟩⟩
      exact apart (target_inj (Event.assigns.inj same).symm)
  | trimmed =>
      refine ⟨fun same => ?_, fun guard _ => ⟨nofun, nofun⟩⟩
      exact target_ne_value (Event.assigns.inj same).symm
  | checked listed =>
      refine ⟨nofun, fun guard stated => ⟨nofun, ?_⟩⟩
      rintro ⟨⟩
      exact (unset_unless_apart stated).1 type listed
  | sourced listed =>
      refine ⟨nofun, fun guard stated => ⟨?_, nofun⟩⟩
      rintro ⟨⟩
      exact apart ((unset_unless_apart stated).2 listed)
  | unsourced listed =>
      refine ⟨nofun, fun guard stated => ⟨nofun, ?_⟩⟩
      rintro ⟨⟩
      exact apart ((unset_unless_apart stated).2 listed)

/-- The checks of a field are nothing to its own member either. -/
theorem check_aside {event : Event}
    (member : event ∈ reading.presenceEvents ∨ event ∈ reading.changeEvents type) :
    reading.Aside receiver event := by
  rcases check_events member with rfl | ⟨condition, listed, rfl⟩
  · exact ⟨fun same => target_ne_value (Event.assigns.inj same).symm, fun _ _ => ⟨nofun, nofun⟩⟩
  · refine ⟨nofun, fun guard stated => ⟨nofun, ?_⟩⟩
    rintro ⟨⟩
    exact (unset_unless_apart stated).1 type listed

section Asides

variable {events : List Event} (aside : ∀ event ∈ events, reading.Aside receiver event)

include aside

theorem not_set_aside : events.count (.assigns (reading.target receiver)) = 0 :=
  List.count_eq_zero.mpr fun member => (aside _ member).1 rfl

theorem not_decided_aside {guard : Code} (stated : reading.unsetUnless = some guard) :
    .holds guard ∉ events ∧ .fails guard ∉ events :=
  ⟨fun member => ((aside _ member).2 guard stated).1 rfl,
    fun member => ((aside _ member).2 guard stated).2 rfl⟩

end Asides

theorem SetOnce.within {before own after : List Event} (once : reading.SetOnce receiver own)
    (first : ∀ event ∈ before, reading.Aside receiver event)
    (last : ∀ event ∈ after, reading.Aside receiver event) :
    reading.SetOnce receiver (before ++ (own ++ after)) := by
  have times : (before ++ (own ++ after)).count (.assigns (reading.target receiver)) =
      own.count (.assigns (reading.target receiver)) := by
    rw [List.count_append, List.count_append, not_set_aside first, not_set_aside last,
      Nat.zero_add, Nat.add_zero]
  unfold SetOnce at once ⊢
  rw [times]
  cases stated : reading.unsetUnless with
  | none =>
      rw [stated] at once
      exact once
  | some guard =>
      rw [stated] at once
      obtain ⟨early, early'⟩ := not_decided_aside first stated
      obtain ⟨late, late'⟩ := not_decided_aside last stated
      have holds : .holds guard ∈ before ++ (own ++ after) ↔ .holds guard ∈ own := by
        simp [early, late]
      have fails : .fails guard ∈ before ++ (own ++ after) ↔ .fails guard ∈ own := by
        simp [early', late']
      dsimp only at once ⊢
      rw [holds, fails]
      exact once

/-- A member that may stay as it is has two ways. -/
theorem value_ways_guarded {guard : Code} (stated : reading.unsetUnless = some guard) :
    reading.valueWays type receiver =
      [.holds guard :: (reading.changeEvents type ++ [.assigns (reading.target receiver)]),
        [.fails guard]] := by
  unfold unsetUnless at stated
  split at stated
  case isFalse => cases stated
  case isTrue changed =>
    unfold valueWays source
    rw [if_pos changed]
    split at stated
    case h_1 optional =>
      cases stated
      rw [optional]
    case h_2 pointer =>
      split at stated
      case isTrue => cases stated
      case isFalse free =>
        cases stated
        rw [pointer]
        dsimp only
        rw [if_neg free]
    case h_3 => cases stated

/-- On all other ways a member is assigned in the end. -/
theorem value_ways_settled (settled : reading.unsetUnless = none) {way : List Event}
    (among : way ∈ reading.valueWays type receiver) :
    ∃ before, way = before ++ [.assigns (reading.target receiver)] ∧
      .assigns (reading.target receiver) ∉ before := by
  have changes : .assigns (reading.target receiver) ∉ reading.changeEvents type :=
    fun member => (check_aside (.inr member)).1 rfl
  unfold unsetUnless at settled
  unfold valueWays source at among
  split at settled
  case isFalse plain =>
    rw [if_neg plain] at among
    exact ⟨[], List.mem_singleton.mp among, List.not_mem_nil⟩
  case isTrue changed =>
    rw [if_pos changed] at among
    cases kind : reading.field.optionality with
    | required =>
        rw [kind] at among
        exact ⟨_, List.mem_singleton.mp among, changes⟩
    | optional =>
        rw [kind] at settled
        cases settled
    | optionalNullable =>
        rw [kind] at among
        simp only [List.mem_cons, List.not_mem_nil, or_false] at among
        rcases among with rfl | rfl
        · exact ⟨.holds _ :: _, rfl, List.not_mem_cons_of_ne_of_not_mem nofun changes⟩
        · exact ⟨[.fails _], rfl, List.not_mem_cons_of_ne_of_not_mem nofun List.not_mem_nil⟩
    | pointer =>
        rw [kind] at settled among
        cases asked : reading.checked with
        | true =>
            rw [asked] at among
            exact ⟨_, List.mem_singleton.mp among, changes⟩
        | false =>
            rw [asked] at settled
            cases settled

theorem value_ways_set_once {way : List Event} (among : way ∈ reading.valueWays type receiver) :
    reading.SetOnce receiver way := by
  unfold SetOnce
  cases stated : reading.unsetUnless with
  | none =>
      obtain ⟨before, rfl, unset⟩ := value_ways_settled stated among
      dsimp only
      rw [List.count_append, List.count_eq_zero.mpr unset, List.count_singleton_self]
  | some guard =>
      have aside (event : Event) (member : event ∈ reading.changeEvents type) :
          reading.Aside receiver event := check_aside (.inr member)
      rw [value_ways_guarded stated] at among
      simp only [List.mem_cons, List.not_mem_nil, or_false] at among
      rcases among with rfl | rfl
      · simp [List.count_append, not_set_aside aside, not_decided_aside aside stated]
      · simp

theorem fields_aside {readings : List FieldReading}
    (apart : ∀ other ∈ readings, reading.member ≠ other.member) {events : List Event}
    (passes : Passes (readings.flatMap (statements type receiver)) events) :
    ∀ event ∈ events, reading.Aside receiver event := by
  obtain ⟨traces, pairs, rfl⟩ := passes_flat_map.mp passes
  intro event member
  obtain ⟨trace, among, inside⟩ := List.mem_flatten.mp member
  obtain ⟨other, listed, own⟩ := partner_of_mem pairs.flip among
  exact (statements_happen own inside).aside (apart other listed)

theorem passes_exist (readings : List FieldReading) :
    ∃ events, Passes (readings.flatMap (statements type receiver)) events := by
  induction readings with
  | nil => exact ⟨[], rfl⟩
  | cons reading rest induction =>
      obtain ⟨after, passes⟩ := induction
      obtain ⟨way, among⟩ : ∃ way, way ∈ reading.valueWays type receiver := by
        unfold valueWays
        dsimp only
        split
        · split
          · exact ⟨_, List.mem_cons_self⟩
          · split <;> exact ⟨_, List.mem_cons_self⟩
        · exact ⟨_, List.mem_cons_self⟩
      exact ⟨_, passes_append.mpr ⟨_, after, passes_statements.mpr ⟨way, among, rfl⟩, passes, rfl⟩⟩

/-- On every way through the statements of fields with different members, each of these is assigned
once. -/
theorem passes_set_once {readings : List FieldReading}
    (distinct : (readings.map member).Nodup) (listed : reading ∈ readings) {events : List Event}
    (passes : Passes (readings.flatMap (statements type receiver)) events) :
    reading.SetOnce receiver events := by
  obtain ⟨before, after, rfl⟩ := List.append_of_mem listed
  rw [List.map_append, List.map_cons, List.nodup_append] at distinct
  obtain ⟨_, others, apart⟩ := distinct
  rw [List.flatMap_append, List.flatMap_cons] at passes
  obtain ⟨first, rest, early, following, rfl⟩ := passes_append.mp passes
  obtain ⟨own, last, here, late, rfl⟩ := passes_append.mp following
  obtain ⟨way, among, rfl⟩ := passes_statements.mp here
  have once := (value_ways_set_once among).within
    (fun _ member => @check_aside reading type _ _ (.inl member)) (List.forall_mem_nil _)
  rw [List.append_nil] at once
  apply once.within
  · refine fields_aside (fun other inside same => ?_) early
    exact apart other.member (List.mem_map_of_mem inside) reading.member List.mem_cons_self same.symm
  · refine fields_aside (fun other inside same => ?_) late
    apply (List.nodup_cons.mp others).1
    rw [same]
    exact List.mem_map_of_mem inside

end Events

end FieldReading

end ApiScaffold.Server
