import ApiScaffold.Proofs.CamelCase
import ApiScaffold.Proofs.Numerals
import ApiScaffold.Proofs.OperationDrawing

/-!
Names of a program hold no separators. Whatever a name is made of, the characters that end a segment
are left out of it and no change of case brings one back, so the names of components and operations
are each in one piece. They start with no small letter either, unless the document gives no capital.
-/

namespace ApiScaffold.Identifier

def CleanChars (chars : List Char) : Prop := ∀ c ∈ chars, isSeparator c = false

def Clean (name : String) : Prop := CleanChars name.toList

theorem separators_are_signs : ∀ c ∈ separators,
    c.toNat < 0x80 ∧ Text.isAsciiLetter c = false ∧ Text.isAsciiDigit c = false := by decide

theorem clean_of_foreign {c : Char} (foreign : 0x80 ≤ c.toNat ∨ Text.isAsciiLetter c = true) :
    isSeparator c = false := by
  rw [Bool.eq_false_iff]
  intro separator
  obtain ⟨early, sign, _⟩ := separators_are_signs c (List.contains_iff_mem.mp separator)
  rcases foreign with late | letter
  · omega
  · rw [sign] at letter
    cases letter

theorem case_form_clean {c d : Char} (clean : isSeparator d = false)
    (form : c ∈ Text.caseForms d) : isSeparator c = false := by
  rcases Text.mem_case_forms form with late | letter | rfl
  · exact clean_of_foreign (.inl late)
  · exact clean_of_foreign (.inr letter)
  · exact clean

namespace CleanChars

variable {first second : List Char}

theorem append (here : CleanChars first) (there : CleanChars second) :
    CleanChars (first ++ second) := List.forall_mem_append.mpr ⟨here, there⟩

theorem flat_map {α : Type} {items : List α} {chars : α → List Char}
    (each : ∀ item ∈ items, CleanChars (chars item)) : CleanChars (items.flatMap chars) := by
  intro c member
  obtain ⟨item, listed, inside⟩ := List.mem_flatMap.mp member
  exact each item listed c inside

theorem capitalise (clean : CleanChars first) : CleanChars (Text.capitalise first) := by
  cases first with
  | nil => exact clean
  | cons c rest =>
      obtain ⟨own, others⟩ := List.forall_mem_cons.mp clean
      refine append (fun form member => ?_) others
      exact case_form_clean own (List.mem_append_left _ (List.mem_append_left _ member))

theorem capitalise_ending {ending : List Char} (given : CleanChars ending)
    (clean : CleanChars first) : CleanChars (capitaliseEnding ending first) := by
  unfold capitaliseEnding
  dsimp only
  split
  · exact append (fun c member => clean c (List.mem_of_mem_take member)) given
  · exact clean

theorem unbroken (clean : CleanChars first) : Unbroken first := by
  have cuts : ∀ c, isWordSeparator c = true → c ∈ ['-', '_', ' '] := by
    intro c separator
    simpa [isWordSeparator, or_assoc] using separator
  have listed : ∀ c ∈ ['-', '_', ' '], isSeparator c = true := by decide
  intro c member
  rw [Bool.eq_false_iff]
  intro separator
  have known := clean c member
  rw [listed c (cuts c separator)] at known
  cases known

end CleanChars

theorem normalise_chars_clean (name : List Char) : CleanChars (normaliseChars name) := by
  have segments : CleanChars (joinSegments name) := by
    apply CleanChars.flat_map
    intro piece listed
    apply CleanChars.capitalise
    exact fun c inside => (Text.mem_of_mem_splitWhere listed inside).2
  have uuid : CleanChars "UUID".toList := by unfold CleanChars; decide
  have id : CleanChars "ID".toList := by unfold CleanChars; decide
  exact .capitalise_ending id (.capitalise_ending uuid segments)

namespace Clean

variable {first second : String}

theorem append (here : Clean first) (there : Clean second) : Clean (first ++ second) := by
  unfold Clean
  rw [String.toList_append]
  exact CleanChars.append here there

theorem unbroken (clean : Clean first) : Unbroken first.toList := CleanChars.unbroken clean

end Clean

theorem normalise_clean (name : String) : Clean (normalise name) := by
  unfold Clean normalise
  rw [String.toList_ofList]
  exact normalise_chars_clean _

theorem exported_clean (name : String) : Clean (exported name) := by
  have letter : Clean "X" := by unfold Clean CleanChars; decide
  unfold exported
  dsimp only
  split
  · exact letter.append (normalise_clean name)
  · exact normalise_clean name

theorem of_operation_clean (path method : String) : Clean (ofOperation path method) :=
  normalise_clean _

theorem of_content_type_clean (contentType : String) : Clean (ofContentType contentType) := by
  unfold Clean ofContentType
  dsimp only
  rw [String.toList_ofList]
  exact .flat_map fun segment _ => normalise_chars_clean _

theorem number_clean (number : Nat) : Clean (toString number) := by
  intro c member
  rw [Bool.eq_false_iff]
  intro separator
  have sign := (separators_are_signs c (List.contains_iff_mem.mp separator)).2.2
  rw [number_digits member] at sign
  cases sign

def Starts (holds : Char → Prop) (chars : List Char) : Prop :=
  ∀ first rest, chars = first :: rest → holds first

namespace Starts

variable {holds : Char → Prop} {first second : List Char}

theorem append (here : Starts holds first) (there : Starts holds second) :
    Starts holds (first ++ second) := by
  cases first with
  | nil => exact there
  | cons c rest =>
      rintro _ _ ⟨⟩
      exact here c rest rfl

theorem flat_map {α : Type} {items : List α} {chars : α → List Char}
    (each : ∀ item ∈ items, Starts holds (chars item)) : Starts holds (items.flatMap chars) := by
  induction items with
  | nil => exact nofun
  | cons item rest induction =>
      obtain ⟨own, others⟩ := List.forall_mem_cons.mp each
      exact append own (induction others)

theorem take (starts : Starts holds first) (count : Nat) : Starts holds (first.take count) := by
  rintro c rest same
  cases first with
  | nil =>
      rw [List.take_nil] at same
      cases same
  | cons d more =>
      cases count with
      | zero => cases same
      | succ count =>
          cases same
          exact starts _ _ rfl

theorem capitalise_ending {ending : List Char} (given : Starts holds ending)
    (starts : Starts holds first) : Starts holds (capitaliseEnding ending first) := by
  unfold capitaliseEnding
  dsimp only
  split
  · exact append (starts.take _) given
  · exact starts

/-- An identifier starts with the capitals of a character, or with one of the endings. -/
theorem normalise_chars (capital : ∀ chars, Starts holds (Text.capitalise chars)) (i : holds 'I')
    (u : holds 'U') (name : List Char) : Starts holds (normaliseChars name) := by
  have id : Starts holds "ID".toList := by
    rintro _ _ ⟨⟩
    exact i
  have uuid : Starts holds "UUID".toList := by
    rintro _ _ ⟨⟩
    exact u
  exact capitalise_ending id (capitalise_ending uuid (flat_map fun piece _ => capital piece))

end Starts

/-- Characters that do not start with one of the small letters. -/
abbrev StartsLarge (chars : List Char) : Prop := Starts (fun c => Text.isAsciiLower c = false) chars

theorem capitalise_starts_large (chars : List Char) : StartsLarge (Text.capitalise chars) := by
  cases chars with
  | nil => exact nofun
  | cons c rest =>
      intro form more same
      cases forms : Text.upperChar c with
      | nil => exact absurd forms (Text.upper_char_ne_nil c)
      | cons head tail =>
          rw [Text.capitalise, forms] at same
          cases same
          have letters := Text.mem_upper_char (forms ▸ List.mem_cons_self : form ∈ Text.upperChar c)
          rw [Bool.eq_false_iff]
          intro small
          have code := Text.is_ascii_lower_iff.mp small
          rcases letters with late | upper | ⟨rfl, other⟩
          · omega
          · have := Text.is_ascii_upper_iff.mp upper
            omega
          · rw [other] at small
            cases small

theorem normalise_chars_start_large (name : List Char) : StartsLarge (normaliseChars name) :=
  Starts.normalise_chars capitalise_starts_large (by decide) (by decide) name

theorem of_content_type_starts_large (contentType : String) :
    StartsLarge (ofContentType contentType).toList := by
  unfold ofContentType
  dsimp only
  rw [String.toList_ofList]
  exact Starts.flat_map fun segment _ => normalise_chars_start_large _

end ApiScaffold.Identifier

namespace ApiScaffold.Blueprint

open Identifier (Clean exported_clean number_clean of_operation_clean of_content_type_clean)

theorem beneath_clean {identifiers : List String} {hint name : String}
    (clean : ∀ identifier ∈ identifiers, Clean identifier) (start : Clean hint)
    (beneath : Beneath identifiers hint name) : Clean name := by
  have words : ∀ word ∈ ["Item", "Value", "AllOf", "OneOf", "AnyOf"], Clean word := by
    unfold Clean Identifier.CleanChars
    decide
  exact beneath.hands_on (fun _ _ here there => Identifier.Clean.append here there) words
    number_clean clean start

theorem label_clean (status : Status) : Clean status.label := by
  have fixed : Clean "XX" ∧ Clean "Default" := by
    unfold Clean Identifier.CleanChars
    decide
  cases status with
  | code value => exact number_clean value
  | range leading => exact (number_clean leading).append fixed.1
  | default => exact fixed.2

theorem title_clean (place : Place) : Clean place.title := by
  unfold Clean Identifier.CleanChars
  cases place <;> decide

namespace Operation.Drafted

variable {operation : Operation} (drafted : operation.Drafted)

include drafted

theorem name_clean : Clean operation.name := by
  rw [drafted.named]
  exact of_operation_clean _ _

theorem request_clean {content : BodyContent} (member : content ∈ operation.bodyContents) :
    Clean content.tag := by
  rw [drafted.requests content member]
  exact of_content_type_clean _

theorem response_clean {response : Response} (answers : response ∈ operation.responses)
    {content : BodyContent} (member : content ∈ response.contents) : Clean content.tag := by
  rw [drafted.responses response answers content member]
  exact of_content_type_clean _

theorem hands_clean {hint : String} (hands : operation.Hands hint) : Clean hint := by
  have words : ∀ word ∈ ["RequestBody", "ResponseBody", "Header"], Clean word := by
    unfold Clean Identifier.CleanChars
    decide
  have name := drafted.name_clean
  cases hands with
  | parameter parameter member =>
      exact (name.append (title_clean _)).append (exported_clean _)
  | request content member own =>
      exact (name.append (drafted.request_clean member)).append (words _ (by decide))
  | response response answers content member =>
      exact ((name.append (label_clean _)).append (drafted.response_clean answers member)).append
        (words _ (by decide))
  | header response answers header member =>
      exact ((name.append (label_clean _)).append (words _ (by decide))).append (exported_clean _)

end Operation.Drafted

theorem Program.Drafted.component_clean {program : Program} (drafted : program.Drafted) :
    ∀ component ∈ program.components.values, Clean component.name := by
  refine drafted.names_hold
    (fun identifiers hint name clean start beneath => beneath_clean clean start beneath) ?_ ?_
  · intro component member identifier listed
    obtain ⟨field, _, rfl⟩ := List.mem_map.mp listed
    exact exported_clean _
  · intro hint root
    cases root with
    | declared component member key origin named =>
        rw [named]
        exact exported_clean _
    | handed operation member hint hands =>
        exact (drafted.operations operation member).hands_clean hands

end ApiScaffold.Blueprint
