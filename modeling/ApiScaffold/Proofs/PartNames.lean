import ApiScaffold.Proofs.Fragments

/-!
What the declarations of a part refer to, read off their forms. Comments refer to nothing.
-/

namespace ApiScaffold.Go

open Source

def Entry.names (entry : Entry) : List Fragment := entry.rest.flatMap namesOf

def Form.names : Form → List Fragment
  | .struct _ _ groups => groups.flatMap fun group => group.members.flatMap Entry.names
  | .interface _ groups => groups.flatMap fun group => group.methods.flatMap namesOf
  | .type _ definition => namesOf definition
  | .synonym _ definition => namesOf definition
  | .constants entries => entries.flatMap Entry.names
  | .globals entries => entries.flatMap Entry.names
  | .global _ value => namesOf value
  | .function _ signature body => namesOf signature ++ Statement.names body
  | .method _ _ signature body => namesOf signature ++ Statement.names body
  | .marker _ _ => []

namespace Part

def names (part : Part) : List Fragment :=
  part.declarations.flatMap fun declaration => declaration.form.names

@[simp] theorem names_append (first second : Part) :
    (first ++ second).names = first.names ++ second.names :=
  List.flatMap_append

@[simp] theorem mentions_append (first second : Part) :
    (first ++ second).mentions = first.mentions ++ second.mentions := rfl

theorem declares_join (parts : List Part) :
    (join parts).declares = parts.flatMap (·.declares) := by
  induction parts with
  | nil => rfl
  | cons part rest induction =>
      rw [List.flatMap_cons, ← induction]
      rfl

theorem mentions_join (parts : List Part) :
    (join parts).mentions = parts.flatMap (·.mentions) := by
  induction parts with
  | nil => rfl
  | cons part rest induction =>
      rw [List.flatMap_cons, ← induction]
      rfl

theorem names_join (parts : List Part) : (join parts).names = parts.flatMap names := by
  induction parts with
  | nil => rfl
  | cons part rest induction =>
      rw [List.flatMap_cons, ← induction]
      exact names_append part (join rest)

end Part

theorem names_comment (comment : List String) : Layout.names (commentLayout comment) = [] := by
  unfold commentLayout
  induction comment with
  | nil => rfl
  | cons line rest induction =>
      rw [List.map_cons, Layout.names_line, induction]
      rfl

theorem names_cells (entries : List Entry) :
    (entries.map Entry.cells).flatten.flatMap namesOf = entries.flatMap Entry.names := by
  induction entries with
  | nil => rfl
  | cons entry rest induction =>
      rw [List.map_cons, List.flatten_cons, List.flatMap_append, induction]
      rfl

theorem names_member_group (group : MemberGroup) :
    Layout.names group.layout = group.members.flatMap Entry.names := by
  unfold MemberGroup.layout
  rw [Layout.names_append, names_comment, Layout.names_rows, names_cells]
  exact List.append_nil _

theorem names_method_group (group : MethodGroup) :
    Layout.names group.layout = group.methods.flatMap namesOf := by
  have lines : ∀ methods : List Code,
      Layout.names (methods.map Layout.line) = methods.flatMap namesOf := by
    intro methods
    induction methods with
    | nil => rfl
    | cons method rest induction =>
        rw [List.map_cons, Layout.names_line, induction, List.flatMap_cons]
  unfold MethodGroup.layout
  rw [Layout.names_append, names_comment, lines]
  rfl

theorem names_receiver (receiver : Receiver) : namesOf receiver.code = [] := by
  obtain ⟨name, type, pointer⟩ := receiver
  cases pointer <;> rfl

theorem names_form (form : Form) : Layout.names [form.layout] = form.names := by
  cases form <;>
    simp [Form.layout, Form.braced, Form.names, Layout.names_flat_map, names_member_group,
      names_method_group, names_cells, names_receiver]

theorem names_part (part : Part) : Layout.names part.layouts = part.names := by
  unfold Part.layouts Part.names
  rw [Layout.names_flat_map]
  congr 1
  funext declaration
  unfold Declaration.layout
  rw [List.cons_append, Layout.names_gap, Layout.names_append, names_comment, names_form]
  rfl

end ApiScaffold.Go
