import ApiScaffold.Go.File
import ApiScaffold.Proofs.PartNames

/-!
The statements of a function at every depth. A statement is listed before what is inside of it, so
whatever is asked of some statement anywhere in a body is asked of this list: which structs it
declares for itself, and which blocks it has.
-/

namespace ApiScaffold.Go

open Source

namespace Statement

mutual
def whole : Statement → List Statement
  | plain code => [plain code]
  | assign target value => [assign target value]
  | define names value => [define names value]
  | zeroed name type => [zeroed name type]
  | give values => [give values]
  | when condition body => when condition body :: wholes body
  | choose condition body otherwise =>
    choose condition body otherwise :: (wholes body ++ wholes otherwise)
  | chooseFirst first body second secondBody =>
    chooseFirst first body second secondBody :: (wholes body ++ wholes secondBody)
  | each names source body => each names source body :: wholes body
  | block header body => block header body :: wholes body
  | cases subject branches otherwise =>
    cases subject branches otherwise :: (branchWholes branches ++ otherwiseWholes otherwise)
  | listing opening table closing => [listing opening table closing]
  | gap => [gap]
termination_by structural statement => statement

def wholes : List Statement → List Statement
  | [] => []
  | statement :: rest => whole statement ++ wholes rest
termination_by structural statements => statements

def branchWholes : List (Code × List Statement) → List Statement
  | [] => []
  | (_, body) :: rest => wholes body ++ branchWholes rest
termination_by structural branches => branches

def otherwiseWholes : Option (List Statement) → List Statement
  | none => []
  | some body => wholes body
termination_by structural otherwise => otherwise
end

@[simp] theorem wholes_nil : wholes [] = [] := rfl

theorem wholes_cons (statement : Statement) (rest : List Statement) :
    wholes (statement :: rest) = whole statement ++ wholes rest := rfl

@[simp] theorem wholes_append (first second : List Statement) :
    wholes (first ++ second) = wholes first ++ wholes second := by
  induction first with
  | nil => rfl
  | cons statement rest induction =>
      rw [List.cons_append, wholes_cons, wholes_cons, induction, List.append_assoc]

theorem wholes_flat_map {α : Type} (items : List α) (body : α → List Statement) :
    wholes (items.flatMap body) = items.flatMap fun item => wholes (body item) := by
  induction items with
  | nil => rfl
  | cons item rest induction =>
      rw [List.flatMap_cons, List.flatMap_cons, wholes_append, induction]

theorem branch_wholes (branches : List (Code × List Statement)) :
    branchWholes branches = branches.flatMap fun branch => wholes branch.2 := by
  induction branches with
  | nil => rfl
  | cons branch rest induction =>
      rw [branchWholes, induction, List.flatMap_cons]

def gather {α : Type} (own : Statement → List α) (body : List Statement) : List α :=
  (wholes body).flatMap own

section

variable {α : Type} (own : Statement → List α)
  (code target value type condition first second source header subject opening closing : Code)
  (names : List String) (name : String) (values : List Code) (table : List (List Code))
  (body otherwise secondBody rest : List Statement) (branches : List (Code × List Statement))
  (last : Option (List Statement))

@[simp] theorem gather_nil : gather own [] = [] := rfl

@[simp] theorem gather_append :
    gather own (body ++ rest) = gather own body ++ gather own rest := by
  unfold gather
  rw [wholes_append, List.flatMap_append]

theorem gather_cons (statement : Statement) :
    gather own (statement :: rest) = (whole statement).flatMap own ++ gather own rest :=
  List.flatMap_append

@[simp] theorem gather_plain :
    gather own (.plain code :: rest) = own (.plain code) ++ gather own rest := rfl

@[simp] theorem gather_assign :
    gather own (.assign target value :: rest) = own (.assign target value) ++ gather own rest := rfl

@[simp] theorem gather_define :
    gather own (.define names value :: rest) = own (.define names value) ++ gather own rest := rfl

@[simp] theorem gather_zeroed :
    gather own (.zeroed name type :: rest) = own (.zeroed name type) ++ gather own rest := rfl

@[simp] theorem gather_give :
    gather own (.give values :: rest) = own (.give values) ++ gather own rest := rfl

@[simp] theorem gather_listing : gather own (.listing opening table closing :: rest) =
    own (.listing opening table closing) ++ gather own rest := rfl

@[simp] theorem gather_gap : gather own (.gap :: rest) = own .gap ++ gather own rest := rfl

@[simp] theorem gather_when : gather own (.when condition body :: rest) =
    own (.when condition body) ++ gather own body ++ gather own rest := gather_cons own rest _

@[simp] theorem gather_each : gather own (.each names source body :: rest) =
    own (.each names source body) ++ gather own body ++ gather own rest := gather_cons own rest _

@[simp] theorem gather_block : gather own (.block header body :: rest) =
    own (.block header body) ++ gather own body ++ gather own rest := gather_cons own rest _

@[simp] theorem gather_choose : gather own (.choose condition body otherwise :: rest) =
    own (.choose condition body otherwise) ++ gather own (body ++ otherwise) ++
      gather own rest := by
  rw [gather_cons, whole, List.flatMap_cons, ← wholes_append]
  rfl

@[simp] theorem gather_choose_first :
    gather own (.chooseFirst first body second secondBody :: rest) =
      own (.chooseFirst first body second secondBody) ++ gather own (body ++ secondBody) ++
        gather own rest := by
  rw [gather_cons, whole, List.flatMap_cons, ← wholes_append]
  rfl

theorem gather_flat_map {β : Type} (items : List β) (bodies : β → List Statement) :
    gather own (items.flatMap bodies) = items.flatMap fun item => gather own (bodies item) := by
  unfold gather
  rw [wholes_flat_map, List.flatMap_assoc]

@[simp] theorem gather_cases : gather own (.cases subject branches last :: rest) =
    own (.cases subject branches last) ++
      ((branches.flatMap fun branch => gather own branch.2) ++ gather own (last.getD [])) ++
        gather own rest := by
  have labelled : (branchWholes branches).flatMap own =
      branches.flatMap fun branch => gather own branch.2 := by
    rw [branch_wholes, List.flatMap_assoc]
    rfl
  have unlabelled : otherwiseWholes last = wholes (last.getD []) := by
    cases last <;> rfl
  rw [gather_cons, whole, List.flatMap_cons, List.flatMap_append, labelled, unlabelled]
  rfl

end

end Statement

def Form.body : Form → List Statement
  | .function _ _ body => body
  | .method _ _ _ body => body
  | _ => []

namespace Part

theorem declarations_append (first second : Part) :
    (first ++ second).declarations = first.declarations ++ second.declarations := rfl

theorem declarations_join (parts : List Part) :
    (join parts).declarations = parts.flatMap (·.declarations) := by
  induction parts with
  | nil => rfl
  | cons part rest induction =>
      rw [List.flatMap_cons, ← induction]
      rfl

theorem declarations_subset_join {parts : List Part} {part : Part} (among : part ∈ parts) :
    part.declarations ⊆ (join parts).declarations := by
  intro declaration listed
  rw [declarations_join]
  exact List.mem_flatMap.mpr ⟨part, among, listed⟩

def Every (holds : Declaration → Prop) (part : Part) : Prop :=
  ∀ declaration ∈ part.declarations, holds declaration

variable {holds : Declaration → Prop}

theorem every_empty : Every holds {} := List.forall_mem_nil _

@[simp] theorem every_append (first second : Part) :
    (first ++ second).Every holds ↔ first.Every holds ∧ second.Every holds :=
  List.forall_mem_append

theorem every_join (parts : List Part) :
    (join parts).Every holds ↔ ∀ part ∈ parts, part.Every holds := by
  unfold Every
  rw [declarations_join]
  simp only [List.mem_flatMap]
  constructor
  · exact fun all part member declaration inside => all declaration ⟨part, member, inside⟩
  · rintro all declaration ⟨part, member, inside⟩
    exact all part member declaration inside

theorem every_join_map {α : Type} (items : List α) (parts : α → Part) :
    (join (items.map parts)).Every holds ↔ ∀ item ∈ items, (parts item).Every holds := by
  rw [every_join, List.forall_mem_map]

end Part

end ApiScaffold.Go
