import ApiScaffold.Go.File

/-!
The names in code. Whatever a declaration is laid out as, its text can be left out of account: what
it refers to is the list of its other fragments, in order.
-/

namespace ApiScaffold.Source

def Fragment.isName : Fragment → Bool
  | .text _ => false
  | _ => true

def namesOf (code : Code) : List Fragment := code.filter Fragment.isName

section

variable (rest first second : Code) (pieces : List Code) (content name path : String)

@[simp] theorem names_of_nil : namesOf [] = [] := rfl

@[simp] theorem names_of_text : namesOf (.text content :: rest) = namesOf rest := rfl

@[simp] theorem names_of_own : namesOf (.own name :: rest) = .own name :: namesOf rest := rfl

@[simp] theorem names_of_component :
    namesOf (.component name :: rest) = .component name :: namesOf rest := rfl

@[simp] theorem names_of_imported :
    namesOf (.imported path name :: rest) = .imported path name :: namesOf rest := rfl

@[simp] theorem names_of_qualified :
    namesOf (.qualified path name :: rest) = .qualified path name :: namesOf rest := rfl

@[simp] theorem names_of_append : namesOf (first ++ second) = namesOf first ++ namesOf second :=
  List.filter_append first second

@[simp] theorem names_of_flatten : namesOf pieces.flatten = pieces.flatMap namesOf := by
  induction pieces with
  | nil => rfl
  | cons piece others induction =>
      rw [List.flatten_cons, names_of_append, induction, List.flatMap_cons]

@[simp] theorem names_of_code : namesOf (code pieces) = pieces.flatMap namesOf :=
  names_of_flatten pieces

@[simp] theorem names_of_separated (separator : String) :
    namesOf (separated separator pieces) = pieces.flatMap namesOf := by
  unfold separated
  rw [names_of_flatten]
  induction pieces with
  | nil => rfl
  | cons piece others induction =>
      cases others with
      | nil => rfl
      | cons next more =>
          rw [List.intersperse_cons_cons, List.flatMap_cons, List.flatMap_cons, induction,
            List.flatMap_cons]
          rfl

theorem mem_names_of_iff {fragment : Fragment} {code : Code} :
    fragment ∈ namesOf code ↔ fragment ∈ code ∧ fragment.isName = true :=
  List.mem_filter

end

namespace Layout

def names (layouts : List Layout) : List Fragment := namesOf (allFragments layouts)

section

variable (code opening closing : Code) (table : List (List Code)) (body rest : List Layout)

@[simp] theorem names_nil : names [] = [] := rfl

@[simp] theorem names_line : names (.line code :: rest) = namesOf code ++ names rest :=
  names_of_append code (allFragments rest)

@[simp] theorem names_gap : names (.gap :: rest) = names rest := rfl

@[simp] theorem names_rows :
    names (.rows table :: rest) = table.flatten.flatMap namesOf ++ names rest := by
  unfold names
  rw [allFragments, fragments, names_of_append, names_of_flatten]

@[simp] theorem names_block :
    names (.block opening body closing :: rest) =
      namesOf opening ++ names body ++ namesOf closing ++ names rest := by
  unfold names
  rw [allFragments, fragments, names_of_append, names_of_append, names_of_append]

@[simp] theorem names_nested : names (.nested body :: rest) = names body ++ names rest :=
  names_of_append (allFragments body) (allFragments rest)

@[simp] theorem names_append (first second : List Layout) :
    names (first ++ second) = names first ++ names second := by
  unfold names
  rw [allFragments_append, names_of_append]

theorem names_flat_map {α : Type} (items : List α) (layouts : α → List Layout) :
    names (items.flatMap layouts) = items.flatMap fun item => names (layouts item) := by
  induction items with
  | nil => rfl
  | cons item others induction =>
      rw [List.flatMap_cons, List.flatMap_cons, names_append, induction]

end

end Layout

end ApiScaffold.Source

namespace ApiScaffold.Go

open Source

namespace Statement

def names (statements : List Statement) : List Fragment := Layout.names (layouts statements)

section

variable (code target value condition first second subject header opening closing : Code)
  (names' : List String) (name : String) (values : List Code) (table : List (List Code))
  (body otherwise secondBody rest : List Statement)

@[simp] theorem names_nil : names [] = [] := rfl

@[simp] theorem names_append (before after : List Statement) :
    names (before ++ after) = names before ++ names after := by
  unfold names
  rw [layouts_append, Layout.names_append]

@[simp] theorem names_layouts : Layout.names (layouts body) = names body := rfl

theorem names_cons (statement : Statement) :
    names (statement :: rest) = Layout.names (layout statement) ++ names rest :=
  Layout.names_append (layout statement) (layouts rest)

theorem names_flat_map {α : Type} (items : List α) (statements : α → List Statement) :
    names (items.flatMap statements) = items.flatMap fun item => names (statements item) := by
  induction items with
  | nil => rfl
  | cons item others induction =>
      rw [List.flatMap_cons, List.flatMap_cons, names_append, induction]

@[simp] theorem names_of_opening : namesOf (Statement.opening header) = namesOf header := by
  simp [Statement.opening]

@[simp] theorem names_plain : names (.plain code :: rest) = namesOf code ++ names rest := by
  simp [names_cons]

@[simp] theorem names_assign :
    names (.assign target value :: rest) = namesOf target ++ namesOf value ++ names rest := by
  simp [names_cons]

@[simp] theorem names_define :
    names (.define names' value :: rest) = namesOf value ++ names rest := by
  simp [names_cons]

@[simp] theorem names_zeroed : names (.zeroed name code :: rest) = namesOf code ++ names rest := by
  simp [names_cons]

@[simp] theorem names_give :
    names (.give values :: rest) = values.flatMap namesOf ++ names rest := by
  cases values <;> simp [names_cons, giveLine]

@[simp] theorem names_when :
    names (.when condition body :: rest) = namesOf condition ++ names body ++ names rest := by
  simp [names_cons]

@[simp] theorem names_choose :
    names (.choose condition body otherwise :: rest) =
      namesOf condition ++ names body ++ names otherwise ++ names rest := by
  simp [names_cons]

@[simp] theorem names_choose_first :
    names (.chooseFirst first body second secondBody :: rest) =
      namesOf first ++ names body ++ namesOf second ++ names secondBody ++ names rest := by
  simp [names_cons]

@[simp] theorem names_each :
    names (.each names' value body :: rest) = namesOf value ++ names body ++ names rest := by
  simp [names_cons]

@[simp] theorem names_block :
    names (.block header body :: rest) = namesOf header ++ names body ++ names rest := by
  simp [names_cons]

@[simp] theorem names_listing :
    names (.listing opening table closing :: rest) =
      namesOf opening ++ table.flatten.flatMap namesOf ++ namesOf closing ++ names rest := by
  simp [names_cons]

@[simp] theorem names_gap : names (.gap :: rest) = names rest := by
  simp [names_cons]

@[simp] theorem names_branches (branches : List (Code × List Statement)) :
    Layout.names (branchLayouts branches) =
      branches.flatMap fun branch => namesOf branch.1 ++ names branch.2 := by
  induction branches with
  | nil => simp
  | cons branch others induction =>
      obtain ⟨label, body⟩ := branch
      simp [induction]

@[simp] theorem names_cases (branches : List (Code × List Statement))
    (last : Option (List Statement)) :
    names (.cases subject branches last :: rest) =
      namesOf subject ++ branches.flatMap (fun branch => namesOf branch.1 ++ names branch.2) ++
        names (last.getD []) ++ names rest := by
  cases last <;> simp [names_cons]

end

end Statement

end ApiScaffold.Go
