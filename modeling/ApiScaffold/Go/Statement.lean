import ApiScaffold.Source.Layout

/-!
Statements, as far as they matter for what a function does: what is assigned, where a function
returns, and under which conditions.
-/

namespace ApiScaffold.Go

open Source

inductive Statement where
  | plain (code : Code)
  | assign (target value : Code)
  /-- Introduces variables. -/
  | define (names : List String) (value : Code)
  /-- Introduces a variable with the zero value of its type. -/
  | zeroed (name : String) (type : Code)
  | give (values : List Code)
  | when (condition : Code) (body : List Statement)
  /-- The second body runs if the condition fails. -/
  | choose (condition : Code) (body otherwise : List Statement)
  /-- The second body runs if the first condition fails and the second one holds. -/
  | chooseFirst (first : Code) (body : List Statement) (second : Code)
      (secondBody : List Statement)
  /-- A loop over the items of a source. -/
  | each (names : List String) (source : Code) (body : List Statement)
  /-- A function that is returned. -/
  | block (header : Code) (body : List Statement)
  | cases (subject : Code) (branches : List (Code × List Statement))
      (otherwise : Option (List Statement))
  /-- A table between an opening and a closing line. -/
  | listing (opening : Code) (table : List (List Code)) (closing : Code)
  | gap
deriving Repr

namespace Statement

def opening (header : Code) : Code := header ++ [Fragment.text " \x7b"]

def giveLine : List Code → Code
  | [] => "return"
  | values => Fragment.text "return " :: separated ", " values

mutual
def layout : Statement → List Layout
  | plain code => [.line code]
  | assign target value => [.line (code [target, " = ", value])]
  | define names value => [.line (code [String.intercalate ", " names, " := ", value])]
  | zeroed name type => [.line (code ["var ", name, " ", type])]
  | give values => [.line (giveLine values)]
  | when condition body => [.block (opening ("if " :: condition)) (layouts body) "\x7d"]
  | choose condition body otherwise => [
      .line (opening ("if " :: condition)), .nested (layouts body),
      .line "\x7d else \x7b", .nested (layouts otherwise), .line "\x7d"]
  | chooseFirst first body second secondBody => [
      .line (opening ("if " :: first)), .nested (layouts body),
      .line (opening ("\x7d else if " :: second)), .nested (layouts secondBody), .line "\x7d"]
  | each names source body =>
    let header := code ["for ", String.intercalate ", " names, " := range ", source]
    [.block (opening header) (layouts body) "\x7d"]
  | block header body => [.block (opening header) (layouts body) "\x7d"]
  | cases subject branches otherwise =>
    .line (opening ("switch " :: subject)) :: branchLayouts branches ++
      otherwiseLayouts otherwise ++ [.line "\x7d"]
  | listing opening table closing => [.block opening [.rows table] closing]
  | gap => [.gap]
termination_by structural statement => statement

def layouts : List Statement → List Layout
  | [] => []
  | statement :: rest => layout statement ++ layouts rest
termination_by structural statements => statements

def branchLayouts : List (Code × List Statement) → List Layout
  | [] => []
  | (label, body) :: rest =>
    .line (code ["case ", label, ":"]) :: .nested (layouts body) :: branchLayouts rest
termination_by structural branches => branches

def otherwiseLayouts : Option (List Statement) → List Layout
  | none => []
  | some body => [.line "default:", .nested (layouts body)]
termination_by structural otherwise => otherwise
end

section

variable (code target value type condition first second source header subject opening' closing : Code)
  (names : List String) (name : String) (values : List Code) (table : List (List Code))
  (body otherwise secondBody : List Statement) (branches : List (Code × List Statement))
  (last : Option (List Statement))

@[simp] theorem layout_plain : layout (.plain code) = [.line code] := rfl

@[simp] theorem layout_assign :
    layout (.assign target value) = [.line (ApiScaffold.Source.code [target, " = ", value])] := rfl

@[simp] theorem layout_define : layout (.define names value) =
    [.line (ApiScaffold.Source.code [String.intercalate ", " names, " := ", value])] := rfl

@[simp] theorem layout_zeroed : layout (.zeroed name type) =
    [.line (ApiScaffold.Source.code ["var ", name, " ", type])] := rfl

@[simp] theorem layout_give : layout (.give values) = [.line (giveLine values)] := rfl

@[simp] theorem layout_when : layout (.when condition body) =
    [.block (opening ("if " :: condition)) (layouts body) "\x7d"] := rfl

@[simp] theorem layout_choose : layout (.choose condition body otherwise) = [
    .line (opening ("if " :: condition)), .nested (layouts body),
    .line "\x7d else \x7b", .nested (layouts otherwise), .line "\x7d"] := rfl

@[simp] theorem layout_choose_first : layout (.chooseFirst first body second secondBody) = [
    .line (opening ("if " :: first)), .nested (layouts body),
    .line (opening ("\x7d else if " :: second)), .nested (layouts secondBody),
    .line "\x7d"] := rfl

@[simp] theorem layout_each : layout (.each names source body) =
    [.block (opening (ApiScaffold.Source.code
      ["for ", String.intercalate ", " names, " := range ", source])) (layouts body) "\x7d"] := rfl

@[simp] theorem layout_block : layout (.block header body) =
    [.block (opening header) (layouts body) "\x7d"] := rfl

@[simp] theorem layout_cases : layout (.cases subject branches last) =
    .line (opening ("switch " :: subject)) :: branchLayouts branches ++ otherwiseLayouts last ++
      [.line "\x7d"] := rfl

@[simp] theorem layout_listing : layout (.listing opening' table closing) =
    [.block opening' [.rows table] closing] := rfl

@[simp] theorem layout_gap : layout .gap = [.gap] := rfl

@[simp] theorem branch_layouts_nil : branchLayouts [] = [] := rfl

@[simp] theorem branch_layouts_cons : branchLayouts ((code, body) :: branches) =
    .line (ApiScaffold.Source.code ["case ", code, ":"]) :: .nested (layouts body) ::
      branchLayouts branches := rfl

@[simp] theorem otherwise_layouts_none : otherwiseLayouts none = [] := rfl

@[simp] theorem otherwise_layouts_some : otherwiseLayouts (some body) =
    [.line "default:", .nested (layouts body)] := rfl

end

theorem layouts_cons (statement : Statement) (rest : List Statement) :
    layouts (statement :: rest) = layout statement ++ layouts rest := rfl

theorem layouts_append (first second : List Statement) :
    layouts (first ++ second) = layouts first ++ layouts second := by
  induction first with
  | nil => rfl
  | cons statement rest induction => simp [layouts_cons, induction]

end Statement

end ApiScaffold.Go
