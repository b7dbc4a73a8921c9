import ApiScaffold.Blueprint.Assembly
import ApiScaffold.Proofs.Folding

/-!
Short documents, whose programs can be evaluated: where a table has no more than two entries, putting
it in order takes one comparison and no recursion.
-/

namespace ApiScaffold.Blueprint

open OpenApi (Specification Document)

def programOfShort (specification : Specification) (text : String) (config : Config) :
    Drafting Program := do
  for (key, item) in
      sortShort (fun left right => left.1 ≤ right.1) specification.components.schemas do
    declareSchema specification key item
  let securitySchemes ← liftExcept do
    let schemes ← collectSchemes specification [] specification.components.securitySchemes
    return sortShort (fun left right => left.name ≤ right.name) schemes
  let operations ← collectPaths specification securitySchemes [] specification.paths
  Drafting.checkTexts
  return {
    title := specification.info.title
    components := (← get).components
    operations := sortShort Operation.precedes operations
    securitySchemes
    document := text
    config }

def lowerShort (document : Document) (config : Config) : Option Program :=
  ((programOfShort document.specification document.canonicalText config).run.run {}).1.toOption

def compileShort (document : Document) (config : Config) : Option Program :=
  (lowerShort document config).filter fun program => program.checkClosure.toOption.isSome

theorem program_of_short (specification : Specification) (text : String) (config : Config) :
    programOf specification text config = programOfShort specification text config := by
  unfold programOf programOfShort declareSchemas sortByKey operationsOf securitySchemesOf
  simp only [merge_sort_short, bind_assoc, pure_bind]

theorem lower_short (document : Document) (config : Config) :
    (lower document config).1.toOption = lowerShort document config := by
  unfold lower lowerShort
  rw [program_of_short]
  rfl

theorem compile_short (document : Document) (config : Config) :
    (compile document config).1.toOption = compileShort document config := by
  unfold compile compileShort
  rw [← lower_short]
  obtain ⟨outcome, warnings⟩ := lower document config
  cases outcome with
  | error _ => rfl
  | ok program =>
      dsimp only
      rw [to_option_ok, Option.filter_some]
      cases program.checkClosure <;> rfl

section Testing

variable {document : Document} {config : Config} {test : Program → Bool}

/-- A short document is lowered by evaluation, and what it is lowered to can be tested. -/
theorem lowered_of_short (passes : (lowerShort document config).any test = true) :
    ∃ program, (lower document config).1 = .ok program ∧ test program = true :=
  exists_ok_of_any (lower_short document config ▸ passes)

theorem compiled_of_short (passes : (compileShort document config).any test = true) :
    ∃ program, (compile document config).1 = .ok program ∧ test program = true :=
  exists_ok_of_any (compile_short document config ▸ passes)

end Testing

end ApiScaffold.Blueprint
