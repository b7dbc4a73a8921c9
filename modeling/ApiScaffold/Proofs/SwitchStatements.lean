import ApiScaffold.Go.Statement

/-!
Which branch of a switch runs, and which values a list of statements returns. A switch is decided by
the first of its labels that is selected; where no branch returns, the statements after it go on.
-/

namespace ApiScaffold.Go.Statement

open Source

/-- The body of the first branch whose label is selected, or else the one of the default. -/
def chosen (selects : Code → Bool) (branches : List (Code × List Statement))
    (otherwise : Option (List Statement)) : Option (List Statement) :=
  ((branches.find? fun branch => selects branch.1).map (·.2)).or otherwise

@[simp] theorem chosen_nil (selects : Code → Bool) (otherwise : Option (List Statement)) :
    chosen selects [] otherwise = otherwise := rfl

@[simp] theorem chosen_cons (selects : Code → Bool) (label : Code) (body : List Statement)
    (rest : List (Code × List Statement)) (otherwise : Option (List Statement)) :
    chosen selects ((label, body) :: rest) otherwise =
      if selects label then some body else chosen selects rest otherwise := by
  unfold chosen
  rw [List.find?_cons]
  cases selects label <;> simp

/-- Where labels differ, each of them selects its own branch. -/
theorem chosen_own {branches : List (Code × List Statement)} {branch : Code × List Statement}
    (distinct : (branches.map (·.1)).Nodup) (listed : branch ∈ branches)
    (otherwise : Option (List Statement)) :
    chosen (· == branch.1) branches otherwise = some branch.2 := by
  induction branches with
  | nil => cases listed
  | cons first rest induction =>
      obtain ⟨fresh, others⟩ := List.nodup_cons.mp distinct
      rw [chosen_cons]
      rcases List.mem_cons.mp listed with rfl | later
      · exact if_pos (beq_self_eq_true _)
      · have differs : first.1 ≠ branch.1 := fun same =>
          fresh (List.mem_map.mpr ⟨branch, later, same.symm⟩)
        rw [if_neg (by simpa using differs)]
        exact induction others later

/-- What a body of definitions, switches and returns gives back: values if it returns, and nothing
if it comes to its end. Labels are selected by the subject of their switch. -/
inductive Gives (selects : Code → Code → Bool) : List Statement → Option (List Code) → Prop where
  | done : Gives selects [] none
  | give (values : List Code) (rest : List Statement) :
      Gives selects (.give values :: rest) (some values)
  | define (names : List String) (value : Code) {rest : List Statement}
      {result : Option (List Code)} :
      Gives selects rest result → Gives selects (.define names value :: rest) result
  /-- The branch that is chosen returns. -/
  | returned {subject : Code} {branches : List (Code × List Statement)}
      {otherwise : Option (List Statement)} {body : List Statement} {values : List Code}
      (rest : List Statement) :
      chosen (selects subject) branches otherwise = some body → Gives selects body (some values) →
        Gives selects (.cases subject branches otherwise :: rest) (some values)
  /-- The branch that is chosen comes to its end. -/
  | through {subject : Code} {branches : List (Code × List Statement)}
      {otherwise : Option (List Statement)} {body rest : List Statement}
      {result : Option (List Code)} :
      chosen (selects subject) branches otherwise = some body → Gives selects body none →
        Gives selects rest result → Gives selects (.cases subject branches otherwise :: rest) result
  /-- No branch is chosen. -/
  | past {subject : Code} {branches : List (Code × List Statement)}
      {otherwise : Option (List Statement)} {rest : List Statement}
      {result : Option (List Code)} :
      chosen (selects subject) branches otherwise = none → Gives selects rest result →
        Gives selects (.cases subject branches otherwise :: rest) result

/-- A body gives back one result at most. -/
theorem Gives.unique {selects : Code → Code → Bool} {body : List Statement}
    {first second : Option (List Code)} (here : Gives selects body first)
    (there : Gives selects body second) : first = second := by
  induction here generalizing second with
  | done =>
      cases there
      rfl
  | give =>
      cases there
      rfl
  | define _ _ _ induction =>
      cases there with
      | define _ _ later => exact induction later
  | returned _ own _ induction =>
      cases there with
      | returned _ own' inside =>
          cases own.symm.trans own'
          exact induction inside
      | through own' inside =>
          cases own.symm.trans own'
          cases induction inside
      | past none' => cases own.symm.trans none'
  | through own _ _ inner outer =>
      cases there with
      | returned _ own' inside =>
          cases own.symm.trans own'
          cases inner inside
      | through _ _ later => exact outer later
      | past none' => cases own.symm.trans none'
  | past none _ induction =>
      cases there with
      | returned _ own' _ => cases none.symm.trans own'
      | through own' _ _ => cases none.symm.trans own'
      | past _ later => exact induction later

end ApiScaffold.Go.Statement
