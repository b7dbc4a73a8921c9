import ApiScaffold.Proofs.Permuted

/-!
Folds that may fail. Where steps over different items may be exchanged, a fold does not depend on the
order of its items; where steps keep a relation, related lists lead to related results.
-/

namespace ApiScaffold

section Outcomes

variable {ε α β : Type}

@[simp] theorem to_option_ok (value : α) : (Except.ok value : Except ε α).toOption = some value := rfl

@[simp] theorem to_option_error (failure : ε) :
    (Except.error failure : Except ε α).toOption = none := rfl

theorem to_option_eq_some {outcome : Except ε α} {value : α} :
    outcome.toOption = some value ↔ outcome = .ok value := by
  cases outcome with
  | error _ => exact ⟨nofun, nofun⟩
  | ok known => rw [to_option_ok, Option.some.injEq, Except.ok.injEq]

/-- An outcome of which something can be tested is a value that passes the test. -/
theorem exists_ok_of_any {outcome : Except ε α} {test : α → Bool}
    (passes : outcome.toOption.any test = true) :
    ∃ value, outcome = .ok value ∧ test value = true := by
  cases outcome with
  | error _ => cases passes
  | ok value => exact ⟨value, rfl, passes⟩

theorem to_option_bind (outcome : Except ε α) (next : α → Except ε β) :
    (outcome >>= next).toOption = outcome.toOption.bind fun value => (next value).toOption := by
  cases outcome <;> rfl

theorem to_option_map (outcome : Except ε α) (read : α → β) :
    (read <$> outcome).toOption = outcome.toOption.map read := by
  cases outcome <;> rfl

theorem to_option_foldlM {σ : Type} (step : σ → α → Except ε σ) (items : List α) (state : σ) :
    (items.foldlM step state).toOption =
      items.foldlM (fun state item => (step state item).toOption) state := by
  induction items generalizing state with
  | nil => rfl
  | cons item rest induction =>
      rw [List.foldlM_cons, List.foldlM_cons, to_option_bind]
      congr 1
      funext next
      exact induction next

/-- What no step changes is at the end as it was at the start. -/
theorem foldlM_keeps {σ τ : Type} {view : σ → τ} {step : σ → α → Except ε σ} {items : List α}
    {start last : σ}
    (keeps : ∀ item ∈ items, ∀ state next, step state item = .ok next → view next = view state)
    (success : items.foldlM step start = .ok last) : view last = view start := by
  induction items generalizing start with
  | nil =>
      cases success
      rfl
  | cons item rest induction =>
      obtain ⟨here, others⟩ := List.forall_mem_cons.mp keeps
      rw [List.foldlM_cons] at success
      cases first : step start item with
      | error failure =>
          rw [first] at success
          cases success
      | ok next =>
          rw [first] at success
          exact (induction others success).trans (here start next first)

theorem to_option_mapM (read : α → Except ε β) (items : List α) :
    (items.mapM read).toOption = items.mapM fun item => (read item).toOption := by
  induction items with
  | nil => rfl
  | cons item rest induction =>
      rw [List.mapM_cons, List.mapM_cons, to_option_bind, ← induction]
      cases read item with
      | error _ => rfl
      | ok value => cases rest.mapM read <;> rfl

theorem mapM_reads {γ : Type} {read : α → Option β} {key : α → γ} {key' : β → γ}
    (keeps : ∀ item result, read item = some result → key' result = key item) {items : List α}
    {results : List β} (success : items.mapM read = some results) :
    results.map key' = items.map key := by
  induction items generalizing results with
  | nil =>
      cases success
      rfl
  | cons item rest induction =>
      rw [List.mapM_cons] at success
      obtain ⟨first, here, others⟩ := Option.bind_eq_some_iff.mp success
      obtain ⟨values, there, same⟩ := Option.bind_eq_some_iff.mp others
      cases same
      rw [List.map_cons, List.map_cons, keeps item first here, induction there]

end Outcomes

section Exchanging

variable {σ τ α : Type} {view : σ → τ}

theorem bind_respects {β : Type} {last : β → τ} {first second : Option σ}
    {next next' : σ → Option β} (same : first.map view = second.map view)
    (follows : ∀ state other, view state = view other →
      (next state).map last = (next' other).map last) :
    (first.bind next).map last = (second.bind next').map last := by
  cases first with
  | none => cases second with
    | none => rfl
    | some _ => cases same
  | some state => cases second with
    | none => cases same
    | some other => exact follows state other (Option.some.inj same)

variable {step : σ → α → Option σ}
  (respects : ∀ item state other, view state = view other →
    (step state item).map view = (step other item).map view)

include respects

theorem fold_respects (items : List α) {state other : σ} (same : view state = view other) :
    (items.foldlM step state).map view = (items.foldlM step other).map view := by
  induction items generalizing state other with
  | nil => exact congrArg some same
  | cons item rest induction =>
      rw [List.foldlM_cons, List.foldlM_cons]
      exact bind_respects (respects item state other same) fun _ _ => induction

/-- Where steps over different items may be exchanged, items may stand in any order. -/
theorem fold_perm {items others : List α} (order : items.Perm others)
    (exchange : ∀ first ∈ items, ∀ second ∈ items, first ≠ second → ∀ state,
      ((step state first).bind (step · second)).map view =
        ((step state second).bind (step · first)).map view)
    {state other : σ} (same : view state = view other) :
    (items.foldlM step state).map view = (others.foldlM step other).map view := by
  induction order generalizing state other with
  | nil => exact congrArg some same
  | @cons item rest rest' _ induction =>
      rw [List.foldlM_cons, List.foldlM_cons]
      apply bind_respects (respects item state other same)
      intro _ _
      apply induction
      intro first here second there
      exact exchange first (List.mem_cons_of_mem _ here) second (List.mem_cons_of_mem _ there)
  | swap first second rest =>
      apply (fold_respects respects (second :: first :: rest) same).trans
      simp only [List.foldlM_cons, Option.bind_eq_bind, ← Option.bind_assoc]
      apply bind_respects _ fun _ _ => fold_respects respects rest
      by_cases equal : second = first
      · rw [equal]
      · exact exchange second List.mem_cons_self first
          (List.mem_cons_of_mem _ List.mem_cons_self) equal other
  | @trans _ middle _ before _ induction induction' =>
      apply (induction exchange same).trans
      apply induction' _ rfl
      intro first here second there
      exact exchange first (before.mem_iff.mpr here) second (before.mem_iff.mpr there)

end Exchanging

section Relating

variable {σ σ' α β : Type} {related : α → β → Prop} {alike : σ → σ' → Prop}
  {step : σ → α → Option σ} {step' : σ' → β → Option σ'} {items : List α} {others : List β}

theorem rel_foldlM (pairs : List.Forall₂ related items others)
    (follows : ∀ item ∈ items, ∀ item', related item item' → ∀ state state', alike state state' →
      Option.Rel alike (step state item) (step' state' item'))
    {state : σ} {state' : σ'} (start : alike state state') :
    Option.Rel alike (items.foldlM step state) (others.foldlM step' state') := by
  induction pairs generalizing state state' with
  | nil => exact .some start
  | @cons item item' rest _ known _ induction =>
      rw [List.foldlM_cons, List.foldlM_cons]
      apply rel_bind (follows item List.mem_cons_self item' known state state' start)
      intro next next' _ reached
      exact induction (fun other member => follows other (List.mem_cons_of_mem _ member)) reached

/-- Lists whose members are related in some order lead to related results. -/
theorem Permuted.foldlM {τ : Type} {view : σ → τ} (permuted : Permuted related items others)
    (respects : ∀ item state other, view state = view other →
      (step state item).map view = (step other item).map view)
    (exchange : ∀ first ∈ items, ∀ second ∈ items, first ≠ second → ∀ state,
      ((step state first).bind (step · second)).map view =
        ((step state second).bind (step · first)).map view)
    (shown : ∀ state other state', view state = view other → alike other state' →
      alike state state')
    (follows : ∀ item ∈ items, ∀ item', related item item' → ∀ state state', alike state state' →
      Option.Rel alike (step state item) (step' state' item'))
    {state : σ} {state' : σ'} (start : alike state state') :
    Option.Rel alike (items.foldlM step state) (others.foldlM step' state') := by
  obtain ⟨middle, order, pairs⟩ := permuted.exists_order
  have same := fold_perm respects order exchange (rfl : view state = view state)
  have known := rel_foldlM pairs
    (fun item member => follows item (order.mem_iff.mpr member)) start
  generalize items.foldlM step state = first, middle.foldlM step state = second,
    others.foldlM step' state' = third at same known ⊢
  cases known with
  | none => cases first with
    | none => exact .none
    | some _ => cases same
  | some reached => cases first with
    | none => cases same
    | some _ => exact .some (shown _ _ _ (Option.some.inj same) reached)

end Relating

end ApiScaffold
