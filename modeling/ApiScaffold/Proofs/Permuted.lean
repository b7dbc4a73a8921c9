import Mathlib.Data.List.Nodup
import Mathlib.Data.List.Perm.Basic
import Mathlib.Data.List.Sort

/-!
Lists that agree up to order. The members of one list, put into another order, are related to those
of the other one by one. Tables whose keys are distinct are only looked into, or sorted by key, so
for them the order makes no difference. Up to two entries are put in order by one comparison, so
short lists can be sorted by evaluation.
-/

namespace ApiScaffold

variable {α β : Type}

def sortShort (le : α → α → Bool) : List α → List α
  | [] => []
  | [only] => [only]
  | [first, second] => if le first second then [first, second] else [second, first]
  | items => items.mergeSort le

theorem merge_sort_short (le : α → α → Bool) (items : List α) :
    items.mergeSort le = sortShort le items := by
  unfold sortShort
  split
  · exact List.mergeSort_nil
  · exact List.mergeSort_singleton _
  · simp [List.mergeSort, List.MergeSort.Internal.splitInTwo, List.merge]
  · rfl

inductive Keyed (related : α → β → Prop) : String × α → String × β → Prop where
  | intro (key : String) {value : α} {value' : β} (known : related value value') :
      Keyed related (key, value) (key, value')

section Options

variable {γ δ : Type} {related : α → β → Prop} {further : γ → δ → Prop} {left : Option α}
  {right : Option β}

theorem rel_bind {next : α → Option γ} {next' : β → Option δ} (known : Option.Rel related left right)
    (follows : ∀ value value', left = some value → related value value' →
      Option.Rel further (next value) (next' value')) :
    Option.Rel further (left.bind next) (right.bind next') := by
  cases known with
  | none => exact .none
  | some inner => exact follows _ _ rfl inner

theorem rel_map {read : α → γ} {read' : β → δ} (known : Option.Rel related left right)
    (follows : ∀ value value', related value value' → further (read value) (read' value')) :
    Option.Rel further (left.map read) (right.map read') := by
  cases known with
  | none => exact .none
  | some inner => exact .some (follows _ _ inner)

theorem rel_imp {weaker : α → β → Prop} (known : Option.Rel related left right)
    (weakens : ∀ value value', related value value' → weaker value value') :
    Option.Rel weaker left right := by
  cases known with
  | none => exact .none
  | some inner => exact .some (weakens _ _ inner)

theorem rel_or {more : Option α} {more' : Option β} (known : Option.Rel related left right)
    (others : Option.Rel related more more') :
    Option.Rel related (left.or more) (right.or more') := by
  cases known with
  | none => exact others
  | some inner => exact .some inner

theorem rel_of_some (here : ∀ value, left = some value → ∃ value', right = some value' ∧
      related value value')
    (there : ∀ value', right = some value' → ∃ value, left = some value) :
    Option.Rel related left right := by
  cases left with
  | some value =>
      obtain ⟨value', rfl, known⟩ := here value rfl
      exact .some known
  | none => cases right with
    | none => exact .none
    | some value' =>
        obtain ⟨_, absurd⟩ := there value' rfl
        cases absurd

theorem rel_is_some_eq (known : Option.Rel related left right) : left.isSome = right.isSome := by
  cases known <;> rfl

theorem rel_is_none_eq (known : Option.Rel related left right) : left.isNone = right.isNone := by
  cases known <;> rfl

theorem rel_of_eq {value value' : Option α} (same : value = value') :
    Option.Rel Eq value value' := by
  subst same
  cases value with
  | none => exact .none
  | some _ => exact .some rfl

theorem eq_of_rel {value value' : Option α} (known : Option.Rel Eq value value') :
    value = value' := by
  cases known with
  | none => rfl
  | some same => rw [same]

theorem rel_mapM {read : α → Option γ} {read' : β → Option δ} {items : List α} {others : List β}
    (pairs : List.Forall₂ related items others)
    (follows : ∀ item ∈ items, ∀ item', related item item' →
      Option.Rel further (read item) (read' item')) :
    Option.Rel (List.Forall₂ further) (items.mapM read) (others.mapM read') := by
  induction pairs with
  | nil => exact .some .nil
  | @cons item item' rest _ known _ induction =>
      rw [List.mapM_cons, List.mapM_cons]
      apply rel_bind (follows item List.mem_cons_self item' known)
      intro value value' _ here
      apply rel_bind (induction fun other member => follows other (List.mem_cons_of_mem _ member))
      intro values values' _ there
      exact .some (.cons here there)

end Options

namespace Keyed

variable {related : α → β → Prop} {left : String × α} {right : String × β}

theorem of_value (same : left.1 = right.1) (known : related left.2 right.2) :
    Keyed related left right := by
  obtain ⟨key, value⟩ := left
  obtain ⟨key', value'⟩ := right
  cases same
  exact .intro key known

theorem key (keyed : Keyed related left right) : left.1 = right.1 := by
  cases keyed
  rfl

theorem value (keyed : Keyed related left right) : related left.2 right.2 := by
  cases keyed with
  | intro _ known => exact known

end Keyed

/-- Each member of the left list is related to one of the right list, which is taken out. -/
inductive Permuted (related : α → β → Prop) : List α → List β → Prop where
  | nil : Permuted related [] []
  | cons {first : α} {second : β} {rest : List α} {before after : List β}
      (known : related first second) (others : Permuted related rest (before ++ after)) :
      Permuted related (first :: rest) (before ++ second :: after)

def DistinctKeys (table : List (String × α)) : Prop := (table.map (·.1)).Nodup

theorem forall_pairs_of_mem {related : α → β → Prop} {left : List α} {right : List β}
    (pairs : List.Forall₂ related left right) :
    List.Forall₂ (fun first second => related first second ∧ first ∈ left) left right := by
  induction pairs with
  | nil => exact .nil
  | cons here _ induction =>
      refine .cons ⟨here, List.mem_cons_self⟩ (induction.imp ?_)
      intro first second known
      exact ⟨known.1, List.mem_cons_of_mem _ known.2⟩

theorem partner_of_mem {related : α → β → Prop} {left : List α} {right : List β}
    (pairs : List.Forall₂ related left right) {first : α} (member : first ∈ left) :
    ∃ second ∈ right, related first second := by
  induction pairs with
  | nil => cases member
  | cons here _ induction =>
      rcases List.mem_cons.mp member with rfl | there
      · exact ⟨_, List.mem_cons_self, here⟩
      · obtain ⟨second, listed, known⟩ := induction there
        exact ⟨second, List.mem_cons_of_mem _ listed, known⟩

theorem map_eq_of_pairs {γ : Type} {related : α → β → Prop} {left : List α} {right : List β}
    {read : α → γ} {read' : β → γ} (pairs : List.Forall₂ related left right)
    (alike : ∀ first second, related first second → read first = read' second) :
    left.map read = right.map read' := by
  rw [← List.forall₂_eq_eq_eq, List.forall₂_map_left_iff, List.forall₂_map_right_iff]
  exact pairs.imp alike

theorem take_out {related : α → β → Prop} {first : α} {before after : List α} {right : List β}
    (pairs : List.Forall₂ related (before ++ first :: after) right) :
    ∃ front second back, right = front ++ second :: back ∧ related first second ∧
      List.Forall₂ related (before ++ after) (front ++ back) := by
  induction before generalizing right with
  | nil =>
      cases pairs with
      | @cons _ second _ back known others => exact ⟨[], second, back, rfl, known, others⟩
  | cons item rest induction =>
      cases pairs with
      | @cons _ item' _ _ here others =>
          obtain ⟨front, second, back, rfl, known, remaining⟩ := induction others
          exact ⟨item' :: front, second, back, rfl, known, .cons here remaining⟩

namespace Permuted

variable {related : α → β → Prop} {left : List α} {right : List β}

/-- The left list may be put into an order in which members are related one by one. -/
theorem exists_order (permuted : Permuted related left right) :
    ∃ middle, left.Perm middle ∧ List.Forall₂ related middle right := by
  induction permuted with
  | nil => exact ⟨[], List.Perm.refl [], .nil⟩
  | @cons first second rest before after known _ induction =>
      obtain ⟨middle, order, pairs⟩ := induction
      have front := List.forall₂_take_append middle before after pairs
      have back := List.forall₂_drop_append middle before after pairs
      refine ⟨middle.take before.length ++ first :: middle.drop before.length, ?_, ?_⟩
      · apply List.Perm.trans _ List.perm_middle.symm
        rw [List.take_append_drop]
        exact order.cons first
      · exact List.rel_append front (.cons known back)

theorem of_order {middle : List α} (order : left.Perm middle)
    (pairs : List.Forall₂ related middle right) : Permuted related left right := by
  induction left generalizing middle right with
  | nil =>
      have empty : middle = [] := order.nil_eq.symm
      subst empty
      cases pairs
      exact .nil
  | cons first rest induction =>
      obtain ⟨before, after, split⟩ := List.append_of_mem (order.mem_iff.mp List.mem_cons_self)
      subst split
      have others : rest.Perm (before ++ after) := (order.trans List.perm_middle).cons_inv
      obtain ⟨front, second, back, rfl, known, rest⟩ := take_out pairs
      exact .cons known (induction others rest)

theorem of_pairs (pairs : List.Forall₂ related left right) : Permuted related left right :=
  of_order (List.Perm.refl left) pairs

theorem of_pairs_perm {other : List β} (pairs : List.Forall₂ related left other)
    (order : other.Perm right) : Permuted related left right := by
  have composed : Relation.Comp (List.Forall₂ related) List.Perm left right :=
    ⟨other, pairs, order⟩
  rw [List.forall₂_comp_perm_eq_perm_comp_forall₂] at composed
  obtain ⟨middle, before, after⟩ := composed
  exact of_order before after

theorem length_eq (permuted : Permuted related left right) : left.length = right.length := by
  obtain ⟨middle, order, pairs⟩ := permuted.exists_order
  exact order.length_eq.trans pairs.length_eq

theorem is_empty_eq (permuted : Permuted related left right) : left.isEmpty = right.isEmpty := by
  have lengths := permuted.length_eq
  cases left <;> cases right <;> simp_all

theorem imp {weaker : α → β → Prop} (permuted : Permuted related left right)
    (weakens : ∀ first ∈ left, ∀ second, related first second → weaker first second) :
    Permuted weaker left right := by
  obtain ⟨middle, order, pairs⟩ := permuted.exists_order
  refine of_order order ((forall_pairs_of_mem pairs).imp ?_)
  intro first second known
  exact weakens first (order.mem_iff.mpr known.2) second known.1

theorem filter {keeps : α → Bool} {keeps' : β → Bool} (permuted : Permuted related left right)
    (alike : ∀ first second, related first second → keeps first = keeps' second) :
    Permuted related (left.filter keeps) (right.filter keeps') := by
  obtain ⟨middle, order, pairs⟩ := permuted.exists_order
  refine of_order (order.filter keeps) ?_
  apply List.rel_filter _ pairs
  intro first second known
  dsimp only
  rw [alike first second known]

theorem append {more : List α} {more' : List β} (permuted : Permuted related left right)
    (others : Permuted related more more') : Permuted related (left ++ more) (right ++ more') := by
  obtain ⟨middle, order, pairs⟩ := permuted.exists_order
  obtain ⟨middle', order', pairs'⟩ := others.exists_order
  exact of_order (order.append order') (List.rel_append pairs pairs')

theorem between {more : List α} {front middle back : List β} (here : Permuted related left middle)
    (others : Permuted related more (front ++ back)) :
    Permuted related (left ++ more) (front ++ (middle ++ back)) := by
  obtain ⟨order, before, pairs⟩ := (here.append others).exists_order
  obtain ⟨order', after, pairs'⟩ :=
    (of_pairs_perm pairs (List.perm_append_comm_assoc middle front back)).exists_order
  exact of_order (before.trans after) pairs'

theorem map {γ δ : Type} {further : γ → δ → Prop} {read : α → γ} {read' : β → δ}
    (permuted : Permuted related left right)
    (follows : ∀ first second, related first second → further (read first) (read' second)) :
    Permuted further (left.map read) (right.map read') := by
  obtain ⟨middle, order, pairs⟩ := permuted.exists_order
  apply of_order (order.map read)
  rw [List.forall₂_map_left_iff, List.forall₂_map_right_iff]
  exact pairs.imp follows

theorem forall_iff {holds : α → Prop} {holds' : β → Prop} (permuted : Permuted related left right)
    (alike : ∀ first second, related first second → (holds first ↔ holds' second)) :
    (∀ first ∈ left, holds first) ↔ ∀ second ∈ right, holds' second := by
  induction permuted with
  | nil => simp only [List.not_mem_nil, false_imp_iff, implies_true]
  | cons known _ induction =>
      rw [List.forall_mem_cons, alike _ _ known, induction, List.forall_mem_append,
        List.forall_mem_append, List.forall_mem_cons]
      tauto

theorem flatMap {γ δ : Type} {further : γ → δ → Prop} {read : α → List γ} {read' : β → List δ}
    (permuted : Permuted related left right)
    (follows : ∀ first second, related first second →
      List.Forall₂ further (read first) (read' second)) :
    Permuted further (left.flatMap read) (right.flatMap read') := by
  obtain ⟨middle, order, pairs⟩ := permuted.exists_order
  refine of_order (order.flatMap_right read) (List.rel_flatMap pairs ?_)
  intro first second known
  exact follows first second known

theorem map_perm {γ : Type} {read : α → γ} {read' : β → γ} (permuted : Permuted related left right)
    (alike : ∀ first second, related first second → read first = read' second) :
    (left.map read).Perm (right.map read') := by
  obtain ⟨middle, order, pairs⟩ := permuted.exists_order
  exact map_eq_of_pairs pairs alike ▸ order.map read

/-- Lists off which the same is read, in any order, have members in pairs. -/
theorem of_map_perm {γ : Type} {read : α → γ} {read' : β → γ}
    (order : (left.map read).Perm (right.map read')) :
    Permuted (fun first second => read first = read' second) left right := by
  have pairs : List.Forall₂ (fun first value => read first = value) left (left.map read) :=
    List.forall₂_map_right_iff.mpr (List.forall₂_same.mpr fun _ _ => rfl)
  obtain ⟨middle, before, after⟩ := (of_pairs_perm pairs order).exists_order
  exact of_order before (List.forall₂_map_right_iff.mp after)

theorem mapM {γ δ : Type} {further : γ → δ → Prop} {read : α → Option γ} {read' : β → Option δ}
    (permuted : Permuted related left right)
    (follows : ∀ item ∈ left, ∀ item', related item item' →
      Option.Rel further (read item) (read' item')) :
    Option.Rel (Permuted further) (left.mapM read) (right.mapM read') := by
  induction permuted with
  | nil => exact .some .nil
  | @cons first second rest before after known _ induction =>
      have here := follows first List.mem_cons_self second known
      have others := induction fun item member => follows item (List.mem_cons_of_mem _ member)
      rw [List.mapM_append] at others
      rw [List.mapM_cons, List.mapM_append, List.mapM_cons]
      generalize read first = value, rest.mapM read = values, read' second = value',
        before.mapM read' = front, after.mapM read' = back at here others ⊢
      cases here with
      | none => cases front <;> exact .none
      | some here =>
          cases front with
          | none => cases others; exact .none
          | some front =>
              cases back with
              | none => cases others; exact .none
              | some back =>
                  cases others with
                  | some others => exact .some (.cons here others)

end Permuted

theorem pairs_is_empty_eq {related : α → β → Prop} {items : List α} {others : List β}
    (pairs : List.Forall₂ related items others) : items.isEmpty = others.isEmpty :=
  (Permuted.of_pairs pairs).is_empty_eq

theorem all_pairs_eq {related : α → β → Prop} {items : List α} {others : List β}
    {holds : α → Bool} {holds' : β → Bool} (pairs : List.Forall₂ related items others)
    (alike : ∀ item other, related item other → holds item = holds' other) :
    items.all holds = others.all holds' := by
  induction pairs with
  | nil => rfl
  | cons known _ induction => rw [List.all_cons, List.all_cons, alike _ _ known, induction]

/-- A comparison whose sorting does not depend on the order of some items. -/
structure Sorts (le : α → α → Bool) (items : List α) : Prop where
  trans : ∀ first second third, le first second → le second third → le first third
  total : ∀ first second, le first second || le second first
  antisymm : ∀ first ∈ items, ∀ second ∈ items, le first second → le second first → first = second

theorem Sorts.merge_sort_eq {le : α → α → Bool} {items others : List α} (sorts : Sorts le items)
    (order : items.Perm others) : items.mergeSort le = others.mergeSort le := by
  apply List.Perm.eq_of_pairwise
  · intro first second here there
    have listed : second ∈ items := order.mem_iff.mpr (List.mem_mergeSort.mp there)
    exact sorts.antisymm first (List.mem_mergeSort.mp here) second listed
  · exact List.pairwise_mergeSort sorts.trans sorts.total items
  · exact List.pairwise_mergeSort sorts.trans sorts.total others
  · exact ((List.mergeSort_perm items le).trans order).trans (List.mergeSort_perm others le).symm

/-- Distinct items are sorted strictly. -/
theorem Sorts.merge_sort_strictly {le : α → α → Bool} {less : α → α → Prop} {items : List α}
    (sorts : Sorts le items) (distinct : items.Nodup)
    (strict : ∀ first second, le first second → ¬ le second first → less first second) :
    (items.mergeSort le).Pairwise less := by
  have ordered := List.pairwise_mergeSort sorts.trans sorts.total items
  have apart : (items.mergeSort le).Nodup := (List.mergeSort_perm items le).nodup_iff.mpr distinct
  apply (ordered.and apart).imp_of_mem
  intro first second here there both
  obtain ⟨before, differ⟩ := both
  apply strict first second before
  intro after
  exact differ (sorts.antisymm first (List.mem_mergeSort.mp here) second
    (List.mem_mergeSort.mp there) before after)

theorem Sorts.merge_sort_filter {le : α → α → Bool} {items : List α}
    (sorts : Sorts le items) (keeps : α → Bool) :
    (items.mergeSort le).filter keeps = (items.filter keeps).mergeSort le := by
  apply List.Perm.eq_of_pairwise
  · intro first second here there
    have listed := List.mem_mergeSort.mp (List.mem_of_mem_filter here)
    have kept := List.mem_of_mem_filter (List.mem_mergeSort.mp there)
    exact sorts.antisymm first listed second kept
  · exact (List.pairwise_mergeSort sorts.trans sorts.total items).filter keeps
  · exact List.pairwise_mergeSort sorts.trans sorts.total _
  · exact ((List.mergeSort_perm items le).filter keeps).trans (List.mergeSort_perm _ le).symm

theorem merge_sort_pairs {related : α → β → Prop} {le : α → α → Bool} {le' : β → β → Bool}
    {left : List α} {right : List β} (pairs : List.Forall₂ related left right)
    (alike : ∀ first second first' second', related first first' → related second second' →
      le first second = le' first' second') :
    List.Forall₂ related (left.mergeSort le) (right.mergeSort le') := by
  -- both are sorted as the list of pairs is
  let both := left.zip right
  have lengths := pairs.length_eq
  have known : ∀ pair ∈ both, related pair.1 pair.2 :=
    fun pair member => List.forall₂_zip pairs member
  let sorted := both.mergeSort fun first second => le first.1 second.1
  have firsts : sorted.map Prod.fst = left.mergeSort le := by
    have mapped := List.map_mergeSort (r := fun first second => le first.1 second.1) (s := le)
      (f := Prod.fst) (l := both) fun _ _ _ _ => rfl
    rw [mapped, List.map_fst_zip (le_of_eq lengths)]
  have seconds : sorted.map Prod.snd = right.mergeSort le' := by
    have mapped := List.map_mergeSort (r := fun first second => le first.1 second.1) (s := le')
      (f := Prod.snd) (l := both) fun first here second there =>
        alike _ _ _ _ (known first here) (known second there)
    rw [mapped, List.map_snd_zip (le_of_eq lengths.symm)]
  rw [← firsts, ← seconds, List.forall₂_map_left_iff, List.forall₂_map_right_iff]
  exact List.forall₂_same.mpr fun pair member => known pair (List.mem_mergeSort.mp member)

/-- Sorted by what is distinct, the members are related one by one. -/
theorem Permuted.merge_sort {related : α → β → Prop} {le : α → α → Bool} {le' : β → β → Bool}
    {left : List α} {right : List β} (permuted : Permuted related left right)
    (sorts : Sorts le left)
    (alike : ∀ first second first' second', related first first' → related second second' →
      le first second = le' first' second') :
    List.Forall₂ related (left.mergeSort le) (right.mergeSort le') := by
  obtain ⟨middle, order, pairs⟩ := permuted.exists_order
  rw [sorts.merge_sort_eq order]
  exact merge_sort_pairs pairs alike

section Tables

variable {related : α → β → Prop} {left : List (String × α)} {right : List (String × β)}

theorem eq_of_same_key {table : List (String × α)} (distinct : DistinctKeys table)
    {first second : String × α} (here : first ∈ table) (there : second ∈ table)
    (same : first.1 = second.1) : first = second :=
  List.inj_on_of_nodup_map distinct here there same

theorem sorts_by {read : α → String} {items : List α} (distinct : (items.map read).Nodup) :
    Sorts (fun first second => decide (read first ≤ read second)) items where
  trans := by
    intro first second third before after
    exact decide_eq_true (String.le_trans (of_decide_eq_true before) (of_decide_eq_true after))
  total := by
    intro first second
    rw [Bool.or_eq_true, decide_eq_true_iff, decide_eq_true_iff]
    exact String.le_total (read first) (read second)
  antisymm := by
    intro first here second there before after
    exact List.inj_on_of_nodup_map distinct here there
      (String.le_antisymm (of_decide_eq_true before) (of_decide_eq_true after))

theorem sorted_strictly_by {read : α → String} {items : List α}
    (distinct : (items.map read).Nodup) :
    (items.mergeSort fun first second => read first ≤ read second).Pairwise
      (read · < read ·) := by
  apply (sorts_by distinct).merge_sort_strictly distinct.of_map
  intro first second _ last
  rw [decide_eq_true_iff] at last
  exact String.not_le.mp last

theorem DistinctKeys.sorts {table : List (String × α)} (distinct : DistinctKeys table) :
    Sorts (fun first second => decide (first.1 ≤ second.1)) table := sorts_by distinct

theorem DistinctKeys.filter {table : List (String × α)} (distinct : DistinctKeys table)
    (keeps : String × α → Bool) : DistinctKeys (table.filter keeps) :=
  List.Nodup.sublist (List.Sublist.map _ List.filter_sublist) distinct

theorem DistinctKeys.lookup_of_mem {table : List (String × α)} (distinct : DistinctKeys table)
    {key : String} {value : α} (member : (key, value) ∈ table) : table.lookup key = some value := by
  induction table with
  | nil => cases member
  | cons entry rest induction =>
      obtain ⟨known, old⟩ := entry
      obtain ⟨fresh, others⟩ := List.nodup_cons.mp distinct
      rcases List.mem_cons.mp member with here | there
      · cases here
        exact List.lookup_cons_self
      · have differs : (key == known) = false := by
          apply beq_false_of_ne
          rintro rfl
          exact fresh (List.mem_map.mpr ⟨_, there, rfl⟩)
        rw [List.lookup_cons, differs]
        exact induction others there

theorem mem_of_lookup {table : List (String × α)} {key : String} {value : α}
    (found : table.lookup key = some value) : (key, value) ∈ table := by
  obtain ⟨before, rest, split, -⟩ := List.lookup_eq_some_iff.mp found
  rw [split]
  exact List.mem_append_right before List.mem_cons_self

theorem DistinctKeys.lookup_perm {table other : List (String × α)} (distinct : DistinctKeys table)
    (order : table.Perm other) (key : String) : table.lookup key = other.lookup key := by
  have distinct' : DistinctKeys other := (order.map _).nodup distinct
  apply Option.ext
  intro value
  constructor
  · intro found
    exact distinct'.lookup_of_mem (order.mem_iff.mp (mem_of_lookup found))
  · intro found
    exact distinct.lookup_of_mem (order.mem_iff.mpr (mem_of_lookup found))

theorem lookup_pairs (pairs : List.Forall₂ (Keyed related) left right) (key : String) :
    Option.Rel related (left.lookup key) (right.lookup key) := by
  induction pairs with
  | nil => exact .none
  | @cons first second _ _ here _ induction =>
      obtain ⟨own, known⟩ := here
      rw [List.lookup_cons, List.lookup_cons]
      cases key == own with
      | true => exact .some known
      | false => exact induction

namespace Permuted

theorem keys_perm (permuted : Permuted (Keyed related) left right) :
    (left.map (·.1)).Perm (right.map (·.1)) :=
  permuted.map_perm fun _ _ keyed => keyed.key

theorem lookup (permuted : Permuted (Keyed related) left right) (distinct : DistinctKeys left)
    (key : String) : Option.Rel related (left.lookup key) (right.lookup key) := by
  obtain ⟨middle, order, pairs⟩ := permuted.exists_order
  rw [distinct.lookup_perm order]
  exact lookup_pairs pairs key

end Permuted

end Tables

end ApiScaffold
