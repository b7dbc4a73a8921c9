import ApiScaffold.OpenApi.Decode.Record
import ApiScaffold.Proofs.Folding
import ApiScaffold.Proofs.SimilarSpecification
import Mathlib.Data.List.Pairwise

/-!
Readers of values whose objects are written in another order. Whatever a reader makes of a value, it
makes something related of the reordered one. A record is read member by member, so that its members
may be exchanged comes first.
-/

namespace ApiScaffold.OpenApi.Decode

variable {α β σ τ : Type} {related : α → α → Prop} {value : Json}

/-- A value and all reordered ones are read to related results, or none of them is. -/
def ReadsAlike (related : α → α → Prop) (read : Reader α) (value : Json) : Prop :=
  ∀ other, value.KeysDistinct → value.Reordered other →
    Option.Rel related (read value).toOption (read other).toOption

theorem ReadsAlike.imp {weaker : α → α → Prop} {read : Reader α}
    (alike : ReadsAlike related read value) (weakens : ∀ first second, related first second →
      weaker first second) : ReadsAlike weaker read value :=
  fun other distinct reordered => rel_imp (alike other distinct reordered) weakens

section Plain

theorem text_alike : ReadsAlike Eq text value := by
  intro other _ reordered
  cases reordered <;> first | exact .none | exact .some rfl

theorem flag_alike : ReadsAlike Eq flag value := by
  intro other _ reordered
  cases reordered <;> first | exact .none | exact .some rfl

theorem unsigned_alike : ReadsAlike Eq unsigned value := by
  intro other _ reordered
  cases reordered <;> first | exact .none | exact rel_of_eq rfl

theorem decimal_alike : ReadsAlike Eq decimal value := by
  intro other _ reordered
  cases reordered <;> first | exact .none | exact .some rfl

theorem anything_alike : ReadsAlike Json.Reordered anything value :=
  fun _ _ reordered => .some reordered

theorem optional_alike {read : Reader α} (alike : ReadsAlike related read value) :
    ReadsAlike (Option.Rel related) (optional read) value := by
  intro other distinct reordered
  have known : Option.Rel (Option.Rel related) (some <$> read value).toOption
      (some <$> read other).toOption := by
    rw [to_option_map, to_option_map]
    exact rel_map (alike other distinct reordered) fun _ _ inner => .some inner
  cases reordered with
  | null => exact .some .none
  | _ => exact known

theorem list_alike {read : Reader α}
    (alike : ∀ inner, inner.Within value → ReadsAlike related read inner) :
    ReadsAlike (List.Forall₂ related) (list read) value := by
  intro other distinct reordered
  cases reordered with
  | @array items others pairs =>
      rw [list, list, to_option_mapM, to_option_mapM]
      apply rel_mapM pairs
      intro item member item' known
      have within := Json.Within.item member
      exact alike item within item' (distinct.within within) known
  | _ => exact .none

theorem optional_same {read : Reader α} (alike : ReadsAlike Eq read value) :
    ReadsAlike Eq (optional read) value :=
  (optional_alike alike).imp fun _ _ => eq_of_rel

theorem list_same {read : Reader α}
    (alike : ∀ inner, inner.Within value → ReadsAlike Eq read inner) :
    ReadsAlike Eq (list read) value := by
  apply (list_alike alike).imp
  intro first second pairs
  rwa [List.forall₂_eq_eq_eq] at pairs

end Plain

section Entries

variable {members others : List (String × Json)}

theorem entries_alike {read : Reader α} {step : String × Json → Option (String × α)}
    (stepping : ∀ key value, step (key, value) = (read value).toOption.map (key, ·))
    (distinct : DistinctKeys members) (permuted : Permuted (Keyed Json.Reordered) members others)
    (alike : ∀ member ∈ members, ∀ other, Json.Reordered member.2 other →
      Option.Rel related (read member.2).toOption (read other).toOption) :
    Option.Rel (Table.Similar related) (members.mapM step) (others.mapM step) := by
  have keeps : ∀ entry result, step entry = some result → result.1 = entry.1 := by
    rintro ⟨key, value⟩ result success
    rw [stepping] at success
    obtain ⟨_, _, rfl⟩ := Option.map_eq_some_iff.mp success
    rfl
  have known : Option.Rel (Permuted (Keyed related)) (members.mapM step) (others.mapM step) := by
    apply permuted.mapM
    rintro ⟨key, value⟩ member ⟨key', value'⟩ keyed
    cases keyed with
    | intro _ inner =>
        rw [stepping, stepping]
        exact rel_map (alike _ member _ inner) fun _ _ => .intro key
  have keys : ∀ results, members.mapM step = some results →
      results.map (·.1) = members.map (·.1) := fun _ => mapM_reads keeps
  generalize members.mapM step = results, others.mapM step = results' at known keys ⊢
  cases known with
  | none => exact .none
  | some order =>
      refine .some ⟨?_, order⟩
      unfold DistinctKeys
      rw [keys _ rfl]
      exact distinct

theorem table_alike {read : Reader α}
    (alike : ∀ inner, inner.Within value → ReadsAlike related read inner) :
    ReadsAlike (Table.Similar related) (table read) value := by
  intro other distinct reordered
  cases reordered with
  | @object members others permuted =>
      rw [table, table, to_option_mapM, to_option_mapM]
      apply entries_alike (fun key value => to_option_map _ _) distinct.keys permuted
      rintro ⟨key, inner⟩ member inner' known
      have within := Json.Within.member member
      exact alike inner within inner' (distinct.within within) known
  | _ => exact .none

/-- A reference is found wherever it stands. -/
theorem or_ref_alike {read : Reader α} (alike : ReadsAlike related read value) :
    ReadsAlike (OrRef.Similar related) (orRef read) value := by
  intro other distinct reordered
  have known : Option.Rel (OrRef.Similar related) (OrRef.object <$> read value).toOption
      (OrRef.object <$> read other).toOption := by
    rw [to_option_map, to_option_map]
    exact rel_map (alike other distinct reordered) fun _ _ => .object
  cases reordered with
  | @object members others permuted =>
      have target := permuted.lookup distinct.keys "$ref"
      rw [orRef, orRef]
      generalize members.lookup "$ref" = found, others.lookup "$ref" = found' at target ⊢
      cases target with
      | none => exact known
      | some same =>
          cases same with
          | string target => exact .some (.reference target)
          | _ => exact .none
  | _ => exact known

/-- An object with another number of keys than one chooses nothing. -/
theorem choice_fails {name : α → String} {all : List α} {isUnit : Json → Bool}
    (several : members.length ≠ 1) :
    (choice name all isUnit (.object members)).toOption = none := by
  match members with
  | [] => rfl
  | [_] => exact absurd rfl several
  | _ :: _ :: _ => rfl

theorem choice_alike {name : α → String} {all : List α} {isUnit : Json → Bool}
    (unit : ∀ value other : Json, value.Reordered other → isUnit value = isUnit other) :
    ReadsAlike Eq (choice name all isUnit) value := by
  intro other distinct reordered
  cases reordered with
  | string word => exact rel_of_eq rfl
  | @object members others permuted =>
      by_cases single : members.length = 1
      · obtain ⟨⟨word, inner⟩, rfl⟩ := List.length_eq_one_iff.mp single
        obtain ⟨⟨word', inner'⟩, rfl⟩ :=
          List.length_eq_one_iff.mp (permuted.length_eq.symm.trans single)
        have keyed : Keyed Json.Reordered (word, inner) (word', inner') := by
          obtain ⟨middle, order, pairs⟩ := permuted.exists_order
          rw [List.perm_singleton.mp order.symm] at pairs
          exact (List.forall₂_cons.mp pairs).1
        cases keyed with
        | intro _ known =>
            apply rel_of_eq
            rw [choice, choice, unit inner inner' known, to_option_bind, to_option_bind]
            congr 1
            funext chosen
            split <;> rfl
      · rw [choice_fails single, choice_fails (permuted.length_eq ▸ single)]
        exact .none
  | _ => exact .none

end Entries

section Records

/-- Two members that may be read in either order, as far as `view` shows. -/
def Member.Exchanges (view : σ → τ) (first second : Member σ) : Prop :=
  ∀ value value' record,
    ((first.read value record).toOption.bind fun next =>
        (second.read value' next).toOption).map view =
      ((second.read value' record).toOption.bind fun next =>
        (first.read value next).toOption).map view

def Member.Alike (similar : σ → σ → Prop) (member : Member σ) (value : Json) : Prop :=
  ∀ other, value.KeysDistinct → value.Reordered other → ∀ record record',
    similar record record' → Option.Rel similar (member.read value record).toOption
      (member.read other record').toOption

instance (view : σ → τ) : Std.Symm (Member.Exchanges view) where
  symm _ _ exchanges value value' record := (exchanges value' value record).symm

section Storing

variable {name name' : String} {presence presence' : Presence} {read : Reader α}
  {read' : Reader β} {store : α → σ → σ} {store' : β → σ → σ}

@[simp] theorem storing_exchanges {view : σ → τ} (commutes : ∀ first second record,
      view (store' second (store first record)) = view (store first (store' second record))) :
    Member.Exchanges view (.storing name presence read store)
      (.storing name' presence' read' store') := by
  intro value value' record
  unfold Member.storing
  simp only [to_option_map]
  cases (read value).toOption with
  | none => cases (read' value').toOption <;> rfl
  | some first => cases (read' value').toOption with
    | none => rfl
    | some second => exact congrArg some (commutes first second record)

theorem storing_alike {similar : σ → σ → Prop} (alike : ReadsAlike related read value)
    (stores : ∀ first first' record record', related first first' → similar record record' →
      similar (store first record) (store first' record')) :
    (Member.storing name presence read store).Alike similar value := by
  intro other distinct reordered record record' known
  unfold Member.storing
  rw [to_option_map, to_option_map]
  exact rel_map (alike other distinct reordered) fun first first' same =>
    stores first first' record record' same known

end Storing

structure Independent (view : σ → τ) (similar : σ → σ → Prop) (known : List (Member σ)) : Prop where
  respects : ∀ member ∈ known, ∀ value record other, view record = view other →
    (member.read value record).toOption.map view = (member.read value other).toOption.map view
  exchanges : known.Pairwise (Member.Exchanges view)
  shown : ∀ record other record', view record = view other → similar other record' →
    similar record record'

theorem Independent.of_exchanges {similar : σ → σ → Prop} {known : List (Member σ)}
    (exchanges : known.Pairwise (Member.Exchanges id)) : Independent id similar known where
  respects := by
    rintro _ _ _ record other rfl
    rfl
  exchanges
  shown := by
    rintro record other record' rfl known
    exact known

/-- The step over one member of an object, by a record that drops what it does not know. -/
def memberStep (known : List (Member σ)) (record : σ) (member : String × Json) : Option σ :=
  match known.find? (·.name == member.1) with
  | some own => (own.read member.2 record).toOption
  | none => some record

theorem read_members_fold (known : List (Member σ)) (members : List (String × Json)) (record : σ) :
    (readMembers known (fun _ _ record => record) members record).toOption =
      members.foldlM (memberStep known) record := by
  induction members generalizing record with
  | nil => rfl
  | cons member rest induction =>
      obtain ⟨key, value⟩ := member
      rw [readMembers, List.foldlM_cons, memberStep]
      cases known.find? (·.name == key) with
      | none => exact induction record
      | some own =>
          dsimp only
          rw [to_option_bind]
          congr 1
          funext next
          exact induction next

section Members

variable {view : σ → τ} {similar : σ → σ → Prop} {known : List (Member σ)}
  {members others : List (String × Json)}

theorem member_step_respects (independent : Independent view similar known)
    (member : String × Json) (record other : σ) (same : view record = view other) :
    (memberStep known record member).map view = (memberStep known other member).map view := by
  unfold memberStep
  cases found : known.find? (·.name == member.1) with
  | none => exact congrArg some same
  | some own =>
      exact independent.respects own (List.mem_of_find?_eq_some found) member.2 record other same

theorem member_step_exchanges (independent : Independent view similar known)
    (first second : String × Json) (differs : first.1 ≠ second.1) (record : σ) :
    ((memberStep known record first).bind (memberStep known · second)).map view =
      ((memberStep known record second).bind (memberStep known · first)).map view := by
  unfold memberStep
  cases here : known.find? (·.name == first.1) with
  | none => simp
  | some own => cases there : known.find? (·.name == second.1) with
    | none => simp
    | some other =>
        have apart : own ≠ other := by
          rintro rfl
          have named : own.name = first.1 := by simpa using List.find?_some here
          have named' : own.name = second.1 := by simpa using List.find?_some there
          exact differs (named.symm.trans named')
        have exchanges : Member.Exchanges view own other :=
          independent.exchanges.forall (List.mem_of_find?_eq_some here)
            (List.mem_of_find?_eq_some there) apart
        exact exchanges first.2 second.2 record

/-- Members are read to related records, in whatever order they stand. -/
theorem read_members_alike (independent : Independent view similar known)
    (distinct : (Json.object members).KeysDistinct)
    (permuted : Permuted (Keyed Json.Reordered) members others)
    (alike : ∀ member ∈ known, ∀ inner, inner.Within (.object members) → member.Alike similar inner)
    {record record' : σ} (start : similar record record') :
    Option.Rel similar (readMembers known (fun _ _ record => record) members record).toOption
      (readMembers known (fun _ _ record => record) others record').toOption := by
  rw [read_members_fold, read_members_fold]
  apply permuted.foldlM (member_step_respects independent) _ independent.shown _ start
  · intro first here second there apart
    apply member_step_exchanges independent
    exact fun same => apart (eq_of_same_key distinct.keys here there same)
  · rintro ⟨key, inner⟩ member ⟨key', inner'⟩ keyed state state' reached
    cases keyed with
    | intro _ reordered =>
        have within := Json.Within.member member
        unfold memberStep
        dsimp only
        cases found : known.find? (·.name == key) with
        | none => exact .some reached
        | some own =>
            exact alike own (List.mem_of_find?_eq_some found) inner within inner'
              (distinct.within within) reordered state state' reached

theorem check_required_alike (distinct : DistinctKeys members)
    (permuted : Permuted (Keyed Json.Reordered) members others) :
    (checkRequired known members).toOption = (checkRequired known others).toOption := by
  unfold checkRequired
  have absent : ∀ name, (members.lookup name).isNone = (others.lookup name).isNone :=
    fun name => rel_is_none_eq (permuted.lookup distinct name)
  simp only [absent]

theorem read_elements_alike {short : Expected} {index : Nat} {items items' : List Json}
    (pairs : List.Forall₂ Json.Reordered items items')
    (distinct : ∀ item ∈ items, item.KeysDistinct)
    (alike : ∀ member ∈ known, ∀ item ∈ items, member.Alike similar item)
    {record record' : σ} (start : similar record record') :
    Option.Rel (fun result result' => similar result.1 result'.1 ∧
        result.2.isEmpty = result'.2.isEmpty)
      (readElements short index known items record).toOption
      (readElements short index known items' record').toOption := by
  induction known generalizing index items items' record record' with
  | nil =>
      refine .some ⟨start, ?_⟩
      cases pairs <;> rfl
  | cons member known induction =>
      obtain ⟨first, following⟩ := List.forall_mem_cons.mp alike
      cases pairs with
      | nil =>
          rw [readElements, readElements]
          split
          · exact induction .nil distinct following start
          · exact .none
      | @cons item item' _ _ reordered pairs =>
          rw [readElements, readElements, to_option_bind, to_option_bind]
          have here := first item List.mem_cons_self item' (distinct item List.mem_cons_self)
            reordered record record' start
          apply rel_bind here
          intro next next' _ known
          apply induction pairs _ _ known
          · exact fun other member => distinct other (List.mem_cons_of_mem _ member)
          · exact fun own listed other member =>
              following own listed other (List.mem_cons_of_mem _ member)

end Members

section Whole

variable {view : σ → τ} {similar : σ → σ → Prop} {known : List (Member σ)} {name : String}
  {start : σ}

theorem closed_record_alike (independent : Independent view similar known)
    (alike : ∀ member ∈ known, ∀ inner, inner.Within value → member.Alike similar inner)
    (same : similar start start) : ReadsAlike similar (closedRecord name known start) value := by
  intro other distinct reordered
  cases reordered with
  | @object members others permuted =>
      rw [closedRecord, closedRecord]
      simp only [to_option_bind]
      apply rel_bind (read_members_alike independent distinct permuted alike same)
      intro record record' _ read
      rw [check_required_alike distinct.keys permuted]
      cases (checkRequired known others).toOption with
      | none => exact .none
      | some _ => exact .some read
  | @array items others pairs =>
      rw [closedRecord, closedRecord]
      simp only [to_option_bind]
      apply rel_bind (read_elements_alike pairs (fun item member => distinct.within (.item member))
        (fun own listed item member => alike own listed item (.item member)) same)
      rintro ⟨record, rest⟩ ⟨record', rest'⟩ _ ⟨read, ended⟩
      dsimp only at ended ⊢
      rw [ended]
      split
      · exact .some read
      · exact .none
  | _ => exact .none

/-- A place of a record where a list of members is kept, apart from everything else. -/
structure Keeps (get : σ → List (String × Json)) (put : List (String × Json) → σ → σ) : Prop where
  get_put : ∀ kept record, get (put kept record) = kept
  put_put : ∀ kept other record, put kept (put other record) = put kept record
  put_get : ∀ record, put (get record) record = record

/-- A member that neither reads nor changes what is kept. -/
def Member.Apart (put : List (String × Json) → σ → σ) (member : Member σ) : Prop :=
  ∀ value kept record, (member.read value (put kept record)).toOption =
    (member.read value record).toOption.map (put kept)

@[simp] theorem storing_apart {put : List (String × Json) → σ → σ} {presence : Presence}
    {read : Reader α} {store : α → σ → σ}
    (commutes : ∀ first kept record, store first (put kept record) = put kept (store first record)) :
    (Member.storing name presence read store).Apart put := by
  intro value kept record
  unfold Member.storing
  rw [to_option_map, to_option_map, Option.map_map]
  congr 1
  funext first
  exact commutes first kept record

def isUnknown (known : List (Member σ)) (key : String) : Bool :=
  (known.find? (·.name == key)).isNone

def unknownMembers (known : List (Member σ)) (members : List (String × Json)) :
    List (String × Json) :=
  members.filter fun member => isUnknown known member.1

section Keeping

variable {get : σ → List (String × Json)} {put : List (String × Json) → σ → σ}
  (keeps : Keeps get put) (apart : ∀ member ∈ known, member.Apart put)

include apart

theorem read_members_put (members kept : List (String × Json)) (record : σ) :
    (readMembers known (fun _ _ record => record) members (put kept record)).toOption =
      (readMembers known (fun _ _ record => record) members record).toOption.map (put kept) := by
  induction members generalizing record with
  | nil => rfl
  | cons member rest induction =>
      obtain ⟨key, value⟩ := member
      rw [readMembers, readMembers]
      cases found : known.find? (·.name == key) with
      | none => exact induction record
      | some own =>
          dsimp only
          rw [to_option_bind, to_option_bind, apart own (List.mem_of_find?_eq_some found),
            Option.bind_map, Option.map_bind]
          congr 1
          funext next
          exact induction next

include keeps

theorem read_members_keeping (members : List (String × Json)) (record : σ) :
    (readMembers known (fun key value record => put (get record ++ [(key, value)]) record) members
        record).toOption =
      (readMembers known (fun _ _ record => record) members record).toOption.map
        (put (get record ++ unknownMembers known members)) := by
  induction members generalizing record with
  | nil =>
      rw [unknownMembers, List.filter_nil, List.append_nil]
      exact congrArg some (keeps.put_get record).symm
  | cons member rest induction =>
      obtain ⟨key, value⟩ := member
      rw [readMembers, readMembers, unknownMembers, List.filter_cons, isUnknown]
      cases found : known.find? (·.name == key) with
      | none =>
          dsimp only
          rw [induction, read_members_put apart, Option.map_map, keeps.get_put,
            if_pos Option.isNone_none, List.append_assoc]
          congr 1
          funext next
          exact keeps.put_put _ _ next
      | some own =>
          dsimp only
          rw [to_option_bind, to_option_bind, Option.map_bind, if_neg nofun]
          cases read : (own.read value record).toOption with
          | none => rfl
          | some next =>
              have same : some next = some (put (get record) next) := by
                have moved := apart own (List.mem_of_find?_eq_some found) value (get record) record
                rwa [keeps.put_get, read] at moved
              have kept : get next = get record := by
                rw [Option.some.inj same, keeps.get_put]
              dsimp only [Option.bind_some]
              rw [induction, kept]
              rfl

theorem open_record_alike {keep : String → Json → σ → σ}
    (keeping : ∀ key value record, keep key value record = put (get record ++ [(key, value)]) record)
    (independent : Independent view similar known)
    (alike : ∀ member ∈ known, ∀ inner, inner.Within value → member.Alike similar inner)
    (extended : ∀ record record' kept kept', similar record record' →
      Table.Similar Json.Reordered kept kept' → similar (put kept record) (put kept' record'))
    (same : similar start start) (empty : get start = []) :
    ReadsAlike similar (openRecord name known keep start) value := by
  have kept : keep = fun key value record => put (get record ++ [(key, value)]) record := by
    funext key value record
    exact keeping key value record
  intro other distinct reordered
  cases reordered with
  | @object members others permuted =>
      have unknown : Table.Similar Json.Reordered (unknownMembers known members)
          (unknownMembers known others) :=
        Table.Similar.filter ⟨distinct.keys, permuted⟩ (isUnknown known)
      rw [openRecord, openRecord, kept]
      simp only [to_option_bind]
      rw [read_members_keeping keeps apart, read_members_keeping keeps apart, empty]
      rw [Option.bind_map, Option.bind_map]
      apply rel_bind (read_members_alike independent distinct permuted alike same)
      intro record record' _ read
      dsimp only [Function.comp]
      rw [check_required_alike distinct.keys permuted]
      cases (checkRequired known others).toOption with
      | none => exact .none
      | some _ => exact .some (extended record record' _ _ read unknown)
  | _ => exact .none

end Keeping

end Whole

end Records

end ApiScaffold.OpenApi.Decode
