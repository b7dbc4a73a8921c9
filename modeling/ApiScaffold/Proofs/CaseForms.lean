import ApiScaffold.Text.Case

/-!
What the forms of a character in the other case can be. Characters of the first 128 change only if
they are letters; all others become letters of these, or stay outside. So case never makes a digit
or a sign, and a text has the signs that it had before.
-/

namespace ApiScaffold.Text

/-- Characters of a list are looked at one by one, where else all characters there are would be. -/
instance decideChars (chars : List Char) (holds : Char → Prop) [DecidablePred holds] :
    Decidable (∀ c ∈ chars, holds c) := List.decidableBAll holds chars

theorem to_nat_of_nat {code : Nat} (valid : code.isValidChar) : (Char.ofNat code).toNat = code := by
  rw [Char.ofNat, dif_pos valid]
  rfl

def Foreign (low high : Nat) : Prop :=
  0x80 ≤ low ∧ (high < 0xD800 ∨ 0xE000 ≤ low ∧ high < 0x110000)

instance (low high : Nat) : Decidable (Foreign low high) := inferInstanceAs (Decidable (_ ∧ _))

theorem Foreign.char {low high code : Nat} (foreign : Foreign low high) (above : low ≤ code)
    (below : code ≤ high) : 0x80 ≤ (Char.ofNat code).toNat := by
  have valid : code.isValidChar := by
    unfold Nat.isValidChar
    rcases foreign with ⟨_, small | ⟨large, bounded⟩⟩ <;> omega
  rw [to_nat_of_nat valid]
  exact Nat.le_trans foreign.1 above

/-- Whatever a run maps from outside of the first 128 characters is outside of them, but for single
characters that become one of the letters from `first` to `last`. -/
def CodeRun.Lands (first last : Nat) (run : CodeRun) : Prop :=
  run.last < 0x80 ∨ Foreign run.image (run.image + (run.last - run.first)) ∨
    run.first = run.last ∧ first ≤ run.image ∧ run.image ≤ last

instance (first last : Nat) (run : CodeRun) : Decidable (run.Lands first last) :=
  inferInstanceAs (Decidable (_ ∨ _))

theorem map_code_lands {runs : List CodeRun} {first last code image : Nat}
    (lands : ∀ run ∈ runs, run.Lands first last) (outside : 0x80 ≤ code)
    (mapped : mapCode? runs code = some image) :
    0x80 ≤ (Char.ofNat image).toNat ∨ first ≤ image ∧ image ≤ last := by
  obtain ⟨run, member, found⟩ := List.exists_of_findSome?_eq_some mapped
  unfold CodeRun.map? at found
  split at found
  · rename_i inside
    simp only [Bool.and_eq_true, decide_eq_true_eq] at inside
    obtain ⟨⟨above, below⟩, _⟩ := inside
    cases found
    rcases lands run member with early | foreign | ⟨single, large, small⟩
    · omega
    · exact .inl (foreign.char (by omega) (by omega))
    · have same : code - run.first = 0 := by omega
      rw [same, Nat.add_zero]
      exact .inr ⟨large, small⟩
  · cases found

theorem upper_runs_land : ∀ run ∈ CaseTable.upperRuns, run.Lands 0x41 0x5A := by decide +kernel

theorem lower_runs_land : ∀ run ∈ CaseTable.lowerRuns, run.Lands 0x61 0x7A := by decide +kernel

/-- Longer upper-case forms are made of capitals and of characters outside of the first 128. -/
theorem upper_expansions_land : ∀ entry ∈ CaseTable.upperExpansions, entry.2 ≠ [] ∧
    ∀ code ∈ entry.2, Foreign code code ∨ 0x41 ≤ code ∧ code ≤ 0x5A := by decide

theorem is_ascii_lower_iff {c : Char} : isAsciiLower c ↔ 0x61 ≤ c.toNat ∧ c.toNat ≤ 0x7A := by
  simp only [isAsciiLower, Bool.and_eq_true, decide_eq_true_eq, Char.le_def, UInt32.le_iff_toNat_le]
  rfl

theorem is_ascii_upper_iff {c : Char} : isAsciiUpper c ↔ 0x41 ≤ c.toNat ∧ c.toNat ≤ 0x5A := by
  simp only [isAsciiUpper, Bool.and_eq_true, decide_eq_true_eq, Char.le_def, UInt32.le_iff_toNat_le]
  rfl

theorem is_ascii_upper_of_nat {code : Nat} (large : 0x41 ≤ code) (small : code ≤ 0x5A) :
    isAsciiUpper (Char.ofNat code) := by
  rw [is_ascii_upper_iff, to_nat_of_nat (.inl (by omega))]
  exact ⟨large, small⟩

theorem is_ascii_lower_of_nat {code : Nat} (large : 0x61 ≤ code) (small : code ≤ 0x7A) :
    isAsciiLower (Char.ofNat code) := by
  rw [is_ascii_lower_iff, to_nat_of_nat (.inl (by omega))]
  exact ⟨large, small⟩

theorem expansion_lands {code : Nat} {codes : List Nat}
    (found : CaseTable.upperExpansions.lookup code = some codes) : codes ≠ [] ∧
      ∀ form ∈ codes, Foreign form form ∨ 0x41 ≤ form ∧ form ≤ 0x5A := by
  obtain ⟨before, after, same, _⟩ := List.lookup_eq_some_iff.mp found
  have member : (code, codes) ∈ CaseTable.upperExpansions := by
    rw [same]
    exact List.mem_append_right _ List.mem_cons_self
  exact upper_expansions_land _ member

theorem upper_char_ne_nil (c : Char) : upperChar c ≠ [] := by
  unfold upperChar
  split
  · exact List.cons_ne_nil _ _
  split
  · rename_i codes found
    exact fun none => (expansion_lands found).1 (List.map_eq_nil_iff.mp none)
  split <;> exact List.cons_ne_nil _ _

theorem lower_char_ne_nil (c : Char) : lowerChar c ≠ [] := by
  unfold lowerChar
  split
  · exact List.cons_ne_nil _ _
  split
  · exact List.cons_ne_nil _ _
  split <;> exact List.cons_ne_nil _ _

/-- Upper-casing gives capitals, characters outside of the first 128, or leaves a character that is
no small letter. -/
theorem mem_upper_char {c d : Char} (member : c ∈ upperChar d) :
    0x80 ≤ c.toNat ∨ isAsciiUpper c ∨ c = d ∧ isAsciiLower d = false := by
  unfold upperChar at member
  split at member
  · split at member
    · rename_i lower
      obtain ⟨large, small⟩ := is_ascii_lower_iff.mp lower
      cases List.mem_singleton.mp member
      exact .inr (.inl (is_ascii_upper_of_nat (by omega) (by omega)))
    · rename_i other
      exact .inr (.inr ⟨List.mem_singleton.mp member, Bool.eq_false_iff.mpr other⟩)
  · rename_i outside
    split at member
    · rename_i codes found
      obtain ⟨code, listed, rfl⟩ := List.mem_map.mp member
      rcases (expansion_lands found).2 code listed with foreign | ⟨large, small⟩
      · exact .inl (foreign.char (Nat.le_refl _) (Nat.le_refl _))
      · exact .inr (.inl (is_ascii_upper_of_nat large small))
    · split at member
      · rename_i code found
        cases List.mem_singleton.mp member
        rcases map_code_lands upper_runs_land (by omega) found with foreign | ⟨large, small⟩
        · exact .inl foreign
        · exact .inr (.inl (is_ascii_upper_of_nat large small))
      · cases List.mem_singleton.mp member
        exact .inl (by omega)

/-- Lower-casing gives small letters, characters outside of the first 128, or leaves a character that
is no capital. -/
theorem mem_lower_char {c d : Char} (member : c ∈ lowerChar d) :
    0x80 ≤ c.toNat ∨ isAsciiLower c ∨ c = d ∧ isAsciiUpper d = false := by
  unfold lowerChar at member
  split at member
  · cases List.mem_singleton.mp member
    unfold asciiLower
    split
    · rename_i upper
      obtain ⟨large, small⟩ := is_ascii_upper_iff.mp upper
      exact .inr (.inl (is_ascii_lower_of_nat (by omega) (by omega)))
    · rename_i other
      exact .inr (.inr ⟨rfl, Bool.eq_false_iff.mpr other⟩)
  · rename_i outside
    split at member
    · rcases List.mem_cons.mp member with rfl | mark
      · exact .inr (.inl (by decide))
      · cases List.mem_singleton.mp mark
        exact .inl (by decide)
    · split at member
      · rename_i code found
        cases List.mem_singleton.mp member
        rcases map_code_lands lower_runs_land (by omega) found with foreign | ⟨large, small⟩
        · exact .inl foreign
        · exact .inr (.inl (is_ascii_lower_of_nat large small))
      · cases List.mem_singleton.mp member
        exact .inl (by omega)

def caseForms (c : Char) : List Char :=
  upperChar c ++ lowerChar c ++ if c = 'Σ' then ['ς', 'σ'] else []

theorem mem_lower_after {before chars : List Char} {c : Char}
    (member : c ∈ lowerAfter before chars) : ∃ d ∈ chars, c ∈ caseForms d := by
  induction chars generalizing before with
  | nil => cases member
  | cons d rest induction =>
      rcases List.mem_append.mp member with own | other
      · refine ⟨d, List.mem_cons_self, ?_⟩
        unfold caseForms
        split at own
        · rename_i sigma
          rw [if_pos sigma]
          apply List.mem_append_right
          split at own <;> simp_all
        · exact List.mem_append_left _ (List.mem_append_right _ own)
      · obtain ⟨found, listed, form⟩ := induction other
        exact ⟨found, List.mem_cons_of_mem _ listed, form⟩

/-- A form of a character is the character itself, or a letter, or outside of the first 128. -/
theorem mem_case_forms {c d : Char} (member : c ∈ caseForms d) :
    0x80 ≤ c.toNat ∨ isAsciiLetter c ∨ c = d := by
  unfold caseForms at member
  unfold isAsciiLetter
  simp only [List.mem_append] at member
  rcases member with (upper | lower) | sigma
  · rcases mem_upper_char upper with foreign | letter | ⟨same, _⟩
    · exact .inl foreign
    · exact .inr (.inl (by rw [letter]; rfl))
    · exact .inr (.inr same)
  · rcases mem_lower_char lower with foreign | letter | ⟨same, _⟩
    · exact .inl foreign
    · exact .inr (.inl (by rw [letter, Bool.or_true]))
    · exact .inr (.inr same)
  · split at sigma
    · simp only [List.mem_cons, List.not_mem_nil, or_false] at sigma
      rcases sigma with rfl | rfl <;> exact .inl (by decide)
    · cases sigma

end ApiScaffold.Text
