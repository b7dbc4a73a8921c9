import ApiScaffold.Proofs.StringLiterals

/-!
Literals within a source text, read as the Go language reads them: from the first quote to the one
that ends the literal. Whatever stands behind a written literal, a reader gets the bytes of its text
and goes on right there, so the text cannot end its literal. Two texts have different literals for that
reason. What is well-formed is up to the grammar of the language; that a compiler may refuse some
characters in all of a source text (U+0000, and U+FEFF behind the start) is no matter of literals.
-/

namespace ApiScaffold.Go

theorem utf8_injective {first second : List Char} (same : utf8 first = utf8 second) :
    first = second := by
  apply String.ofList_injective
  rw [← String.toByteArray_inj, String.toByteArray_ofList, String.toByteArray_ofList]
  exact congrArg List.toByteArray same

namespace StringLiteral

def backquote : Char := Char.ofNat 0x60

/-- Reads on to the quote that ends an interpreted literal: the bytes before it, and what stands
behind it. A quote within an escape ends nothing. -/
def readInterpreted? : Reading → List Char → Option (List UInt8 × List Char)
  | _, [] => none
  | state, c :: rest =>
    if state = .plain ∧ c = '"' then some ([], rest)
    else (step state c).bind fun (next, bytes) =>
      (readInterpreted? next rest).map fun (more, behind) => (bytes ++ more, behind)

/-- Reads on to the backquote that ends a raw literal; carriage returns are no part of its text. -/
def readRaw? (chars : List Char) : Option (List UInt8 × List Char) :=
  match chars.dropWhile (· != backquote) with
  | [] => none
  | _ :: behind =>
    some (utf8 ((chars.takeWhile (· != backquote)).filter (· != '\r')), behind)

/-- Reads the literal at the beginning of a source text: the bytes that it stands for, and what
stands behind it. -/
def read? : List Char → Option (List UInt8 × List Char)
  | [] => none
  | first :: rest =>
    if first = '"' then readInterpreted? .plain rest
    else if first = backquote then readRaw? rest
    else none

/-- An interpreted literal ends at the first quote before which everything can be read. -/
theorem read_interpreted_eq_some_iff {state : Reading} {chars behind : List Char}
    {bytes : List UInt8} : readInterpreted? state chars = some (bytes, behind) ↔
      ∃ inner, chars = inner ++ '"' :: behind ∧ run state inner = some (.plain, bytes) := by
  induction chars generalizing state bytes with
  | nil => simp [readInterpreted?]
  | cons c rest induction =>
      rw [readInterpreted?]
      split
      case isTrue closes =>
        obtain ⟨rfl, rfl⟩ := closes
        constructor
        · rintro ⟨⟩
          exact ⟨[], rfl, rfl⟩
        · rintro ⟨inner, same, ran⟩
          cases inner with
          | nil =>
              cases same
              cases ran
              rfl
          | cons d others =>
              obtain ⟨rfl, _⟩ := List.cons.inj same
              obtain ⟨_, _, _, stepped, _⟩ := run_cons_eq_some_iff.mp ran
              cases stepped
      case isFalse goes =>
        rw [Option.bind_eq_some_iff]
        constructor
        · rintro ⟨⟨next, first⟩, stepped, read⟩
          obtain ⟨⟨more, after⟩, found, same⟩ := Option.map_eq_some_iff.mp read
          cases same
          obtain ⟨inner, rfl, ran⟩ := induction.mp found
          exact ⟨c :: inner, rfl, run_cons_eq_some_iff.mpr ⟨next, first, more, stepped, ran, rfl⟩⟩
        · rintro ⟨inner, same, ran⟩
          cases inner with
          | nil =>
              cases same
              cases ran
              exact absurd ⟨rfl, rfl⟩ goes
          | cons d others =>
              obtain ⟨rfl, rfl⟩ := List.cons.inj same
              obtain ⟨next, first, more, stepped, finished, rfl⟩ := run_cons_eq_some_iff.mp ran
              exact ⟨(next, first), stepped, Option.map_eq_some_iff.mpr
                ⟨(more, behind), induction.mpr ⟨others, rfl, finished⟩, rfl⟩⟩

theorem read_raw {chars behind : List Char} (unquoted : backquote ∉ chars) :
    readRaw? (chars ++ backquote :: behind) = some (utf8 (chars.filter (· != '\r')), behind) := by
  have inner : ∀ c ∈ chars, (c != backquote) = true :=
    fun c listed => bne_iff_ne.mpr (ne_of_mem_of_not_mem listed unquoted)
  rw [readRaw?, List.takeWhile_append_of_pos inner, List.dropWhile_append_of_pos inner]
  simp

def Denotes (literal text : String) : Prop :=
  ∀ behind, read? (literal.toList ++ behind) = some (utf8 text.toList, behind)

theorem Denotes.unique {literal first second : String} (one : Denotes literal first)
    (other : Denotes literal second) : first = second := by
  have same := (one []).symm.trans (other [])
  exact String.toList_inj.mp (utf8_injective (Prod.mk.inj (Option.some.inj same)).1)

/-- What may stand between the quotes of an interpreted literal that is written: characters that are
no quotes, backslashes or line feeds, and escapes of few forms. -/
inductive Inside : List Char → Prop where
  | nil : Inside []
  | bare {c : Char} {rest : List Char} : Bare c → Inside rest → Inside (c :: rest)
  | letter {c : Char} {rest : List Char} : c ∈ ['"', '\\', 'n', 'r', 't'] → Inside rest →
      Inside ('\\' :: c :: rest)
  | byte {first second : Char} {rest : List Char} : (digit? 16 first).isSome →
      (digit? 16 second).isSome → Inside rest → Inside ('\\' :: 'x' :: first :: second :: rest)

def Interpreted (literal : String) : Prop :=
  ∃ inner, literal.toList = '"' :: (inner ++ ['"']) ∧ Inside inner

def Raw (literal : String) : Prop :=
  ∃ inner, literal.toList = backquote :: (inner ++ [backquote]) ∧ backquote ∉ inner

end StringLiteral

open StringLiteral

def escapedChars : List Char :=
  (List.range 0x20).map Char.ofNat ++ [Char.ofNat 0x7F, '"', '\\']

theorem quote_char_plain {c : Char} (plain : c ∉ escapedChars) : quoteChar c = [c] := by
  have control : ¬ c.toNat < 0x20 := by
    intro small
    apply plain
    refine List.mem_append_left _ (List.mem_map.mpr ⟨c.toNat, List.mem_range.mpr small, ?_⟩)
    exact Char.ofNat_toNat c
  have delete : c.toNat ≠ 0x7F := by
    intro same
    apply plain
    rw [← Char.ofNat_toNat c, same]
    decide
  unfold quoteChar
  split
  all_goals first | exact absurd (by decide) plain | skip
  simp [control, delete]

theorem bare_of_plain {c : Char} (plain : c ∉ escapedChars) : Bare c := by
  refine ⟨?_, ?_, ?_⟩ <;> rintro rfl <;> exact absurd (by decide) plain

theorem run_escaped : ∀ c ∈ escapedChars,
    run .plain (quoteChar c) = some (.plain, String.utf8EncodeChar c) := by decide +kernel

theorem run_quote_char (c : Char) :
    run .plain (quoteChar c) = some (.plain, String.utf8EncodeChar c) := by
  by_cases escaped : c ∈ escapedChars
  · exact run_escaped c escaped
  · rw [quote_char_plain escaped]
    exact run_cons_eq_some_iff.mpr
      ⟨.plain, _, [], step_bare (bare_of_plain escaped), rfl, (List.append_nil _).symm⟩

/-- Between the quotes of a literal all bytes of the text are read. -/
theorem run_quote_chars (chars : List Char) :
    run .plain (chars.flatMap quoteChar) = some (.plain, utf8 chars) := by
  induction chars with
  | nil => rfl
  | cons c rest induction =>
      rw [List.flatMap_cons, run_append_eq_some_iff]
      exact ⟨.plain, _, _, run_quote_char c, induction, utf8_cons c rest⟩

theorem quote_chars (text : String) :
    (quote text).toList = '"' :: text.toList.flatMap quoteChar ++ ['"'] := String.toList_ofList

theorem quote_denotes (text : String) : Denotes (quote text) text := by
  intro behind
  rw [quote_chars, List.append_assoc, List.cons_append, read?, if_pos rfl]
  exact read_interpreted_eq_some_iff.mpr ⟨_, rfl, run_quote_chars text.toList⟩

/-- A literal gives its text back. -/
theorem quote_injective {first second : String} (same : quote first = quote second) :
    first = second :=
  (quote_denotes first).unique (same ▸ quote_denotes second)

theorem hex_byte_digits : ∀ code < 0x80, ∀ c ∈ hexByte code, (digit? 16 c).isSome := by
  decide +kernel

theorem inside_quote_char {rest : List Char} (inside : Inside rest) (c : Char) :
    Inside (quoteChar c ++ rest) := by
  unfold quoteChar
  split
  case h_6 quote backslash feed _ _ =>
    split
    case isTrue control =>
      have small : c.toNat < 0x80 := by
        simp only [Bool.or_eq_true, decide_eq_true_eq, beq_iff_eq] at control
        omega
      have digits := hex_byte_digits c.toNat small
      exact .byte (digits _ List.mem_cons_self) (digits _ (List.mem_cons_of_mem _ List.mem_cons_self))
        inside
    case isFalse => exact .bare ⟨backslash, quote, feed⟩ inside
  all_goals exact .letter (by decide) inside

/-- Every character is written as it is or as one escape. -/
theorem quote_interpreted (text : String) : Interpreted (quote text) := by
  have inside (chars : List Char) : Inside (chars.flatMap quoteChar) := by
    induction chars with
    | nil => exact .nil
    | cons c rest induction =>
        rw [List.flatMap_cons]
        exact inside_quote_char induction c
  exact ⟨_, quote_chars text, inside text.toList⟩

theorem fits_raw_literal_iff {text : String} :
    fitsRawLiteral text = true ↔ backquote ∉ text.toList ∧ '\r' ∉ text.toList := by
  unfold fitsRawLiteral
  simp only [List.all_eq_true, Bool.and_eq_true, bne_iff_ne]
  constructor
  · exact fun fits => ⟨fun quote => (fits _ quote).1 rfl, fun feed => (fits _ feed).2 rfl⟩
  · rintro ⟨unquoted, unreturned⟩ c listed
    exact ⟨fun (same : c = backquote) => unquoted (same ▸ listed),
      fun same => unreturned (same ▸ listed)⟩

theorem quote_pattern_form (pattern : String) :
    Raw (quotePattern pattern) ∨ Interpreted (quotePattern pattern) := by
  unfold quotePattern
  split
  case isFalse => exact .inr (quote_interpreted pattern)
  case isTrue fits =>
    exact .inl ⟨pattern.toList, String.toList_ofList, (fits_raw_literal_iff.mp fits).1⟩

theorem quote_pattern_denotes (pattern : String) : Denotes (quotePattern pattern) pattern := by
  unfold quotePattern
  split
  case isFalse => exact quote_denotes pattern
  case isTrue fits =>
    obtain ⟨unquoted, unreturned⟩ := fits_raw_literal_iff.mp fits
    have whole : pattern.toList.filter (· != '\r') = pattern.toList :=
      List.filter_eq_self.mpr fun c listed => bne_iff_ne.mpr (ne_of_mem_of_not_mem listed unreturned)
    intro behind
    have chars : (String.ofList (backquote :: pattern.toList ++ [backquote])).toList ++ behind =
        backquote :: (pattern.toList ++ backquote :: behind) := by
      rw [String.toList_ofList, List.append_assoc]
      rfl
    calc
      read? ((String.ofList (backquote :: pattern.toList ++ [backquote])).toList ++ behind) =
          readRaw? (pattern.toList ++ backquote :: behind) := by
        rw [chars]
        rfl
      _ = some (utf8 (pattern.toList.filter (· != '\r')), behind) :=
        read_raw unquoted
      _ = some (utf8 pattern.toList, behind) := by rw [whole]

end ApiScaffold.Go
