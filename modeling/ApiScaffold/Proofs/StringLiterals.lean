import ApiScaffold.Go.Literal
import ApiScaffold.Json.Reader
import Mathlib.Data.List.Flatten

/-!
String literals as the Go language reads them: texts are bytes, raw literals stand for themselves,
and in interpreted ones an escape is a state that lasts for some characters. No escape is shorter than
the bytes that it stands for, and its backslash is one more. So no byte gets lost iff there are no
escapes.
-/

namespace ApiScaffold.Go

def utf8 (chars : List Char) : List UInt8 := chars.flatMap String.utf8EncodeChar

@[simp] theorem utf8_nil : utf8 [] = [] := rfl

@[simp] theorem utf8_cons (c : Char) (rest : List Char) :
    utf8 (c :: rest) = String.utf8EncodeChar c ++ utf8 rest := List.flatMap_cons

@[simp] theorem utf8_append (first second : List Char) :
    utf8 (first ++ second) = utf8 first ++ utf8 second := List.flatMap_append

theorem utf8_sublist {chars others : List Char} (kept : chars.Sublist others) :
    (utf8 chars).Sublist (utf8 others) := kept.flatMap _

/-- A part of a text that has all bytes is the whole text. -/
theorem eq_of_utf8_length {chars others : List Char} (kept : chars.Sublist others)
    (large : (utf8 others).length ≤ (utf8 chars).length) : chars = others := by
  induction kept with
  | slnil => rfl
  | @cons chars others c kept induction =>
      have small := (utf8_sublist kept).length_le
      have size := c.utf8Size_pos
      rw [utf8_cons, List.length_append, String.length_utf8EncodeChar] at large
      omega
  | @cons_cons chars others c kept induction =>
      rw [utf8_cons, utf8_cons, List.length_append, List.length_append] at large
      rw [induction (by omega)]

/-- A byte of an ASCII character stands in no other character. -/
theorem ascii_byte {c : Char} {byte : UInt8} (small : byte.toNat < 0x80)
    (member : byte ∈ String.utf8EncodeChar c) : c = Char.ofNat byte.toNat := by
  have large {value : Nat} (either : value % 0x40 + 0x80 = byte.toNat ∨
      value % 0x20 + 0xC0 = byte.toNat ∨ value % 0x10 + 0xE0 = byte.toNat ∨
      value % 0x08 + 0xF0 = byte.toNat) : False := by omega
  have byte_of {value : Nat} (bound : value < 256) (same : byte = UInt8.ofNat value) :
      value = byte.toNat := by
    rw [same, UInt8.toNat_ofNat_of_lt' bound]
  unfold String.utf8EncodeChar at member
  dsimp only at member
  split at member
  · have bound : c.val.toNat < 256 := by omega
    rw [← byte_of bound (List.mem_singleton.mp member)]
    exact (Char.ofNat_toNat c).symm
  · exfalso
    split at member
    · simp only [List.mem_cons, List.not_mem_nil, or_false] at member
      rcases member with same | same
      · exact large (.inr (.inl (byte_of (by omega) same)))
      · exact large (.inl (byte_of (by omega) same))
    · split at member <;> simp only [List.mem_cons, List.not_mem_nil, or_false] at member
      · rcases member with same | same | same
        · exact large (.inr (.inr (.inl (byte_of (by omega) same))))
        all_goals exact large (.inl (byte_of (by omega) same))
      · rcases member with same | same | same | same
        · exact large (.inr (.inr (.inr (byte_of (by omega) same))))
        all_goals exact large (.inl (byte_of (by omega) same))

namespace StringLiteral

/-- The text of a literal between backquotes; carriage returns are no part of it. -/
def rawText? (literal : List Char) : Option (List Char) :=
  let quote := Char.ofNat 0x60
  match literal with
  | first :: rest =>
    if first = quote ∧ rest.getLast? = some quote ∧ quote ∉ rest.dropLast then
      some (rest.dropLast.filter (· != '\r'))
    else none
  | [] => none

theorem raw_text (inner : List Char) :
    rawText? (Char.ofNat 0x60 :: (inner ++ [Char.ofNat 0x60])) =
      if Char.ofNat 0x60 ∈ inner then none else some (inner.filter (· != '\r')) := by
  unfold rawText?
  simp

inductive Reading where
  | plain
  /-- A backslash has been read. -/
  | escape
  /-- So many digits of a number are left, for a byte or for a code point. -/
  | number (codePoint : Bool) (base left value : Nat)
deriving DecidableEq, Repr

def digit? (base : Nat) (c : Char) : Option Nat := (Json.Reader.hexValue? c).filter (· < base)

def letterByte? (c : Char) : Option UInt8 :=
  match c with
  | 'a' => some 7
  | 'b' => some 8
  | 't' => some 9
  | 'n' => some 10
  | 'v' => some 11
  | 'f' => some 12
  | 'r' => some 13
  | '"' => some 34
  | '\\' => some 92
  | _ => none

def numberBytes? (codePoint : Bool) (value : Nat) : Option (List UInt8) :=
  if codePoint then
    if value.isValidChar then some (String.utf8EncodeChar (Char.ofNat value)) else none
  else if value < 256 then some [UInt8.ofNat value] else none

def escaped? (c : Char) : Option (Reading × List UInt8) :=
  match letterByte? c with
  | some byte => some (.plain, [byte])
  | none =>
    if c = 'x' then some (.number false 16 2 0, [])
    else if c = 'u' then some (.number true 16 4 0, [])
    else if c = 'U' then some (.number true 16 8 0, [])
    else (digit? 8 c).map fun value => (.number false 8 2 value, [])

def step : Reading → Char → Option (Reading × List UInt8)
  | .plain, c =>
    if c = '\\' then some (.escape, [])
    else if c = '"' ∨ c = '\n' then none
    else some (.plain, String.utf8EncodeChar c)
  | .escape, c => escaped? c
  | .number codePoint base left value, c =>
    (digit? base c).bind fun digit =>
      let value := value * base + digit
      if left ≤ 1 then (numberBytes? codePoint value).map fun bytes => (.plain, bytes)
      else some (.number codePoint base (left - 1) value, [])

def run : Reading → List Char → Option (Reading × List UInt8)
  | state, [] => some (state, [])
  | state, c :: rest =>
    (step state c).bind fun (next, bytes) =>
      (run next rest).map fun (last, more) => (last, bytes ++ more)

def unquote? (chars : List Char) : Option (List UInt8) :=
  (run .plain chars).bind fun (last, bytes) => if last = .plain then some bytes else none

theorem unquote_eq_some_iff {chars : List Char} {bytes : List UInt8} :
    unquote? chars = some bytes ↔ run .plain chars = some (.plain, bytes) := by
  unfold unquote?
  rcases run .plain chars with _ | ⟨last, read⟩
  · simp
  · by_cases plain : last = .plain <;> simp [plain]

theorem run_cons_eq_some_iff {state last : Reading} {c : Char} {rest : List Char}
    {bytes : List UInt8} : run state (c :: rest) = some (last, bytes) ↔
      ∃ next first more, step state c = some (next, first) ∧ run next rest = some (last, more) ∧
        bytes = first ++ more := by
  rw [run, Option.bind_eq_some_iff]
  constructor
  · rintro ⟨⟨next, first⟩, stepped, finished⟩
    obtain ⟨⟨end', more⟩, ran, same⟩ := Option.map_eq_some_iff.mp finished
    cases same
    exact ⟨next, first, more, stepped, ran, rfl⟩
  · rintro ⟨next, first, more, stepped, ran, rfl⟩
    exact ⟨(next, first), stepped, Option.map_eq_some_iff.mpr ⟨(last, more), ran, rfl⟩⟩

theorem run_append_eq_some_iff {state last : Reading} {first second : List Char}
    {bytes : List UInt8} : run state (first ++ second) = some (last, bytes) ↔
      ∃ next here there, run state first = some (next, here) ∧
        run next second = some (last, there) ∧ bytes = here ++ there := by
  induction first generalizing state bytes with
  | nil =>
      constructor
      · exact fun ran => ⟨state, [], bytes, rfl, ran, rfl⟩
      · rintro ⟨next, here, there, started, ran, rfl⟩
        cases started
        exact ran
  | cons c rest induction =>
      rw [List.cons_append, run_cons_eq_some_iff]
      constructor
      · rintro ⟨middle, own, more, stepped, ran, rfl⟩
        obtain ⟨next, here, there, started, finished, rfl⟩ := induction.mp ran
        exact ⟨next, own ++ here, there,
          run_cons_eq_some_iff.mpr ⟨middle, own, here, stepped, started, rfl⟩, finished,
          (List.append_assoc ..).symm⟩
      · rintro ⟨next, here, there, started, finished, rfl⟩
        obtain ⟨middle, own, more, stepped, ran, rfl⟩ := run_cons_eq_some_iff.mp started
        exact ⟨middle, own, more ++ there, stepped,
          induction.mpr ⟨next, more, there, ran, finished, rfl⟩, List.append_assoc ..⟩

def Bare (c : Char) : Prop := c ≠ '\\' ∧ c ≠ '"' ∧ c ≠ '\n'

instance : DecidablePred Bare := fun _ => inferInstanceAs (Decidable (_ ∧ _))

theorem step_bare {c : Char} (bare : Bare c) :
    step .plain c = some (.plain, String.utf8EncodeChar c) := by
  rw [step, if_neg bare.1, if_neg (not_or.mpr bare.2)]

theorem run_bare {chars : List Char} (bare : ∀ c ∈ chars, Bare c) :
    run .plain chars = some (.plain, utf8 chars) := by
  induction chars with
  | nil => rfl
  | cons c rest induction =>
      obtain ⟨here, there⟩ := List.forall_mem_cons.mp bare
      exact run_cons_eq_some_iff.mpr
        ⟨.plain, _, _, step_bare here, induction there, utf8_cons c rest⟩

theorem bare_of_run {chars : List Char} {result : Reading × List UInt8}
    (ran : run .plain chars = some result) (whole : '\\' ∉ chars) : ∀ c ∈ chars, Bare c := by
  obtain ⟨last, bytes⟩ := result
  induction chars generalizing bytes with
  | nil => exact List.forall_mem_nil _
  | cons c rest induction =>
      obtain ⟨different, others⟩ := List.ne_and_not_mem_of_not_mem_cons whole
      obtain ⟨next, first, more, stepped, finished, rfl⟩ := run_cons_eq_some_iff.mp ran
      rw [step, if_neg different.symm] at stepped
      split at stepped
      case isTrue => cases stepped
      case isFalse allowed =>
        cases stepped
        exact List.forall_mem_cons.mpr
          ⟨⟨different.symm, not_or.mp allowed⟩, induction others more finished⟩

/-- A character that stands in no escape is read between escapes only. -/
theorem state_of_step {state : Reading} {c : Char} {result : Reading × List UInt8}
    (stepped : step state c = some result) (apart : escaped? c = none)
    (digit : Json.Reader.hexValue? c = none) : state = .plain := by
  cases state with
  | plain => rfl
  | escape =>
      rw [step, apart] at stepped
      cases stepped
  | number codePoint base left value =>
      rw [step, digit?, digit] at stepped
      cases stepped

/-- What the characters of an escape so far leave at least for its bytes. The backslash counts for
nothing. -/
def credit : Reading → Nat
  | .plain => 0
  | .escape => 0
  | .number codePoint _ left _ => if codePoint then 5 - left else 0

/-- A letter stands for one byte, and an escape by a number starts without bytes. -/
theorem escaped_length {c : Char} {next : Reading} {bytes : List UInt8}
    (known : escaped? c = some (next, bytes)) : bytes.length + credit next ≤ 1 := by
  unfold escaped? at known
  split at known
  · cases known
    exact Nat.le_refl 1
  · split at known
    · cases known
      exact Nat.zero_le 1
    · split at known
      · cases known
        exact Nat.le_refl 1
      · split at known
        · cases known
          exact Nat.zero_le 1
        · obtain ⟨value, _, same⟩ := Option.map_eq_some_iff.mp known
          cases same
          exact Nat.zero_le 1

theorem number_bytes_length {codePoint : Bool} {value : Nat} {bytes : List UInt8}
    (stands : numberBytes? codePoint value = some bytes) :
    bytes.length ≤ if codePoint then 4 else 1 := by
  unfold numberBytes? at stands
  split at stands
  case isTrue point =>
    split at stands
    · cases stands
      rw [if_pos point, String.length_utf8EncodeChar]
      exact Char.utf8Size_le_four _
    · cases stands
  case isFalse byte =>
    split at stands
    · cases stands
      rw [if_neg byte]
      exact Nat.le_refl 1
    · cases stands

theorem step_length {state next : Reading} {c : Char} {bytes : List UInt8}
    (stepped : step state c = some (next, bytes)) :
    bytes.length + credit next ≤ credit state + c.utf8Size := by
  have size := c.utf8Size_pos
  cases state with
  | plain =>
      rw [step] at stepped
      split at stepped
      · cases stepped
        exact Nat.zero_le _
      · split at stepped
        · cases stepped
        · cases stepped
          simp [credit]
  | escape => exact Nat.le_trans (escaped_length stepped) (Nat.le_add_left_of_le size)
  | number codePoint base left value =>
      obtain ⟨digit, _, continued⟩ := Option.bind_eq_some_iff.mp stepped
      dsimp only at continued
      split at continued
      case isTrue last =>
        obtain ⟨read, stands, same⟩ := Option.map_eq_some_iff.mp continued
        cases same
        have most := number_bytes_length stands
        cases codePoint
        all_goals
          simp [credit] at most ⊢
          omega
      case isFalse more =>
        cases continued
        cases codePoint with
        | false => simp [credit]
        | true =>
            simp [credit]
            omega

theorem run_length {state last : Reading} {chars : List Char} {bytes : List UInt8}
    (ran : run state chars = some (last, bytes)) :
    bytes.length + credit last ≤ credit state + (utf8 chars).length := by
  induction chars generalizing state bytes with
  | nil =>
      cases ran
      exact Nat.le_of_eq (Nat.add_comm ..)
  | cons c rest induction =>
      obtain ⟨next, first, more, stepped, finished, rfl⟩ := run_cons_eq_some_iff.mp ran
      have here := step_length stepped
      have there := induction finished
      rw [utf8_cons, List.length_append, List.length_append, String.length_utf8EncodeChar]
      omega

theorem run_length_lt {last : Reading} {chars : List Char} {bytes : List UInt8}
    (ran : run .plain chars = some (last, bytes)) (backslash : '\\' ∈ chars) :
    bytes.length < (utf8 chars).length := by
  induction chars generalizing bytes with
  | nil => cases backslash
  | cons c rest induction =>
      obtain ⟨next, first, more, stepped, finished, rfl⟩ := run_cons_eq_some_iff.mp ran
      rw [utf8_cons, List.length_append, List.length_append, String.length_utf8EncodeChar]
      rw [step] at stepped
      split at stepped
      case isTrue =>
        cases stepped
        have there := run_length finished
        have size := c.utf8Size_pos
        simp only [credit] at there
        rw [List.length_nil]
        omega
      case isFalse different =>
        split at stepped
        · cases stepped
        · cases stepped
          have there := induction finished (List.mem_of_ne_of_mem (Ne.symm different) backslash)
          rw [String.length_utf8EncodeChar]
          omega

/-- No bytes are lost iff every character stands for itself. -/
theorem run_keeps_iff {last : Reading} {chars : List Char} {bytes : List UInt8}
    (ran : run .plain chars = some (last, bytes)) :
    (utf8 chars).length ≤ bytes.length ↔ ∀ c ∈ chars, Bare c := by
  constructor
  · intro large
    refine bare_of_run ran fun backslash => ?_
    exact absurd (run_length_lt ran backslash) (Nat.not_lt.mpr large)
  · intro bare
    rw [run_bare bare] at ran
    cases ran
    exact Nat.le_refl _

end StringLiteral

end ApiScaffold.Go
