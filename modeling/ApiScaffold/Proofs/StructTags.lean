import ApiScaffold.Proofs.DecoderPresence
import ApiScaffold.Proofs.ShortDocuments
import ApiScaffold.Proofs.StringLiterals
import Mathlib.Data.List.TakeWhile

/-!
Tags of struct members, as they are looked up in running programs: the raw text of a tag is a list
of keys, each with a quoted value, and the name of a member in documents is what stands before the
first comma of the value for `json`. Names are put into tags as they are. So a name comes back iff it
holds none of a few marks, which get lost, end the tag, the value or the name, or start an escape.
-/

namespace ApiScaffold.Go

namespace StructTag

open StringLiteral

/-- The text before the first quote that is not escaped, and what follows the quote. -/
def quotedSpan? : Bool → List Char → Option (List Char × List Char)
  | _, [] => none
  | escaped, c :: rest =>
    if c = '"' ∧ escaped = false then some ([], rest)
    else (quotedSpan? (!escaped && c == '\\') rest).map fun (span, after) => (c :: span, after)

theorem span_splits {escaped : Bool} {text span after : List Char}
    (found : quotedSpan? escaped text = some (span, after)) : text = span ++ '"' :: after := by
  induction text generalizing escaped span with
  | nil => cases found
  | cons c rest induction =>
      rw [quotedSpan?] at found
      split at found
      case isTrue quote =>
        cases found
        rw [quote.1]
        rfl
      case isFalse =>
        obtain ⟨⟨inner, last⟩, further, same⟩ := Option.map_eq_some_iff.mp found
        cases same
        exact congrArg (c :: ·) (induction further)

def endsEscaped (escaped : Bool) (text : List Char) : Bool :=
  text.foldl (fun escaped c => !escaped && c == '\\') escaped

def isKeyChar (c : Char) : Bool :=
  decide (' ' < c) && c != ':' && c != '"' && c != Char.ofNat 0x7F

/-- The first key with what stands between the quotes of its value, and what follows them. -/
def pair? (tag : List Char) : Option (List Char × List Char × List Char) :=
  let start := tag.dropWhile (· == ' ')
  let key := start.takeWhile isKeyChar
  match start.dropWhile isKeyChar with
  | ':' :: '"' :: quoted =>
    if key = [] then none
    else (quotedSpan? false quoted).map fun (span, after) => (key, span, after)
  | _ => none

theorem pair_shorter {tag key span after : List Char}
    (found : pair? tag = some (key, span, after)) : after.length < tag.length := by
  unfold pair? at found
  dsimp only at found
  split at found
  case h_1 quoted behind =>
    split at found
    · cases found
    · obtain ⟨⟨inner, last⟩, spanned, same⟩ := Option.map_eq_some_iff.mp found
      cases same
      have spaces := (List.dropWhile_suffix (l := tag) (· == ' ')).length_le
      have keys := (List.dropWhile_suffix (l := tag.dropWhile (· == ' ')) isKeyChar).length_le
      rw [behind, span_splits spanned] at keys
      simp only [List.length_cons, List.length_append] at keys
      change last.length < tag.length
      omega
  case h_2 => cases found

/-- The value of a key. Nothing is found behind something else than a key with a value. -/
def value? (key tag : List Char) : Option (List UInt8) :=
  match found : pair? tag with
  | some (name, span, after) =>
    have _shorter := pair_shorter found
    if name = key then unquote? span else value? key after
  | none => none
termination_by tag.length

def comma : UInt8 := 44

def untilComma (bytes : List UInt8) : List UInt8 := bytes.takeWhile (· != comma)

def jsonName? (literal : List Char) : Option (List UInt8) :=
  (rawText? literal).bind fun tag => (value? "json".toList tag).map untilComma

theorem span_append (escaped : Bool) (first second : List Char) :
    quotedSpan? escaped (first ++ second) =
      match quotedSpan? escaped first with
      | some (span, after) => some (span, after ++ second)
      | none => (quotedSpan? (endsEscaped escaped first) second).map
          fun (span, after) => (first ++ span, after) := by
  induction first generalizing escaped with
  | nil =>
      change quotedSpan? escaped second = (quotedSpan? escaped second).map _
      simp
  | cons c rest induction =>
      rw [List.cons_append, quotedSpan?, quotedSpan?, induction]
      by_cases quote : c = '"' ∧ escaped = false
      · simp only [if_pos quote]
      · simp only [if_neg quote]
        cases quotedSpan? (!escaped && c == '\\') rest with
        | some found => rfl
        | none => exact Option.map_map ..

theorem backslash_of_ends_escaped {text : List Char} (ends : endsEscaped false text = true) :
    ∃ front, text = front ++ ['\\'] := by
  rcases List.eq_nil_or_concat text with rfl | ⟨front, last, rfl⟩
  · cases ends
  · rw [List.concat_eq_append, endsEscaped, List.foldl_append, List.foldl_cons, List.foldl_nil,
      Bool.and_eq_true, beq_iff_eq] at ends
    exact ⟨front, by rw [List.concat_eq_append, ends.2]⟩

/-- Before a given quote a span ends early, at the quote, or behind it if the quote is escaped. -/
theorem span_cases {text behind span after : List Char}
    (found : quotedSpan? false (text ++ '"' :: behind) = some (span, after)) :
    (∃ rest, text = span ++ '"' :: rest) ∨ span = text ∨
      ∃ front inner, text = front ++ ['\\'] ∧ quotedSpan? false behind = some (inner, after) ∧
        span = text ++ '"' :: inner := by
  rw [span_append] at found
  split at found
  case h_1 own rest early =>
    cases found
    exact .inl ⟨rest, span_splits early⟩
  case h_2 =>
    obtain ⟨⟨inner, last⟩, further, same⟩ := Option.map_eq_some_iff.mp found
    cases same
    rw [quotedSpan?] at further
    cases ends : endsEscaped false text with
    | false =>
        rw [ends, if_pos ⟨rfl, rfl⟩] at further
        cases further
        exact .inr (.inl (List.append_nil text))
    | true =>
        rw [ends, if_neg (fun quote => nomatch quote.2)] at further
        obtain ⟨⟨rest, others⟩, beyond, same⟩ := Option.map_eq_some_iff.mp further
        cases same
        obtain ⟨front, escaped⟩ := backslash_of_ends_escaped ends
        exact .inr (.inr ⟨front, rest, escaped, beyond, rfl⟩)

/-- A span without quotes and backslashes ends at the quote behind it. -/
theorem span_bare {text : List Char} (bare : ∀ c ∈ text, Bare c) (behind : List Char) :
    quotedSpan? false (text ++ '"' :: behind) = some (text, behind) := by
  induction text with
  | nil => rfl
  | cons c rest induction =>
      obtain ⟨here, there⟩ := List.forall_mem_cons.mp bare
      rw [List.cons_append, quotedSpan?, if_neg fun quote => here.2.1 quote.1,
        beq_false_of_ne here.1, Bool.and_false, induction there]
      rfl

theorem until_comma_comma (first second : List UInt8) :
    untilComma (first ++ comma :: second) = untilComma first := by
  unfold untilComma
  induction first with
  | nil => rfl
  | cons byte rest induction =>
      rw [List.cons_append, List.takeWhile_cons, List.takeWhile_cons, induction]

theorem until_comma_of_mem {first : List UInt8} (member : comma ∈ first) (second : List UInt8) :
    untilComma (first ++ second) = untilComma first ∧
      (untilComma first).length < first.length := by
  obtain ⟨front, behind, rfl⟩ := List.append_of_mem member
  rw [List.append_assoc, List.cons_append, until_comma_comma, until_comma_comma]
  have within := (List.takeWhile_prefix (l := front) (· != comma)).length_le
  refine ⟨rfl, ?_⟩
  rw [List.length_append, List.length_cons]
  exact Nat.lt_add_right_iff_pos.mpr (Nat.succ_pos _) |> Nat.lt_of_le_of_lt within

theorem until_comma_of_not_mem {bytes : List UInt8} (none : comma ∉ bytes) :
    untilComma bytes = bytes := by
  refine List.takeWhile_eq_self_iff.mpr fun byte member => ?_
  exact bne_iff_ne.mpr fun same => none (same ▸ member)

theorem comma_not_mem_until (bytes : List UInt8) : comma ∉ untilComma bytes := by
  intro member
  have different := List.mem_takeWhile_imp member
  simp at different

theorem comma_mem_utf8 {chars : List Char} : comma ∈ utf8 chars ↔ ',' ∈ chars := by
  constructor
  · intro member
    obtain ⟨c, listed, own⟩ := List.mem_flatMap.mp member
    have same : c = ',' := ascii_byte (by decide) own
    exact same ▸ listed
  · exact fun member => List.mem_flatMap.mpr ⟨',', member, by decide⟩

theorem value_of_json (quoted : List Char) :
    value? "json".toList ("json:\"".toList ++ quoted) =
      (quotedSpan? false quoted).bind fun (span, _) => unquote? span := by
  have first : pair? ("json:\"".toList ++ quoted) =
      (quotedSpan? false quoted).map fun (span, after) => ("json".toList, span, after) := rfl
  unfold value?
  split
  case h_1 name span after found =>
    rw [first] at found
    obtain ⟨⟨own, rest⟩, spanned, same⟩ := Option.map_eq_some_iff.mp found
    cases same
    rw [spanned]
    rfl
  case h_2 none =>
    rw [first, Option.map_eq_none_iff] at none
    rw [none]
    rfl

def options : List (List Char) := ["", ",omitempty", ",omitzero"].map String.toList

theorem options_bare : ∀ option ∈ options, (∀ c ∈ option, Bare c) ∧
    option.getLast? ≠ some '\\' ∧ Char.ofNat 0x60 ∉ option ∧ '\r' ∉ option := by decide

theorem options_start : ∀ option ∈ options, option = [] ∨ ∃ rest, option = ',' :: rest := by
  simp [options]

/-- A comma and a space are in no escape. -/
theorem separators_apart :
    ∀ c ∈ [',', ' '], escaped? c = none ∧ Json.Reader.hexValue? c = none := by decide

/-- Characters that stand for themselves are not read inside of an escape if the first one is in
none. -/
theorem run_separated {state : Reading} {c : Char} {rest : List Char} {last : Reading}
    {bytes : List UInt8} (separator : c ∈ [',', ' ']) (bare : ∀ d ∈ c :: rest, Bare d)
    (ran : run state (c :: rest) = some (last, bytes)) :
    state = .plain ∧ bytes = utf8 (c :: rest) := by
  obtain ⟨next, first, more, stepped, _, _⟩ := run_cons_eq_some_iff.mp ran
  obtain ⟨escape, digit⟩ := separators_apart c separator
  obtain rfl := state_of_step stepped escape digit
  rw [run_bare bare] at ran
  cases ran
  exact ⟨rfl, rfl⟩

theorem run_option {text option : List Char} {value : List UInt8} (listed : option ∈ options)
    (ran : run .plain (text ++ option) = some (.plain, value)) :
    ∃ last own, run .plain text = some (last, own) ∧ untilComma value = untilComma own := by
  obtain ⟨last, own, more, started, continued, rfl⟩ := run_append_eq_some_iff.mp ran
  refine ⟨last, own, started, ?_⟩
  rcases options_start option listed with rfl | ⟨rest, rfl⟩
  · cases continued
    rw [List.append_nil]
  · obtain ⟨_, rfl⟩ := run_separated List.mem_cons_self (options_bare _ listed).1 continued
    exact until_comma_comma own (utf8 rest)

/-- The characters that a tag does not hold as they are: its own quote, what is no part of a raw
literal, and what ends a value or a name or stands for something else. -/
def marks : List Char := [Char.ofNat 0x60, '\r', '\n', ',', '"', '\\']

theorem kept_bytes (name : List Char) :
    (utf8 (name.filter (· != '\r'))).length ≤ (utf8 name).length :=
  (utf8_sublist List.filter_sublist).length_le

/-- No part of a name gives the whole name back, and the whole name only if nothing is lost. -/
theorem unmarked_of_run {name part : List Char} {last : Reading} {value : List UInt8}
    (kept : part.Sublist (name.filter (· != '\r')))
    (ran : run .plain part = some (last, value)) (named : untilComma value = utf8 name) :
    ∀ c ∈ name, Bare c ∧ c ≠ ',' ∧ c ≠ '\r' := by
  have cut := (List.takeWhile_prefix (l := value) (· != comma)).length_le
  have whole : (utf8 name).length ≤ value.length := by
    rw [← named]
    exact cut
  have read := run_length ran
  have part_small := (utf8_sublist kept).length_le
  have kept_small := kept_bytes name
  rw [credit, Nat.zero_add] at read
  have same : part = name :=
    eq_of_utf8_length (kept.trans List.filter_sublist) (by omega)
  have bare := (run_keeps_iff ran).mp (by omega)
  have comma_free : ',' ∉ name := by
    rw [← comma_mem_utf8, ← named]
    exact comma_not_mem_until value
  intro c member
  refine ⟨bare c (same ▸ member), fun given => comma_free (given ▸ member), ?_⟩
  have listed := kept.subset (same ▸ member)
  simpa using (List.mem_filter.mp listed).2

/-- The value does not go on with the next key: a name that ends in an escape does not end in a
colon. -/
theorem value_not_continued {name front : List Char} {value : List UInt8}
    (escaped : name.filter (· != '\r') = front ++ ['\\'])
    (ran : run .plain (name.filter (· != '\r') ++ '"' :: " xml:".toList) = some (.plain, value)) :
    untilComma value ≠ utf8 name := by
  intro named
  have next : name.filter (· != '\r') ++ '"' :: " xml:".toList =
      (name.filter (· != '\r') ++ ['"']) ++ " xml:".toList := List.append_cons ..
  rw [next] at ran
  obtain ⟨last, own, more, started, continued, rfl⟩ := run_append_eq_some_iff.mp ran
  have key : more = utf8 " xml:".toList :=
    (run_separated (List.mem_cons_of_mem _ List.mem_cons_self) (by decide) continued).2
  subst key
  by_cases cut : comma ∈ own
  · -- Up to the comma there are too few bytes.
    obtain ⟨same, fewer⟩ := until_comma_of_mem cut (utf8 " xml:".toList)
    have lost := run_length_lt started (by rw [escaped]; simp)
    have small := kept_bytes name
    have whole := congrArg List.length (same.symm.trans named)
    rw [utf8_append, List.length_append] at lost
    change _ < _ + 1 at lost
    omega
  · have all : comma ∉ own ++ utf8 " xml:".toList :=
      fun member => (List.mem_append.mp member).elim cut (by decide)
    rw [until_comma_of_not_mem all] at named
    have colon : (utf8 name).getLast? = some 58 := by
      rw [← named, List.getLast?_append_of_ne_nil _ (by decide)]
      rfl
    rcases List.eq_nil_or_concat name with rfl | ⟨init, c, rfl⟩
    · cases colon
    · rw [List.concat_eq_append] at colon escaped
      rw [utf8_append, utf8_cons, utf8_nil, List.append_nil, List.getLast?_append_of_ne_nil _
        (String.utf8EncodeChar_ne_nil)] at colon
      have same : c = ':' := ascii_byte (by decide) (List.mem_of_getLast? colon)
      rw [same, List.filter_append] at escaped
      have ends := List.append_inj_right' escaped rfl
      exact absurd ends (by decide)

/-- The value for a name gives the name back iff all of its characters stand for themselves. -/
theorem value_names_iff {name option behind : List Char} (listed : option ∈ options)
    (next : behind = [] ∨ ∃ rest, behind = " xml:\"".toList ++ rest) :
    (quotedSpan? false (name.filter (· != '\r') ++ option ++ '"' :: behind)).bind
        (fun (span, _) => (unquote? span).map untilComma) = some (utf8 name) ↔
      ∀ c ∈ name, Bare c ∧ c ≠ ',' ∧ c ≠ '\r' := by
  obtain ⟨bare, last, _, _⟩ := options_bare option listed
  constructor
  · intro named
    obtain ⟨⟨span, after⟩, spanned, read⟩ := Option.bind_eq_some_iff.mp named
    obtain ⟨value, unquoted, same⟩ := Option.map_eq_some_iff.mp read
    have ran := unquote_eq_some_iff.mp unquoted
    rcases span_cases spanned with ⟨rest, early⟩ | rfl | ⟨front, inner, escaped, beyond, further⟩
    · -- The option has no quote, so the span ends inside of the name.
      rcases List.append_eq_append_iff.mp early with ⟨more, _, within⟩ | ⟨more, within, rest_of⟩
      · exact absurd rfl (bare '"' (within ▸ List.mem_append_right _ List.mem_cons_self)).2.1
      · exact unmarked_of_run (within ▸ List.sublist_append_left _ _) ran same
    · obtain ⟨_, own, started, cut⟩ := run_option listed ran
      exact unmarked_of_run (List.Sublist.refl _) started (cut.symm.trans same)
    · exfalso
      rcases next with rfl | ⟨rest, rfl⟩
      · cases beyond
      · have key : quotedSpan? false (" xml:\"".toList ++ rest) = some (" xml:".toList, rest) := rfl
        rw [key] at beyond
        cases beyond
        have none : option = [] := by
          rcases List.eq_nil_or_concat option with rfl | ⟨init, c, rfl⟩
          · rfl
          · rw [List.concat_eq_append] at escaped last
            rw [← List.append_assoc] at escaped
            rw [(List.append_inj_right' escaped rfl), List.getLast?_concat] at last
            exact absurd rfl last
        rw [none, List.append_nil] at escaped further
        rw [further] at ran
        exact value_not_continued escaped ran same
  · intro unmarked
    have kept : name.filter (· != '\r') = name :=
      List.filter_eq_self.mpr fun c member => bne_iff_ne.mpr (unmarked c member).2.2
    have all : ∀ c ∈ name ++ option, Bare c :=
      List.forall_mem_append.mpr ⟨fun c member => (unmarked c member).1, bare⟩
    have comma_free : comma ∉ utf8 name := fun member =>
      (unmarked ',' (comma_mem_utf8.mp member)).2.1 rfl
    have cut : untilComma (utf8 (name ++ option)) = utf8 name := by
      rcases options_start option listed with rfl | ⟨rest, rfl⟩
      · rw [List.append_nil, until_comma_of_not_mem comma_free]
      · rw [utf8_append]
        exact (until_comma_comma _ (utf8 rest)).trans (until_comma_of_not_mem comma_free)
    rw [kept, span_bare all, Option.bind_some]
    dsimp only
    rw [unquote_eq_some_iff.mpr (run_bare all), Option.map_some, cut]

/-- A tag that holds a name as it is gives it back iff the name has no marks. -/
theorem json_name_iff {name option behind : List Char} (listed : option ∈ options)
    (next : behind = [] ∨ ∃ rest, behind = " xml:\"".toList ++ rest ∧
      (Char.ofNat 0x60 ∈ rest → Char.ofNat 0x60 ∈ name)) :
    jsonName? (Char.ofNat 0x60 :: ("json:\"".toList ++ (name ++ option ++ '"' :: behind) ++
        [Char.ofNat 0x60])) = some (utf8 name) ↔ ∀ c ∈ name, c ∉ marks := by
  obtain ⟨_, _, quote_free, return_free⟩ := options_bare option listed
  have unmarked : (∀ c ∈ name, c ∉ marks) ↔
      Char.ofNat 0x60 ∉ name ∧ ∀ c ∈ name, Bare c ∧ c ≠ ',' ∧ c ≠ '\r' := by
    unfold marks Bare
    grind
  rw [unmarked, jsonName?, raw_text]
  by_cases quoted : Char.ofNat 0x60 ∈ name
  · rw [if_pos (by simp [quoted])]
    simp [quoted]
  · have quotes : Char.ofNat 0x60 ∉ behind := by
      rcases next with rfl | ⟨rest, rfl, among⟩
      · exact List.not_mem_nil
      · exact fun member => (List.mem_append.mp member).elim (by decide) (quoted ∘ among)
    have inner : Char.ofNat 0x60 ∉ "json:\"".toList ++ (name ++ option ++ '"' :: behind) := by
      simp [quoted, quote_free, quotes]
    have read : ("json:\"".toList ++ (name ++ option ++ '"' :: behind)).filter (· != '\r') =
        "json:\"".toList ++
          (name.filter (· != '\r') ++ option ++ '"' :: behind.filter (· != '\r')) := by
      have whole : option.filter (· != '\r') = option := List.filter_eq_self.mpr fun c member =>
        bne_iff_ne.mpr fun same => return_free (same ▸ member)
      rw [List.filter_append, List.filter_append, List.filter_append, whole]
      rfl
    have following : behind.filter (· != '\r') = [] ∨
        ∃ rest, behind.filter (· != '\r') = " xml:\"".toList ++ rest := by
      rcases next with rfl | ⟨rest, rfl, _⟩
      · exact .inl rfl
      · exact .inr ⟨rest.filter (· != '\r'), List.filter_append ..⟩
    rw [if_neg inner, Option.bind_some, read, value_of_json, Option.map_bind,
      and_iff_right quoted]
    exact value_names_iff listed following

example : jsonName? "`json:\"size,unit\"`".toList = some (utf8 "size".toList) := by decide +kernel

end StructTag

end ApiScaffold.Go

namespace ApiScaffold.Server

open Blueprint Go Source
open Go.StructTag (jsonName? json_name_iff options marks)

/-- A literal is the tag of a member of the struct that is declared as the type. -/
def StructTagged (program : Program) (type member literal : String) : Prop :=
  ∃ declaration ∈ (componentsPart program).declarations, ∃ groups,
    declaration.form = .struct type "" groups ∧ ∃ group ∈ groups, ∃ entry ∈ group.members,
      entry.name = member ∧ entry.rest.getLast? = some [.text literal]

/-- A literal is the tag of a member of a struct that the decoder of a type declares for itself. -/
def ShadowTagged (program : Program) (type member literal : String) : Prop :=
  ∃ body, Decodes program type body ∧ ∃ opening rows closing,
    .listing opening rows closing ∈ Go.Statement.wholes body ∧
      Go.Statement.opensStruct opening = true ∧ ∃ row ∈ rows,
        Go.Statement.rowName row = member ∧ row.getLast? = some [.text literal]

/-- A literal is the tag of a member of the struct of the type, or of the struct that the type is
decoded into at first. -/
def Tagged (program : Program) (type member literal : String) : Prop :=
  StructTagged program type member literal ∨ ShadowTagged program type member literal

/-- No character of the name is a mark in a tag. -/
def FitsTag (name : String) : Prop := ∀ c ∈ name.toList, c ∉ marks

instance : DecidablePred FitsTag := fun _ => inferInstanceAs (Decidable (∀ c ∈ _, c ∉ marks))

theorem both_keys_iff {name omitted omitEmpty : String} (listed : omitted.toList ∈ options)
    (other : omitEmpty.toList ∈ options) :
    jsonName? (s!"`json:\"{name}{omitted}\" xml:\"{name}{omitEmpty}\"`").toList =
      some (utf8 name.toList) ↔ FitsTag name := by
  have chars : (s!"`json:\"{name}{omitted}\" xml:\"{name}{omitEmpty}\"`").toList =
      Char.ofNat 0x60 :: ("json:\"".toList ++ (name.toList ++ omitted.toList ++ '"' ::
        (" xml:\"".toList ++ (name.toList ++ omitEmpty.toList ++ ['"']))) ++
          [Char.ofNat 0x60]) := by
    simp [toString]
  rw [chars]
  refine json_name_iff listed (.inr ⟨_, rfl, fun member => ?_⟩)
  have plain := (Go.StructTag.options_bare _ other).2.2.1
  simpa [plain] using member

theorem member_tag_iff (field : Blueprint.Field Shape) :
    jsonName? (Component.tag field).toList = some (utf8 field.jsonName.toList) ↔
      FitsTag field.jsonName := by
  unfold Component.tag
  dsimp only
  apply both_keys_iff
  · split
    · decide
    · split <;> decide
  · split <;> decide

theorem shadow_tag_iff (name : String) :
    jsonName? (s!"`json:\"{name}\"`").toList = some (utf8 name.toList) ↔ FitsTag name := by
  have chars : (s!"`json:\"{name}\"`").toList =
      Char.ofNat 0x60 :: ("json:\"".toList ++ (name.toList ++ [] ++ '"' :: []) ++
        [Char.ofNat 0x60]) := by
    simp [toString]
  rw [chars]
  exact json_name_iff (by decide) (.inl rfl)

section Components

variable {program : Program} {component : Component}
  {fields : List (String × Blueprint.Field Shape)} {required : List String}
  {additional : Additional Shape}

/-- Types of different names are declared once. -/
theorem type_declared_once {part : Part} (distinct : part.types.Nodup) {first second : Declaration}
    (here : first ∈ part.declarations) (there : second ∈ part.declarations) {type : String}
    (own : first.form.receiverType? = some type) (other : second.form.receiverType? = some type) :
    first = second := by
  by_contra different
  have apart := List.pairwise_filterMap.mp distinct
  have symmetric : Std.Symm fun first second : Declaration =>
      ∀ type, first.form.receiverType? = some type →
        ∀ type', second.form.receiverType? = some type' → type ≠ type' :=
    ⟨fun first second apart type own type' other same => apart type' other type own same.symm⟩
  exact apart.forall here there different type own type other rfl

theorem struct_part_declared (member : component ∈ program.components.values)
    (object : component.shape = .object fields required additional) (filled : fields ≠ []) :
    (Component.structPart (Outline.ofProgram program) component
      (commentOn component.name component.description) (fields.map (·.2)) required).declarations ⊆
        (componentsPart program).declarations := by
  intro declaration listed
  have among := List.mem_map_of_mem (f := Component.part (Outline.ofProgram program)) member
  refine List.mem_append_right _ (Part.declarations_subset_join among (List.mem_append_right _ ?_))
  obtain ⟨first, rest, rfl⟩ := List.exists_cons_of_ne_nil filled
  rw [Component.shapePart, object]
  exact listed

/-- The struct of a component has a member with a tag for every field. -/
theorem struct_tagged_iff (types : (componentsPart program).types.Nodup)
    (member : component ∈ program.components.values)
    (object : component.shape = .object fields required additional) (filled : fields ≠ [])
    {identifier literal : String} :
    StructTagged program component.name identifier literal ↔
      ∃ field ∈ fields.map (·.2), Identifier.exported field.jsonName = identifier ∧
        Component.tag field = literal := by
  have own : (⟨commentOn component.name component.description, .struct component.name ""
      (memberGroups ((fields.map (·.2)).map Component.memberOf))⟩ : Declaration) ∈
        (componentsPart program).declarations :=
    struct_part_declared member object filled
      (List.mem_append_left _ (List.mem_append_left _ (List.mem_append_left _ List.mem_cons_self)))
  have typed (groups : List MemberGroup) : (Form.struct component.name "" groups).receiverType? =
      some component.name := congrArg some String.append_empty
  have first_cell (field : Blueprint.Field Shape) :
      (Component.memberOf field).2.2.name = Identifier.exported field.jsonName := by
    simp only [Component.memberOf]
  have last_cell (field : Blueprint.Field Shape) :
      (Component.memberOf field).2.2.rest.getLast? = some [.text (Component.tag field)] := rfl
  constructor
  · rintro ⟨declaration, listed, groups, form, group, grouped, entry, among, named, tagged⟩
    have same := type_declared_once types listed own (form ▸ typed groups) (typed _)
    rw [same] at form
    obtain ⟨_, _, rfl⟩ := Form.struct.inj form
    have entries := List.mem_flatMap.mpr ⟨group, grouped, among⟩
    rw [member_groups_members, List.map_map] at entries
    obtain ⟨field, inside, rfl⟩ := List.mem_map.mp entries
    change (Component.memberOf field).2.2.name = _ at named
    change (Component.memberOf field).2.2.rest.getLast? = _ at tagged
    rw [first_cell] at named
    rw [last_cell] at tagged
    exact ⟨field, inside, named, by simpa using tagged⟩
  · rintro ⟨field, inside, named, rfl⟩
    have entry : (Component.memberOf field).2.2 ∈
        (memberGroups ((fields.map (·.2)).map Component.memberOf)).flatMap (·.members) := by
      rw [member_groups_members, List.map_map]
      exact List.mem_map_of_mem inside
    obtain ⟨group, grouped, among⟩ := List.mem_flatMap.mp entry
    exact ⟨_, own, _, rfl, group, grouped, _, among, (first_cell field).trans named,
      last_cell field⟩

theorem decoder_struct_listed {type : String} {readings : List FieldReading}
    {opening closing : Code} {rows : List (List Code)}
    (listed : .listing opening rows closing ∈
      Go.Statement.wholes (Decoder.method type readings).form.body)
    (opens : Go.Statement.opensStruct opening = true) :
    rows = readings.map FieldReading.shadowRow := by
  have none : Go.Statement.gather Go.Statement.structMembers
      (readings.flatMap (FieldReading.statements type (receiverName type))) = [] := by
    rw [Go.Statement.gather_flat_map]
    exact List.flatMap_eq_nil_iff.mpr fun reading _ => reading_structs type _ reading
  change _ ∈ Go.Statement.wholes (_ ++ _) at listed
  rw [Go.Statement.wholes_append, Go.Statement.wholes_append, List.mem_append,
    List.mem_append] at listed
  rcases listed with (shadow | inside) | last
  · simp [Go.Statement.wholes, Go.Statement.whole, Decoder.acceptNull, Decoder.unmarshalInto,
      giveError] at shadow
    exact shadow.2.1
  · have members : rows.map Go.Statement.rowName ∈ Go.Statement.gather Go.Statement.structMembers
        (readings.flatMap (FieldReading.statements type (receiverName type))) :=
      List.mem_flatMap.mpr ⟨_, inside, by simp [opens]⟩
    rw [none] at members
    cases members
  · cases List.mem_singleton.mp last

/-- Before a component is decoded, every field has a member with a tag of its own. -/
theorem shadow_tagged_iff {document : OpenApi.Specification} {whole : Effects}
    (given : ProgramGiven document whole program) (types : (componentsPart program).types.Nodup)
    (member : component ∈ program.components.values)
    (object : component.shape = .object fields required additional) (filled : fields ≠ [])
    {identifier literal : String} :
    ShadowTagged program component.name identifier literal ↔
      (∃ body, Decodes program component.name body) ∧
        ∃ field ∈ fields.map (·.2), Identifier.exported field.jsonName = identifier ∧
          s!"`json:\"{field.jsonName}\"`" = literal := by
  have decoded (body : List Statement) := @decodes_iff _ _ _ _ _ _ _ given types member object
    filled body
  rw [Component.readings_of_object _ object] at decoded
  have row (field : Blueprint.Field Shape) : Go.Statement.rowName
      (FieldReading.ofField (Outline.ofProgram program) required field).shadowRow =
        Identifier.exported field.jsonName := by
    unfold FieldReading.shadowRow FieldReading.member FieldReading.ofField
    generalize Identifier.exported field.jsonName = identifier
    rfl
  have last_cell (field : Blueprint.Field Shape) :
      (FieldReading.ofField (Outline.ofProgram program) required field).shadowRow.getLast? =
        some [.text s!"`json:\"{field.jsonName}\"`"] := rfl
  constructor
  · rintro ⟨body, decodes, opening, rows, closing, listed, opens, cells, among, named, tagged⟩
    refine ⟨⟨body, decodes⟩, ?_⟩
    obtain ⟨_, rfl⟩ := (decoded body).mp decodes
    rw [decoder_struct_listed listed opens, List.map_map] at among
    obtain ⟨field, inside, rfl⟩ := List.mem_map.mp among
    rw [Function.comp_apply, last_cell] at tagged
    exact ⟨field, inside, (row field).symm.trans named, by simpa using tagged⟩
  · rintro ⟨⟨body, decodes⟩, field, inside, named, rfl⟩
    refine ⟨body, decodes, "var shadow struct \x7b", _, "\x7d", ?_, by decide, _,
      List.mem_map_of_mem (List.mem_map_of_mem inside), (row field).trans named, last_cell field⟩
    obtain ⟨_, rfl⟩ := (decoded body).mp decodes
    change _ ∈ Go.Statement.wholes ([Decoder.acceptNull, _, _] ++ _ ++ _)
    rw [Go.Statement.wholes_append, Go.Statement.wholes_append]
    refine List.mem_append_left _ (List.mem_append_left _ ?_)
    simp [Go.Statement.wholes, Go.Statement.whole]

/-- Each field of a component has a tag in its struct, and in its decoder if it has one. The name in
such a tag is that of the field iff it has no marks. -/
theorem tags_faithful_iff {document : OpenApi.Document} {config : Config}
    {artifacts : Artifact × Artifact} (compiled : (compile document config).1 = .ok program)
    (written : Artifact.all program = .ok artifacts)
    (member : component ∈ program.components.values)
    (object : component.shape = .object fields required additional)
    {field : Blueprint.Field Shape} (inside : field ∈ fields.map (·.2)) :
    let identifier := Identifier.exported field.jsonName
    (∃ literal, StructTagged program component.name identifier literal) ∧
      ((∃ body, Decodes program component.name body) →
        ∃ literal, ShadowTagged program component.name identifier literal) ∧
      ∀ literal, Tagged program component.name identifier literal →
        (jsonName? literal.toList = some (utf8 field.jsonName.toList) ↔
          FitsTag field.jsonName) := by
  intro identifier
  obtain ⟨whole, given⟩ := lowered_given (compiled_iff.mp compiled)
  have drafted := compiled_drafted compiled
  obtain ⟨own, _⟩ := Artifact.all_succeeds_iff.mp ⟨artifacts, written⟩
  have types := component_types_distinct drafted ((components_part_accounted program).nodup own)
  have filled : fields ≠ [] := by
    rintro rfl
    cases inside
  obtain ⟨_, drawn⟩ := drafted.component_drawn member
  have distinct := (unambiguous_of_identifiable drawn.identified).distinct
  have same {other : Blueprint.Field Shape} (listed : other ∈ fields.map (·.2))
      (named : Identifier.exported other.jsonName = identifier) : other = field := by
    rw [object] at distinct
    exact List.inj_on_of_nodup_map distinct listed inside named
  refine ⟨⟨_, (struct_tagged_iff types member object filled).mpr ⟨field, inside, rfl, rfl⟩⟩,
    fun decoded => ⟨_, (shadow_tagged_iff given types member object filled).mpr
      ⟨decoded, field, inside, rfl, rfl⟩⟩, fun literal tagged => ?_⟩
  rcases tagged with struct | shadow
  · obtain ⟨other, listed, named, rfl⟩ := (struct_tagged_iff types member object filled).mp struct
    rw [same listed named]
    exact member_tag_iff field
  · obtain ⟨_, other, listed, named, rfl⟩ :=
      (shadow_tagged_iff given types member object filled).mp shadow
    rw [same listed named]
    exact shadow_tag_iff field.jsonName

end Components

def parcel : OpenApi.Document where
  specification := {
    openapi := "3.0.0"
    components := { schemas := [("parcel", .object {
      type := some (.single "object")
      required := ["size,unit"]
      properties := [("size,unit", .object { type := some (.single "integer") })] })] } }
  raw := .null

theorem parcel_tag_unfaithful :
    ∃ program artifacts, ∃ component ∈ program.components.values, ∃ fields required additional,
      (compile parcel { package := "api", path := "" }).1 = .ok program ∧
      Artifact.all program = .ok artifacts ∧
      component.shape = .object fields required additional ∧
      ∃ field ∈ fields.map (·.2), field.jsonName = "size,unit" ∧ ∃ literal,
        Tagged program component.name "SizeUnit" literal ∧
          jsonName? literal.toList ≠ some (utf8 "size,unit".toList) := by
  have holds : (compileShort parcel { package := "api", path := "" }).any fun program =>
      (program.components.values.any fun component =>
        component.shape.fields.any fun field => field.jsonName == "size,unit") &&
      decide ((componentsPart program).taken ++ (routerPart program).taken).Nodup := by
    decide +kernel
  obtain ⟨program, result, known⟩ := compiled_of_short holds
  simp only [Bool.and_eq_true, List.any_eq_true, beq_iff_eq, decide_eq_true_eq] at known
  obtain ⟨⟨component, member, field, listed, named⟩, distinct⟩ := known
  obtain ⟨artifacts, emitted⟩ := Artifact.succeeds_of_distinct distinct
  obtain ⟨fields, required, additional, object⟩ : ∃ fields required additional,
      component.shape = .object fields required additional := by
    cases shape : component.shape with
    | object fields required additional => exact ⟨fields, required, additional, rfl⟩
    | _ =>
        rw [shape] at listed
        cases listed
  rw [object] at listed
  change field ∈ fields.map (·.2) at listed
  obtain ⟨⟨literal, tagged⟩, _, faithful⟩ := tags_faithful_iff result emitted member object listed
  have identifier : Identifier.exported field.jsonName = "SizeUnit" := by
    rw [named]
    decide
  refine ⟨program, artifacts, component, member, fields, required, additional, result, emitted,
    object, field, listed, named, literal, identifier ▸ .inl tagged, ?_⟩
  rw [← named]
  intro same
  have fits : FitsTag "size,unit" := named ▸ (faithful literal (.inl tagged)).mp same
  exact absurd fits (by decide)

end ApiScaffold.Server
