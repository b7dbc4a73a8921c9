import ApiScaffold.Proofs.NumberTexts
import ApiScaffold.Proofs.Reordering

/-!
Canonical texts of JSON values. A compact text is read back as the value it was written for, so
values with one canonical text have one canonical form, and that is so exactly if they only differ
in the order of members.
-/

namespace ApiScaffold.Json

open Reader

section Strings

def hexDigit (value : Nat) : Char := Text.Quoted.hexDigits.getD value '0'

theorem hex_value_digit : ∀ value < 16, hexValue? (hexDigit value) = some value := by decide

/-- The code of a control character has two digits, if a zero is put before a single one. -/
theorem control_digits {code : Nat} (control : code < 0x20) :
    (if code < 16 then ['0'] else []) ++ Text.Quoted.hex code =
      [hexDigit (code / 16), hexDigit (code % 16)] := by
  by_cases small : code < 16
  · rw [if_pos small, Text.Quoted.hex, if_pos small, Nat.div_eq_of_lt small, Nat.mod_eq_of_lt small]
    rfl
  · have first : code / 16 < 16 := by omega
    rw [if_neg small, Text.Quoted.hex, if_neg small, Text.Quoted.hex, if_pos first]
    rfl

theorem unicode_escape_control {c : Char} (control : c.toNat < 0x20) (rest : List Char) :
    unicodeEscape ('0' :: '0' :: ((if c.toNat < 16 then ['0'] else []) ++
      Text.Quoted.hex c.toNat ++ rest)) = .ok (c, rest) := by
  have zero : hexValue? '0' = some 0 := by decide
  have high := hex_value_digit (c.toNat / 16) (by omega)
  have low := hex_value_digit (c.toNat % 16) (by omega)
  have code : ((0 * 16 + 0) * 16 + c.toNat / 16) * 16 + c.toNat % 16 = c.toNat := by omega
  have four : fourHex ('0' :: '0' :: hexDigit (c.toNat / 16) :: hexDigit (c.toNat % 16) :: rest) =
      .ok (c.toNat, rest) := by
    rw [fourHex, zero, high, low]
    dsimp only
    rw [code]
  have plain : isHighSurrogate c.toNat = false ∧ isLowSurrogate c.toNat = false := by
    unfold isHighSurrogate isLowSurrogate
    simp only [Bool.and_eq_false_iff, decide_eq_false_iff_not]
    omega
  rw [control_digits control]
  change unicodeEscape
    ('0' :: '0' :: hexDigit (c.toNat / 16) :: hexDigit (c.toNat % 16) :: rest) = _
  rw [unicodeEscape, four]
  dsimp only [bind, Except.bind]
  rw [plain.1, plain.2]
  exact congrArg (fun read => Except.ok (read, rest)) (Char.ofNat_toNat c)

theorem char_of_code {c : Char} {code : Nat} (same : c.toNat = code) : Char.ofNat code = c := by
  rw [← same, Char.ofNat_toNat]

theorem string_rest_code (before : List Char) (fuel : Nat) {chars after : List Char} {c : Char}
    (read : unicodeEscape chars = .ok (c, after)) :
    stringRest before (fuel + 1) ('\\' :: 'u' :: chars) = stringRest (c :: before) fuel after := by
  rw [stringRest.eq_def]
  simp only [read]
  rfl

/-- A character of a string is read back from what is written for it. -/
theorem string_rest_escape (before : List Char) (fuel : Nat) (c : Char) (rest : List Char) :
    stringRest before (fuel + 1) (escapeChar c ++ rest) = stringRest (c :: before) fuel rest := by
  unfold escapeChar
  split
  case h_6 quote backslash _ _ _ =>
    split
    case isTrue same =>
      rw [← char_of_code same]
      rfl
    case isFalse =>
      split
      case isTrue same =>
        rw [← char_of_code same]
        rfl
      case isFalse =>
        split
        case isTrue control =>
          exact string_rest_code before fuel (unicode_escape_control control rest)
        case isFalse printed =>
          rw [List.singleton_append, stringRest.eq_def]
          dsimp only
          rw [if_neg quote, if_neg backslash, if_neg printed]
  all_goals rfl

theorem string_rest_chars (text : List Char) : ∀ before fuel tail, text.length < fuel →
    stringRest before fuel (text.flatMap escapeChar ++ '"' :: tail) =
      .ok (String.ofList (before.reverse ++ text), tail) := by
  induction text with
  | nil =>
      intro before fuel tail enough
      cases fuel with
      | zero => cases enough
      | succ fuel => simp [stringRest]
  | cons c text induction =>
      intro before fuel tail enough
      cases fuel with
      | zero => cases enough
      | succ fuel =>
          rw [List.flatMap_cons, List.append_assoc, string_rest_escape,
            induction (c :: before) fuel tail (Nat.lt_of_succ_lt_succ enough)]
          simp

/-- Without an escape, nothing could be read back. -/
theorem escape_ne_nil (c : Char) : escapeChar c ≠ [] := by
  intro none
  have read := string_rest_escape [] 0 c []
  rw [none] at read
  cases read

theorem length_le_escaped (text : List Char) :
    text.length ≤ (text.flatMap escapeChar).length := by
  induction text with
  | nil => exact Nat.le_refl 0
  | cons c text induction =>
      have one := List.length_pos_of_ne_nil (escape_ne_nil c)
      rw [List.flatMap_cons, List.length_append, List.length_cons]
      omega

/-- What follows an opening quote is read back with all the characters that there are. -/
theorem string_read (text : String) (tail : List Char) :
    let rest := text.toList.flatMap escapeChar ++ '"' :: tail
    stringRest [] (rest.length + 1) rest = .ok (text, tail) := by
  intro rest
  have escaped := length_le_escaped text.toList
  have enough : text.toList.length < rest.length + 1 := by
    simp only [rest, List.length_append, List.length_cons]
    omega
  rw [string_rest_chars text.toList [] _ tail enough]
  simp

end Strings

section Members

theorem set_new_member {key : String} (value : Json) {members : List (String × Json)}
    (new : key ∉ members.map (·.1)) : setMember key value members = members ++ [(key, value)] := by
  induction members with
  | nil => rfl
  | cons member rest induction =>
      rw [List.map_cons, List.mem_cons, not_or] at new
      rw [setMember, if_neg (Ne.symm new.1), induction new.2]
      rfl

theorem of_members_distinct {members : List (String × Json)} (distinct : DistinctKeys members) :
    ofMembers members = .object members := by
  have added : ∀ rest before : List (String × Json), DistinctKeys (before ++ rest) →
      rest.foldl (fun known member => setMember member.1 member.2 known) before =
        before ++ rest := by
    intro rest
    induction rest with
    | nil => exact fun before _ => (List.append_nil before).symm
    | cons member rest induction =>
        intro before distinct
        have new : member.1 ∉ before.map (·.1) := by
          unfold DistinctKeys at distinct
          rw [List.map_append, List.nodup_append] at distinct
          exact fun listed => distinct.2.2 _ listed _ List.mem_cons_self rfl
        rw [List.foldl_cons, set_new_member member.2 new, induction, List.append_assoc]
        · rfl
        · rwa [List.append_assoc]
  exact congrArg Json.object (added members [] distinct)

end Members

section Values

/-- The value is read from its text whatever stands behind it, with nothing but blanks left over. -/
def Reads (chars : List Char) (read : Json) : Prop :=
  ∀ fuel tail, Ended tail → chars.length < fuel →
    ∃ blanks, (∀ c ∈ blanks, isSpace c = true) ∧
      value fuel (chars ++ tail) = .ok (read, blanks ++ tail)

theorem skip_blanks {blanks : List Char} (blank : ∀ c ∈ blanks, isSpace c = true) {c : Char}
    (printed : isSpace c = false) (rest : List Char) :
    skipSpaces (blanks ++ c :: rest) = c :: rest := by
  unfold skipSpaces
  rw [List.dropWhile_append_of_pos blank, List.dropWhile_cons_of_neg (by rw [printed]; decide)]

theorem ended_of_delimiter {c : Char} (delimits : c ∈ [',', ']', '}']) (rest : List Char) :
    Ended (c :: rest) := by
  have each : ∀ c ∈ [',', ']', '}'], isDigit c = false ∧ c ≠ '.' ∧ c ≠ 'e' ∧ c ≠ 'E' := by decide
  intro first same
  cases same
  exact each c delimits

theorem value_begins {fuel : Nat} {chars : List Char} {read : Json × List Char}
    (reads : value fuel chars = .ok read) (rest : List Char) : skipSpaces chars ≠ ']' :: rest := by
  intro closed
  cases fuel with
  | zero => cases reads
  | succ fuel =>
      rw [value, closed] at reads
      split at reads
      case h_9 same =>
        cases same
        cases reads
      all_goals
        rename_i same
        cases same

def memberRest (fuel : Nat) (key : String) (first : Json × List Char) :
    Except ReadError (List (String × Json) × List Char) :=
  match skipSpaces first.2 with
  | ',' :: rest => do
    let (others, rest) ← members fuel rest
    return ((key, first.1) :: others, rest)
  | '}' :: rest => .ok ([(key, first.1)], rest)
  | c :: _ => .error (.unexpected c)
  | [] => .error .endOfText

section Steps

variable {fuel : Nat} {chars rest blanks : List Char} (blank : ∀ c ∈ blanks, isSpace c = true)

theorem value_array (apart : ∀ after, skipSpaces chars ≠ ']' :: after) :
    value (fuel + 1) ('[' :: chars) =
      (items fuel chars).map fun pair => (.array pair.1, pair.2) := by
  have begins : skipSpaces ('[' :: chars) = '[' :: chars := rfl
  rw [value, begins]
  split
  case h_3 same =>
    cases same
    split
    case h_1 closed => exact absurd closed (apart _)
    case h_2 =>
      cases items fuel chars with
      | error reason => rfl
      | ok pair => rfl
  case h_9 opened _ _ _ _ _ same =>
    cases same
    exact absurd rfl opened
  all_goals
    rename_i same
    cases same

theorem value_object (quoted : ∀ after, skipSpaces chars ≠ '}' :: after) :
    value (fuel + 1) ('{' :: chars) =
      (members fuel chars).map fun pair => (ofMembers pair.1, pair.2) := by
  have begins : skipSpaces ('{' :: chars) = '{' :: chars := rfl
  rw [value, begins]
  split
  case h_4 same =>
    cases same
    split
    case h_1 closed => exact absurd closed (quoted _)
    case h_2 =>
      cases members fuel chars with
      | error reason => rfl
      | ok pair => rfl
  case h_9 opened _ _ _ _ same =>
    cases same
    exact absurd rfl opened
  all_goals
    rename_i same
    cases same

include blank

theorem items_last {item : Json} (reads : value fuel chars = .ok (item, blanks ++ ']' :: rest)) :
    items (fuel + 1) chars = .ok ([item], rest) := by
  rw [items, reads]
  dsimp only [bind, Except.bind]
  rw [skip_blanks blank (by decide)]
  rfl

theorem items_next {item : Json} (reads : value fuel chars = .ok (item, blanks ++ ',' :: rest)) :
    items (fuel + 1) chars = (items fuel rest).map fun pair => (item :: pair.1, pair.2) := by
  rw [items, reads]
  dsimp only [bind, Except.bind]
  rw [skip_blanks blank (by decide)]
  rfl

omit blank in
theorem members_begin (key : String) (text : List Char) :
    members (fuel + 1) (quoteChars key ++ ':' :: text) =
      value fuel text >>= memberRest fuel key := by
  have whole : quoteChars key ++ ':' :: text =
      '"' :: (key.toList.flatMap escapeChar ++ '"' :: ':' :: text) := by
    simp [quoteChars]
  have quoted (rest : List Char) : skipSpaces ('"' :: rest) = '"' :: rest := rfl
  rw [whole, members, quoted]
  change (stringRest [] _ _ >>= _) = _
  rw [string_read key (':' :: text)]
  rfl

theorem members_last {key : String} {item : Json}
    (reads : value fuel chars = .ok (item, blanks ++ '}' :: rest)) :
    members (fuel + 1) (quoteChars key ++ ':' :: chars) = .ok ([(key, item)], rest) := by
  rw [members_begin, reads]
  dsimp only [bind, Except.bind]
  rw [memberRest, skip_blanks blank (by decide)]
  rfl

theorem members_next {key : String} {item : Json}
    (reads : value fuel chars = .ok (item, blanks ++ ',' :: rest)) :
    members (fuel + 1) (quoteChars key ++ ':' :: chars) =
      (members fuel rest).map fun pair => ((key, item) :: pair.1, pair.2) := by
  rw [members_begin, reads]
  dsimp only [bind, Except.bind]
  rw [memberRest, skip_blanks blank (by decide)]
  rfl

end Steps

theorem items_read {list : List Json} (given : list ≠ [])
    (each : ∀ item ∈ list, Reads item.compactChars item) : ∀ fuel tail,
      (compactChars.itemsChars list).length + 1 < fuel →
        items fuel (compactChars.itemsChars list ++ ']' :: tail) = .ok (list, tail) := by
  induction list with
  | nil => exact absurd rfl given
  | cons item rest induction =>
      intro fuel tail enough
      obtain ⟨first, others⟩ := List.forall_mem_cons.mp each
      cases fuel with
      | zero => cases enough
      | succ fuel =>
          cases rest with
          | nil =>
              rw [compactChars.itemsChars] at enough ⊢
              obtain ⟨blanks, blank, reads⟩ := first fuel (']' :: tail)
                (ended_of_delimiter (by decide) tail) (by omega)
              exact items_last blank reads
          | cons next rest =>
              rw [compactChars.itemsChars, List.length_append, List.length_cons] at enough
              obtain ⟨blanks, blank, reads⟩ := first fuel
                (',' :: (compactChars.itemsChars (next :: rest) ++ ']' :: tail))
                (ended_of_delimiter (by decide) _) (by omega)
              rw [compactChars.itemsChars, List.append_assoc, List.cons_append,
                items_next blank reads,
                induction (List.cons_ne_nil next rest) others fuel tail (by omega)]
              rfl

theorem items_begin {item : Json} {rest : List Json} (reads : Reads item.compactChars item)
    (tail after : List Char) :
    skipSpaces (compactChars.itemsChars (item :: rest) ++ ']' :: tail) ≠ ']' :: after := by
  cases rest with
  | nil =>
      obtain ⟨_, _, known⟩ := reads _ (']' :: tail) (ended_of_delimiter (by decide) _)
        (Nat.lt_succ_self _)
      exact value_begins known after
  | cons next rest =>
      obtain ⟨_, _, known⟩ := reads _
        (',' :: (compactChars.itemsChars (next :: rest) ++ ']' :: tail))
        (ended_of_delimiter (by decide) _) (Nat.lt_succ_self _)
      rw [compactChars.itemsChars, List.append_assoc]
      exact value_begins known after

theorem array_reads {list : List Json} (each : ∀ item ∈ list, Reads item.compactChars item) :
    Reads (compactChars (.array list)) (.array list) := by
  intro fuel tail _ enough
  refine ⟨[], List.forall_mem_nil _, ?_⟩
  cases fuel with
  | zero => cases enough
  | succ fuel =>
      cases list with
      | nil => rfl
      | cons item rest =>
          rw [compactChars, List.length_append, List.length_cons, List.length_singleton] at enough
          have text : compactChars (.array (item :: rest)) ++ tail =
              '[' :: (compactChars.itemsChars (item :: rest) ++ ']' :: tail) := by
            simp [compactChars]
          rw [text, value_array (items_begin (each item List.mem_cons_self) tail),
            items_read (List.cons_ne_nil item rest) each fuel tail (by omega)]
          rfl

theorem members_read {list : List (String × Json)} (given : list ≠ [])
    (each : ∀ member ∈ list, Reads member.2.compactChars member.2) : ∀ fuel tail,
      (compactChars.membersChars list).length + 1 < fuel →
        members fuel (compactChars.membersChars list ++ '}' :: tail) = .ok (list, tail) := by
  induction list with
  | nil => exact absurd rfl given
  | cons member rest induction =>
      obtain ⟨key, item⟩ := member
      intro fuel tail enough
      have first : Reads item.compactChars item := each _ List.mem_cons_self
      have others := List.forall_mem_of_forall_mem_cons each
      cases fuel with
      | zero => cases enough
      | succ fuel =>
          cases rest with
          | nil =>
              rw [compactChars.membersChars, List.length_append, List.length_cons] at enough
              obtain ⟨blanks, blank, reads⟩ := first fuel ('}' :: tail)
                (ended_of_delimiter (by decide) tail) (by omega)
              rw [compactChars.membersChars, List.append_assoc, List.cons_append]
              exact members_last blank reads
          | cons next rest =>
              simp only [compactChars.membersChars, List.length_append, List.length_cons] at enough
              obtain ⟨blanks, blank, reads⟩ := first fuel
                (',' :: (compactChars.membersChars (next :: rest) ++ '}' :: tail))
                (ended_of_delimiter (by decide) _) (by omega)
              have text : compactChars.membersChars ((key, item) :: next :: rest) ++ '}' :: tail =
                  quoteChars key ++ ':' :: (item.compactChars ++
                    ',' :: (compactChars.membersChars (next :: rest) ++ '}' :: tail)) := by
                simp [compactChars.membersChars]
              rw [text, members_next blank reads,
                induction (List.cons_ne_nil next rest) others fuel tail (by omega)]
              rfl

theorem members_quoted (member : String × Json) (rest : List (String × Json))
    (tail after : List Char) :
    skipSpaces (compactChars.membersChars (member :: rest) ++ '}' :: tail) ≠ '}' :: after := by
  obtain ⟨key, item⟩ := member
  have begins : ∃ more, compactChars.membersChars ((key, item) :: rest) = '"' :: more := by
    cases rest with
    | nil => exact ⟨_, rfl⟩
    | cons next rest => exact ⟨_, rfl⟩
  obtain ⟨more, text⟩ := begins
  rw [text]
  exact fun same => absurd (List.head_eq_of_cons_eq same) (by decide)

theorem object_reads {list : List (String × Json)} (distinct : DistinctKeys list)
    (each : ∀ member ∈ list, Reads member.2.compactChars member.2) :
    Reads (compactChars (.object list)) (.object list) := by
  intro fuel tail _ enough
  refine ⟨[], List.forall_mem_nil _, ?_⟩
  cases fuel with
  | zero => cases enough
  | succ fuel =>
      cases list with
      | nil => rfl
      | cons member rest =>
          rw [compactChars, List.length_append, List.length_cons, List.length_singleton] at enough
          have text : compactChars (.object (member :: rest)) ++ tail =
              '{' :: (compactChars.membersChars (member :: rest) ++ '}' :: tail) := by
            simp [compactChars]
          rw [text, value_object (members_quoted member rest tail),
            members_read (List.cons_ne_nil member rest) each fuel tail (by omega)]
          exact congrArg (fun read => Except.ok (read, tail)) (of_members_distinct distinct)

theorem string_reads (text : String) : Reads (compactChars (.string text)) (.string text) := by
  intro fuel tail _ enough
  refine ⟨[], List.forall_mem_nil _, ?_⟩
  cases fuel with
  | zero => cases enough
  | succ fuel =>
      have whole : compactChars (.string text) ++ tail =
          '"' :: (text.toList.flatMap escapeChar ++ '"' :: tail) := by
        simp [compactChars, quoteChars]
      have begins (rest : List Char) : skipSpaces ('"' :: rest) = '"' :: rest := rfl
      rw [whole, value, begins]
      change (stringRest [] _ _ >>= _) = _
      rw [string_read text tail]
      rfl

theorem null_reads : Reads (compactChars .null) .null := by
  intro fuel tail _ enough
  refine ⟨[], List.forall_mem_nil _, ?_⟩
  cases fuel with
  | zero => cases enough
  | succ fuel => rfl

theorem bool_reads (truth : Bool) : Reads (compactChars (.bool truth)) (.bool truth) := by
  intro fuel tail _ enough
  refine ⟨[], List.forall_mem_nil _, ?_⟩
  cases fuel with
  | zero => cases enough
  | succ fuel => cases truth <;> rfl

/-- All numbers inside of the value can be read back. -/
def Recoverable (value : Json) : Prop :=
  ∀ number, Relation.ReflTransGen Within (.number number) value → number.Recoverable

theorem Recoverable.within {value inner : Json} (recoverable : value.Recoverable)
    (within : Within inner value) : inner.Recoverable :=
  fun number inside => recoverable number (inside.tail within)

theorem recoverable_of_within {value : Json}
    (own : ∀ number, value = .number number → number.Recoverable)
    (inside : ∀ inner, Within inner value → inner.Recoverable) : value.Recoverable := by
  intro number path
  cases path with
  | refl => exact own number rfl
  | tail path within => exact inside _ within number path

theorem recoverable_number_iff {number : JsonNumber} :
    (Json.number number).Recoverable ↔ number.Recoverable := by
  constructor
  · exact fun recoverable => recoverable number .refl
  · intro recoverable
    apply recoverable_of_within
    · intro other same
      cases same
      exact recoverable
    · intro inner within
      cases within

theorem recoverable_string (text : String) : (string text).Recoverable := by
  apply recoverable_of_within
  · intro number same
    cases same
  · intro inner within
    cases within

theorem recoverable_array_iff {items : List Json} :
    (array items).Recoverable ↔ ∀ item ∈ items, item.Recoverable := by
  constructor
  · exact fun recoverable item member => recoverable.within (.item member)
  · intro each
    apply recoverable_of_within
    · intro number same
      cases same
    · intro inner within
      cases within with
      | item member => exact each inner member

theorem recoverable_object_iff {members : List (String × Json)} :
    (object members).Recoverable ↔ ∀ member ∈ members, member.2.Recoverable := by
  constructor
  · exact fun recoverable member listed => recoverable.within (.member listed)
  · intro each
    apply recoverable_of_within
    · intro number same
      cases same
    · intro inner within
      cases within with
      | member listed => exact each _ listed

/-- What is written for a value is read as the value. -/
theorem compact_reads (value : Json) (distinct : value.KeysDistinct)
    (recoverable : value.Recoverable) : Reads value.compactChars value := by
  induction value using of_within with
  | step value induction =>
      have inside (inner : Json) (within : Within inner value) : Reads inner.compactChars inner :=
        induction inner within (distinct.within within) (recoverable.within within)
      cases value with
      | null => exact null_reads
      | bool truth => exact bool_reads truth
      | number number =>
          obtain ⟨blanks, blank, reads⟩ := (recoverable number .refl).legible.reads
          intro fuel tail ended enough
          cases fuel with
          | zero => cases enough
          | succ fuel => exact ⟨blanks, blank, reads fuel tail ended⟩
      | string text => exact string_reads text
      | array items => exact array_reads fun item member => inside item (.item member)
      | object members =>
          exact object_reads distinct.keys fun member listed => inside member.2 (.member listed)

end Values

theorem read_compact {value : Json} (distinct : value.KeysDistinct)
    (recoverable : value.Recoverable) : read value.compact = .ok value := by
  have ended : Ended [] := fun _ none => absurd none (Option.not_mem_none _)
  obtain ⟨blanks, blank, reads⟩ :=
    compact_reads value distinct recoverable _ [] ended (Nat.lt_succ_self _)
  rw [List.append_nil, List.append_nil] at reads
  apply read_iff.mpr
  refine ⟨blanks, blank, ?_⟩
  rwa [compact, String.toList_ofList]

section Canonical

/-- What stands inside of one value stands inside of the other one, too. -/
theorem Reordered.within {value other inner : Json} (reordered : value.Reordered other)
    (within : Within inner other) :
    ∃ original, Within original value ∧ original.Reordered inner := by
  cases within with
  | item member =>
      cases reordered with
      | array pairs =>
          obtain ⟨item, listed, known⟩ := partner_of_mem pairs.flip member
          exact ⟨item, .item listed, known⟩
  | member member =>
      cases reordered with
      | object permuted =>
          obtain ⟨middle, order, pairs⟩ := permuted.exists_order
          obtain ⟨item, listed, known⟩ := partner_of_mem pairs.flip member
          exact ⟨item.2, .member (order.mem_iff.mpr listed), known.value⟩

theorem KeysDistinct.reordered {value : Json} (distinct : value.KeysDistinct) : ∀ other,
    value.Reordered other → other.KeysDistinct := by
  induction value using of_within with
  | step value induction =>
      intro other reordered
      have inside (inner : Json) (within : Within inner other) : inner.KeysDistinct := by
        obtain ⟨original, here, known⟩ := reordered.within within
        exact induction original here (distinct.within here) inner known
      cases reordered with
      | null => exact .null
      | bool truth => exact .bool truth
      | number number => exact .number number
      | string text => exact .string text
      | array _ => exact .array fun item member => inside item (.item member)
      | object permuted =>
          refine .object ?_ fun member listed => inside member.2 (.member listed)
          exact permuted.keys_perm.nodup_iff.mp distinct.keys

theorem Recoverable.reordered {value other : Json} (recoverable : value.Recoverable)
    (reordered : value.Reordered other) : other.Recoverable := by
  intro number path
  apply recoverable number
  clear recoverable
  induction path generalizing value with
  | refl =>
      cases reordered
      exact .refl
  | tail _ within induction =>
      obtain ⟨original, here, known⟩ := reordered.within within
      exact (induction known).tail here

/-- Values with one canonical form only differ in the order of members. -/
theorem reordered_of_canonical (value : Json) : ∀ other : Json, value.canonical = other.canonical →
    value.Reordered other := by
  induction value using of_within with
  | step value induction =>
      intro other same
      cases value with
      | null =>
          cases other with
          | null => exact .null
          | _ => cases same
      | bool truth =>
          cases other with
          | bool => cases same; exact .bool truth
          | _ => cases same
      | number number =>
          cases other with
          | number => cases same; exact .number number
          | _ => cases same
      | string text =>
          cases other with
          | string => cases same; exact .string text
          | _ => cases same
      | array items =>
          cases other with
          | array others =>
              rw [canonical, canonical, canonical_items_eq_map, canonical_items_eq_map,
                Json.array.injEq, ← List.forall₂_eq_eq_eq, List.forall₂_map_left_iff,
                List.forall₂_map_right_iff] at same
              apply Reordered.array
              apply (forall_pairs_of_mem same).imp
              intro item other known
              exact induction item (.item known.2) other known.1
          | _ => cases same
      | object members =>
          cases other with
          | object others =>
              rw [canonical, canonical, canonical_members_eq_map, canonical_members_eq_map,
                Json.object.injEq] at same
              have order := sortMembers_perm
                (others.map fun member => (member.1, canonical member.2))
              rw [← same] at order
              apply Reordered.object
              apply (Permuted.of_map_perm ((sortMembers_perm _).symm.trans order)).imp
              intro member listed other known
              obtain ⟨key, inner⟩ := Prod.mk.inj known
              exact Keyed.of_value key (induction member.2 (.member listed) other.2 inner)
          | _ => cases same

/-- Canonical texts tell values apart up to the order of the members of objects. The canonical form
is its own, and its text is read back as it. -/
theorem canonical_text_faithful (value other : Json) (distinct : value.KeysDistinct)
    (distinct' : other.KeysDistinct) (recoverable : value.Recoverable)
    (recoverable' : other.Recoverable) :
    (value.canonical.compact = other.canonical.compact ↔ value.Reordered other) ∧
      value.canonical.canonical = value.canonical ∧
      read value.canonical.compact = .ok value.canonical := by
  have here := reordered_canonical value
  have there := reordered_canonical other
  have reads := read_compact (distinct.reordered _ here) (recoverable.reordered here)
  have reads' := read_compact (distinct'.reordered _ there) (recoverable'.reordered there)
  refine ⟨?_, (canonical_eq_of_reordered value _ distinct here).symm, reads⟩
  constructor
  · intro same
    rw [same] at reads
    exact reordered_of_canonical value other (Except.ok.inj (reads.symm.trans reads'))
  · intro reordered
    rw [canonical_eq_of_reordered value other distinct reordered]

def bill : Json := .object [
  ("note", .string "\"paid\"\n"),
  ("items", .array [.object [
    ("price", .number (.double ⟨false, 4503599627370496, -53⟩)),
    ("count", .number (.integer (-3)))]])]

def billAgain : Json := .object [
  ("items", .array [.object [
    ("count", .number (.integer (-3))),
    ("price", .number (.double ⟨false, 4503599627370496, -53⟩))]]),
  ("note", .string "\"paid\"\n")]

theorem bill_text_faithful : bill.KeysDistinct ∧ bill.Recoverable ∧ bill.Reordered billAgain ∧
    bill.canonical.compact = billAgain.canonical.compact ∧
    read bill.canonical.compact = .ok bill.canonical := by
  have distinct : bill.KeysDistinct := by
    simp [bill, keys_distinct_object_iff, keys_distinct_array_iff, DistinctKeys,
      KeysDistinct.string, KeysDistinct.number]
  have half : (JsonNumber.double ⟨false, 4503599627370496, -53⟩).Recoverable := by decide +kernel
  have few : (JsonNumber.integer (-3)).Recoverable := by decide
  have recoverable : bill.Recoverable := by
    simp [bill, recoverable_object_iff, recoverable_array_iff, recoverable_number_iff,
      recoverable_string, half, few]
  have reordered : bill.Reordered billAgain := by
    apply reordered_of_canonical
    simp [bill, billAgain, canonical, canonical.canonicalItems, canonical.canonicalMembers,
      sortMembers, merge_sort_short, sortShort]
  obtain ⟨same, _, reads⟩ := canonical_text_faithful bill billAgain distinct
    (distinct.reordered _ reordered) recoverable (recoverable.reordered reordered)
  exact ⟨distinct, recoverable, reordered, same.mpr reordered, reads⟩

end Canonical

end ApiScaffold.Json
