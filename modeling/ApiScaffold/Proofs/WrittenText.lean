import ApiScaffold.Source.Layout

/-!
What is laid out is in the text. Lines are indented, cut at their ends and put into columns, but a
piece that ends in something visible stays whole, and no line that has one is dropped. Whatever is
written ends as deep as it starts.
-/

namespace ApiScaffold.Source

def Contains (piece text : String) : Prop := piece.toList <:+: text.toList

namespace Contains

variable {piece text other : String}

theorem append_left (inside : Contains piece text) : Contains piece (text ++ other) := by
  unfold Contains
  rw [String.toList_append]
  exact List.infix_append_of_infix_left inside

theorem append_right (inside : Contains piece text) : Contains piece (other ++ text) := by
  unfold Contains
  rw [String.toList_append]
  exact List.infix_append_of_infix_right inside

theorem join {texts : List String} (member : text ∈ texts) (inside : Contains piece text) :
    Contains piece (String.join texts) := by
  induction texts with
  | nil => cases member
  | cons first rest induction =>
      rw [String.join_cons]
      rcases List.mem_cons.mp member with here | there
      · exact append_left (here ▸ inside)
      · exact append_right (induction there)

theorem intercalate {separator : String} {texts : List String} (member : text ∈ texts)
    (inside : Contains piece text) : Contains piece (String.intercalate separator texts) := by
  induction texts with
  | nil => cases member
  | cons first rest induction =>
      cases rest with
      | nil =>
          rw [String.intercalate_singleton]
          exact List.mem_singleton.mp member ▸ inside
      | cons next others =>
          rw [String.intercalate_cons_cons]
          rcases List.mem_cons.mp member with here | there
          · exact append_left (append_left (here ▸ inside))
          · exact append_right (induction there)

end Contains

def qualifier (localName : String) : String := localName ++ "."

theorem solid_trim_end {front chars : List Char} {last : Char}
    (visible : Text.isBlank last = false) (inside : front ++ [last] <:+: chars) :
    front ++ [last] <:+: Text.trimEndChars chars := by
  have stops : ∀ rest after : List Char,
      last :: rest <:+ (after ++ last :: rest).dropWhile Text.isBlank := by
    intro rest after
    induction after with
    | nil =>
        have unchanged : (last :: rest).dropWhile Text.isBlank = last :: rest :=
          List.dropWhile_cons_of_neg (by simp [visible])
        exact ⟨[], unchanged.symm⟩
    | cons first others induction =>
        rw [List.cons_append, List.dropWhile_cons]
        split
        · exact induction
        · exact (List.suffix_append others _).trans (List.suffix_cons first _)
  obtain ⟨before, after, rfl⟩ := inside
  have reversed := stops (front.reverse ++ before.reverse) after.reverse
  have kept := List.reverse_prefix.mpr reversed
  have split : (before ++ (front ++ [last]) ++ after).reverse =
      after.reverse ++ last :: (front.reverse ++ before.reverse) := by simp
  unfold Text.trimEndChars Text.dropWhileEnd
  rw [split]
  apply List.IsInfix.trans _ kept.isInfix
  exact ⟨before, [], by simp⟩

variable {localName : String}

theorem qualifier_trim_end {text : String} (inside : Contains (qualifier localName) text) :
    Contains (qualifier localName) (Text.trimEnd text) := by
  have dotted : (qualifier localName).toList = localName.toList ++ ['.'] :=
    String.toList_append
  have cut : (Text.trimEnd text).toList = Text.trimEndChars text.toList := String.toList_ofList
  unfold Contains at inside ⊢
  rw [dotted] at inside ⊢
  rw [cut]
  exact solid_trim_end (by decide) inside

namespace Buffer

theorem line_filled {buffer : Buffer} {text : String} (filled : text.isEmpty = false) :
    buffer.line text = { buffer with written := (buffer.margin ++ text) :: buffer.written } := by
  unfold line
  rw [filled]
  rfl

@[simp] theorem blank_depth (buffer : Buffer) : buffer.blank.depth = buffer.depth := by
  unfold blank
  split
  · rfl
  · split <;> rfl

@[simp] theorem rows_depth (buffer : Buffer) (table : List (List String)) :
    (buffer.rows table).depth = buffer.depth := by
  unfold rows
  dsimp only
  generalize columnWidths table = widths
  induction table generalizing buffer with
  | nil => rfl
  | cons first rest induction => exact induction _

def Qualifies (localName : String) (buffer : Buffer) : Prop :=
  ∃ line ∈ buffer.written, Contains (qualifier localName) line

theorem qualified_line_filled {line : String} (inside : Contains (qualifier localName) line) :
    line.isEmpty = false := by
  rw [Bool.eq_false_iff]
  intro empty
  rw [String.isEmpty_iff.mp empty] at inside
  have none := List.infix_nil.mp inside
  unfold qualifier at none
  rw [String.toList_append] at none
  exact List.cons_ne_nil _ _ (List.append_eq_nil_iff.mp none).2

theorem qualifies_line {buffer : Buffer} {text : String}
    (either : buffer.Qualifies localName ∨ Contains (qualifier localName) text) :
    (buffer.line text).Qualifies localName := by
  rcases either with ⟨line, member, inside⟩ | inside
  · exact ⟨line, List.mem_cons_of_mem _ member, inside⟩
  · refine ⟨_, List.mem_cons_self, ?_⟩
    rw [qualified_line_filled inside]
    exact inside.append_right

theorem qualifies_blank {buffer : Buffer} (known : buffer.Qualifies localName) :
    buffer.blank.Qualifies localName := by
  obtain ⟨line, member, inside⟩ := known
  unfold blank
  split
  · exact ⟨line, member, inside⟩
  · split
    · exact ⟨line, member, inside⟩
    · exact ⟨line, List.mem_cons_of_mem _ member, inside⟩

theorem mem_drop_empty {lines : List String} {line : String} (member : line ∈ lines)
    (filled : line.isEmpty = false) : line ∈ lines.dropWhile String.isEmpty := by
  induction lines with
  | nil => cases member
  | cons first rest induction =>
      rw [List.dropWhile_cons]
      split
      · rename_i empty
        rcases List.mem_cons.mp member with here | there
        · rw [← here, filled] at empty
          cases empty
        · exact induction there
      · exact member

theorem qualifies_closed {buffer : Buffer} {closing : String}
    (either : buffer.Qualifies localName ∨ Contains (qualifier localName) closing) :
    (buffer.closed closing).Qualifies localName := by
  apply qualifies_line
  apply either.imp_left
  rintro ⟨line, member, inside⟩
  exact ⟨line, mem_drop_empty member (qualified_line_filled inside), inside⟩

theorem contains_aligned_row {row : List String} {cell : String} (widths : List Nat)
    (member : cell ∈ row) (inside : Contains (qualifier localName) cell) :
    Contains (qualifier localName) (alignedRow widths row) := by
  induction row generalizing widths with
  | nil => cases member
  | cons first rest induction =>
      cases rest with
      | nil =>
          rw [alignedRow]
          exact List.mem_singleton.mp member ▸ inside
      | cons next others =>
          rw [alignedRow]
          rcases List.mem_cons.mp member with here | there
          · rw [← here]
            exact inside.append_left.append_left.append_left
          · exact (induction widths.tail there).append_right

theorem qualifies_rows {buffer : Buffer} {table : List (List String)}
    (either : buffer.Qualifies localName ∨
      ∃ row ∈ table, ∃ cell ∈ row, Contains (qualifier localName) cell) :
    (buffer.rows table).Qualifies localName := by
  unfold rows
  dsimp only
  generalize columnWidths table = widths
  induction table generalizing buffer with
  | nil =>
      rcases either with known | ⟨row, member, _⟩
      · exact known
      · cases member
  | cons first rest induction =>
      rw [List.foldl_cons]
      apply induction
      rcases either with known | ⟨row, member, cell, inRow, inside⟩
      · exact .inl (qualifies_line (.inl known))
      · rcases List.mem_cons.mp member with here | there
        · subst here
          exact .inl (qualifies_line (.inr
            (qualifier_trim_end (contains_aligned_row widths inRow inside))))
        · exact .inr ⟨row, there, cell, inRow, inside⟩

theorem contains_body {buffer : Buffer} (known : buffer.Qualifies localName) :
    Contains (qualifier localName) buffer.body := by
  obtain ⟨line, member, inside⟩ := known
  unfold body
  apply Contains.append_left
  apply Contains.intercalate _ inside
  exact List.mem_reverse.mpr (mem_drop_empty member (qualified_line_filled inside))

end Buffer

namespace Layout

variable {spell : Code → String} {fragment : Fragment}

mutual
theorem write_depth : ∀ (layout : Layout) (buffer : Buffer),
    (write spell layout buffer).depth = buffer.depth
  | .line _, _ => rfl
  | .gap, buffer => buffer.blank_depth
  | .rows _, buffer => buffer.rows_depth _
  | .block opening body _, buffer => by
      have inner := write_all_depth body (buffer.opened (spell opening))
      have deeper : (buffer.opened (spell opening)).depth = buffer.depth + 1 := rfl
      rw [write]
      change (writeAll spell body (buffer.opened (spell opening))).depth - 1 = buffer.depth
      omega
  | .nested body, buffer => by
      have inner := write_all_depth body buffer.indent
      have deeper : buffer.indent.depth = buffer.depth + 1 := rfl
      rw [write]
      change (writeAll spell body buffer.indent).depth - 1 = buffer.depth
      omega
termination_by structural layout => layout

theorem write_all_depth : ∀ (layouts : List Layout) (buffer : Buffer),
    (writeAll spell layouts buffer).depth = buffer.depth
  | [], _ => rfl
  | layout :: rest, buffer => by
      rw [writeAll, write_all_depth rest, write_depth layout]
termination_by structural layouts => layouts
end

mutual
/-- A layout with the fragment gets its qualifier into the buffer, and none ever leaves it. -/
theorem write_qualifies
    (spelled : ∀ code : Code, fragment ∈ code → Contains (qualifier localName) (spell code)) :
    ∀ (layout : Layout) (buffer : Buffer),
    buffer.Qualifies localName ∨ fragment ∈ layout.fragments →
    (write spell layout buffer).Qualifies localName
  | .line code, buffer, either => Buffer.qualifies_line (either.imp_right (spelled code))
  | .gap, buffer, either => Buffer.qualifies_blank (either.resolve_right List.not_mem_nil)
  | .rows table, buffer, either => by
      rw [write]
      apply Buffer.qualifies_rows
      apply either.imp_right
      intro member
      rw [fragments] at member
      obtain ⟨cell, inCells, here⟩ := List.mem_flatten.mp member
      obtain ⟨row, inTable, inRow⟩ := List.mem_flatten.mp inCells
      exact ⟨_, List.mem_map_of_mem inTable, _, List.mem_map_of_mem inRow, spelled cell here⟩
  | .block opening body closing, buffer, either => by
      rw [write]
      apply Buffer.qualifies_closed
      rcases either with known | member
      · exact .inl (write_all_qualifies spelled body _ (.inl (Buffer.qualifies_line (.inl known))))
      · rw [fragments] at member
        rcases List.mem_append.mp member with first | last
        · apply Or.inl
          apply write_all_qualifies spelled body
          rcases List.mem_append.mp first with inOpening | inBody
          · exact .inl (Buffer.qualifies_line (.inr (spelled opening inOpening)))
          · exact .inr inBody
        · exact .inr (spelled closing last)
  | .nested body, buffer, either => write_all_qualifies spelled body buffer.indent either
termination_by structural layout => layout

theorem write_all_qualifies
    (spelled : ∀ code : Code, fragment ∈ code → Contains (qualifier localName) (spell code)) :
    ∀ (layouts : List Layout) (buffer : Buffer),
    buffer.Qualifies localName ∨ fragment ∈ allFragments layouts →
    (writeAll spell layouts buffer).Qualifies localName
  | [], buffer, either => either.resolve_right List.not_mem_nil
  | layout :: rest, buffer, either => by
      rw [writeAll]
      apply write_all_qualifies spelled rest
      rcases either with known | member
      · exact .inl (write_qualifies spelled layout buffer (.inl known))
      · rw [allFragments] at member
        rcases List.mem_append.mp member with here | there
        · exact .inl (write_qualifies spelled layout buffer (.inr here))
        · exact .inr there
termination_by structural layouts => layouts
end

end Layout

/-- A fragment of another package is spelled with the alias of the package. -/
theorem contains_spelled {scope : Scope} {imports : Imports} {fragment : Fragment} {path : String}
    (found : fragment.importPath? scope = some path) {code : Code} (member : fragment ∈ code) :
    Contains (qualifier (imports.localName path)) (code.spelled scope imports) := by
  apply Contains.join (List.mem_map_of_mem member)
  unfold Fragment.spelled
  rw [found]
  exact Contains.append_left (List.infix_refl _)

end ApiScaffold.Source
