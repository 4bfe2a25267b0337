import Mathlib.Algebra.GroupWithZero.Nat
import ComponentSplit.Proofs.Path.Place
import ComponentSplit.Proofs.Section.Position
import ComponentSplit.Text.Lines

namespace ComponentSplit

section Fields

/-- A separator parts the fields in front of it from those behind it. -/
theorem fields_append_cons (sep : Char) (front back : List Char) :
    fields sep (front ++ sep :: back) = fields sep front ++ fields sep back := by
  induction front with
  | nil => exact fields_append List.not_mem_nil back
  | cons c front ih =>
    obtain ⟨first, more, hfront⟩ := List.exists_cons_of_ne_nil (fields_ne_nil sep front)
    rw [List.cons_append, fields, ih, fields, hfront]
    by_cases hc : c = sep <;> simp [hc]

/-- What holds no separator stands in front of the first field of what follows it. -/
theorem fields_append_of_not_mem {sep : Char} {front : List Char} (h : sep ∉ front)
    (rest : List Char) : ∃ field more,
      fields sep rest = field :: more ∧ fields sep (front ++ rest) = (front ++ field) :: more := by
  obtain ⟨field, more, hrest⟩ := List.exists_cons_of_ne_nil (fields_ne_nil sep rest)
  refine ⟨field, more, hrest, ?_⟩
  induction front with
  | nil => exact hrest
  | cons c front ih =>
    rw [List.mem_cons, not_or] at h
    simp [fields, ih h.2, Ne.symm h.1]

theorem length_fields (sep : Char) (text : List Char) :
    (fields sep text).length = text.count sep + 1 := by
  induction text with
  | nil => rfl
  | cons c text ih =>
    obtain ⟨first, more, htext⟩ := List.exists_cons_of_ne_nil (fields_ne_nil sep text)
    rw [htext] at ih
    rw [fields, htext]
    by_cases hc : c = sep
    · simpa [hc] using ih
    · simpa [hc, List.count_cons_of_ne hc] using ih

/-- The fields make up the whole text, with a separator behind each of them but the last. -/
theorem sum_length_fields (sep : Char) (text : List Char) :
    ((fields sep text).map fun field => field.length + 1).sum = text.length + 1 := by
  induction text with
  | nil => rfl
  | cons c text ih =>
    obtain ⟨first, more, htext⟩ := List.exists_cons_of_ne_nil (fields_ne_nil sep text)
    rw [htext, List.map_cons, List.sum_cons] at ih
    rw [fields, htext]
    -- a separator opens an empty field, any other character makes the first field longer by one
    by_cases hc : c = sep
    · simp only [hc, if_true, List.map_cons, List.sum_cons, List.length_nil, List.length_cons]
      omega
    · simp only [hc, if_false, List.map_cons, List.sum_cons, List.length_cons]
      omega

end Fields

/-- The offset that a line and a column denote in a text: that of one of its lines, and in the line
no more characters than it has. -/
structure Position.Denotes (p : Position) (text : List Char) (offset : Nat) : Prop where
  line_pos : 1 ≤ p.line
  line_le : p.line ≤ (lines text).length
  column_le : ∃ line, (lines text)[p.line - 1]? = some line ∧ p.column ≤ line.length
  offset_eq : (((lines text).take (p.line - 1)).map fun line => line.length + 1).sum + p.column =
    offset

theorem Position.denotes_behind (passed rest : List Char) :
    (Position.first.behind passed).Denotes (passed ++ rest) passed.length := by
  rcases exists_lastLine passed with hp | ⟨above, last, rfl, hl⟩
  · rw [Position.behind_of_not_mem _ hp]
    obtain ⟨line, more, -, hlines⟩ := fields_append_of_not_mem hp rest
    refine ⟨Nat.le_refl 1, ?_, ⟨passed ++ line, ?_, ?_⟩, ?_⟩ <;>
      simp [lines, hlines, Position.first]
  · rw [Position.behind_lastLine _ _ hl]
    obtain ⟨line, more, -, hlines⟩ := fields_append_of_not_mem hl rest
    have hall : lines ((above ++ '\n' :: last) ++ rest) =
        lines above ++ (last ++ line) :: more := by
      rw [List.append_assoc, List.cons_append, lines, fields_append_cons, hlines]
      rfl
    have habove : (lines above).length = above.count '\n' + 1 := length_fields '\n' above
    have hindex : Position.first.line + above.count '\n' + 1 - 1 = (lines above).length := by
      simp only [Position.first, habove]
      omega
    refine ⟨by simp, ?_, ⟨last ++ line, ?_, by simp⟩, ?_⟩
    · simp only [hall, List.length_append, List.length_cons, habove, Position.first]
      omega
    · simp only [hindex, hall]
      simp
    · simp only [hindex, hall, List.take_left, List.length_append, List.length_cons]
      have hsum : ((lines above).map fun line => line.length + 1).sum = above.length + 1 :=
        sum_length_fields '\n' above
      omega

theorem lineStartsFrom_bounds {offset start : Nat} {text : List Char}
    (h : start ∈ lineStartsFrom offset text) : offset < start ∧ start ≤ offset + text.length := by
  induction text generalizing offset with
  | nil => simp [lineStartsFrom] at h
  | cons c text ih =>
    have hrest (hmem : start ∈ lineStartsFrom (offset + 1) text) :
        offset < start ∧ start ≤ offset + (text.length + 1) := by
      have := ih hmem
      omega
    rw [lineStartsFrom] at h
    rw [List.length_cons]
    split at h
    · rcases List.mem_cons.mp h with rfl | hmem
      · omega
      · exact hrest hmem
    · exact hrest h

/-- An offset is looked up where the lines start, and comes to the same place as reading does. -/
theorem Source.position_behind {source : Source} {passed rest : List Char}
    (h : source.text = passed ++ rest) :
    source.position passed.length = Position.first.behind passed := by
  have hstarts : source.lineStarts =
      (0 :: lineStartsFrom 0 passed) ++ lineStartsFrom passed.length rest := by
    rw [source.lineStarts_eq, h, lineStartsFrom_append, Nat.zero_add, List.cons_append]
  have hfront : ∀ start ∈ 0 :: lineStartsFrom 0 passed, decide (start ≤ passed.length) = true := by
    intro start hstart
    rcases List.mem_cons.mp hstart with rfl | hmem
    · simp
    · simpa using (lineStartsFrom_bounds hmem).2
  have hback : (lineStartsFrom passed.length rest).takeWhile (· ≤ passed.length) = [] := by
    cases hrest : lineStartsFrom passed.length rest with
    | nil => rfl
    | cons start more =>
      have hlt := (lineStartsFrom_bounds (hrest ▸ List.mem_cons_self)).1
      exact List.takeWhile_cons_of_neg (by simpa using hlt)
  have hreached : source.lineStarts.takeWhile (· ≤ passed.length) =
      0 :: lineStartsFrom 0 passed := by
    rw [hstarts, List.takeWhile_append_of_pos hfront, hback, List.append_nil]
  have hline : (source.lineStarts.takeWhile (· ≤ passed.length)).length =
      (Position.first.behind passed).line := by
    rw [hreached, (Position.isBehind_first passed).line, List.length_cons, length_lineStartsFrom,
      Nat.add_comm]
  have hoffset := Source.offset_behind h
  rw [Source.offset] at hoffset
  rw [Source.position, hline]
  have hcolumn : passed.length - source.lineStart (Position.first.behind passed).line =
      (Position.first.behind passed).column := by
    omega
  rw [hcolumn]

end ComponentSplit
