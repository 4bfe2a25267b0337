import ComponentSplit.Section.Position
import Mathlib.Data.List.TakeWhile

namespace ComponentSplit

/-- A text either has no newline or consists of whole lines and a last one without a newline. -/
theorem exists_lastLine (text : List Char) :
    '\n' ∉ text ∨ ∃ lines last, text = lines ++ '\n' :: last ∧ '\n' ∉ last := by
  by_cases h : '\n' ∈ text
  · right
    obtain ⟨last, lines, hrev, hlast⟩ := List.eq_append_cons_of_mem (List.mem_reverse.mpr h)
    refine ⟨lines.reverse, last.reverse, ?_, by simpa using hlast⟩
    have hback := congrArg List.reverse hrev
    simpa using hback
  · exact .inl h

theorem Position.behind_of_not_mem (p : Position) {passed : List Char} (h : '\n' ∉ passed) :
    p.behind passed = { p with column := p.column + passed.length } := by
  simp [Position.behind, List.count_eq_zero_of_not_mem h]

theorem Position.behind_lastLine (p : Position) (lines : List Char) {last : List Char}
    (h : '\n' ∉ last) :
    p.behind (lines ++ '\n' :: last) = ⟨p.line + lines.count '\n' + 1, last.length⟩ := by
  have hcount : (lines ++ '\n' :: last).count '\n' = lines.count '\n' + 1 := by
    simp [List.count_append, List.count_eq_zero_of_not_mem h]
  have hcolumn : (lines ++ '\n' :: last).reverse.takeWhile (· != '\n') = last.reverse := by
    have hlast : ∀ c ∈ last.reverse, (c != '\n') = true := by
      intro c hc
      simp only [bne_iff_ne]
      rintro rfl
      exact h (List.mem_reverse.mp hc)
    rw [List.reverse_append, List.reverse_cons, List.append_assoc,
      List.takeWhile_append_of_pos hlast]
    simp
  simp only [Position.behind, hcount, hcolumn, List.length_reverse, Nat.add_assoc]
  rw [if_neg (Nat.succ_ne_zero _)]

@[simp] theorem Position.behind_nil (p : Position) : p.behind [] = p := by
  simp [Position.behind]

theorem Position.behind_append (p : Position) (front back : List Char) :
    p.behind (front ++ back) = (p.behind front).behind back := by
  rcases exists_lastLine back with hb | ⟨lines, last, rfl, hl⟩
  · rw [Position.behind_of_not_mem _ hb]
    rcases exists_lastLine front with hf | ⟨lines, last, rfl, hl⟩
    · have hboth : '\n' ∉ front ++ back := by simp [hf, hb]
      rw [Position.behind_of_not_mem _ hboth, Position.behind_of_not_mem _ hf]
      simp [Nat.add_assoc]
    · have hlast : '\n' ∉ last ++ back := by simp [hl, hb]
      rw [List.append_assoc, List.cons_append, Position.behind_lastLine _ _ hlast,
        Position.behind_lastLine _ _ hl]
      simp
  · have hline : (p.behind front).line = p.line + front.count '\n' := by
      unfold Position.behind
      by_cases hn : front.count '\n' = 0
      · simp [hn]
      · simp [hn]
    rw [← List.append_assoc, Position.behind_lastLine _ _ hl, Position.behind_lastLine _ _ hl,
      hline, List.count_append]
    simp [Nat.add_assoc]

theorem lineStartsFrom_append (offset : Nat) (front back : List Char) :
    lineStartsFrom offset (front ++ back) =
      lineStartsFrom offset front ++ lineStartsFrom (offset + front.length) back := by
  induction front generalizing offset with
  | nil => rfl
  | cons c front ih =>
    have hoffset : offset + 1 + front.length = offset + (c :: front).length := by
      simp only [List.length_cons]
      omega
    rw [List.cons_append, lineStartsFrom, lineStartsFrom]
    split
    · rw [ih, hoffset, List.cons_append]
    · rw [ih, hoffset]

theorem length_lineStartsFrom (offset : Nat) (text : List Char) :
    (lineStartsFrom offset text).length = text.count '\n' := by
  induction text generalizing offset with
  | nil => rfl
  | cons c text ih =>
    rw [lineStartsFrom]
    split
    next hc => simp [hc, ih]
    next hc => simp [List.count_cons_of_ne hc, ih]

/-- The offset of the place behind a beginning of the source is the length of the beginning. -/
theorem Source.offset_behind {source : Source} {passed left : List Char}
    (h : source.text = passed ++ left) :
    source.offset (Position.first.behind passed) = passed.length := by
  unfold Source.offset Source.lineStart
  rw [source.lineStarts_eq, h]
  rcases exists_lastLine passed with hp | ⟨lines, last, rfl, hl⟩
  · rw [Position.behind_of_not_mem _ hp]
    simp [Position.first]
  · have hlines : (lineStartsFrom 0 lines).length = lines.count '\n' :=
      length_lineStartsFrom 0 lines
    rw [Position.behind_lastLine _ _ hl, List.append_assoc, lineStartsFrom_append, List.cons_append,
      lineStartsFrom, if_pos rfl]
    have hget : (0 :: (lineStartsFrom 0 lines ++ (0 + lines.length + 1) ::
        lineStartsFrom (0 + lines.length + 1) (last ++ left))).getD (lines.count '\n' + 1) 0 =
        lines.length + 1 := by
      rw [List.getD_cons_succ, ← hlines]
      simp
    simp only [Position.first, List.length_append, List.length_cons]
    have hline : 1 + lines.count '\n' + 1 - 1 = lines.count '\n' + 1 := by omega
    rw [hline, hget]
    omega

/-- A place is the one behind a text: its line counts the newlines in the text, its column what
stands behind the last of them. -/
structure Position.IsBehind (p : Position) (passed : List Char) : Prop where
  line : p.line = 1 + passed.count '\n'
  column : ∃ lineStart, lineStart ≤ passed.length ∧ p.column = passed.length - lineStart ∧
    '\n' ∉ passed.drop lineStart ∧ (lineStart = 0 ∨ passed[lineStart - 1]? = some '\n')

theorem Position.isBehind_first (passed : List Char) :
    (Position.first.behind passed).IsBehind passed := by
  rcases exists_lastLine passed with hp | ⟨lines, last, rfl, hl⟩
  · rw [Position.behind_of_not_mem _ hp]
    refine ⟨?_, 0, Nat.zero_le _, ?_, by simpa using hp, .inl rfl⟩
    · simp [Position.first, List.count_eq_zero_of_not_mem hp]
    · simp [Position.first]
  · rw [Position.behind_lastLine _ _ hl]
    refine ⟨?_, lines.length + 1, by simp, ?_, ?_, .inr ?_⟩
    · simp [Position.first, List.count_append, List.count_eq_zero_of_not_mem hl]
      omega
    · simp
      omega
    · have hdrop : (lines ++ '\n' :: last).drop (lines.length + 1) = last := by
        simp [List.drop_append]
      rwa [hdrop]
    · simp

/-- A remainder is one of a source when its place is the one behind what the source has before
it. -/
def Remainder.Of (left : Remainder) (source : Source) : Prop :=
  ∃ passed, source.text = passed ++ left.text ∧ left.position = Position.first.behind passed

theorem Remainder.moveTo_eq {left : Remainder} {passed text : List Char}
    (h : left.text = passed ++ text) :
    left.moveTo text = ⟨left.position.behind passed, text⟩ := by
  simp [Remainder.moveTo, h]

theorem Remainder.moveTo_moveTo {left : Remainder} {middle text : List Char}
    (hm : middle <:+ left.text) (ht : text <:+ middle) :
    (left.moveTo middle).moveTo text = left.moveTo text := by
  obtain ⟨front, hfront⟩ := hm
  obtain ⟨back, hback⟩ := ht
  have hleft : left.text = (front ++ back) ++ text := by
    rw [List.append_assoc, hback, hfront]
  rw [Remainder.moveTo_eq hfront.symm, Remainder.moveTo_eq hleft, Remainder.moveTo_eq hback.symm,
    Position.behind_append]

namespace Remainder.Of

variable {source : Source} {left : Remainder}

theorem first (text : List Char) : Remainder.Of ⟨.first, text⟩ (Source.ofText text) :=
  ⟨[], rfl, (Position.behind_nil _).symm⟩

theorem moveTo (h : left.Of source) {text : List Char} (hs : text <:+ left.text) :
    (left.moveTo text).Of source := by
  obtain ⟨passed, hsource, hposition⟩ := h
  obtain ⟨between, hbetween⟩ := hs
  rw [Remainder.moveTo_eq hbetween.symm]
  refine ⟨passed ++ between, ?_, ?_⟩
  · rw [hsource, ← hbetween, List.append_assoc]
  · rw [hposition, Position.behind_append]

theorem drop_offset (h : left.Of source) :
    source.text.drop (source.offset left.position) = left.text := by
  obtain ⟨passed, hsource, hposition⟩ := h
  rw [hposition, Source.offset_behind hsource, hsource]
  simp

theorem offset_add_length (h : left.Of source) :
    source.offset left.position + left.text.length = source.text.length := by
  obtain ⟨passed, hsource, hposition⟩ := h
  rw [hposition, Source.offset_behind hsource, hsource, List.length_append]

theorem isBehind (h : left.Of source) :
    left.position.IsBehind (source.text.take (source.offset left.position)) := by
  obtain ⟨passed, hsource, hposition⟩ := h
  rw [hposition, Source.offset_behind hsource, hsource, List.take_left]
  exact Position.isBehind_first passed

theorem offset_add {later : Remainder} (h : left.Of source) (hl : later.Of source)
    {part : List Char} (hp : left.text = part ++ later.text) :
    source.offset left.position + part.length = source.offset later.position := by
  have h1 := h.offset_add_length
  have h2 := hl.offset_add_length
  rw [hp, List.length_append] at h1
  omega

end Remainder.Of

end ComponentSplit
