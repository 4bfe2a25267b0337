import ComponentSplit.Proofs.Text.Indent

/-!
Indentation in a text whose lines end in a carriage return and a newline. The carriage return counts
as a part of its line, so a blank line is no longer blank, and its spaces and tabs limit what the
lines share.
-/

namespace ComponentSplit

/-- A text with a carriage return in front of each newline. -/
def withReturns (text : List Char) : List Char :=
  text.flatMap fun c => if c = '\n' then ['\r', '\n'] else [c]

/-- The blank lines in front of the last line are alike. Where other lines are not blank, they are
just the indentation of those. -/
structure HasLevelBlanks (text : List Char) : Prop where
  alike : ∀ a ∈ (lines text).dropLast, ∀ b ∈ (lines text).dropLast,
    isBlankLine a = true → isBlankLine b = true → a = b
  level : ∀ line ∈ (lines text).dropLast, isBlankLine line = true →
    (∃ other ∈ lines text, isBlankLine other = false) → IsSharedIndent (lines text) line

section Lines

variable {text last : List Char} {front : List (List Char)}

theorem withReturns_append (a b : List Char) :
    withReturns (a ++ b) = withReturns a ++ withReturns b :=
  List.flatMap_append

theorem withReturns_of_not_mem (h : '\n' ∉ text) : withReturns text = text := by
  induction text with
  | nil => rfl
  | cons c text ih =>
    rw [List.mem_cons, not_or] at h
    have hrest : withReturns text = text := ih h.2
    rw [withReturns, List.flatMap_cons, if_neg (Ne.symm h.1), ← withReturns, hrest]
    rfl

theorem joinLines_cons (line : List Char) {more : List (List Char)} (h : more ≠ []) :
    joinLines (line :: more) = line ++ '\n' :: joinLines more := by
  cases more with
  | nil => exact absurd rfl h
  | cons next more => rfl

theorem withReturns_joinLines (hfront : ∀ line ∈ front, '\n' ∉ line) (hlast : '\n' ∉ last) :
    withReturns (joinLines (front ++ [last])) =
      joinLines (front.map (· ++ ['\r']) ++ [last]) := by
  induction front with
  | nil => exact withReturns_of_not_mem hlast
  | cons line front ih =>
    rw [List.forall_mem_cons] at hfront
    have hnewline : ∀ rest, withReturns ('\n' :: rest) = '\r' :: '\n' :: withReturns rest :=
      fun _ => rfl
    rw [List.cons_append, joinLines_cons _ (by simp), withReturns_append,
      withReturns_of_not_mem hfront.1, hnewline, ih hfront.2, List.map_cons, List.cons_append,
      joinLines_cons _ (by simp), List.append_assoc]
    rfl

theorem lines_withReturns (h : lines text = front ++ [last]) :
    lines (withReturns text) = front.map (· ++ ['\r']) ++ [last] := by
  have hclean : ∀ line ∈ front ++ [last], '\n' ∉ line := fun line hline =>
    not_mem_of_mem_fields (h ▸ hline)
  have hfront : ∀ line ∈ front, '\n' ∉ line := fun line hline =>
    hclean line (List.mem_append_left _ hline)
  have hlast : '\n' ∉ last := hclean last (by simp)
  rw [← joinLines_lines text, h, withReturns_joinLines hfront hlast]
  refine fields_joinFields (by simp) fun line hline => ?_
  rcases List.mem_append.mp hline with hmem | hmem
  · obtain ⟨whole, hwhole, rfl⟩ := List.mem_map.mp hmem
    simpa using hfront whole hwhole
  · rw [List.mem_singleton.mp hmem]
    exact hlast

theorem isBlankLine_return (line : List Char) : isBlankLine (line ++ ['\r']) = false := by
  rw [isBlankLine, List.all_append]
  exact Bool.and_false _

theorem prefix_return_iff {w line : List Char} (hw : ∀ c ∈ w, isIndent c = true) :
    w <+: line ++ ['\r'] ↔ w <+: line := by
  rw [List.prefix_concat_iff, or_iff_right]
  rintro rfl
  have hreturn := hw '\r' (by simp)
  exact absurd hreturn (by decide)

/-- With carriage returns the blank lines in front of the last one share the indentation, too. -/
theorem sharesIndent_returns_iff {w : List Char} :
    SharesIndent (front.map (· ++ ['\r']) ++ [last]) w ↔
      SharesIndent (front ++ [last]) w ∧ ∀ line ∈ front, isBlankLine line = true → w <+: line := by
  constructor
  · rintro ⟨hw, hstarts⟩
    have hfront : ∀ line ∈ front, w <+: line := fun line hline =>
      (prefix_return_iff hw).mp (hstarts (line ++ ['\r'])
        (List.mem_append_left _ (List.mem_map_of_mem hline)) (isBlankLine_return line))
    refine ⟨⟨hw, fun line hline hink => ?_⟩, fun line hline _ => hfront line hline⟩
    rcases List.mem_append.mp hline with hmem | hmem
    · exact hfront line hmem
    · exact hstarts line (List.mem_append_right _ hmem) hink
  · rintro ⟨⟨hw, hstarts⟩, hblank⟩
    refine ⟨hw, fun line hline hink => ?_⟩
    rcases List.mem_append.mp hline with hmem | hmem
    · obtain ⟨whole, hwhole, rfl⟩ := List.mem_map.mp hmem
      rw [prefix_return_iff hw]
      cases hwholeBlank : isBlankLine whole with
      | true => exact hblank whole hwhole hwholeBlank
      | false => exact hstarts whole (List.mem_append_left _ hwhole) hwholeBlank
    · exact hstarts line (List.mem_append_right _ hmem) hink

theorem withoutIndent_return {width : Nat} {line : List Char} (h : width ≤ line.length) :
    withoutIndent width (line ++ ['\r']) = line.drop width ++ ['\r'] := by
  rw [withoutIndent, if_neg (by simp [isBlankLine_return]), List.drop_append_of_le_length h]

theorem sharesIndent_withReturns (h : lines text = front ++ [last]) {w : List Char} :
    SharesIndent (lines (withReturns text)) w ↔
      SharesIndent (lines text) w ∧ ∀ line ∈ front, isBlankLine line = true → w <+: line := by
  rw [lines_withReturns h, h]
  exact sharesIndent_returns_iff

/-- All lines in front of the last one start with what is removed with carriage returns. -/
theorem sharedIndent_withReturns_begins (h : lines text = front ++ [last]) {line : List Char}
    (hline : line ∈ front) : sharedIndent (lines (withReturns text)) <+: line := by
  obtain ⟨hshares, hblank⟩ := (sharesIndent_withReturns h).mp (sharesIndent_sharedIndent _)
  cases hlineBlank : isBlankLine line with
  | true => exact hblank line hline hlineBlank
  | false => exact hshares.starts line (h ▸ List.mem_append_left _ hline) hlineBlank

/-- What the lines share with carriage returns is as long as it can be, where there is a line to
share it. -/
theorem prefix_sharedIndent_withReturns (h : lines text = front ++ [last])
    (hne : front ≠ [] ∨ isBlankLine last = false) {w : List Char}
    (hw : SharesIndent (lines text) w)
    (hblank : ∀ line ∈ front, isBlankLine line = true → w <+: line) :
    w <+: sharedIndent (lines (withReturns text)) := by
  refine (sharesIndent_iff ?_).mp ((sharesIndent_withReturns h).mpr ⟨hw, hblank⟩)
  rw [lines_withReturns h]
  rcases hne with hfront | hlast
  · obtain ⟨line, more, rfl⟩ := List.exists_cons_of_ne_nil hfront
    exact ⟨line ++ ['\r'], by simp, isBlankLine_return line⟩
  · exact ⟨last, by simp, hlast⟩

theorem sharedIndent_withReturns_shorter (h : lines text = front ++ [last])
    (hink : ∃ line ∈ lines text, isBlankLine line = false) :
    sharedIndent (lines (withReturns text)) <+: sharedIndent (lines text) :=
  (sharesIndent_iff hink).mp ((sharesIndent_withReturns h).mp (sharesIndent_sharedIndent _)).1

section Level

variable (h : lines text = front ++ [last])

include h

theorem dropLast_lines : (lines text).dropLast = front := by
  rw [h, List.dropLast_concat]

theorem HasLevelBlanks.eq_shared (hlevel : HasLevelBlanks text) {line : List Char}
    (hline : line ∈ front) (hblank : isBlankLine line = true) :
    line = sharedIndent (lines (withReturns text)) := by
  obtain ⟨halike, hlevel⟩ := hlevel
  rw [dropLast_lines h] at halike hlevel
  have hshares : SharesIndent (lines text) line := by
    by_cases hink : ∃ other ∈ lines text, isBlankLine other = false
    · exact (hlevel line hline hblank hink).toSharesIndent
    · refine ⟨List.all_eq_true.mp hblank, fun other hother hotherInk => ?_⟩
      exact absurd ⟨other, hother, hotherInk⟩ hink
  have hforth : line <+: sharedIndent (lines (withReturns text)) := by
    refine prefix_sharedIndent_withReturns h (.inl (List.ne_nil_of_mem hline)) hshares ?_
    intro other hother hotherBlank
    obtain rfl : line = other := halike line hline other hother hblank hotherBlank
    exact List.prefix_refl _
  have hback := sharedIndent_withReturns_begins h hline
  exact hforth.eq_of_length (Nat.le_antisymm hforth.length_le hback.length_le)

/-- With level blank lines the same is removed with carriage returns and without. -/
theorem HasLevelBlanks.shared_eq (hlevel : HasLevelBlanks text)
    (hink : ∃ line ∈ lines text, isBlankLine line = false) :
    sharedIndent (lines (withReturns text)) = sharedIndent (lines text) := by
  have hforth := sharedIndent_withReturns_shorter h hink
  have hblank : ∀ line ∈ front, isBlankLine line = true → sharedIndent (lines text) <+: line := by
    intro line hline hlineBlank
    have hline' : line ∈ (lines text).dropLast := by rwa [dropLast_lines h]
    have hshared : line = sharedIndent (lines text) :=
      isSharedIndent_iff.mp (hlevel.level line hline' hlineBlank hink)
    exact hshared ▸ List.prefix_refl _
  obtain ⟨other, hother, hotherInk⟩ := hink
  have hne : front ≠ [] ∨ isBlankLine last = false := by
    rw [h] at hother
    rcases List.mem_append.mp hother with hmem | hmem
    · exact .inl (List.ne_nil_of_mem hmem)
    · exact .inr (List.mem_singleton.mp hmem ▸ hotherInk)
  have hback := prefix_sharedIndent_withReturns h hne (sharesIndent_sharedIndent _) hblank
  exact hforth.eq_of_length (Nat.le_antisymm hforth.length_le hback.length_le)

theorem HasLevelBlanks.of_shared
    (hblank : ∀ line ∈ front, isBlankLine line = true →
      line = sharedIndent (lines (withReturns text)))
    (hsame : (∃ line ∈ lines text, isBlankLine line = false) →
      sharedIndent (lines (withReturns text)) = sharedIndent (lines text)) :
    HasLevelBlanks text := by
  constructor
  · intro a ha b hb hablank hbblank
    rw [dropLast_lines h] at ha hb
    rw [hblank a ha hablank, hblank b hb hbblank]
  · intro line hline hlineBlank hother
    rw [dropLast_lines h] at hline
    rw [isSharedIndent_iff, hblank line hline hlineBlank, hsame hother]

end Level

/-- Both ways give the same text when they do the same to each line. -/
theorem deindent_withReturns_eq_iff (h : lines text = front ++ [last]) :
    deindent (withReturns text) = withReturns (deindent text) ↔
    (∀ line ∈ front, line.drop (sharedIndent (lines (withReturns text))).length =
      withoutIndent (sharedIndent (lines text)).length line) ∧
    withoutIndent (sharedIndent (lines (withReturns text))).length last =
      withoutIndent (sharedIndent (lines text)).length last := by
  have hfirst : lines (deindent (withReturns text)) = front.map (fun line =>
      line.drop (sharedIndent (lines (withReturns text))).length ++ ['\r']) ++
        [withoutIndent (sharedIndent (lines (withReturns text))).length last] := by
    rw [lines_deindent]
    nth_rewrite 2 [lines_withReturns h]
    rw [List.map_append, List.map_map, List.map_singleton, List.append_left_inj]
    exact List.map_congr_left fun line hline =>
      withoutIndent_return (sharedIndent_withReturns_begins h hline).length_le
  have hsecond : lines (withReturns (deindent text)) = front.map (fun line =>
      withoutIndent (sharedIndent (lines text)).length line ++ ['\r']) ++
        [withoutIndent (sharedIndent (lines text)).length last] := by
    have hlines : lines (deindent text) =
        front.map (withoutIndent (sharedIndent (lines text)).length) ++
          [withoutIndent (sharedIndent (lines text)).length last] := by
      rw [lines_deindent]
      nth_rewrite 2 [h]
      rw [List.map_append, List.map_singleton]
    rw [lines_withReturns hlines, List.map_map]
    rfl
  have hlines : deindent (withReturns text) = withReturns (deindent text) ↔
      lines (deindent (withReturns text)) = lines (withReturns (deindent text)) := by
    refine ⟨fun heq => by rw [heq], fun heq => ?_⟩
    rw [← joinLines_lines (deindent (withReturns text)), heq, joinLines_lines]
  rw [hlines, hfirst, hsecond]
  constructor
  · intro heq
    obtain ⟨hfront, hlast⟩ := List.append_inj heq (by simp)
    rw [List.map_inj_left] at hfront
    exact ⟨fun line hline => List.append_cancel_right (hfront line hline),
      List.singleton_inj.mp hlast⟩
  · rintro ⟨hfront, hlast⟩
    rw [hlast, List.map_congr_left fun line hline => by rw [hfront line hline]]

end Lines

/-- Carriage returns make no difference to the removal of indentation just when the blank lines in
front of the last one are level with the others. -/
theorem deindent_withReturns_iff (text : List Char) :
    deindent (withReturns text) = withReturns (deindent text) ↔ HasLevelBlanks text := by
  obtain ⟨front, last, h⟩ : ∃ front last, lines text = front ++ [last] :=
    ⟨_, _, (List.dropLast_append_getLast (fields_ne_nil '\n' text)).symm⟩
  rw [deindent_withReturns_eq_iff h]
  constructor
  · rintro ⟨hfront, hlast⟩
    refine .of_shared h (fun line hline hblank => ?_) fun hink => ?_
    · have hrest := hfront line hline
      rw [withoutIndent, if_pos hblank, List.drop_eq_nil_iff] at hrest
      have hbegins := sharedIndent_withReturns_begins h hline
      exact (hbegins.eq_of_length (Nat.le_antisymm hbegins.length_le hrest)).symm
    · have hbegins := sharedIndent_withReturns_shorter h hink
      obtain ⟨other, hother, hotherInk⟩ := hink
      -- what is left of a line that is not blank tells how much was removed
      have hrest : other.drop (sharedIndent (lines (withReturns text))).length =
          other.drop (sharedIndent (lines text)).length := by
        have hmem : other ∈ front ++ [last] := h ▸ hother
        rcases List.mem_append.mp hmem with hmem | hmem
        · simpa [withoutIndent, hotherInk] using hfront other hmem
        · rw [← List.mem_singleton.mp hmem] at hlast
          simpa [withoutIndent, hotherInk] using hlast
      have hlonger := ((sharesIndent_sharedIndent _).starts other hother hotherInk).length_le
      have hshorter := hbegins.length_le
      have hlength := congrArg List.length hrest
      rw [List.length_drop, List.length_drop] at hlength
      exact hbegins.eq_of_length (by omega)
  · intro hlevel
    constructor
    · intro line hline
      cases hblank : isBlankLine line with
      | true =>
        have hwhole := hlevel.eq_shared h hline hblank
        rw [← hwhole, List.drop_length, withoutIndent, if_pos hblank]
      | false =>
        rw [hlevel.shared_eq h ⟨line, h ▸ List.mem_append_left _ hline, hblank⟩, withoutIndent,
          if_neg (by simp [hblank])]
    · cases hblank : isBlankLine last with
      | true => rw [withoutIndent, withoutIndent, if_pos hblank, if_pos hblank]
      | false => rw [hlevel.shared_eq h ⟨last, h ▸ by simp, hblank⟩]

/-- A body on lines of its own, as it stands between two tags. -/
def bodyOnLines : List Char := "\n  a\n".toList

/-- With carriage returns nothing is removed from it: its first line ends in one, and is taken for a
line without indentation. -/
theorem returns_keep_indentation : '\r' ∉ bodyOnLines ∧
    withReturns (deindent bodyOnLines) = "\r\na\r\n".toList ∧
    deindent (withReturns bodyOnLines) = "\r\n  a\r\n".toList ∧
    deindent (withReturns bodyOnLines) ≠ withReturns (deindent bodyOnLines) := by
  decide

end ComponentSplit
