import Mathlib.Data.List.Forall2
import ComponentSplit.Proofs.Path.Place
import ComponentSplit.Proofs.Text.Cut
import ComponentSplit.Text.Indent

namespace ComponentSplit

/-- A run of spaces and tabs that every non-blank line starts with. -/
structure SharesIndent (ls : List (List Char)) (w : List Char) : Prop where
  isIndent : ∀ c ∈ w, isIndent c = true
  starts : ∀ line ∈ ls, isBlankLine line = false → w <+: line

/-- The longest of these runs. Where all lines are blank there is no longest one, and the lines
share nothing. -/
structure IsSharedIndent (ls : List (List Char)) (w : List Char) : Prop extends
    SharesIndent ls w where
  longest : (∃ line ∈ ls, isBlankLine line = false) → ∀ v, SharesIndent ls v → v.length ≤ w.length
  eq_nil : (∀ line ∈ ls, isBlankLine line = true) → w = []

/-- What is left of a line behind the indentation `w`, and of a blank line at all. -/
inductive LeavesLine (w : List Char) : List Char → List Char → Prop
  | blank {line : List Char} (h : isBlankLine line = true) : LeavesLine w line []
  | behind {rest : List Char} (h : isBlankLine (w ++ rest) = false) : LeavesLine w (w ++ rest) rest

/-- How much further than another a non-blank line is indented is the same in both lists. -/
def KeepsRelativeIndent (ls outs : List (List Char)) : Prop :=
  ∀ a ∈ ls.zip outs, ∀ b ∈ ls.zip outs, isBlankLine a.1 = false → isBlankLine b.1 = false →
    ∀ more, indentOf b.1 = indentOf a.1 ++ more ↔ indentOf b.2 = indentOf a.2 ++ more

/-- A line as it is written once an indentation of the given width is removed. -/
def withoutIndent (width : Nat) (line : List Char) : List Char :=
  if isBlankLine line then [] else line.drop width

section Prefix

variable {w line first : List Char} {others : List (List Char)}

theorem prefix_commonStart_iff {a b : List Char} :
    w <+: commonStart a b ↔ w <+: a ∧ w <+: b := by
  induction w generalizing a b with
  | nil => simp
  | cons c w ih =>
    fun_cases commonStart a b with
    | case1 a as bs =>
      rw [List.cons_prefix_cons, List.cons_prefix_cons, List.cons_prefix_cons, ih, and_and_left]
    | case2 a as b bs hne =>
      simp only [List.cons_prefix_cons, List.prefix_nil, reduceCtorEq, false_iff]
      rintro ⟨⟨rfl, -⟩, rfl, -⟩
      exact hne rfl
    | case3 a b hcons =>
      simp only [List.prefix_nil, reduceCtorEq, false_iff]
      rintro ⟨⟨as, rfl⟩, bs, rfl⟩
      exact hcons _ _ _ _ rfl rfl

theorem prefix_foldl_commonStart_iff :
    w <+: others.foldl commonStart first ↔ w <+: first ∧ ∀ other ∈ others, w <+: other := by
  induction others generalizing first with
  | nil => simp
  | cons other others ih =>
    rw [List.foldl_cons, ih, prefix_commonStart_iff, List.forall_mem_cons, and_assoc]

theorem indentOf_append (h : ∀ c ∈ w, isIndent c = true) (rest : List Char) :
    indentOf (w ++ rest) = w ++ indentOf rest :=
  List.takeWhile_append_of_pos h

theorem isBlankLine_append (h : ∀ c ∈ w, isIndent c = true) (rest : List Char) :
    isBlankLine (w ++ rest) = isBlankLine rest := by
  rw [isBlankLine, List.all_append, List.all_eq_true.mpr h, Bool.true_and, isBlankLine]

end Prefix

section Shared

variable {ls : List (List Char)} {v w : List Char}

theorem sharedIndent_eq_nil (h : ∀ line ∈ ls, isBlankLine line = true) : sharedIndent ls = [] := by
  have hnone : (ls.filter fun line => !isBlankLine line) = [] :=
    List.filter_eq_nil_iff.mpr fun line hline => by simp [h line hline]
  rw [sharedIndent, hnone]
  rfl

/-- With a non-blank line, the runs that the lines share are the beginnings of one. -/
theorem sharesIndent_iff (h : ∃ line ∈ ls, isBlankLine line = false) :
    SharesIndent ls w ↔ w <+: sharedIndent ls := by
  obtain ⟨line, hline, hink⟩ := h
  have hmem : line ∈ ls.filter fun line => !isBlankLine line := by simp [hline, hink]
  have hshares : SharesIndent ls w ↔
      ∀ line ∈ ls.filter fun line => !isBlankLine line, w <+: indentOf line := by
    constructor
    · intro hw line hline
      rw [List.mem_filter, Bool.not_eq_true'] at hline
      exact prefix_takeWhile_iff.mpr ⟨hw.starts line hline.1 hline.2, hw.isIndent⟩
    · intro hw
      refine ⟨(prefix_takeWhile_iff.mp (hw line hmem)).2, fun other hother hink => ?_⟩
      exact (prefix_takeWhile_iff.mp (hw other (by simp [hother, hink]))).1
  rw [hshares, sharedIndent]
  cases hfound : ls.filter fun line => !isBlankLine line with
  | nil => simp [hfound] at hmem
  | cons first others => simp [prefix_foldl_commonStart_iff]

theorem sharesIndent_sharedIndent (ls : List (List Char)) : SharesIndent ls (sharedIndent ls) := by
  by_cases h : ∃ line ∈ ls, isBlankLine line = false
  · exact (sharesIndent_iff h).mpr (List.prefix_refl _)
  · have hblank : ∀ line ∈ ls, isBlankLine line = true := by simpa using h
    rw [sharedIndent_eq_nil hblank]
    exact ⟨by simp, fun _ _ _ => List.nil_prefix⟩

theorem isSharedIndent_iff : IsSharedIndent ls w ↔ w = sharedIndent ls := by
  constructor
  · intro hw
    by_cases h : ∃ line ∈ ls, isBlankLine line = false
    · have hbegins : w <+: sharedIndent ls := (sharesIndent_iff h).mp hw.toSharesIndent
      have hlength := hw.longest h _ (sharesIndent_sharedIndent ls)
      exact hbegins.eq_of_length (Nat.le_antisymm hbegins.length_le hlength)
    · have hblank : ∀ line ∈ ls, isBlankLine line = true := by simpa using h
      rw [hw.eq_nil hblank, sharedIndent_eq_nil hblank]
  · rintro rfl
    refine ⟨sharesIndent_sharedIndent ls, fun h v hv => ?_, sharedIndent_eq_nil⟩
    exact ((sharesIndent_iff h).mp hv).length_le

theorem append_withoutIndent {line : List Char} (hline : line ∈ ls)
    (hink : isBlankLine line = false) :
    sharedIndent ls ++ withoutIndent (sharedIndent ls).length line = line := by
  rw [withoutIndent, if_neg (by simp [hink])]
  exact List.prefix_iff_eq_append.mp ((sharesIndent_sharedIndent ls).starts line hline hink)

theorem isBlankLine_withoutIndent {line : List Char} (hline : line ∈ ls) :
    isBlankLine (withoutIndent (sharedIndent ls).length line) = isBlankLine line := by
  cases hblank : isBlankLine line with
  | true =>
    rw [withoutIndent, if_pos hblank]
    rfl
  | false =>
    rw [← isBlankLine_append (sharesIndent_sharedIndent ls).isIndent,
      append_withoutIndent hline hblank, hblank]

theorem sharedIndent_withoutIndent (ls : List (List Char)) :
    sharedIndent (ls.map (withoutIndent (sharedIndent ls).length)) = [] := by
  by_cases h : ∃ line ∈ ls, isBlankLine line = false
  · have hshared := sharesIndent_sharedIndent (ls.map (withoutIndent (sharedIndent ls).length))
    -- a run shared by what is left of the lines prolongs the one they had
    have hlonger : SharesIndent ls (sharedIndent ls ++
        sharedIndent (ls.map (withoutIndent (sharedIndent ls).length))) := by
      constructor
      · intro c hc
        rcases List.mem_append.mp hc with hold | hnew
        · exact (sharesIndent_sharedIndent ls).isIndent c hold
        · exact hshared.isIndent c hnew
      · intro line hline hink
        have hleft := hshared.starts _ (List.mem_map_of_mem hline)
          ((isBlankLine_withoutIndent hline).trans hink)
        rw [← append_withoutIndent hline hink, List.prefix_append_right_inj]
        exact hleft
    have hlength := ((sharesIndent_iff h).mp hlonger).length_le
    rw [List.length_append] at hlength
    exact List.eq_nil_of_length_eq_zero (by omega)
  · have hblank : ∀ line ∈ ls, isBlankLine line = true := by simpa using h
    refine sharedIndent_eq_nil fun line hline => ?_
    obtain ⟨whole, hwhole, rfl⟩ := List.mem_map.mp hline
    rw [isBlankLine_withoutIndent hwhole, hblank whole hwhole]

end Shared

theorem lines_deindent (text : List Char) : lines (deindent text) =
    (lines text).map (withoutIndent (sharedIndent (lines text)).length) := by
  refine fields_joinFields ?_ fun line hline => ?_
  · rw [ne_eq, List.map_eq_nil_iff]
    exact fields_ne_nil _ _
  · obtain ⟨whole, hwhole, rfl⟩ := List.mem_map.mp hline
    have hsub : (withoutIndent (sharedIndent (lines text)).length whole) ⊆ whole := by
      rw [withoutIndent]
      split
      · exact List.nil_subset _
      · exact List.drop_subset _ _
    exact fun hmem => not_mem_of_mem_fields hwhole (hsub hmem)

theorem leavesLine_withoutIndent {ls : List (List Char)} {line : List Char} (hline : line ∈ ls) :
    LeavesLine (sharedIndent ls) line (withoutIndent (sharedIndent ls).length line) := by
  cases hblank : isBlankLine line with
  | true =>
    rw [withoutIndent, if_pos hblank]
    exact .blank hblank
  | false =>
    have happend := append_withoutIndent hline hblank
    have hleaves := LeavesLine.behind (happend.symm ▸ hblank)
    rwa [happend] at hleaves

theorem LeavesLine.keepsRelativeIndent {w : List Char} {ls outs : List (List Char)}
    (hw : ∀ c ∈ w, isIndent c = true) (h : List.Forall₂ (LeavesLine w) ls outs) :
    KeepsRelativeIndent ls outs := by
  have hindent : ∀ a ∈ ls.zip outs, isBlankLine a.1 = false →
      indentOf a.1 = w ++ indentOf a.2 := by
    rintro ⟨line, out⟩ hmem hink
    cases (List.forall₂_iff_zip.mp h).2 hmem with
    | blank hblank => simp [hblank] at hink
    | behind => exact indentOf_append hw out
  intro a ha b hb hainked hbinked more
  rw [hindent a ha hainked, hindent b hb hbinked, List.append_assoc, List.append_cancel_left_eq]

theorem eq_nil_of_mem_deindent {text out : List Char} (hout : out ∈ lines (deindent text))
    (hblank : isBlankLine out = true) : out = [] := by
  rw [lines_deindent] at hout
  obtain ⟨line, hline, rfl⟩ := List.mem_map.mp hout
  rw [isBlankLine_withoutIndent hline] at hblank
  rw [withoutIndent, if_pos hblank]

theorem withoutIndent_zero {line : List Char} (h : isBlankLine line = true → line = []) :
    withoutIndent 0 line = line := by
  rw [withoutIndent]
  split
  next hblank => exact (h hblank).symm
  next => rfl

theorem deindent_deindent (text : List Char) : deindent (deindent text) = deindent text := by
  have hshared : sharedIndent (lines (deindent text)) = [] := by
    rw [lines_deindent, sharedIndent_withoutIndent]
  have hlines : lines (deindent (deindent text)) = lines (deindent text) :=
    calc lines (deindent (deindent text))
        = (lines (deindent text)).map (withoutIndent 0) := by
          rw [lines_deindent (deindent text), hshared, List.length_nil]
      _ = (lines (deindent text)).map id :=
          List.map_congr_left fun out hout => withoutIndent_zero (eq_nil_of_mem_deindent hout)
      _ = lines (deindent text) := List.map_id _
  rw [← joinLines_lines (deindent (deindent text)), hlines, joinLines_lines]

/-- The removal of indentation takes just the longest run of spaces and tabs that all non-blank
lines start with, and all of the blank ones. -/
theorem deindent_removesSharedIndent (text : List Char) : ∃ w,
    (∀ v, IsSharedIndent (lines text) v ↔ v = w) ∧
    (lines (deindent text)).length = (lines text).length ∧
    List.Forall₂ (LeavesLine w) (lines text) (lines (deindent text)) ∧
    KeepsRelativeIndent (lines text) (lines (deindent text)) ∧
    deindent (deindent text) = deindent text := by
  have hleaves : List.Forall₂ (LeavesLine (sharedIndent (lines text))) (lines text)
      (lines (deindent text)) := by
    rw [lines_deindent, List.forall₂_map_right_iff, List.forall₂_same]
    exact fun line hline => leavesLine_withoutIndent hline
  refine ⟨sharedIndent (lines text), fun v => isSharedIndent_iff, hleaves.length_eq.symm, hleaves,
    ?_, deindent_deindent text⟩
  exact LeavesLine.keepsRelativeIndent (sharesIndent_sharedIndent _).isIndent hleaves

end ComponentSplit
