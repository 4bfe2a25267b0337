import ComponentSplit.Proofs.Stylesheet.Part
import ComponentSplit.Proofs.Stylesheet.SelectorList

namespace ComponentSplit

theorem SheetPart.unmarked_marked (part : SheetPart) : part.marked.unmarked = part.text := by
  cases part with
  | selectors list => exact unmarked_markSelectors list
  | other text => exact MarkedText.unmarked_plain text

theorem SheetPart.unmarked_flatMap (parts : List SheetPart) :
    MarkedText.unmarked (parts.flatMap SheetPart.marked) = parts.flatMap SheetPart.text := by
  induction parts with
  | nil => rfl
  | cons part parts ih =>
    rw [List.flatMap_cons, MarkedText.unmarked_append, unmarked_marked, ih, List.flatMap_cons]

namespace SheetState

/-- With a piece the run goes on, or it ends and is kept as it is. -/
def KeepsRun (s : SheetState) (p : Piece) : Prop :=
  (s.ended p = [] ∧ (s.next p).run = s.run ++ p.text) ∨
    ((s.ended p).flatMap SheetPart.marked = MarkedText.plain (s.run ++ p.text) ∧
      (s.next p).run = [])

theorem keepsRun_or_selectors (s : SheetState) (p : Piece) :
    s.KeepsRun p ∨ (p = .char '\x7b' ∧ s.ended p = [.selectors s.run, .other ['\x7b']] ∧
      (s.next p).run = []) := by
  rw [KeepsRun]
  cases p with
  | comment text => cases hb : s.blank <;> simp [ended, next, hb, Piece.text, SheetPart.marked]
  | string text => simp [ended, next, Piece.text]
  | char c =>
    by_cases hopen : c = '\x7b'
    · cases hlist : isSelectorList s.allowed s.run <;>
        simp [ended, next, hopen, hlist, Piece.text, SheetPart.marked]
    · by_cases hstop : c = '\x7d' ∨ c = ';'
      · rcases hstop with rfl | rfl <;> simp [ended, next, Piece.text, SheetPart.marked]
      · simp_all [ended, next, Piece.text]

theorem KeepsRun.of_ne {s : SheetState} {p : Piece} (h : p ≠ .char '\x7b') : s.KeepsRun p :=
  (s.keepsRun_or_selectors p).resolve_right fun hlist => h hlist.1

theorem KeepsRun.marked {s : SheetState} {p : Piece} (h : s.KeepsRun p) :
    (s.ended p).flatMap SheetPart.marked ++ MarkedText.plain (s.next p).run =
      MarkedText.plain (s.run ++ p.text) := by
  rcases h with ⟨hended, hnext⟩ | ⟨hended, hnext⟩
  · rw [hended, hnext]
    rfl
  · rw [hended, hnext, MarkedText.plain_nil, List.append_nil]

variable (s : SheetState) (p : Piece) (ps : List Piece)

/-- What ends with a piece and what is kept behind it are the old run and the piece. -/
theorem ended_append_run :
    (s.ended p).flatMap SheetPart.text ++ (s.next p).run = s.run ++ p.text := by
  obtain (⟨hended, hnext⟩ | ⟨hended, hnext⟩) | ⟨rfl, hended, hnext⟩ := s.keepsRun_or_selectors p
  · rw [hended, hnext]
    rfl
  · have htext := congrArg MarkedText.unmarked hended
    rw [SheetPart.unmarked_flatMap, MarkedText.unmarked_plain] at htext
    rw [htext, hnext, List.append_nil]
  · rw [hended, hnext]
    simp [SheetPart.text, Piece.text]

theorem unmarked_marked : (s.marked ps).unmarked = s.run ++ ps.flatMap Piece.text := by
  induction ps generalizing s with
  | nil => simp
  | cons p ps ih =>
    rw [marked_cons, MarkedText.unmarked_append, SheetPart.unmarked_flatMap, ih, ← List.append_assoc,
      ended_append_run, List.flatMap_cons, List.append_assoc]

theorem isSeparated_ended_append {t : MarkedText} (ht : t.IsSeparated) :
    MarkedText.IsSeparated ((s.ended p).flatMap SheetPart.marked ++ t) := by
  obtain (⟨hended, -⟩ | ⟨hended, -⟩) | ⟨-, hended, -⟩ := s.keepsRun_or_selectors p
  · rw [hended]
    exact ht
  · rw [hended]
    exact (MarkedText.isSeparated_plain_append _).mpr ht
  · have hmarks : MarkedText.IsSeparated (markSelectors s.run ++ some '\x7b' :: t) :=
      isSeparated_markSelectors_append s.run (MarkedText.isSeparated_cons.mpr ht) (by simp)
    rw [hended]
    simpa [SheetPart.marked] using hmarks

theorem isSeparated_marked : (s.marked ps).IsSeparated := by
  induction ps generalizing s with
  | nil => exact MarkedText.isSeparated_plain s.run
  | cons p ps ih =>
    rw [marked_cons]
    exact isSeparated_ended_append s p (ih (s.next p))

end SheetState

theorem unmarked_markStylesheet (css : List Char) : (markStylesheet css).unmarked = css := by
  rw [markStylesheet_eq_marked, SheetState.unmarked_marked, pieces_text]
  rfl

theorem isSeparated_markStylesheet (css : List Char) : (markStylesheet css).IsSeparated := by
  rw [markStylesheet_eq_marked]
  exact SheetState.isSeparated_marked _ _

/-- Scoping puts the attribute, in brackets, at places of the stylesheet that are fixed before the
attribute is known, and keeps the stylesheet around them. -/
theorem scopeStylesheet_eq_insertAt (css : List Char) :
    ∃ positions : List Nat, positions.Pairwise (· < ·) ∧ (∀ p ∈ positions, p ≤ css.length) ∧
      ∀ attr, scopeStylesheet css attr = insertAt ('[' :: attr ++ [']']) positions css := by
  refine ⟨(markStylesheet css).offsets, (isSeparated_markStylesheet css).pairwise_offsetsFrom, ?_, ?_⟩
  · intro p hp
    have hle := MarkedText.offsetsFrom_le hp
    rwa [unmarked_markStylesheet, Nat.zero_add] at hle
  · intro attr
    rw [scopeStylesheet, MarkedText.fill_eq_insertAt, unmarked_markStylesheet]

end ComponentSplit
