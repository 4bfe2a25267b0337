import ComponentSplit.Proofs.Text.Marked
import ComponentSplit.Proofs.Text.Trim
import ComponentSplit.Proofs.Stylesheet.Piece
import ComponentSplit.Stylesheet.Selector

namespace ComponentSplit

/-- A trimmed selector with its mark. -/
def markCore (core : List Char) : MarkedText :=
  MarkedText.plain (core.take (scopeOffset core)) ++
    none :: MarkedText.plain (core.drop (scopeOffset core))

theorem unmarked_markCore (core : List Char) : (markCore core).unmarked = core := by
  simp [markCore]

theorem markSelector_blank {selector : List Char} (h : ∀ c ∈ selector, isBlank c = true) :
    markSelector selector = MarkedText.plain selector := by
  simp [markSelector, trim_eq_nil h]

theorem markSelector_sides {front core back : List Char}
    (hf : ∀ c ∈ front, isBlank c = true) (h : IsTrimmed core)
    (hb : ∀ c ∈ back, isBlank c = true) :
    markSelector (front ++ (core ++ back)) =
      MarkedText.plain front ++ (markCore core ++ MarkedText.plain back) := by
  rw [markSelector, trim_sides hf h hb, leadingBlanks_sides hf h, trailingBlanks_sides h hb]
  simp [h.ne_nil, markCore]

/-- What marking makes of a selector: nothing, or a mark in its trimmed text. -/
theorem markSelector_cases (selector : List Char) :
    ((∀ c ∈ selector, isBlank c = true) ∧ markSelector selector = MarkedText.plain selector) ∨
      ∃ front core back, selector = front ++ (core ++ back) ∧ (∀ c ∈ front, isBlank c = true) ∧
        IsTrimmed core ∧ (∀ c ∈ back, isBlank c = true) ∧
        markSelector selector =
          MarkedText.plain front ++ (markCore core ++ MarkedText.plain back) := by
  by_cases h : ∀ c ∈ selector, isBlank c = true
  · exact .inl ⟨h, markSelector_blank h⟩
  · obtain ⟨front, core, back, rfl, hf, hcore, hb⟩ := exists_trimmed h
    exact .inr ⟨front, core, back, rfl, hf, hcore, hb, markSelector_sides hf hcore hb⟩

theorem unmarked_markSelector (selector : List Char) :
    (markSelector selector).unmarked = selector := by
  rcases markSelector_cases selector with ⟨-, h⟩ | ⟨front, core, back, rfl, -, -, -, h⟩
  · simp [h]
  · simp [h, unmarked_markCore]

theorem markSelector_blank_append {blanks : List Char} (h : ∀ c ∈ blanks, isBlank c = true)
    (selector : List Char) :
    markSelector (blanks ++ selector) = MarkedText.plain blanks ++ markSelector selector := by
  rcases markSelector_cases selector with
    ⟨hs, hmark⟩ | ⟨front, core, back, rfl, hf, hcore, hb, hmark⟩
  · have hboth : ∀ c ∈ blanks ++ selector, isBlank c = true := by
      simpa [or_imp, forall_and] using ⟨h, hs⟩
    rw [hmark, markSelector_blank hboth, MarkedText.plain_append]
  · have hboth : ∀ c ∈ blanks ++ front, isBlank c = true := by
      simpa [or_imp, forall_and] using ⟨h, hf⟩
    rw [hmark, ← List.append_assoc, markSelector_sides hboth hcore hb]
    simp

theorem joinSelectors_cons (first : MarkedText) (others : List MarkedText) :
    joinSelectors (first :: others) = first ++ others.flatMap (some ',' :: ·) := by
  induction others generalizing first with
  | nil => simp [joinSelectors]
  | cons second others ih =>
    rw [joinSelectors, ih, List.flatMap_cons, List.cons_append]
    exact List.cons_ne_nil _ _

theorem prepend_prepend (front text : List Char) (parts : List (List Char)) :
    prepend front (prepend text parts) = prepend (front ++ text) parts := by
  cases parts <;> simp [prepend]

/-- The parts of a list, put together with commas again. -/
def rejoined (parts : List (List Char)) : List Char :=
  match parts with
  | [] => []
  | first :: others => first ++ others.flatMap (',' :: ·)

theorem splitSelectors_ne_nil (depth : Int) (ps : List Piece) : splitSelectors depth ps ≠ [] := by
  have hprepend (text : List Char) (parts : List (List Char)) : prepend text parts ≠ [] := by
    cases parts <;> simp [prepend]
  fun_cases splitSelectors depth ps <;> simp [hprepend]

theorem rejoined_prepend (text : List Char) (parts : List (List Char)) :
    rejoined (prepend text parts) = text ++ rejoined parts := by
  cases parts <;> simp [prepend, rejoined]

theorem rejoined_splitSelectors (depth : Int) (ps : List Piece) :
    rejoined (splitSelectors depth ps) = ps.flatMap Piece.text := by
  fun_induction splitSelectors depth ps with
  | case1 => rfl
  | case2 depth c rest h ih =>
    obtain ⟨first, others, hsplit⟩ :=
      List.exists_cons_of_ne_nil (splitSelectors_ne_nil depth rest)
    rw [hsplit] at ih ⊢
    rw [List.flatMap_cons, ← ih, h.1]
    rfl
  | case3 depth c rest h ih => rw [rejoined_prepend, ih]; rfl
  | case4 depth piece rest h ih => rw [rejoined_prepend, ih]; rfl

theorem unmarked_joinSelectors (parts : List (List Char)) :
    (joinSelectors (parts.map markSelector)).unmarked = rejoined parts := by
  cases parts with
  | nil => rfl
  | cons first others =>
    rw [List.map_cons, joinSelectors_cons, MarkedText.unmarked_append, unmarked_markSelector,
      rejoined]
    congr 1
    induction others with
    | nil => rfl
    | cons second others ih => simp [unmarked_markSelector, ih]

theorem unmarked_markSelectors (list : List Char) : (markSelectors list).unmarked = list := by
  rw [markSelectors, unmarked_joinSelectors, rejoined_splitSelectors, pieces_text]

/-- Marks of a selector keep apart, also from those of a text that starts with a character. -/
theorem isSeparated_markSelector_append (selector : List Char) {t : MarkedText}
    (ht : t.IsSeparated) (hc : ∀ a ∈ t.head?, a ≠ none) :
    MarkedText.IsSeparated (markSelector selector ++ t) := by
  refine MarkedText.IsSeparated.append ?_ ht hc
  rcases markSelector_cases selector with ⟨-, h⟩ | ⟨front, core, back, -, -, -, -, h⟩
  · rw [h]
    exact MarkedText.isSeparated_plain _
  · rw [h, MarkedText.isSeparated_plain_append, markCore, List.append_assoc,
      MarkedText.isSeparated_plain_append, List.cons_append, ← MarkedText.plain_append]
    exact MarkedText.isSeparated_mark_plain _

theorem isSeparated_markSelectors_append (list : List Char) {t : MarkedText}
    (ht : t.IsSeparated) (hc : ∀ a ∈ t.head?, a ≠ none) :
    MarkedText.IsSeparated (markSelectors list ++ t) := by
  obtain ⟨first, others, hsplit⟩ :=
    List.exists_cons_of_ne_nil (splitSelectors_ne_nil 0 (pieces false list))
  rw [markSelectors, hsplit, List.map_cons, joinSelectors_cons, List.append_assoc]
  clear hsplit
  have hothers : MarkedText.IsSeparated
        ((others.map markSelector).flatMap (some ',' :: ·) ++ t) ∧
      ∀ a ∈ ((others.map markSelector).flatMap (some ',' :: ·) ++ t).head?, a ≠ none := by
    induction others with
    | nil => exact ⟨ht, hc⟩
    | cons second others ih =>
      obtain ⟨hsep, hhead⟩ := ih
      rw [List.map_cons, List.flatMap_cons, List.cons_append, List.cons_append,
        List.append_assoc]
      exact ⟨MarkedText.isSeparated_cons.mpr (isSeparated_markSelector_append second hsep hhead),
        by simp⟩
  exact isSeparated_markSelector_append first hothers.1 hothers.2

theorem bracketChange_blank {c : Char} (h : isBlank c = true) : bracketChange c = 0 := by
  rw [bracketChange, if_neg, if_neg]
  · rintro (rfl | rfl) <;> simp [isBlank] at h
  · rintro (rfl | rfl) <;> simp [isBlank] at h

theorem not_isQuote_of_blank {c : Char} (h : isBlank c = true) : ¬ IsQuote c := by
  rintro (rfl | rfl) <;> simp [isBlank] at h

/-- White space in front of a list goes to its first part. -/
theorem splitSelectors_blank_append {blanks : List Char} (h : ∀ c ∈ blanks, isBlank c = true)
    (list : List Char) :
    splitSelectors 0 (pieces false (blanks ++ list)) =
      prepend blanks (splitSelectors 0 (pieces false list)) := by
  induction blanks with
  | nil =>
    obtain ⟨first, others, hsplit⟩ :=
      List.exists_cons_of_ne_nil (splitSelectors_ne_nil 0 (pieces false list))
    simp [hsplit, prepend]
  | cons c blanks ih =>
    rw [List.forall_mem_cons] at h
    have hcomma : c ≠ ',' := by
      rintro rfl
      simp [isBlank] at h
    rw [List.cons_append, pieces_char (not_isQuote_of_blank h.1) (by simp), splitSelectors,
      if_neg (fun hc => hcomma hc.1), bracketChange_blank h.1, Int.add_zero, ih h.2,
      prepend_prepend]
    rfl

theorem markSelectors_blank_append {blanks : List Char} (h : ∀ c ∈ blanks, isBlank c = true)
    (list : List Char) :
    markSelectors (blanks ++ list) = MarkedText.plain blanks ++ markSelectors list := by
  obtain ⟨first, others, hsplit⟩ :=
    List.exists_cons_of_ne_nil (splitSelectors_ne_nil 0 (pieces false list))
  rw [markSelectors, splitSelectors_blank_append h, markSelectors, hsplit, prepend, List.map_cons,
    List.map_cons, joinSelectors_cons, joinSelectors_cons, markSelector_blank_append h,
    List.append_assoc]

end ComponentSplit
