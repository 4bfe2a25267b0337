import ComponentSplit.Proofs.Markup.SpacedTag
import ComponentSplit.Proofs.Text.Marked
import ComponentSplit.Template.Scope

namespace ComponentSplit

namespace MarkedText

theorem eq_plain_of_no_mark {t : MarkedText} (h : none ∉ t) : t = plain t.unmarked := by
  induction t with
  | nil => rfl
  | cons a t ih =>
    rw [List.mem_cons, not_or] at h
    cases a with
    | none => exact absurd rfl h.1
    | some c => rw [unmarked_some_cons, plain_cons, ← ih h.2]

end MarkedText

theorem isElementNameChar_of_isEndNameChar {c : Char} (h : isEndNameChar c = true) :
    isElementNameChar c = true := by
  have hascii : c.toNat < 128 := by
    have := toNat_of_isEndNameChar h
    omega
  simp only [isEndNameChar, Bool.or_eq_true, beq_iff_eq] at h
  simp only [isElementNameChar, isWordChar, isAlphanumeric, if_pos hascii, Bool.or_eq_true,
    beq_iff_eq]
  tauto

theorem StopsNames.isElementNameChar {c : Char} (h : StopsNames c) :
    isElementNameChar c = false := by
  rcases h with (rfl | rfl | rfl | rfl | rfl) | rfl | rfl
  all_goals decide +kernel

/-- The mark behind the name of an element, which some elements do not have. -/
def nameMark (name : List Char) : MarkedText :=
  if unscopedElements.contains (String.ofList (name.map asciiLower)) then [] else [none]

section Marks

variable {c : Char} {text rest : List Char}

theorem markTemplate_char (h : c ≠ '<') :
    markTemplate (c :: text) = some c :: markTemplate text := by
  rw [markTemplate]
  rintro d more rfl
  exact absurd rfl h

theorem markTemplate_sign (h : ∀ d ∈ text.head?, d.isAlpha = false) :
    markTemplate ('<' :: text) = some '<' :: markTemplate text := by
  cases text with
  | nil => simp [markTemplate]
  | cons d text => simp [markTemplate, h d rfl]

theorem markTemplate_name (hc : c.isAlpha = true) : markTemplate ('<' :: c :: text) =
    MarkedText.plain ('<' :: c :: text.takeWhile isElementNameChar) ++
      (nameMark (c :: text.takeWhile isElementNameChar) ++
        markTemplate (text.dropWhile isElementNameChar)) := by
  rw [markTemplate, if_pos hc]
  unfold nameMark
  dsimp only
  cases unscopedElements.contains
      (String.ofList ((c :: text.takeWhile isElementNameChar).map asciiLower)) with
  | false => rfl
  | true => rfl

/-- A text without a less-than sign has no marks. -/
theorem markTemplate_text (h : '<' ∉ text) (rest : List Char) :
    markTemplate (text ++ rest) = MarkedText.plain text ++ markTemplate rest := by
  induction text with
  | nil => rfl
  | cons d text ih =>
    rw [List.mem_cons, not_or] at h
    rw [List.cons_append, markTemplate_char (Ne.symm h.1), ih h.2]
    rfl

theorem scopeTemplate_text (h : '<' ∉ text) (rest attr : List Char) :
    scopeTemplate (text ++ rest) attr = text ++ scopeTemplate rest attr := by
  rw [scopeTemplate, markTemplate_text h, MarkedText.fill_append, MarkedText.fill_plain]
  rfl

/-- A template falls into parts with marks of their own in front of every character that stops a
name. -/
theorem markTemplate_append (hc : isElementNameChar c = false) :
    markTemplate (text ++ c :: rest) = markTemplate text ++ markTemplate (c :: rest) := by
  have hletter : c.isAlpha = false := by
    cases h : c.isAlpha with
    | false => rfl
    | true =>
      rw [isElementNameChar_of_isEndNameChar (isEndNameChar_of_isAlpha h)] at hc
      exact hc
  induction text using markTemplate.induct with
  | case1 => simp [markTemplate]
  | case2 d more halpha ih =>
    rw [List.cons_append, List.cons_append, markTemplate_name halpha, markTemplate_name halpha,
      takeWhile_append_of_neg hc, dropWhile_append_of_neg hc, ih]
    simp only [List.append_assoc]
  | case3 d more halpha ih =>
    rw [List.cons_append, markTemplate_sign (by simpa using halpha),
      markTemplate_sign (by simpa using halpha), ih]
    rfl
  | case4 d more hother ih =>
    by_cases hd : d = '<'
    · obtain rfl : more = [] := List.eq_nil_iff_forall_not_mem.mpr fun e he => by
        obtain ⟨e, later, rfl⟩ := List.exists_cons_of_ne_nil (List.ne_nil_of_mem he)
        exact hother e later hd rfl
      subst hd
      rw [List.cons_append, List.nil_append, markTemplate_sign (by simpa using hletter),
        markTemplate_sign (by simp)]
      simp [markTemplate]
    · rw [List.cons_append, markTemplate_char hd, markTemplate_char hd, ih]
      rfl

theorem unmarked_markTemplate (html : List Char) : (markTemplate html).unmarked = html := by
  induction html using markTemplate.induct with
  | case1 => simp [markTemplate]
  | case2 d more halpha ih =>
    have hmark : (nameMark (d :: more.takeWhile isElementNameChar)).unmarked = [] := by
      unfold nameMark
      split
      · rfl
      · rfl
    rw [markTemplate_name halpha, MarkedText.unmarked_append, MarkedText.unmarked_append,
      MarkedText.unmarked_plain, hmark, ih]
    simp
  | case3 d more halpha ih =>
    rw [markTemplate_sign (by simpa using halpha), MarkedText.unmarked_some_cons, ih]
  | case4 d more hother ih =>
    rw [markTemplate, MarkedText.unmarked_some_cons, ih]
    exact hother

/-- Without marks there is nothing to fill. -/
theorem scopeTemplate_of_no_mark (h : none ∉ markTemplate text) (attr : List Char) :
    scopeTemplate text attr = text := by
  rw [scopeTemplate, MarkedText.eq_plain_of_no_mark h, MarkedText.fill_plain,
    unmarked_markTemplate]

end Marks

end ComponentSplit
