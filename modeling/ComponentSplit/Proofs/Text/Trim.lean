import ComponentSplit.Proofs.Text.Cut

namespace ComponentSplit

structure IsTrimmed (core : List Char) : Prop where
  ne_nil : core ≠ []
  head : ∀ c ∈ core.head?, isBlank c = false
  last : ∀ c ∈ core.getLast?, isBlank c = false

section Sides

variable {front core back : List Char}

theorem head?_append_of_ne_nil {text : List Char} (h : text ≠ []) (rest : List Char) :
    (text ++ rest).head? = text.head? := by
  cases text with
  | nil => exact absurd rfl h
  | cons c text => rfl

theorem trailingBlanks_sides (h : IsTrimmed core) (hb : ∀ c ∈ back, isBlank c = true) :
    trailingBlanks (front ++ (core ++ back)) = back := by
  have htake : (back.reverse ++ (core.reverse ++ front.reverse)).takeWhile isBlank =
      back.reverse := by
    refine takeWhile_append_stop (by simpa using hb) ?_
    rw [head?_append_of_ne_nil (by simpa using h.ne_nil)]
    simpa using h.last
  rw [trailingBlanks, List.reverse_append, List.reverse_append, List.append_assoc, htake,
    List.reverse_reverse]

variable (hf : ∀ c ∈ front, isBlank c = true) (h : IsTrimmed core)
  (hb : ∀ c ∈ back, isBlank c = true)

include hf h

theorem trimStart_sides : trimStart (front ++ (core ++ back)) = core ++ back := by
  refine dropWhile_append_stop hf ?_
  rw [head?_append_of_ne_nil h.ne_nil]
  exact h.head

theorem leadingBlanks_sides : leadingBlanks (front ++ (core ++ back)) = front := by
  refine takeWhile_append_stop hf ?_
  rw [head?_append_of_ne_nil h.ne_nil]
  exact h.head

include hb

theorem trim_sides : trim (front ++ (core ++ back)) = core := by
  have hdrop : (back.reverse ++ core.reverse).dropWhile isBlank = core.reverse :=
    dropWhile_append_stop (by simpa using hb) (by simpa using h.last)
  rw [trim, trimStart_sides hf h, trimEnd, List.reverse_append, hdrop, List.reverse_reverse]

end Sides

theorem trim_eq_nil {text : List Char} (h : ∀ c ∈ text, isBlank c = true) : trim text = [] := by
  rw [trim, trimStart_eq_nil.mpr h]
  rfl

theorem isTrimmed_trimEnd {c : Char} (hc : isBlank c = false) (rest : List Char) :
    IsTrimmed (trimEnd (c :: rest)) := by
  have hne : trimEnd (c :: rest) ≠ [] := by
    intro he
    have hall : ∀ d ∈ (c :: rest).reverse, isBlank d = true := by
      simpa [trimEnd] using he
    have hblank := hall c (by simp)
    simp [hc] at hblank
  refine ⟨hne, ?_, ?_⟩
  · have hwhole : trimEnd (c :: rest) ++ trailingBlanks (c :: rest) = c :: rest :=
      trimEnd_append_trailingBlanks _
    have hhead := head?_append_of_ne_nil hne (trailingBlanks (c :: rest))
    rw [← hhead, hwhole]
    simpa using hc
  · intro d hd
    rw [trimEnd, List.getLast?_reverse] at hd
    exact head?_dropWhile hd

theorem exists_trimmed {text : List Char} (h : ¬ ∀ c ∈ text, isBlank c = true) :
    ∃ front core back, text = front ++ (core ++ back) ∧ (∀ c ∈ front, isBlank c = true) ∧
      IsTrimmed core ∧ ∀ c ∈ back, isBlank c = true := by
  have hstart : trimStart text ≠ [] := fun he => h (trimStart_eq_nil.mp he)
  obtain ⟨c, rest, hrest⟩ := List.exists_cons_of_ne_nil hstart
  have hc : isBlank c = false := by
    refine @head?_dropWhile isBlank text c ?_
    rw [← trimStart, hrest]
    rfl
  refine ⟨leadingBlanks text, trimEnd (c :: rest), trailingBlanks (c :: rest), ?_, ?_,
    isTrimmed_trimEnd hc rest, ?_⟩
  · rw [trimEnd_append_trailingBlanks, ← hrest, leadingBlanks_append_trimStart]
  · exact fun d hd => List.mem_takeWhile_imp hd
  · intro d hd
    rw [trailingBlanks, List.mem_reverse] at hd
    exact List.mem_takeWhile_imp hd

end ComponentSplit
