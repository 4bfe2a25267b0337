import ComponentSplit.Proofs.Stylesheet.SelectorList

namespace ComponentSplit

/-- How a text changes the depth of brackets. -/
def bracketSum : List Char → Int
  | [] => 0
  | c :: text => bracketChange c + bracketSum text

@[simp]
theorem bracketSum_nil : bracketSum [] = 0 := rfl

@[simp]
theorem bracketSum_cons (c : Char) (text : List Char) :
    bracketSum (c :: text) = bracketChange c + bracketSum text := rfl

@[simp]
theorem bracketSum_append (front back : List Char) :
    bracketSum (front ++ back) = bracketSum front + bracketSum back := by
  induction front with
  | nil => simp
  | cons c front ih => rw [List.cons_append, bracketSum_cons, ih, bracketSum_cons, Int.add_assoc]

theorem bracketSum_eq_zero {text : List Char} (h : ∀ c ∈ text, bracketChange c = 0) :
    bracketSum text = 0 := by
  induction text with
  | nil => rfl
  | cons c text ih =>
    rw [List.forall_mem_cons] at h
    rw [bracketSum_cons, h.1, ih h.2, Int.add_zero]

/-- The pieces lead from one depth of brackets to another; outside brackets their characters pass a
test, and strings stand inside brackets and hold none. -/
def Passes (test : Char → Prop) : Int → List Piece → Int → Prop
  | depth, [], final => depth = final
  | depth, .char c :: rest, final =>
    (depth = 0 → test c) ∧ Passes test (depth + bracketChange c) rest final
  | depth, .string text :: rest, final =>
    depth ≠ 0 ∧ (∀ c ∈ text, bracketChange c = 0) ∧ Passes test depth rest final
  | _, .comment _ :: _, _ => False

section Passing

variable {test : Char → Prop} {depth middle final : Int} {ps qs : List Piece}

theorem Passes.append (h : Passes test depth ps middle) (hq : Passes test middle qs final) :
    Passes test depth (ps ++ qs) final := by
  induction ps generalizing depth with
  | nil =>
    obtain rfl : depth = middle := h
    exact hq
  | cons p ps ih =>
    cases p with
    | char c => exact ⟨h.1, ih h.2⟩
    | string text => exact ⟨h.1, h.2.1, ih h.2.2⟩
    | comment text => exact h.elim

theorem passes_map_char {text : List Char} (h : ∀ c ∈ text, test c) :
    Passes test depth (text.map .char) (depth + bracketSum text) := by
  induction text generalizing depth with
  | nil => simp [Passes]
  | cons c text ih =>
    rw [List.forall_mem_cons] at h
    have hrest : Passes test (depth + bracketChange c) (text.map .char)
        (depth + bracketChange c + bracketSum text) := ih h.2
    rw [Int.add_assoc, ← bracketSum_cons] at hrest
    exact ⟨fun _ => h.1, hrest⟩

theorem passes_chars {text : List Char} (h : ∀ c ∈ text, test c ∧ bracketChange c = 0) :
    Passes test depth (text.map .char) depth := by
  have hpass : Passes test depth (text.map .char) (depth + bracketSum text) :=
    passes_map_char fun c hc => (h c hc).1
  rwa [bracketSum_eq_zero fun c hc => (h c hc).2, Int.add_zero] at hpass

/-- A comma that is not outside brackets does not divide a list. -/
theorem Passes.splitSelectors (h : Passes (· ≠ ',') depth ps final) (qs : List Piece) :
    splitSelectors depth (ps ++ qs) =
      prepend (ps.flatMap Piece.text) (splitSelectors final qs) := by
  induction ps generalizing depth with
  | nil =>
    obtain rfl : depth = final := h
    obtain ⟨first, others, hsplit⟩ := List.exists_cons_of_ne_nil (splitSelectors_ne_nil depth qs)
    simp [hsplit, prepend]
  | cons p ps ih =>
    cases p with
    | char c =>
      have hcomma : ¬ (c = ',' ∧ depth = 0) := fun hc => h.1 hc.2 hc.1
      rw [List.cons_append, ComponentSplit.splitSelectors, if_neg hcomma, ih h.2, prepend_prepend]
      rfl
    | string text =>
      rw [List.cons_append, ComponentSplit.splitSelectors, ih h.2.2, prepend_prepend]
      · rfl
      · simp
    | comment text => exact h.elim

theorem Passes.compoundStart (h : Passes (isCombinator · = false) depth ps final)
    (pos start : Nat) (qs : List Piece) :
    compoundStart depth pos start (ps ++ qs) =
      compoundStart final (pos + (ps.flatMap Piece.text).length) start qs := by
  induction ps generalizing depth pos with
  | nil =>
    obtain rfl : depth = final := h
    rfl
  | cons p ps ih =>
    cases p with
    | char c =>
      have hcomb : ¬ (isCombinator c = true ∧ depth = 0) := by
        rintro ⟨hc, hd⟩
        simp [h.1 hd] at hc
      rw [List.cons_append, ComponentSplit.compoundStart, if_neg hcomb, ih h.2]
      rw [List.flatMap_cons, Piece.text, List.length_append, List.length_singleton, Nat.add_assoc]
    | string text =>
      rw [List.cons_append, ComponentSplit.compoundStart, ih h.2.2]
      · simp [Nat.add_assoc]
      · simp
    | comment text => exact h.elim

theorem pseudoOffset_string {text : List Char} (h : ∀ c ∈ text, bracketChange c = 0)
    (hd : depth ≠ 0) (rest : List Char) :
    pseudoOffset depth (text ++ rest) = text.length + pseudoOffset depth rest := by
  induction text with
  | nil => simp
  | cons c text ih =>
    rw [List.forall_mem_cons] at h
    rw [List.cons_append, pseudoOffset, if_neg (fun hc => hd hc.2), h.1, Int.add_zero, ih h.2,
      List.length_cons]
    omega

theorem Passes.pseudoOffset (h : Passes (· ≠ ':') depth ps final) (rest : List Char) :
    pseudoOffset depth (ps.flatMap Piece.text ++ rest) =
      (ps.flatMap Piece.text).length + pseudoOffset final rest := by
  induction ps generalizing depth with
  | nil =>
    obtain rfl : depth = final := h
    simp
  | cons p ps ih =>
    cases p with
    | char c =>
      have hcolon : ¬ (c = ':' ∧ depth = 0) := fun hc => h.1 hc.2 hc.1
      rw [List.flatMap_cons, Piece.text, List.append_assoc, List.singleton_append,
        ComponentSplit.pseudoOffset, if_neg hcolon, ih h.2, List.singleton_append,
        List.length_cons]
      omega
    | string text =>
      rw [List.flatMap_cons, Piece.text, List.append_assoc, pseudoOffset_string h.2.1 h.1,
        ih h.2.2, List.length_append]
      omega
    | comment text => exact h.elim

end Passing

end ComponentSplit
