import ComponentSplit.Pattern.Letter

namespace ComponentSplit

/-- No character above the ASCII range has a small form below the ASCII letters. -/
theorem le_lowerInRuns {runs : List (Nat × Nat × Nat × Int)} {n : Nat}
    (hruns : ∀ r ∈ runs, (65 : Int) ≤ r.1 + r.2.2.2) (hn : 65 ≤ n) : 65 ≤ lowerInRuns runs n := by
  induction runs with
  | nil => exact hn
  | cons r runs ih =>
    obtain ⟨first, count, stride, shift⟩ := r
    have hr := hruns _ (List.mem_cons_self ..)
    rw [lowerInRuns]
    split
    next hin =>
      simp only [Bool.and_eq_true, decide_eq_true_eq] at hin
      simp only at hr
      omega
    next => exact ih fun r hr => hruns r (List.mem_cons_of_mem _ hr)

theorem lowercaseRuns_ge : ∀ r ∈ lowercaseRuns, (65 : Int) ≤ r.1 + r.2.2.2 := by
  decide +kernel

theorem lowercaseRuns_first_ge : ∀ r ∈ lowercaseRuns, 65 ≤ r.1 := by
  decide +kernel

theorem asciiLower_toNat {c : Char} :
    (asciiLower c).toNat = if 65 ≤ c.toNat ∧ c.toNat ≤ 90 then c.toNat + 32 else c.toNat := by
  have hA : ('A' ≤ c) ↔ 65 ≤ c.toNat := Iff.rfl
  have hZ : (c ≤ 'Z') ↔ c.toNat ≤ 90 := Iff.rfl
  unfold asciiLower
  simp only [hA, hZ]
  split
  next h =>
    have hv : (c.toNat + 32).isValidChar := Or.inl (by omega)
    rw [Char.ofNat, dif_pos hv]
    rfl
  next => rfl

namespace Pattern

theorem fold_of_ascii {c : Char} (h : c.toNat < 128) :
    Flags.fold {} c = (asciiLower c).toNat := by
  simp only [Flags.fold, Bool.not_true, Bool.false_eq_true, ↓reduceIte, smallForm, h,
    asciiLower_toNat, Bool.and_eq_true, decide_eq_true_eq]

theorem mem_alikeLetters (n : Nat) : n ∈ alikeLetters n := by
  unfold alikeLetters
  cases h : sharedCapitals.find? (·.contains n) with
  | none => simp
  | some group => simpa using List.find?_some h

theorem mem_alike (n : Nat) : n ∈ Flags.alike {} n := by
  simp only [Flags.alike, Bool.not_true, Bool.false_eq_true, ↓reduceIte]
  exact List.mem_flatMap.mpr ⟨n, mem_alikeLetters n, List.mem_cons_self ..⟩

/-- A character is among those that stand for its small form. -/
theorem holds_of_asciiLower {c d : Char} (hd : d.toNat < 128) (h : asciiLower d = c) :
    Flags.holds {} [.range c.toNat c.toNat] d = true := by
  have hm := mem_alike (Flags.fold {} d)
  rw [fold_of_ascii hd, h] at hm
  simp only [Flags.holds, fold_of_ascii hd, h, List.any_cons, List.any_nil, Bool.or_false,
    List.any_eq_true, Bool.and_eq_true, decide_eq_true_eq]
  exact ⟨c.toNat, hm, Nat.le_refl _, Nat.le_refl _⟩

theorem le_of_mem_capitalsOf {m n : Nat} (h : m ∈ capitalsOf n) : 65 ≤ m := by
  simp only [capitalsOf, List.mem_append] at h
  rcases h with (h | h) | h
  · split at h
    next hn =>
      simp only [Bool.and_eq_true, decide_eq_true_eq] at hn
      have hm := List.mem_singleton.mp h
      omega
    next => simp at h
  · split at h
    next =>
      have hm := List.mem_singleton.mp h
      omega
    next => simp at h
  · obtain ⟨r, hr, hu⟩ := List.mem_filterMap.mp h
    have hfirst := lowercaseRuns_first_ge r hr
    obtain ⟨first, count, stride, shift⟩ := r
    simp only [Option.ite_none_right_eq_some, Bool.and_eq_true, decide_eq_true_eq,
      Option.some.injEq] at hu
    simp only at hfirst
    omega

theorem le_of_mem_sharedCapitals : ∀ group ∈ sharedCapitals, ∀ m ∈ group, 65 ≤ m := by
  decide

/-- Nothing but a sign below the letters stands for it. -/
theorem eq_of_holds_sign {c d : Char} (hc : c.toNat < 65)
    (h : Flags.holds {} [.range c.toNat c.toNat] d = true) : d = c := by
  simp only [Flags.holds, List.any_cons, List.any_nil, Bool.or_false, List.any_eq_true,
    Bool.and_eq_true, decide_eq_true_eq, Flags.alike, Bool.not_true, Bool.false_eq_true,
    ↓reduceIte] at h
  obtain ⟨k, hk, h1, h2⟩ := h
  have hkc : k = c.toNat := by omega
  obtain ⟨m, hm, hkm⟩ := List.mem_flatMap.mp hk
  have hme : m = c.toNat := by
    rcases List.mem_cons.mp hkm with he | hcap
    · omega
    · have := le_of_mem_capitalsOf hcap
      omega
  have hfold : Flags.fold {} d = c.toNat := by
    unfold alikeLetters at hm
    cases hf : sharedCapitals.find? (·.contains (Flags.fold {} d)) with
    | none =>
      rw [hf] at hm
      have := List.mem_singleton.mp hm
      omega
    | some group =>
      rw [hf] at hm
      have := le_of_mem_sharedCapitals group (List.mem_of_find?_eq_some hf) m hm
      omega
  have hd : d.toNat = c.toNat := by
    simp only [Flags.fold, Bool.not_true, Bool.false_eq_true, ↓reduceIte, smallForm,
      Bool.and_eq_true, decide_eq_true_eq] at hfold
    split at hfold
    · split at hfold <;> omega
    · split at hfold
      · omega
      · have := le_lowerInRuns lowercaseRuns_ge (n := d.toNat) (by omega)
        omega
  exact Char.toNat_inj.mp hd

end Pattern

end ComponentSplit
