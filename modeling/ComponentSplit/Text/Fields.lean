namespace ComponentSplit

/-- The fields of a text between the places where a character stands. -/
def fields (sep : Char) : List Char → List (List Char)
  | [] => [[]]
  | c :: rest =>
    match fields sep rest with
    | [] => [[c]]
    | field :: more => if c = sep then [] :: field :: more else (c :: field) :: more

def joinFields (sep : Char) : List (List Char) → List Char
  | [] => []
  | [field] => field
  | field :: more => field ++ sep :: joinFields sep more

theorem fields_ne_nil (sep : Char) (text : List Char) : fields sep text ≠ [] := by
  cases text with
  | nil => simp [fields]
  | cons c rest =>
    unfold fields
    split
    · simp
    · split <;> simp

theorem not_mem_of_mem_fields {sep : Char} {field text : List Char}
    (h : field ∈ fields sep text) : sep ∉ field := by
  induction text generalizing field with
  | nil => simp_all [fields]
  | cons c text ih =>
    obtain ⟨first, more, hrest⟩ := List.exists_cons_of_ne_nil (fields_ne_nil sep text)
    rw [hrest] at ih
    rw [fields, hrest] at h
    dsimp only at h
    by_cases hc : c = sep
    · rw [if_pos hc] at h
      rcases List.mem_cons.mp h with rfl | hmem
      · exact List.not_mem_nil
      · exact ih hmem
    · rw [if_neg hc] at h
      rcases List.mem_cons.mp h with rfl | hmem
      · rw [List.mem_cons, not_or]
        exact ⟨Ne.symm hc, ih List.mem_cons_self⟩
      · exact ih (List.mem_cons_of_mem _ hmem)

theorem joinFields_fields (sep : Char) (text : List Char) :
    joinFields sep (fields sep text) = text := by
  induction text with
  | nil => rfl
  | cons c rest ih =>
    unfold fields
    split
    next h => exact absurd h (fields_ne_nil sep rest)
    next field more h =>
      rw [h] at ih
      split
      next hc => simp [joinFields, ih, hc]
      next => cases more <;> simp_all [joinFields]

end ComponentSplit
