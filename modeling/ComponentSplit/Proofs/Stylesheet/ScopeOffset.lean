import ComponentSplit.Proofs.Stylesheet.Depth

namespace ComponentSplit

theorem isCombinator_iff {c : Char} :
    isCombinator c = true ↔ c ∈ [' ', '\t', '\n', '\r', '\x0c', '>', '+', '~'] := by
  simp [isCombinator, or_assoc]

theorem bracketChange_combinator {c : Char} (h : isCombinator c = true) : bracketChange c = 0 := by
  have hmem := isCombinator_iff.mp h
  simp only [List.mem_cons, List.not_mem_nil, or_false] at hmem
  rcases hmem with rfl | rfl | rfl | rfl | rfl | rfl | rfl | rfl <;> rfl

/-- A piece that is more than a character leaves the depth of brackets as it is. -/
def Piece.IsFlat : Piece → Prop
  | .char _ => True
  | .string text | .comment text => bracketSum text = 0

/-- The last compound starts where the pieces do or behind a combinator outside brackets. -/
theorem compoundStart_cases (depth : Int) (pos start : Nat) (ps : List Piece) :
    compoundStart depth pos start ps = start ∨
      ∃ u v, ps.flatMap Piece.text = u ++ v ∧ compoundStart depth pos start ps = pos + u.length ∧
        ((∀ p ∈ ps, p.IsFlat) → depth + bracketSum u = 0) := by
  have hskip (p : Piece) (ps : List Piece) (hp : ∀ c, p ≠ .char c) (depth : Int) (pos start : Nat) :
      compoundStart depth pos start (p :: ps) =
        compoundStart depth (pos + p.text.length) start ps := by
    rw [compoundStart]
    exact hp
  induction ps generalizing depth pos start with
  | nil => exact .inl rfl
  | cons p ps ih =>
    by_cases hchar : ∃ c, p = .char c
    · obtain ⟨c, rfl⟩ := hchar
      rw [compoundStart]
      rcases ih (depth + bracketChange c) (pos + 1)
        (if isCombinator c ∧ depth = 0 then pos + 1 else start) with hstart | ⟨u, v, htext, hu, hsum⟩
      · -- no later combinator counts, so this character decides
        by_cases h : isCombinator c = true ∧ depth = 0
        · refine .inr ⟨[c], ps.flatMap Piece.text, rfl, ?_, fun _ => ?_⟩
          · rw [hstart, if_pos h, List.length_singleton]
          · simp [h.2, bracketChange_combinator h.1]
        · exact .inl (by rw [hstart, if_neg h])
      · refine .inr ⟨c :: u, v, ?_, ?_, fun hflat => ?_⟩
        · rw [List.flatMap_cons, htext]
          rfl
        · rw [hu, List.length_cons]
          omega
        · have hrest := hsum fun q hq => hflat q (List.mem_cons_of_mem _ hq)
          rw [bracketSum_cons]
          omega
    · rw [hskip p ps fun c hc => hchar ⟨c, hc⟩]
      rcases ih depth (pos + p.text.length) start with hstart | ⟨u, v, htext, hu, hsum⟩
      · exact .inl hstart
      · refine .inr ⟨p.text ++ u, v, ?_, ?_, fun hflat => ?_⟩
        · rw [List.flatMap_cons, htext, List.append_assoc]
        · rw [hu, List.length_append, Nat.add_assoc]
        · have hrest := hsum fun q hq => hflat q (List.mem_cons_of_mem _ hq)
          have hp : bracketSum p.text = 0 := by
            have hflatp := hflat p List.mem_cons_self
            cases p with
            | char c => exact absurd ⟨c, rfl⟩ hchar
            | string text => exact hflatp
            | comment text => exact hflatp
          rwa [bracketSum_append, hp, Int.zero_add]

theorem pseudoOffset_cases (depth : Int) (text : List Char) :
    pseudoOffset depth text = text.length ∨
      ∃ u v, text = u ++ ':' :: v ∧ pseudoOffset depth text = u.length ∧
        depth + bracketSum u = 0 := by
  induction text generalizing depth with
  | nil => exact .inl rfl
  | cons c text ih =>
    rw [pseudoOffset]
    by_cases h : c = ':' ∧ depth = 0
    · rw [if_pos h]
      exact .inr ⟨[], text, by simp [h.1], rfl, by simp [h.2]⟩
    · rw [if_neg h]
      rcases ih (depth + bracketChange c) with hend | ⟨u, v, rfl, hu, hsum⟩
      · exact .inl (by rw [hend, List.length_cons])
      · refine .inr ⟨c :: u, v, rfl, by rw [hu, List.length_cons], ?_⟩
        rw [bracketSum_cons]
        omega

theorem scopeOffset_cases (selector : List Char) :
    scopeOffset selector = selector.length ∨
      ∃ u v, selector = u ++ ':' :: v ∧ scopeOffset selector = u.length ∧
        ((∀ p ∈ pieces false selector, p.IsFlat) → bracketSum u = 0) := by
  have hstart : ∃ a b, selector = a ++ b ∧
      compoundStart 0 0 0 (pieces false selector) = a.length ∧
        ((∀ p ∈ pieces false selector, p.IsFlat) → bracketSum a = 0) := by
    rcases compoundStart_cases 0 0 0 (pieces false selector) with hzero | ⟨a, b, htext, ha, hsum⟩
    · exact ⟨[], selector, rfl, hzero, fun _ => rfl⟩
    · refine ⟨a, b, ?_, by rw [ha, Nat.zero_add], fun hflat => ?_⟩
      · rw [← htext, pieces_text]
      · have hzero := hsum hflat
        rwa [Int.zero_add] at hzero
  obtain ⟨a, b, hsplit, ha, hsum⟩ := hstart
  have hdrop : selector.drop a.length = b := by rw [hsplit, List.drop_left]
  have hoffset : scopeOffset selector = a.length + pseudoOffset 0 b := by
    rw [← hdrop, ← ha]
    rfl
  rcases pseudoOffset_cases 0 b with hend | ⟨u, v, hb, hu, hzero⟩
  · exact .inl (by rw [hoffset, hend, hsplit, List.length_append])
  · refine .inr ⟨a ++ u, v, ?_, ?_, fun hflat => ?_⟩
    · rw [hsplit, hb, List.append_assoc]
    · rw [hoffset, hu, List.length_append]
    · have ha := hsum hflat
      rw [bracketSum_append]
      omega

end ComponentSplit
