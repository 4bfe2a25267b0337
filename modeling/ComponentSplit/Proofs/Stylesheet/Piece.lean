import ComponentSplit.Stylesheet.Piece

namespace ComponentSplit

def IsQuote (c : Char) : Prop := c = '"' ∨ c = '\''

instance (c : Char) : Decidable (IsQuote c) := inferInstanceAs (Decidable (_ ∨ _))

def StartsComment (text : List Char) : Prop := ∃ tail, text = '/' :: '*' :: tail

/-- The end of a comment stands in the text. -/
def HasCommentClose (text : List Char) : Prop := ∃ before after, text = before ++ '*' :: '/' :: after

/-- What follows the first two characters of a finished comment. -/
def IsCommentTail (tail : List Char) : Prop :=
  ∃ body, tail = body ++ ['*', '/'] ∧ ¬ HasCommentClose body

/-- What follows the opening quote of a finished string. -/
inductive IsStringTail (quote : Char) : List Char → Prop
  | close : IsStringTail quote [quote]
  | char {c : Char} {tail : List Char} : c ≠ quote → c ≠ '\\' → IsStringTail quote tail →
      IsStringTail quote (c :: tail)
  | escape {c : Char} {tail : List Char} : IsStringTail quote tail →
      IsStringTail quote ('\\' :: c :: tail)

theorem IsQuote.ne_backslash {c : Char} (h : IsQuote c) : c ≠ '\\' := by
  rcases h with rfl | rfl <;> decide

theorem IsQuote.ne_slash {c : Char} (h : IsQuote c) : c ≠ '/' := by
  rcases h with rfl | rfl <;> decide

theorem not_startsComment_of_ne {c : Char} (h : c ≠ '/') (rest : List Char) :
    ¬ StartsComment (c :: rest) := by
  rintro ⟨tail, htail⟩
  exact h (List.cons.inj htail).1

theorem startsComment_cons {c : Char} {rest : List Char} :
    StartsComment (c :: rest) ↔ c = '/' ∧ rest.head? = some '*' := by
  constructor
  · rintro ⟨tail, htail⟩
    obtain ⟨rfl, rfl⟩ := List.cons.inj htail
    exact ⟨rfl, rfl⟩
  · rintro ⟨rfl, hrest⟩
    obtain ⟨tail, rfl⟩ := List.head?_eq_some_iff.mp hrest
    exact ⟨tail, rfl⟩

/-- A text that starts no comment starts none with something behind it, unless the two meet. -/
theorem not_startsComment_append {c : Char} {text rest : List Char}
    (h : ¬ StartsComment (c :: text)) (hrest : rest.head? ≠ some '*') :
    ¬ StartsComment (c :: (text ++ rest)) := by
  cases text with
  | nil =>
    rw [startsComment_cons]
    exact fun hboth => hrest hboth.2
  | cons d text => simpa [startsComment_cons] using h

theorem spanComment_body {body : List Char} (h : ¬ HasCommentClose body) (rest : List Char) :
    spanComment (body ++ '*' :: '/' :: rest) = (body ++ ['*', '/'], rest) := by
  induction body with
  | nil => rfl
  | cons c body ih =>
    have hbody : ¬ HasCommentClose body := by
      rintro ⟨before, after, rfl⟩
      exact h ⟨c :: before, after, rfl⟩
    have hopen : ∀ tail, c = '*' → body ++ '*' :: '/' :: rest ≠ '/' :: tail := by
      rintro tail rfl htail
      cases body with
      | nil => simp at htail
      | cons d body =>
        obtain ⟨rfl, -⟩ := List.cons.inj htail
        exact h ⟨[], body, rfl⟩
    rw [List.cons_append, spanComment, ih hbody]
    · rfl
    · exact hopen

theorem IsCommentTail.span {tail : List Char} (h : IsCommentTail tail) (rest : List Char) :
    spanComment (tail ++ rest) = (tail, rest) := by
  obtain ⟨body, rfl, hbody⟩ := h
  simpa using spanComment_body hbody rest

/-- A comment with something left behind it is finished. -/
theorem isCommentTail_of_rest {text : List Char} (h : (spanComment text).2 ≠ []) :
    IsCommentTail (spanComment text).1 := by
  fun_induction spanComment text with
  | case1 => exact absurd rfl h
  | case2 rest =>
    refine ⟨[], rfl, ?_⟩
    rintro ⟨before, after, hbody⟩
    simp at hbody
  | case3 c rest hopen comment after hspan ih =>
    have hrest : comment ++ after = rest := by
      simpa [hspan] using spanComment_append rest
    obtain ⟨body, hcomment, hbody⟩ : IsCommentTail comment := by
      simpa [hspan] using ih (by simpa [hspan] using h)
    refine ⟨c :: body, by simpa using hcomment, ?_⟩
    rintro ⟨before, tail, hclose⟩
    cases before with
    | nil =>
      obtain ⟨hc, htail⟩ := List.cons.inj hclose
      refine hopen (tail ++ '*' :: '/' :: after) hc ?_
      rw [← hrest, hcomment, htail]
      simp
    | cons d before =>
      obtain ⟨-, htail⟩ := List.cons.inj hclose
      exact hbody ⟨before, tail, htail⟩

theorem IsStringTail.span {quote : Char} {tail : List Char} (hq : IsQuote quote)
    (h : IsStringTail quote tail) (rest : List Char) :
    spanString quote (tail ++ rest) = (tail, rest) := by
  induction h with
  | close => simp [spanString, hq.ne_backslash]
  | char hne hb _ ih => simp [spanString, hne, hb, ih]
  | escape _ ih => simp [spanString, ih]

theorem ne_backslash_of_not_escape {c : Char} {rest : List Char}
    (hlast : c = '\\' → rest = [] → False)
    (hescape : ∀ d tail, c = '\\' → rest = d :: tail → False) : c ≠ '\\' := by
  rintro rfl
  cases rest with
  | nil => exact hlast rfl rfl
  | cons d rest => exact hescape d rest rfl rfl

/-- A string with something left behind it is finished. -/
theorem isStringTail_of_rest {quote : Char} {text : List Char}
    (h : (spanString quote text).2 ≠ []) : IsStringTail quote (spanString quote text).1 := by
  fun_induction spanString quote text with
  | case1 => exact absurd rfl h
  | case2 => exact absurd rfl h
  | case3 c rest string after hspan ih =>
    exact .escape (by simpa [hspan] using ih (by simpa [hspan] using h))
  | case4 rest => exact .close
  | case5 c rest hlast hescape hne string after hspan ih =>
    have hb := ne_backslash_of_not_escape hlast hescape
    exact .char hne hb (by simpa [hspan] using ih (by simpa [hspan] using h))

/-- One more character goes behind a finished comment, or into one that is not finished. -/
theorem spanComment_concat (text : List Char) {c : Char} (hc : c ≠ '/') :
    spanComment (text ++ [c]) = ((spanComment text).1, (spanComment text).2 ++ [c]) ∨
      (spanComment text).2 = [] ∧ spanComment (text ++ [c]) = (text ++ [c], []) := by
  fun_induction spanComment text with
  | case1 => exact .inr ⟨rfl, by simp [spanComment]⟩
  | case2 rest => exact .inl (by simp [spanComment])
  | case3 d rest hopen comment after hspan ih =>
    have hstill : ∀ tail, d = '*' → rest ++ [c] ≠ '/' :: tail := by
      intro tail hd htail
      cases rest with
      | nil => exact hc (List.cons.inj htail).1
      | cons e rest =>
        obtain ⟨rfl, -⟩ := List.cons.inj htail
        exact hopen rest hd rfl
    rw [hspan] at ih
    rw [List.cons_append, spanComment.eq_3 _ _ hstill]
    rcases ih with h | ⟨hafter, h⟩
    · exact .inl (by rw [h])
    · exact .inr ⟨hafter, by rw [h]⟩

/-- One more character goes behind a finished string, or into one that is not finished. -/
theorem spanString_concat (quote : Char) (text : List Char) {c : Char} (hc : c ≠ quote) :
    spanString quote (text ++ [c]) =
        ((spanString quote text).1, (spanString quote text).2 ++ [c]) ∨
      (spanString quote text).2 = [] ∧ spanString quote (text ++ [c]) = (text ++ [c], []) := by
  fun_induction spanString quote text with
  | case1 =>
    refine .inr ⟨rfl, ?_⟩
    by_cases hb : c = '\\' <;> simp [spanString, hb, hc]
  | case2 => exact .inr ⟨rfl, rfl⟩
  | case3 d rest string after hspan ih =>
    rw [hspan] at ih
    rw [List.cons_append, List.cons_append, spanString.eq_3]
    rcases ih with h | ⟨hafter, h⟩
    · exact .inl (by rw [h])
    · exact .inr ⟨hafter, by rw [h]⟩
  | case4 rest hlast hescape =>
    have hb := ne_backslash_of_not_escape hlast hescape
    exact .inl (by simp [spanString, hb])
  | case5 d rest hlast hescape hne string after hspan ih =>
    have hb := ne_backslash_of_not_escape hlast hescape
    rw [hspan] at ih
    rw [List.cons_append]
    rcases ih with h | ⟨hafter, h⟩
    · exact .inl (by simp [spanString, hb, hne, h])
    · exact .inr ⟨hafter, by simp [spanString, hb, hne, h]⟩

theorem flatMap_text_chars (text : List Char) :
    (text.map Piece.char).flatMap Piece.text = text := by
  simp [List.flatMap_map, Piece.text]

@[simp]
theorem pieces_nil (comments : Bool) : pieces comments [] = [] := by
  rw [pieces]

theorem pieces_slash_star (tail : List Char) :
    pieces true ('/' :: '*' :: tail) =
      .comment ('/' :: '*' :: (spanComment tail).1) :: pieces true (spanComment tail).2 := by
  rw [pieces]
  simp

theorem pieces_quote (comments : Bool) {quote : Char} (hq : IsQuote quote) (rest : List Char) :
    pieces comments (quote :: rest) =
      .string (quote :: (spanString quote rest).1) ::
        pieces comments (spanString quote rest).2 := by
  rw [pieces]
  rcases hq with rfl | rfl <;> simp

theorem pieces_comment {tail : List Char} (h : IsCommentTail tail) (rest : List Char) :
    pieces true ('/' :: '*' :: (tail ++ rest)) =
      .comment ('/' :: '*' :: tail) :: pieces true rest := by
  rw [pieces_slash_star, h.span]

theorem pieces_string (comments : Bool) {quote : Char} {tail : List Char} (hq : IsQuote quote)
    (h : IsStringTail quote tail) (rest : List Char) :
    pieces comments (quote :: (tail ++ rest)) =
      .string (quote :: tail) :: pieces comments rest := by
  rw [pieces_quote comments hq, h.span hq]

theorem pieces_char {comments : Bool} {c : Char} {rest : List Char} (hq : ¬ IsQuote c)
    (hc : comments = true → ¬ StartsComment (c :: rest)) :
    pieces comments (c :: rest) = .char c :: pieces comments rest := by
  obtain ⟨hd, hs⟩ := not_or.mp hq
  rw [pieces]
  cases comments with
  | false => simp [hd, hs]
  | true =>
    rw [startsComment_cons] at hc
    simp [hd, hs, hc]

/-- A character that starts neither a string nor a comment, whatever follows it. -/
theorem pieces_plainChar (comments : Bool) (c : Char) (hq : ¬ IsQuote c) (hs : c ≠ '/')
    (rest : List Char) : pieces comments (c :: rest) = .char c :: pieces comments rest :=
  pieces_char hq fun _ => not_startsComment_of_ne hs rest

/-- Where comments do not count, a text without quotes is read as its characters. -/
theorem pieces_chars {text : List Char} (h : ∀ c ∈ text, ¬ IsQuote c) (rest : List Char) :
    pieces false (text ++ rest) = text.map .char ++ pieces false rest := by
  induction text with
  | nil => rfl
  | cons c text ih =>
    rw [List.forall_mem_cons] at h
    rw [List.cons_append, pieces_char h.1 (by simp), ih h.2]
    rfl

/-- A text is read as a comment, a string or a character in front of a shorter text. -/
@[elab_as_elim]
theorem pieces_induction {P : List Char → Prop} (nil : P [])
    (comment : ∀ tail, P (spanComment tail).2 → P ('/' :: '*' :: tail))
    (string : ∀ quote rest, IsQuote quote → P (spanString quote rest).2 → P (quote :: rest))
    (char : ∀ c rest, ¬ IsQuote c → ¬ StartsComment (c :: rest) → P rest → P (c :: rest))
    (text : List Char) : P text := by
  fun_induction pieces true text with
  | case1 => exact nil
  | case2 c rest h span ih =>
    obtain ⟨rfl, hrest⟩ : c = '/' ∧ rest.head? = some '*' := by simpa using h
    obtain ⟨tail, rfl⟩ := List.head?_eq_some_iff.mp hrest
    exact comment tail ih
  | case3 c rest h hq span ih => exact string c rest (by simpa [IsQuote] using hq) ih
  | case4 c rest h hq ih =>
    refine char c rest (by simpa [IsQuote] using hq) ?_ ih
    rw [startsComment_cons]
    simpa using h

/-- A comment or a string that comes to its end. -/
def Piece.IsFinished : Piece → Prop
  | .comment text => ∃ tail, text = '/' :: '*' :: tail ∧ IsCommentTail tail
  | .string text => ∃ quote tail, text = quote :: tail ∧ IsStringTail quote tail
  | .char _ => True

/-- Finished pieces are read without a look at what stands behind them, unless a slash and an
asterisk meet. -/
theorem pieces_append {front back : List Char} (h : ∀ p ∈ pieces true front, p.IsFinished)
    (hmeet : back.head? = some '*' → (pieces true front).getLast? ≠ some (.char '/')) :
    pieces true (front ++ back) = pieces true front ++ pieces true back := by
  have hlast {p : Piece} {ps : List Piece}
      (hp : back.head? = some '*' → (p :: ps).getLast? ≠ some (.char '/')) :
      back.head? = some '*' → ps.getLast? ≠ some (.char '/') := by
    intro hb hps
    exact hp hb (by simp [List.getLast?_cons, hps])
  induction front using pieces_induction with
  | nil => simp
  | comment tail ih =>
    rw [pieces_slash_star] at h hmeet ⊢
    rw [List.forall_mem_cons] at h
    obtain ⟨⟨u, hu, hfinished⟩, hrest⟩ := h
    obtain rfl : (spanComment tail).1 = u := by simpa using hu
    have hread := pieces_comment hfinished ((spanComment tail).2 ++ back)
    rw [← List.append_assoc, spanComment_append, ih hrest (hlast hmeet)] at hread
    exact hread
  | string quote rest hq ih =>
    rw [pieces_quote true hq] at h hmeet ⊢
    rw [List.forall_mem_cons] at h
    obtain ⟨⟨q, u, hu, hfinished⟩, hrest⟩ := h
    obtain ⟨rfl, rfl⟩ := List.cons.inj hu
    have hread := pieces_string true hq hfinished ((spanString quote rest).2 ++ back)
    rw [← List.append_assoc, spanString_append, ih hrest (hlast hmeet)] at hread
    exact hread
  | char c rest hq hc ih =>
    have hboth : ¬ StartsComment (c :: (rest ++ back)) := by
      cases rest with
      | cons d rest => simpa [startsComment_cons] using hc
      | nil =>
        rw [startsComment_cons]
        rintro ⟨rfl, hb⟩
        refine hmeet hb ?_
        rw [pieces_char hq fun _ => hc]
        simp
    rw [pieces_char hq fun _ => hc] at h hmeet ⊢
    rw [List.forall_mem_cons] at h
    rw [List.cons_append, pieces_char hq fun _ => hboth, ih h.2 (hlast hmeet), List.cons_append]

end ComponentSplit
