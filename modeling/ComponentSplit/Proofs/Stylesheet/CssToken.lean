import ComponentSplit.Proofs.Stylesheet.Piece

/-!
The tokens of a stylesheet that must not be broken: comments, strings, and escapes of one character
outside them. Pieces know no such escapes, so a text is read alike as tokens and as pieces only
where no escape hides the start of a string or of a comment.
-/

namespace ComponentSplit

/-- A token with its own text; an escape is a backslash and the character behind it. -/
inductive CssToken
  | comment (text : List Char)
  | string (text : List Char)
  | escape (c : Char)
  | char (c : Char)
deriving DecidableEq, Repr

/-- The tokens of a text. A comment or a string without an end goes on to the end of the text, and
a backslash there escapes nothing. -/
def cssTokens (text : List Char) : List CssToken :=
  match text with
  | [] => []
  | ['\\'] => [.char '\\']
  | '\\' :: c :: rest => .escape c :: cssTokens rest
  | c :: rest =>
    if c = '/' ∧ rest.head? = some '*' then
      let comment := spanComment rest.tail
      .comment ('/' :: '*' :: comment.1) :: cssTokens comment.2
    else if IsQuote c then
      let string := spanString c rest
      .string (c :: string.1) :: cssTokens string.2
    else .char c :: cssTokens rest
termination_by text.length
decreasing_by
  · simp only [List.length_cons]
    omega
  · have h := spanComment_length rest.tail
    simp only [List.length_tail] at h
    simp only [List.length_cons]
    omega
  · have h := spanString_length c rest
    simp only [List.length_cons]
    omega
  · simp

namespace CssToken

def text : CssToken → List Char
  | comment text | string text => text
  | escape c => ['\\', c]
  | char c => [c]

def pieces : CssToken → List Piece
  | comment text => [.comment text]
  | string text => [.string text]
  | escape c => [.char '\\', .char c]
  | char c => [.char c]

/-- The token comes to its end. -/
def IsWhole : CssToken → Prop
  | comment text => ∃ tail, text = '/' :: '*' :: tail ∧ IsCommentTail tail
  | string text => ∃ quote tail, text = quote :: tail ∧ IsQuote quote ∧ IsStringTail quote tail
  | escape _ => True
  | char c => ¬ IsQuote c ∧ c ≠ '\\'

/-- The token can be read in front of this text. -/
def IsBefore (t : CssToken) (rest : List Char) : Prop :=
  t.IsWhole ∧ (t = char '/' → rest.head? ≠ some '*')

theorem IsWhole.text_ne_nil {t : CssToken} (h : t.IsWhole) : t.text ≠ [] := by
  cases t with
  | comment text =>
    obtain ⟨tail, rfl, -⟩ := h
    exact List.cons_ne_nil _ _
  | string text =>
    obtain ⟨quote, tail, rfl, -⟩ := h
    exact List.cons_ne_nil _ _
  | escape c => exact List.cons_ne_nil _ _
  | char c => exact List.cons_ne_nil _ _

end CssToken

@[simp]
theorem cssTokens_nil : cssTokens [] = [] := by
  rw [cssTokens]

@[simp]
theorem cssTokens_backslash : cssTokens ['\\'] = [.char '\\'] := by
  rw [cssTokens]

theorem cssTokens_escape (c : Char) (rest : List Char) :
    cssTokens ('\\' :: c :: rest) = .escape c :: cssTokens rest := by
  rw [cssTokens]

/-- What is read at a character that escapes nothing. -/
theorem cssTokens_cons {c : Char} (h : c ≠ '\\') (rest : List Char) :
    cssTokens (c :: rest) =
      if c = '/' ∧ rest.head? = some '*' then
        .comment ('/' :: '*' :: (spanComment rest.tail).1) :: cssTokens (spanComment rest.tail).2
      else if IsQuote c then
        .string (c :: (spanString c rest).1) :: cssTokens (spanString c rest).2
      else .char c :: cssTokens rest := by
  rw [cssTokens]
  · exact fun hc => absurd hc h
  · exact fun d tail hc => absurd hc h

theorem cssTokens_slash_star (tail : List Char) :
    cssTokens ('/' :: '*' :: tail) =
      .comment ('/' :: '*' :: (spanComment tail).1) :: cssTokens (spanComment tail).2 := by
  rw [cssTokens_cons (by decide), if_pos ⟨rfl, rfl⟩]
  rfl

theorem cssTokens_quote {quote : Char} (hq : IsQuote quote) (rest : List Char) :
    cssTokens (quote :: rest) =
      .string (quote :: (spanString quote rest).1) :: cssTokens (spanString quote rest).2 := by
  rw [cssTokens_cons hq.ne_backslash, if_neg (fun h => hq.ne_slash h.1), if_pos hq]

theorem cssTokens_char {c : Char} {rest : List Char} (hq : ¬ IsQuote c) (hb : c ≠ '\\')
    (hc : ¬ StartsComment (c :: rest)) : cssTokens (c :: rest) = .char c :: cssTokens rest := by
  rw [startsComment_cons] at hc
  rw [cssTokens_cons hb, if_neg hc, if_neg hq]

theorem CssToken.IsBefore.not_startsComment {c : Char} {rest : List Char}
    (h : (CssToken.char c).IsBefore rest) : ¬ StartsComment (c :: rest) := by
  rw [startsComment_cons]
  rintro ⟨rfl, hrest⟩
  exact h.2 rfl hrest

theorem CssToken.IsBefore.cssTokens {t : CssToken} {rest : List Char} (h : t.IsBefore rest) :
    cssTokens (t.text ++ rest) = t :: cssTokens rest := by
  cases t with
  | comment text =>
    obtain ⟨tail, rfl, htail⟩ := h.1
    rw [CssToken.text, List.cons_append, List.cons_append, cssTokens_slash_star, htail.span]
  | string text =>
    obtain ⟨quote, tail, rfl, hq, htail⟩ := h.1
    rw [CssToken.text, List.cons_append, cssTokens_quote hq, htail.span hq]
  | escape c => exact cssTokens_escape c rest
  | char c => exact cssTokens_char h.1.1 h.1.2 h.not_startsComment

/-- A text is a token in front of a shorter text, or one last piece, which is no brace. -/
@[elab_as_elim]
theorem cssTokens_induction {P : List Char → Prop} (nil : P [])
    (last : ∀ p t, (∀ c, p = Piece.char c → c = '\\') → p.text = CssToken.text t →
      cssTokens p.text = [t] → pieces true p.text = [p] → P p.text)
    (cons : ∀ t rest, CssToken.IsBefore t rest → P rest → P (t.text ++ rest))
    (text : List Char) : P text := by
  fun_induction cssTokens text with
  | case1 => exact nil
  | case2 =>
    refine last (.char '\\') (.char '\\') (by simp) rfl cssTokens_backslash ?_
    rw [Piece.text, pieces_plainChar true '\\' (by decide) (by decide), pieces_nil]
  | case3 d rest ih => exact cons (.escape d) rest ⟨trivial, by simp⟩ ih
  | case4 c rest _ _ h comment ih =>
    obtain ⟨rfl, hrest⟩ := h
    obtain ⟨tail, rfl⟩ := List.head?_eq_some_iff.mp hrest
    have hwhole : (spanComment tail).1 ++ (spanComment tail).2 = tail := spanComment_append tail
    by_cases hend : (spanComment tail).2 = []
    · rw [hend, List.append_nil] at hwhole
      refine last (.comment ('/' :: '*' :: tail)) (.comment ('/' :: '*' :: tail)) (by simp) rfl ?_ ?_
      · rw [Piece.text, cssTokens_slash_star, hend, hwhole, cssTokens_nil]
      · rw [Piece.text, pieces_slash_star, hend, hwhole, pieces_nil]
    · have hread := cons (.comment ('/' :: '*' :: (spanComment tail).1)) (spanComment tail).2
        ⟨⟨_, rfl, isCommentTail_of_rest hend⟩, by simp⟩ ih
      rwa [CssToken.text, List.cons_append, List.cons_append, hwhole] at hread
  | case5 c rest _ _ hslash hq string ih =>
    have hwhole : (spanString c rest).1 ++ (spanString c rest).2 = rest := spanString_append c rest
    by_cases hend : (spanString c rest).2 = []
    · rw [hend, List.append_nil] at hwhole
      refine last (.string (c :: rest)) (.string (c :: rest)) (by simp) rfl ?_ ?_
      · rw [Piece.text, cssTokens_quote hq, hend, hwhole, cssTokens_nil]
      · rw [Piece.text, pieces_quote true hq, hend, hwhole, pieces_nil]
    · have hread := cons (.string (c :: (spanString c rest).1)) (spanString c rest).2
        ⟨⟨c, _, rfl, hq, isStringTail_of_rest hend⟩, by simp⟩ ih
      rwa [CssToken.text, List.cons_append, hwhole] at hread
  | case6 c rest hlast hescape hslash hq ih =>
    have hb : c ≠ '\\' := by
      rintro rfl
      cases rest with
      | nil => exact hlast rfl rfl
      | cons d rest => exact hescape d rest rfl rfl
    refine cons (.char c) rest ⟨⟨hq, hb⟩, fun hc hrest => hslash ⟨?_, hrest⟩⟩ ih
    exact CssToken.char.inj hc

/-- Escapes hide no start of a string or of a comment from the reading of pieces. -/
structure HidesNoStart (ts : List CssToken) : Prop where
  quote : ∀ c, IsQuote c → CssToken.escape c ∉ ts
  comment : ¬ [CssToken.escape '/', .char '*'] <:+: ts

theorem HidesNoStart.tail {t : CssToken} {ts : List CssToken} (h : HidesNoStart (t :: ts)) :
    HidesNoStart ts :=
  ⟨fun c hq hc => h.quote c hq (List.mem_cons_of_mem t hc),
    fun hboth => h.comment (hboth.trans (List.infix_cons (List.infix_refl ts)))⟩

/-- A token is read as its pieces. -/
theorem pieces_token {t : CssToken} {rest : List Char} (h : t.IsBefore rest)
    (hides : HidesNoStart (t :: cssTokens rest)) :
    pieces true (t.text ++ rest) = t.pieces ++ pieces true rest := by
  cases t with
  | comment text =>
    obtain ⟨tail, rfl, htail⟩ := h.1
    exact pieces_comment htail rest
  | string text =>
    obtain ⟨quote, tail, rfl, hq, htail⟩ := h.1
    exact pieces_string true hq htail rest
  | escape c =>
    have hq : ¬ IsQuote c := fun hq => hides.quote c hq List.mem_cons_self
    have hstart : ¬ StartsComment (c :: rest) := by
      rintro ⟨tail, htail⟩
      obtain ⟨rfl, rfl⟩ := List.cons.inj htail
      rw [cssTokens_char (by decide) (by decide) (not_startsComment_of_ne (by decide) tail)] at hides
      exact hides.comment ⟨[], cssTokens tail, rfl⟩
    rw [CssToken.text, List.cons_append, List.cons_append, List.nil_append,
      pieces_plainChar true '\\' (by decide) (by decide), pieces_char hq fun _ => hstart]
    rfl
  | char c => exact pieces_char h.1.1 fun _ => h.not_startsComment

end ComponentSplit
