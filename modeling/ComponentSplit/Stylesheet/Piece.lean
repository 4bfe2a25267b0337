import ComponentSplit.Text.Marked

namespace ComponentSplit

/-- A unit of a stylesheet with its own text. -/
inductive Piece
  | comment (text : List Char)
  | string (text : List Char)
  | char (c : Char)
deriving DecidableEq, Repr

def Piece.text : Piece → List Char
  | comment text | string text => text
  | char c => [c]

/-- A string up to its closing quote, after the opening one, and the text behind it. A backslash
takes the next character with it. -/
def spanString (quote : Char) : List Char → List Char × List Char
  | [] => ([], [])
  | ['\\'] => (['\\'], [])
  | '\\' :: c :: rest =>
    let (string, after) := spanString quote rest
    ('\\' :: c :: string, after)
  | c :: rest =>
    if c = quote then ([c], rest)
    else
      let (string, after) := spanString quote rest
      (c :: string, after)

/-- A comment up to its end, after its first two characters, and the text behind it. -/
def spanComment : List Char → List Char × List Char
  | [] => ([], [])
  | '*' :: '/' :: rest => (['*', '/'], rest)
  | c :: rest =>
    let (comment, after) := spanComment rest
    (c :: comment, after)

theorem spanString_append (quote : Char) (text : List Char) :
    (spanString quote text).1 ++ (spanString quote text).2 = text := by
  fun_induction spanString quote text <;> simp_all

theorem spanComment_append (text : List Char) :
    (spanComment text).1 ++ (spanComment text).2 = text := by
  fun_induction spanComment text <;> simp_all

theorem spanString_length (quote : Char) (text : List Char) :
    (spanString quote text).2.length ≤ text.length := by
  have h := congrArg List.length (spanString_append quote text)
  rw [List.length_append] at h
  omega

theorem spanComment_length (text : List Char) :
    (spanComment text).2.length ≤ text.length := by
  have h := congrArg List.length (spanComment_append text)
  rw [List.length_append] at h
  omega

/-- The pieces of a text in which comments count only if `comments` says so. -/
def pieces (comments : Bool) (text : List Char) : List Piece :=
  match text with
  | [] => []
  | c :: rest =>
    if comments && c == '/' && rest.head? == some '*' then
      let comment := spanComment rest.tail
      .comment ('/' :: '*' :: comment.1) :: pieces comments comment.2
    else if c == '"' || c == '\'' then
      let string := spanString c rest
      .string (c :: string.1) :: pieces comments string.2
    else .char c :: pieces comments rest
termination_by text.length
decreasing_by
  · have h := spanComment_length rest.tail
    simp only [List.length_tail] at h
    simp only [List.length_cons]
    omega
  · have h := spanString_length c rest
    simp only [List.length_cons]
    omega
  · simp

theorem pieces_text (comments : Bool) (text : List Char) :
    (pieces comments text).flatMap Piece.text = text := by
  fun_induction pieces comments text with
  | case1 => rfl
  | case2 c rest h comment ih =>
    obtain ⟨⟨_, hc⟩, hr⟩ : (comments = true ∧ c = '/') ∧ rest.head? = some '*' := by
      simpa using h
    obtain ⟨tail, rfl⟩ : ∃ tail, rest = '*' :: tail := by
      cases rest with
      | nil => simp at hr
      | cons d tail => exact ⟨tail, by simpa using hr⟩
    rw [List.flatMap_cons, ih, hc]
    simpa [Piece.text, comment] using spanComment_append tail
  | case3 c rest _ h string ih =>
    rw [List.flatMap_cons, ih]
    simpa [Piece.text, string] using spanString_append c rest
  | case4 c rest _ _ ih => simp [Piece.text, ih]

end ComponentSplit
