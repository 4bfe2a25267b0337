import ComponentSplit.Text.Digits

/-!
Raw text whose end is given by a pattern may seem to end at an ampersand. Then a character
reference there is passed over, and what may still become one is waited for.
-/

namespace ComponentSplit

/-- What an ampersand at the end of a raw text comes to: reading goes on behind it, or it stops. -/
inductive AfterAmpersand
  | goOn (rest : List Char)
  | stop (rest : List Char)
deriving DecidableEq, Repr

/-- The text behind a number of characters and, if one follows them, a semicolon. -/
def behindReference (count : Nat) (text : List Char) : List Char :=
  match text.drop count with
  | ';' :: rest => rest
  | rest => rest

/-- The text behind a numeric reference; `tail` is what follows the ampersand and number sign. The
number has to be followed by something that is no hexadecimal digit. -/
def behindNumber? (tail : List Char) : Option (List Char) :=
  let hex := tail.head?.any fun c => c == 'x' || c == 'X'
  let digits := if hex then (tail.drop 1).takeWhile isHexDigit else tail.takeWhile Char.isDigit
  let count := digits.length + if hex then 1 else 0
  if digits.isEmpty || (tail.drop count).head?.all isHexDigit then none
  else some (behindReference count tail)

/-- A character of the name of a reference in raw text. -/
def isRawNameChar (c : Char) : Bool := c.isAlphanum || c == '-' || c == '.'

/-- The text behind a reference by name; `tail` is what follows the ampersand. A name that reaches
the end of the text is cut short before its last hyphen or full stop. -/
def behindName? (tail : List Char) : Option (List Char) :=
  if tail.head?.any Char.isAlpha then
    let name := tail.takeWhile isRawNameChar
    if name.length < tail.length then some (behindReference name.length tail)
    else
      let cut := (name.reverse.dropWhile Char.isAlphanum).drop 1
      if cut.isEmpty then none else some (tail.drop cut.length)
  else none

def afterAmpersand (tail : List Char) : AfterAmpersand :=
  match tail with
  | '#' :: more =>
    match behindNumber? more with
    | some rest => .goOn rest
    | none => .stop (if ';' ∈ more then more else '&' :: tail)
  | [] => .stop ['&']
  | c :: _ =>
    match behindName? tail with
    | some rest => .goOn rest
    | none => if c.isAlpha then .stop ('&' :: tail) else .goOn tail

theorem behindReference_suffix (count : Nat) (text : List Char) :
    behindReference count text <:+ text := by
  unfold behindReference
  split
  next rest h => exact (h ▸ List.suffix_cons ';' rest).trans (List.drop_suffix _ _)
  next => exact List.drop_suffix _ _

theorem behindNumber?_suffix {tail rest : List Char} (h : behindNumber? tail = some rest) :
    rest <:+ tail := by
  simp only [behindNumber?, Option.ite_none_left_eq_some, Option.some.injEq] at h
  exact h.2 ▸ behindReference_suffix _ _

theorem behindName?_suffix {tail rest : List Char} (h : behindName? tail = some rest) :
    rest <:+ tail := by
  unfold behindName? at h
  split at h
  · simp only at h
    split at h
    · exact Option.some.inj h ▸ behindReference_suffix _ _
    · split at h
      · simp at h
      · exact Option.some.inj h ▸ List.drop_suffix _ _
  · simp at h

theorem afterAmpersand_goOn_suffix {tail rest : List Char}
    (h : afterAmpersand tail = .goOn rest) : rest <:+ tail := by
  unfold afterAmpersand at h
  split at h
  next more =>
    split at h
    next r hr =>
      cases h
      exact (behindNumber?_suffix hr).trans (List.suffix_cons _ _)
    next => simp at h
  next => simp at h
  next =>
    split at h
    next r hr =>
      cases h
      exact behindName?_suffix hr
    next =>
      split at h
      · simp at h
      · cases h
        exact List.suffix_refl _

theorem afterAmpersand_stop_suffix {tail rest : List Char}
    (h : afterAmpersand tail = .stop rest) : rest <:+ '&' :: tail := by
  unfold afterAmpersand at h
  split at h
  next more =>
    split at h
    next => simp at h
    next =>
      cases h
      split
      · exact (List.suffix_cons _ _).trans (List.suffix_cons _ _)
      · exact List.suffix_refl _
  next =>
    cases h
    exact List.suffix_refl _
  next =>
    split at h
    next => simp at h
    next =>
      split at h
      · cases h
        exact List.suffix_refl _
      · simp at h

end ComponentSplit
