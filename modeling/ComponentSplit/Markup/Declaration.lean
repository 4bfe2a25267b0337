import ComponentSplit.Markup.Token
import ComponentSplit.Text.Blank

namespace ComponentSplit

/-- The text after two dashes, any white space and a greater-than sign. -/
def commentEnd? : List Char → Option (List Char)
  | '-' :: '-' :: rest =>
    match trimStart rest with
    | '>' :: after => some after
    | _ => none
  | _ => none

/-- The text after a closing bracket, any white space and a greater-than sign. -/
def bracketEnd? : List Char → Option (List Char)
  | ']' :: rest =>
    match trimStart rest with
    | '>' :: after => some after
    | _ => none
  | _ => none

/-- The text after two closing brackets and a greater-than sign, with any white space between. -/
def doubleBracketEnd? : List Char → Option (List Char)
  | ']' :: rest => bracketEnd? (trimStart rest)
  | _ => none

/-- A character of the name of a section in brackets, after its first letter. -/
def isSectionNameChar (c : Char) : Bool := c.isAlphanum || c == '-' || c == '_' || c == '.'

def readBracketed (text : List Char) : Except MarkupFault (Option (Token × List Char)) :=
  let close (closer : List Char → Option (List Char)) : Option (Token × List Char) :=
    (cutWhere closer text).map fun (content, rest) => (.declaration content, rest)
  match text with
  | [] => .ok none
  | c :: rest =>
    if c.isAlpha then
      let name := c :: rest.takeWhile isSectionNameChar
      let after := rest.dropWhile isSectionNameChar
      if (trimStart after).isEmpty then .ok none
      else
        let key := String.ofList (name.map asciiLower)
        if ["temp", "cdata", "ignore", "include", "rcdata"].contains key then
          .ok (close doubleBracketEnd?)
        else if ["if", "else", "endif"].contains key then .ok (close bracketEnd?)
        else .error (.unknownSection (name ++ after.takeWhile isBlank))
    else .error (.namelessSection (("<![".toList ++ text).take 20))

/-- The declaration that starts behind `<!`, with the text after it; nothing while it can still go
on. -/
def readDeclaration (text : List Char) : Except MarkupFault (Option (Token × List Char)) :=
  match text with
  | '-' :: '-' :: rest =>
    .ok ((cutWhere commentEnd? rest).map fun (content, after) => (.comment content, after))
  | '[' :: rest => readBracketed rest
  | _ =>
    if (text.take 7).map asciiLower = "doctype".toList then
      .ok ((cutAt '>' (text.drop 7)).map fun (content, after) =>
        (.declaration (text.take 7 ++ content), after))
    else .ok ((cutAt '>' text).map fun (content, after) => (.comment content, after))

theorem commentEnd?_suffix (text after : List Char) (h : commentEnd? text = some after) :
    after <:+ text := by
  unfold commentEnd? at h
  split at h
  next rest =>
    split at h
    next a ht =>
      cases h
      have hr : after <:+ rest := (List.suffix_cons '>' after).trans (ht ▸ trimStart_suffix rest)
      exact (hr.trans (List.suffix_cons _ _)).trans (List.suffix_cons _ _)
    next => simp at h
  next => simp at h

theorem bracketEnd?_suffix (text after : List Char) (h : bracketEnd? text = some after) :
    after <:+ text := by
  unfold bracketEnd? at h
  split at h
  next rest =>
    split at h
    next a ht =>
      cases h
      have hr : after <:+ rest := (List.suffix_cons '>' after).trans (ht ▸ trimStart_suffix rest)
      exact hr.trans (List.suffix_cons _ _)
    next => simp at h
  next => simp at h

theorem doubleBracketEnd?_suffix (text after : List Char) (h : doubleBracketEnd? text = some after) :
    after <:+ text := by
  unfold doubleBracketEnd? at h
  split at h
  next rest =>
    exact ((bracketEnd?_suffix _ _ h).trans (List.dropWhile_suffix _)).trans
      (List.suffix_cons _ _)
  next => simp at h

theorem readBracketed_suffix {text rest : List Char} {token : Token}
    (h : readBracketed text = .ok (some (token, rest))) : rest <:+ text := by
  have hclose : ∀ closer, (∀ t r, closer t = some r → r <:+ t) →
      ((cutWhere closer text).map fun (content, rest) => (Token.declaration content, rest)) =
        some (token, rest) → rest <:+ text := by
    intro closer hc hm
    obtain ⟨⟨content, after⟩, hcut, heq⟩ := Option.map_eq_some_iff.mp hm
    cases heq
    exact cutWhere_suffix hc hcut
  unfold readBracketed at h
  simp only at h
  split at h
  · simp at h
  · split at h
    · split at h
      · simp at h
      · split at h
        · exact hclose _ doubleBracketEnd?_suffix (Except.ok.inj h)
        · split at h
          · exact hclose _ bracketEnd?_suffix (Except.ok.inj h)
          · simp at h
    · simp at h

theorem readDeclaration_suffix {text rest : List Char} {token : Token}
    (h : readDeclaration text = .ok (some (token, rest))) : rest <:+ text := by
  unfold readDeclaration at h
  split at h
  next after =>
    obtain ⟨⟨content, r⟩, hcut, heq⟩ := Option.map_eq_some_iff.mp (Except.ok.inj h)
    cases heq
    exact ((cutWhere_suffix commentEnd?_suffix hcut).trans (List.suffix_cons _ _)).trans
      (List.suffix_cons _ _)
  next after => exact (readBracketed_suffix h).trans (List.suffix_cons _ _)
  next =>
    split at h
    · obtain ⟨⟨content, r⟩, hcut, heq⟩ := Option.map_eq_some_iff.mp (Except.ok.inj h)
      cases heq
      refine List.IsSuffix.trans ⟨content ++ ['>'], ?_⟩ (List.drop_suffix 7 text)
      rw [(cutAt_eq hcut).1]
      simp
    · obtain ⟨⟨content, r⟩, hcut, heq⟩ := Option.map_eq_some_iff.mp (Except.ok.inj h)
      cases heq
      refine ⟨content ++ ['>'], ?_⟩
      rw [(cutAt_eq hcut).1]
      simp

end ComponentSplit
