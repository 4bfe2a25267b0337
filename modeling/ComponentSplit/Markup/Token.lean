import ComponentSplit.Pattern.Reader
import ComponentSplit.Text.Lowercase
import ComponentSplit.Text.Quoted

namespace ComponentSplit

/-- An attribute of a tag: its name in lower case and, if one is given, its value. -/
structure Attribute where
  name : String
  value : Option String
deriving DecidableEq, Repr

/-- A piece of markup. Names are in lower case. -/
inductive Token
  | text (content : List Char)
  | comment (content : List Char)
  | declaration (content : List Char)
  | instruction (content : List Char)
  | skipped (content : List Char)
  | startTag (name : String) (attrs : List Attribute)
  | selfClosing (name : String) (attrs : List Attribute)
  | endTag (name : String)
deriving DecidableEq, Repr

/-- Why markup cannot be read on. The first two show the text at which a declaration in brackets
has no name or a name that is not known. -/
inductive MarkupFault
  | namelessSection (shown : List Char)
  | unknownSection (shown : List Char)
  | badCloser (error : PatternError)
  | strayCloser
  | longReference (count : Nat)
deriving DecidableEq, Repr

def MarkupFault.message : MarkupFault → String
  | namelessSection shown => s!"expected name token at {quoted (String.ofList shown)}"
  | unknownSection shown =>
    s!"unknown status keyword {quoted (String.ofList shown)} in marked section"
  | badCloser error => error.message
  | strayCloser => "interesting.search() lied"
  | longReference count => longNumberMessage count

/-- The text before the first place at which a character stands, and the text after it. -/
def cutAt (c : Char) : List Char → Option (List Char × List Char)
  | [] => none
  | d :: rest =>
    if d = c then some ([], rest)
    else
      match cutAt c rest with
      | some (before, after) => some (d :: before, after)
      | none => none

/-- The text before the first place at which `closer` accepts, and the text it leaves there. -/
def cutWhere (closer : List Char → Option (List Char)) (text : List Char) :
    Option (List Char × List Char) :=
  match closer text with
  | some rest => some ([], rest)
  | none =>
    match text with
    | [] => none
    | d :: rest =>
      match cutWhere closer rest with
      | some (before, after) => some (d :: before, after)
      | none => none

theorem cutAt_eq {c : Char} {text before after : List Char}
    (h : cutAt c text = some (before, after)) : text = before ++ c :: after ∧ c ∉ before := by
  induction text generalizing before with
  | nil => simp [cutAt] at h
  | cons d rest ih =>
    rw [cutAt] at h
    split at h
    next hd =>
      cases h
      simp [hd]
    next hd =>
      split at h
      next b a hr =>
        cases h
        obtain ⟨hrest, hb⟩ := ih hr
        exact ⟨by simp [hrest], by simp [hb, Ne.symm hd]⟩
      next => simp at h

theorem cutWhere_suffix {closer : List Char → Option (List Char)}
    (hc : ∀ t r, closer t = some r → r <:+ t) {text before after : List Char}
    (h : cutWhere closer text = some (before, after)) : after <:+ text := by
  induction text generalizing before with
  | nil =>
    rw [cutWhere] at h
    split at h
    next r hr =>
      cases h
      exact hc _ _ hr
    next => simp at h
  | cons d rest ih =>
    rw [cutWhere] at h
    split at h
    next r hr =>
      cases h
      exact hc _ _ hr
    next =>
      split at h
      next b a hr =>
        cases h
        exact (ih hr).trans (List.suffix_cons d rest)
      next => simp at h

end ComponentSplit
