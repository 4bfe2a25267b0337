import ComponentSplit.Markup.StartTag
import ComponentSplit.Pattern.Match

/-!
End tags, and the closing of raw text. The body of a raw-text element holds no markup. Its end is
looked for by a pattern that holds the name of the element, and what the pattern finds ends it when
it is an end tag of that very name.
-/

namespace ComponentSplit

/-- A character of the name in a well-formed end tag, after its first letter. -/
def isEndNameChar (c : Char) : Bool :=
  c.isAlphanum || c == '-' || c == '.' || c == ':' || c == '_'

/-- The lower-case name that the inside of an end tag consists of, white space around it apart. -/
def endTagName? (inside : List Char) : Option String :=
  match trimStart inside with
  | [] => none
  | c :: rest =>
    if c.isAlpha ∧ (trimStart (rest.dropWhile isEndNameChar)).isEmpty then
      some (String.ofList ((c :: rest.takeWhile isEndNameChar).map asciiLower))
    else none

/-- The raw text of an element that is open, with the pattern by which its end is looked for. -/
structure RawText where
  name : String
  closer : Pattern
deriving Repr

/-- Raw text opens with the name of its element, which its closer holds as a part of a written
pattern. Not every name can stand there. -/
def RawText.ofName (name : String) : Except MarkupFault RawText :=
  match Pattern.read ("</\\s*".toList ++ name.toList ++ "\\s*>".toList) with
  | .ok closer => .ok ⟨name, closer⟩
  | .error e => .error (.badCloser e)

/-- A look at a source: the source from where the look started, and whether it is the second. -/
structure Look where
  origin : List Char
  second : Bool := false
deriving DecidableEq, Repr

/-- What a look has seen before its remaining source, the nearest characters first. -/
def Look.before (look : Look) (source : List Char) : List Char :=
  (look.origin.take (look.origin.length - source.length)).reverse

/-- The remaining source of a look from the place on at which the raw text may end. -/
def RawText.find (raw : RawText) (look : Look) (source : List Char) : Option (List Char) :=
  raw.closer.find (look.before source) source

/-- The end tag that starts behind `</`, and the text after it; nothing while it can still go on.
Inside raw text every other end tag is text. -/
def readEndTag (raw : Option RawText) (text : List Char) : Option (Token × List Char) :=
  match cutAt '>' text with
  | none => none
  | some (inside, rest) =>
    let asText := (Token.text ('<' :: '/' :: inside ++ ['>']), rest)
    match endTagName? inside, raw with
    | some name, none => some (.endTag name, rest)
    | some name, some open' => if name = open'.name then some (.endTag name, rest) else some asText
    | none, some _ => some asText
    | none, none =>
      if inside.isEmpty then some (.skipped "</>".toList, rest)
      else if inside.head?.any Char.isAlpha then
        some (.endTag (String.ofList (lower (inside.takeWhile isTagNameChar))), rest)
      else some (.comment inside, rest)

theorem cutAt_suffix {c : Char} {text before after : List Char}
    (h : cutAt c text = some (before, after)) : after <:+ text :=
  ⟨before ++ [c], by rw [(cutAt_eq h).1]; simp⟩

theorem readEndTag_suffix {raw : Option RawText} {text rest : List Char} {token : Token}
    (h : readEndTag raw text = some (token, rest)) : rest <:+ text := by
  unfold readEndTag at h
  split at h
  · simp at h
  next inside after hc =>
    have hs := cutAt_suffix hc
    simp only at h
    split at h
    · cases h
      exact hs
    · split at h <;> cases h <;> exact hs
    · cases h
      exact hs
    · split at h
      · cases h
        exact hs
      · split at h <;> cases h <;> exact hs

theorem Pattern.findFrom_suffix {fuel place : Nat} {p : Pattern} {before text found : List Char}
    (h : p.findFrom fuel place before text = some found) : found <:+ text := by
  induction text generalizing place before with
  | nil =>
    rw [Pattern.findFrom] at h
    split at h <;> simp_all
  | cons c rest ih =>
    rw [Pattern.findFrom] at h
    split at h
    · cases h
      exact List.suffix_refl _
    · exact (ih h).trans (List.suffix_cons c rest)

theorem RawText.find_suffix {raw : RawText} {look : Look} {source found : List Char}
    (h : raw.find look source = some found) : found <:+ source :=
  Pattern.findFrom_suffix h

end ComponentSplit
