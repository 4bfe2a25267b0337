import ComponentSplit.Markup.Reference
import ComponentSplit.Markup.Token
import ComponentSplit.Text.Blank

namespace ComponentSplit

/-- A character of a tag name after its first letter. -/
def isTagNameChar (c : Char) : Bool :=
  c != '\t' && c != '\n' && c != '\r' && c != '\x0c' && c != ' ' && c != '/' && c != '>' &&
    c != '\x00'

/-- A character that can start the name of an attribute. -/
def isNameStart (c : Char) : Bool := !isBlank c && c != '/' && c != '>'

/-- A character of the name of an attribute after the first. -/
def isNameRest (c : Char) : Bool := isNameStart c && c != '='

def isBareChar (c : Char) : Bool := !isBlank c && c != '>'

def isQuote (c : Char) : Bool := c == '"' || c == '\''

/-- The gap in front of an attribute: white space, and slashes other than the one that closes a
tag. The flag says whether an attribute can start behind the gap; in front of it, it says whether
one could start there already. -/
def dropGap (edge : Bool) : List Char → Bool × List Char
  | [] => (edge, [])
  | c :: rest =>
    if isBlank c then dropGap true rest
    else if c = '/' ∧ rest.head? ≠ some '>' then dropGap true rest
    else (edge, c :: rest)

/-- A name ends with a quote or with white space, behind which an attribute can start. -/
def endsWithEdge (name : List Char) : Bool := name.getLast?.any fun c => isQuote c || isBlank c

/-- An attribute as it is written: references in its value are not yet replaced. -/
structure WrittenAttribute where
  name : String
  value : Option (List Char)
deriving DecidableEq, Repr

def WrittenAttribute.read (a : WrittenAttribute) : Attribute :=
  ⟨a.name, a.value.map fun value => String.ofList (unescape value)⟩

/-- The value behind a name, without its quotes, and the text after it. A quote that is never
closed makes the value empty after a blank, part of a value without quotes after two equals signs,
and no value at all after one. -/
def attributeValue? (text : List Char) : Option (List Char × List Char) :=
  match trimStart text with
  | '=' :: signs =>
    let behind := signs.dropWhile (· == '=')
    let start := trimStart behind
    let bare := (start.takeWhile isBareChar, start.dropWhile isBareChar)
    match start with
    | [] => some bare
    | quote :: body =>
      if isQuote quote then
        match cutAt quote body with
        | some found => some found
        | none =>
          if start.length < behind.length then some ([], start)
          else if behind.length < signs.length then some ('=' :: bare.1, bare.2)
          else none
      else some bare
  | _ => none

/-- The attribute that starts a text, if one can start there, and what is behind it and its gap,
with the flag for the next one. Behind a value there is an edge, or else the tag ends. -/
def attribute? (edge : Bool) (text : List Char) :
    Option (WrittenAttribute × Bool × List Char) :=
  match text with
  | [] => none
  | c :: rest =>
    if edge && isNameStart c then
      let name := c :: rest.takeWhile isNameRest
      let afterName := rest.dropWhile isNameRest
      let shown := String.ofList (lower name)
      match attributeValue? afterName with
      | some (value, after) => some (⟨shown, some value⟩, dropGap true after)
      | none => some (⟨shown, none⟩, dropGap (endsWithEdge name) afterName)
    else none

theorem dropGap_suffix (edge : Bool) (text : List Char) : (dropGap edge text).2 <:+ text := by
  induction text generalizing edge with
  | nil => exact List.suffix_refl _
  | cons c rest ih =>
    rw [dropGap]
    split
    · exact (ih true).trans (List.suffix_cons c rest)
    · split
      · exact (ih true).trans (List.suffix_cons c rest)
      · exact List.suffix_refl _

theorem attributeValue?_suffix {text value after : List Char}
    (h : attributeValue? text = some (value, after)) : after <:+ text := by
  unfold attributeValue? at h
  split at h
  next signs hs =>
    have hstart : trimStart (signs.dropWhile (· == '=')) <:+ text :=
      ((trimStart_suffix _).trans (List.dropWhile_suffix _)).trans
        ((List.suffix_cons '=' signs).trans (hs ▸ trimStart_suffix text))
    have hbare : (trimStart (signs.dropWhile (· == '='))).dropWhile isBareChar <:+ text :=
      (List.dropWhile_suffix _).trans hstart
    simp only at h
    split at h
    next =>
      cases h
      exact hbare
    next quote body hb =>
      split at h
      · split at h
        next found hf =>
          cases h
          have hcut := (cutAt_eq hf).1
          refine List.IsSuffix.trans ⟨quote :: value ++ [quote], ?_⟩ hstart
          rw [hb, hcut]
          simp
        next =>
          split at h
          · cases h
            exact hstart
          · split at h
            · cases h
              exact hbare
            · simp at h
      · cases h
        exact hbare
  next => simp at h

theorem attribute?_suffix {edge next : Bool} {c : Char} {text rest : List Char} {a : WrittenAttribute}
    (h : attribute? edge (c :: text) = some (a, next, rest)) : rest <:+ text := by
  unfold attribute? at h
  simp only at h
  split at h
  · split at h
    next value after hv =>
      obtain ⟨-, hd⟩ := Prod.mk.inj (Option.some.inj h)
      have hs := dropGap_suffix true after
      rw [hd] at hs
      exact hs.trans ((attributeValue?_suffix hv).trans (List.dropWhile_suffix _))
    next =>
      obtain ⟨-, hd⟩ := Prod.mk.inj (Option.some.inj h)
      have hs := dropGap_suffix (endsWithEdge (c :: text.takeWhile isNameRest))
        (text.dropWhile isNameRest)
      rw [hd] at hs
      exact hs.trans (List.dropWhile_suffix _)
  · simp at h

theorem attribute?_length {edge next : Bool} {text rest : List Char} {a : WrittenAttribute}
    (h : attribute? edge text = some (a, next, rest)) : rest.length < text.length := by
  cases text with
  | nil => simp [attribute?] at h
  | cons c text =>
    have hs := (attribute?_suffix h).length_le
    simp only [List.length_cons]
    omega

/-- The attributes that start a text, and the text after them. -/
def attributes (edge : Bool) (text : List Char) : List WrittenAttribute × List Char :=
  match h : attribute? edge text with
  | none => ([], text)
  | some (a, next, rest) =>
    have := attribute?_length h
    let (others, after) := attributes next rest
    (a :: others, after)
termination_by text.length

/-- The attributes and what follows them, behind the name of a tag. -/
def tagAttributes (name text : List Char) : List WrittenAttribute × List Char :=
  let (edge, start) := dropGap (endsWithEdge name) text
  attributes edge start

/-- The start tag whose name starts the text, and the text after it; nothing while the tag can
still go on. What cannot belong to a tag turns all before it into text. -/
def readStartTag (text : List Char) : Except MarkupFault (Option (Token × List Char)) :=
  let name := text.takeWhile isTagNameChar
  let shown := String.ofList (lower name)
  let (written, close) := tagAttributes name (text.dropWhile isTagNameChar)
  let attrs := written.map WrittenAttribute.read
  let tag? : Option (Token × List Char) :=
    match close with
    | [] => none
    | '>' :: rest => some (.startTag shown attrs, rest)
    | '/' :: '>' :: rest => some (.selfClosing shown attrs, rest)
    | c :: _ =>
      if c.isAlpha || c == '=' || c == '/' then none
      else some (.text ('<' :: text.take (text.length - close.length)), close)
  match tag?, written.findSome? fun a => a.value.bind longReference? with
  | some _, some count => .error (.longReference count)
  | tag, _ => .ok tag

theorem attributes_suffix (edge : Bool) (text : List Char) :
    (attributes edge text).2 <:+ text := by
  fun_induction attributes edge text with
  | case1 edge text h => exact List.suffix_refl _
  | case2 edge text a next rest h _ others after hr ih =>
    rw [hr] at ih
    cases text with
    | nil => simp [attribute?] at h
    | cons c text =>
      exact (ih.trans (attribute?_suffix h)).trans (List.suffix_cons c text)

theorem tagAttributes_suffix (name text : List Char) : (tagAttributes name text).2 <:+ text :=
  (attributes_suffix _ _).trans (dropGap_suffix _ _)

theorem readStartTag_suffix {text rest : List Char} {token : Token}
    (h : readStartTag text = .ok (some (token, rest))) : rest <:+ text := by
  have hclose : (tagAttributes (text.takeWhile isTagNameChar) (text.dropWhile isTagNameChar)).2 <:+
      text := (tagAttributes_suffix _ _).trans (List.dropWhile_suffix _)
  unfold readStartTag at h
  simp only at h
  split at h
  · simp at h
  · have h := Except.ok.inj h
    split at h
    · simp at h
    next hc =>
      cases h
      rw [hc] at hclose
      exact (List.suffix_cons _ _).trans hclose
    next hc =>
      cases h
      rw [hc] at hclose
      exact ((List.suffix_cons _ _).trans (List.suffix_cons _ _)).trans hclose
    next hc =>
      split at h
      · simp at h
      · cases h
        exact hclose

end ComponentSplit
