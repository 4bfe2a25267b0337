import ComponentSplit.Proofs.Markup.WrittenTag

namespace ComponentSplit

/-- White space behind which the name of a tag does not go on. -/
def IsTagBlank (c : Char) : Prop := c = ' ' ∨ c = '\t' ∨ c = '\n' ∨ c = '\r' ∨ c = '\x0c'

instance (c : Char) : Decidable (IsTagBlank c) := inferInstanceAs (Decidable (_ ∨ _))

theorem IsTagBlank.isBlank {c : Char} (h : IsTagBlank c) : ComponentSplit.isBlank c = true := by
  rcases h with rfl | rfl | rfl | rfl | rfl
  all_goals rfl

/-- A character behind which neither a name of a tag nor one of an attribute goes on. -/
def StopsNames (c : Char) : Prop := IsTagBlank c ∨ c = '>' ∨ c = '/'

theorem StopsNames.names {c : Char} (h : StopsNames c) :
    isTagNameChar c = false ∧ isNameRest c = false := by
  rcases h with (rfl | rfl | rfl | rfl | rfl) | rfl | rfl
  all_goals exact ⟨rfl, rfl⟩

/-- An attribute in its plain form behind some white space. -/
structure SpacedAttribute where
  gap : List Char
  plain : PlainAttribute
  gap_ne_nil : gap ≠ []
  gap_blank : ∀ c ∈ gap, IsTagBlank c

namespace SpacedAttribute

def text (s : SpacedAttribute) : List Char := s.gap ++ s.plain.text.tail

def written (s : SpacedAttribute) : WrittenAttribute := s.plain.written

def read (s : SpacedAttribute) : Attribute := s.plain.read

theorem isBlank_gap (s : SpacedAttribute) : ∀ c ∈ s.gap, isBlank c = true :=
  fun c hc => (s.gap_blank c hc).isBlank

end SpacedAttribute

theorem EndsTag.exists_cons {close : List Char} (h : EndsTag close) :
    ∃ c rest, close = c :: rest ∧ StopsNames c ∧ isBlank c = false ∧ c ≠ '=' := by
  cases h with
  | sign rest => exact ⟨_, _, rfl, .inr (.inl rfl), rfl, by decide⟩
  | slash rest => exact ⟨_, _, rfl, .inr (.inr rfl), rfl, by decide⟩

theorem PlainAttribute.tail_text (a : PlainAttribute) : ∃ c rest, a.text.tail = c :: rest ∧
    isBlank c = false ∧ c ≠ '/' ∧ c ≠ '=' := by
  obtain ⟨c, name, hname, hblank, hslash, -, hequals⟩ := a.exists_name
  exact ⟨c, a.text.tail.tail, by simp [PlainAttribute.text, hname], hblank, hslash, hequals⟩

theorem dropGap_blanks {gap : List Char} (hne : gap ≠ []) (hb : ∀ c ∈ gap, isBlank c = true)
    {c : Char} {rest : List Char} (hc : isBlank c = false) (hslash : c ≠ '/') (edge : Bool) :
    dropGap edge (gap ++ c :: rest) = (true, c :: rest) := by
  induction gap generalizing edge with
  | nil => exact absurd rfl hne
  | cons d gap ih =>
    rw [List.forall_mem_cons] at hb
    rw [List.cons_append, dropGap, if_pos hb.1]
    cases gap with
    | nil => simp [dropGap, hc, hslash]
    | cons e gap => exact ih (List.cons_ne_nil _ _) hb.2 true

theorem EndsTag.dropGap_trail {close trail : List Char} (h : EndsTag close)
    (hb : ∀ c ∈ trail, isBlank c = true) (edge : Bool) :
    (ComponentSplit.dropGap edge (trail ++ close)).2 = close := by
  induction trail generalizing edge with
  | nil => rw [List.nil_append, h.dropGap]
  | cons c trail ih =>
    rw [List.forall_mem_cons] at hb
    rw [List.cons_append, ComponentSplit.dropGap, if_pos hb.1, ih hb.2]

/-- What stands behind the name of an attribute stops it and gives it no value. -/
structure IsBehindName (tail : List Char) : Prop where
  stops : ∃ c rest, tail = c :: rest ∧ StopsNames c
  no_value : attributeValue? tail = none

theorem attributeValue?_of_head {tail : List Char} (h : (trimStart tail).head? ≠ some '=') :
    attributeValue? tail = none := by
  unfold attributeValue?
  split
  next hs => simp [hs] at h
  · rfl

theorem PlainAttribute.attribute?_tail (a : PlainAttribute) {tail : List Char}
    (h : IsBehindName tail) : ∃ edge,
      attribute? true (a.text.tail ++ tail) = some (a.written, dropGap edge tail) := by
  obtain ⟨c, name, hname⟩ := List.exists_cons_of_ne_nil a.name_ne_nil
  have hall : ∀ d ∈ c :: name, isNameRest d = true := fun d hd => a.name_chars d (hname ▸ hd)
  cases hv : a.value with
  | none =>
    obtain ⟨d, rest, htail, hd⟩ := h.stops
    have hhead : ∀ e ∈ tail.head?, isNameRest e = false := by
      rw [htail]
      rintro e ⟨⟩
      exact hd.names.2
    have hread := attribute?_of_no_value hall hhead h.no_value
    exact ⟨endsWithEdge (c :: name), by simpa [text, written, hv, hname] using hread⟩
  | some v =>
    have hhead : ∀ e ∈ ('=' :: '"' :: (v ++ '"' :: tail)).head?, isNameRest e = false := by
      rintro e ⟨⟩
      rfl
    have hread := attribute?_of_value hall hhead (attributeValue?_quoted (a.value_chars v hv))
    exact ⟨true, by simpa [text, written, hv, hname] using hread⟩

section Reading

variable {trail close : List Char}

theorem isBehindName_attributes (ht : ∀ c ∈ trail, IsTagBlank c) (h : EndsTag close)
    (attrs : List SpacedAttribute) :
    IsBehindName (attrs.flatMap SpacedAttribute.text ++ (trail ++ close)) := by
  have hblank : ∀ c ∈ trail, isBlank c = true := fun c hc => (ht c hc).isBlank
  cases attrs with
  | nil =>
    obtain ⟨d, rest, hclose, hstop, hd, hequals⟩ := h.exists_cons
    constructor
    · cases trail with
      | nil => exact ⟨d, rest, hclose, hstop⟩
      | cons c trail => exact ⟨c, _, rfl, .inl (ht c List.mem_cons_self)⟩
    · apply attributeValue?_of_head
      rw [List.flatMap_nil, List.nil_append, trimStart_append hblank, hclose,
        trimStart_of_head (by simpa using hd)]
      simpa using hequals
  | cons s attrs =>
    obtain ⟨g, gap, hgap⟩ := List.exists_cons_of_ne_nil s.gap_ne_nil
    obtain ⟨d, rest, htail, hd, -, hequals⟩ := s.plain.tail_text
    constructor
    · exact ⟨g, _, by rw [List.flatMap_cons, SpacedAttribute.text, hgap]; rfl,
        .inl (s.gap_blank g (by simp [hgap]))⟩
    · apply attributeValue?_of_head
      rw [List.flatMap_cons, SpacedAttribute.text, List.append_assoc, List.append_assoc,
        trimStart_append s.isBlank_gap, htail, List.cons_append,
        trimStart_of_head (by simpa using hd)]
      simpa using hequals

/-- Reading takes every attribute, with whatever white space around it. -/
theorem attributes_spaced (ht : ∀ c ∈ trail, IsTagBlank c) (h : EndsTag close)
    (attrs : List SpacedAttribute) (edge : Bool) :
    attributes (dropGap edge (attrs.flatMap SpacedAttribute.text ++ (trail ++ close))).1
      (dropGap edge (attrs.flatMap SpacedAttribute.text ++ (trail ++ close))).2 =
        (attrs.map SpacedAttribute.written, close) := by
  induction attrs generalizing edge with
  | nil =>
    have hclose := h.dropGap_trail (fun c hc => (ht c hc).isBlank) edge
    rw [List.flatMap_nil, List.nil_append, hclose, h.attributes]
    rfl
  | cons s attrs ih =>
    obtain ⟨next, hread⟩ := s.plain.attribute?_tail (isBehindName_attributes ht h attrs)
    obtain ⟨d, rest, htail, hd, hslash, -⟩ := s.plain.tail_text
    have hgap : dropGap edge ((s :: attrs).flatMap SpacedAttribute.text ++ (trail ++ close)) =
        (true, s.plain.text.tail ++
          (attrs.flatMap SpacedAttribute.text ++ (trail ++ close))) := by
      rw [List.flatMap_cons, SpacedAttribute.text, List.append_assoc, List.append_assoc, htail,
        List.cons_append, dropGap_blanks s.gap_ne_nil s.isBlank_gap hd hslash]
    rw [hgap, attributes_of_some hread, ih]
    rfl

end Reading

/-- A tag without the signs that enclose it. -/
structure SpacedTag where
  name : List Char
  attrs : List SpacedAttribute
  trail : List Char := []
  isEndName : IsEndName name
  trail_blank : ∀ c ∈ trail, IsTagBlank c

namespace SpacedTag

variable (t : SpacedTag)

/-- What stands behind the name. -/
def more : List Char := t.attrs.flatMap SpacedAttribute.text ++ t.trail

def text : List Char := t.name ++ t.more

/-- The name as reading shows it. -/
def shown : String := String.ofList (lower t.name)

def values : List (List Char) := valueTexts (t.attrs.map SpacedAttribute.plain)

theorem tagAttributes_text {close : List Char} (h : EndsTag close) :
    (t.text ++ close).takeWhile isTagNameChar = t.name ∧
      tagAttributes t.name ((t.text ++ close).dropWhile isTagNameChar) =
        (t.attrs.map SpacedAttribute.written, close) := by
  have hchars : ∀ c ∈ t.name, isTagNameChar c = true := fun c hc =>
    isTagNameChar_of_isEndNameChar (t.isEndName.isEndNameChar c hc)
  have hhead : ∀ c ∈ (t.attrs.flatMap SpacedAttribute.text ++ (t.trail ++ close)).head?,
      isTagNameChar c = false := by
    obtain ⟨d, rest, htail, hd⟩ := (isBehindName_attributes t.trail_blank h t.attrs).stops
    rw [htail]
    rintro c ⟨⟩
    exact hd.names.1
  rw [text, more, List.append_assoc, List.append_assoc]
  constructor
  · exact takeWhile_append_stop hchars hhead
  · rw [dropWhile_append_stop hchars hhead]
    exact attributes_spaced t.trail_blank h t.attrs (endsWithEdge t.name)

theorem findSome?_written : (t.attrs.map SpacedAttribute.written).findSome?
    (fun a => a.value.bind longReference?) = firstLongReference? t.values := by
  have hwritten := ComponentSplit.findSome?_written (t.attrs.map SpacedAttribute.plain)
  rwa [List.map_map] at hwritten

theorem readMarkup_text (raw : Option RawText) (close : List Char) :
    readMarkup raw (t.text ++ close) = readStartTag (t.text ++ close) := by
  rw [text, List.append_assoc]
  exact readMarkup_name t.isEndName _

theorem readMarkup_startTag (raw : Option RawText) (rest : List Char) :
    readMarkup raw (t.text ++ '>' :: rest) =
      match firstLongReference? t.values with
      | some count => .error (.longReference count)
      | none => .ok (some (.startTag t.shown (t.attrs.map SpacedAttribute.read), rest)) := by
  obtain ⟨htake, htag⟩ := t.tagAttributes_text (.sign rest)
  rw [readMarkup_text]
  unfold readStartTag
  simp only [htake, htag, findSome?_written]
  cases firstLongReference? t.values with
  | none => simp [SpacedAttribute.read, PlainAttribute.read, SpacedAttribute.written, shown]
  | some count => rfl

theorem readMarkup_selfClosing (raw : Option RawText) (rest : List Char) :
    readMarkup raw (t.text ++ '/' :: '>' :: rest) =
      match firstLongReference? t.values with
      | some count => .error (.longReference count)
      | none => .ok (some (.selfClosing t.shown (t.attrs.map SpacedAttribute.read), rest)) := by
  obtain ⟨htake, htag⟩ := t.tagAttributes_text (.slash rest)
  rw [readMarkup_text]
  unfold readStartTag
  simp only [htake, htag, findSome?_written]
  cases firstLongReference? t.values with
  | none => simp [SpacedAttribute.read, PlainAttribute.read, SpacedAttribute.written, shown]
  | some count => rfl

end SpacedTag

section Plain

/-- The attribute behind one space. -/
def PlainAttribute.spaced (a : PlainAttribute) : SpacedAttribute :=
  ⟨[' '], a, List.cons_ne_nil _ _, List.forall_mem_singleton.mpr (.inl rfl)⟩

theorem PlainAttribute.text_spaced (a : PlainAttribute) : a.spaced.text = a.text := rfl

/-- A tag with one space in front of each of its attributes. -/
def SpacedTag.ofPlain (name : List Char) (attrs : List PlainAttribute) (h : IsEndName name) :
    SpacedTag :=
  ⟨name, attrs.map PlainAttribute.spaced, [], h, List.forall_mem_nil _⟩

variable {name : List Char} (hname : IsEndName name) (attrs : List PlainAttribute)

theorem SpacedTag.text_ofPlain :
    (SpacedTag.ofPlain name attrs hname).text = name ++ attributesText attrs := by
  simp [text, more, ofPlain, attributesText, List.flatMap_map, PlainAttribute.text_spaced]

theorem SpacedTag.values_ofPlain :
    (SpacedTag.ofPlain name attrs hname).values = valueTexts attrs := by
  simp [values, ofPlain, Function.comp_def, PlainAttribute.spaced]

theorem SpacedTag.read_ofPlain :
    (SpacedTag.ofPlain name attrs hname).attrs.map SpacedAttribute.read =
      attrs.map PlainAttribute.read := by
  simp [ofPlain, Function.comp_def, PlainAttribute.spaced, SpacedAttribute.read]

end Plain

theorem readMarkup_startTag (raw : Option RawText) {name : List Char} (hname : IsEndName name)
    (attrs : List PlainAttribute) (rest : List Char) :
    readMarkup raw (name ++ (attributesText attrs ++ '>' :: rest)) =
      match firstLongReference? (valueTexts attrs) with
      | some count => .error (.longReference count)
      | none => .ok (some (.startTag (String.ofList (lower name)) (attrs.map PlainAttribute.read),
          rest)) := by
  have hread := (SpacedTag.ofPlain name attrs hname).readMarkup_startTag raw rest
  rw [SpacedTag.text_ofPlain, SpacedTag.values_ofPlain, SpacedTag.read_ofPlain,
    List.append_assoc] at hread
  exact hread

theorem readMarkup_selfClosing (raw : Option RawText) {name : List Char} (hname : IsEndName name)
    (attrs : List PlainAttribute) (rest : List Char) :
    readMarkup raw (name ++ (attributesText attrs ++ '/' :: '>' :: rest)) =
      match firstLongReference? (valueTexts attrs) with
      | some count => .error (.longReference count)
      | none => .ok (some (.selfClosing (String.ofList (lower name))
          (attrs.map PlainAttribute.read), rest)) := by
  have hread := (SpacedTag.ofPlain name attrs hname).readMarkup_selfClosing raw rest
  rw [SpacedTag.text_ofPlain, SpacedTag.values_ofPlain, SpacedTag.read_ofPlain,
    List.append_assoc] at hread
  exact hread

end ComponentSplit
