import ComponentSplit.Proofs.Markup.TokenRun
import ComponentSplit.Proofs.Section.RoundTrip
import ComponentSplit.Proofs.Section.TemplateBody
import ComponentSplit.Proofs.Template.Marks

/-!
Scoped templates read as markup. Scoping looks for less-than signs in front of letters, wherever
they stand; reading knows comments, values of attributes and raw text. Where none of these hides
such a sign, a scoped template has the tokens that the template has, with one more attribute on its
elements.
-/

namespace ComponentSplit

/-- Markup of a template. -/
inductive Markup
  | comment (content : List Char) (no_end : ¬ HasCommentEnd content)
  | startTag (tag : SpacedTag)
  | selfClosing (tag : SpacedTag)
  | endTag (name : String) (inside : List Char) (spells : SpellsName name inside)

namespace SpacedTag

/-- The tag with one more attribute in front of its own, unless its element takes none. -/
def withAttribute (t : SpacedTag) (a : PlainAttribute) : SpacedTag :=
  if unscopedElements.contains t.shown then t
  else { t with attrs := a.spaced :: t.attrs }

end SpacedTag

namespace Token

/-- The tag of an element with one more attribute in front of its own. -/
def withAttribute (a : Attribute) : Token → Token
  | startTag name attrs =>
    startTag name (if unscopedElements.contains name then attrs else a :: attrs)
  | selfClosing name attrs =>
    selfClosing name (if unscopedElements.contains name then attrs else a :: attrs)
  | other => other

end Token

namespace Markup

/-- The markup behind its less-than sign. -/
def tail : Markup → List Char
  | comment content _ => '!' :: '-' :: '-' :: (content ++ ['-', '-', '>'])
  | startTag tag => tag.text ++ ['>']
  | selfClosing tag => tag.text ++ ['/', '>']
  | endTag _ inside _ => '/' :: (inside ++ ['>'])

def written (m : Markup) : List Char := '<' :: m.tail

def token : Markup → Token
  | comment content _ => .comment content
  | startTag tag => .startTag tag.shown (tag.attrs.map SpacedAttribute.read)
  | selfClosing tag => .selfClosing tag.shown (tag.attrs.map SpacedAttribute.read)
  | endTag name _ _ => .endTag name

/-- The values in the markup, in which references are looked at. -/
def values : Markup → List (List Char)
  | startTag tag => tag.values
  | selfClosing tag => tag.values
  | _ => []

/-- The element whose raw text the markup opens. -/
def opens : Markup → Option String
  | startTag tag => if tag.shown = "script" ∨ tag.shown = "style" then some tag.shown else none
  | _ => none

/-- What stands in the markup where no name of an element belongs. -/
def hidden : Markup → List Char
  | comment content no_end => written (comment content no_end)
  | startTag tag => tag.more ++ ['>']
  | selfClosing tag => tag.more ++ ['/', '>']
  | endTag _ _ _ => []

def withAttribute (a : PlainAttribute) : Markup → Markup
  | startTag tag => startTag (tag.withAttribute a)
  | selfClosing tag => selfClosing (tag.withAttribute a)
  | other => other

end Markup

/-- A part of the body of a template. -/
inductive BodyPart
  | text (content : List Char) (no_sign : '<' ∉ content)
  | markup (m : Markup)

def BodyPart.written : BodyPart → List Char
  | text content _ => content
  | markup m => m.written

def bodyText (parts : List BodyPart) : List Char := parts.flatMap BodyPart.written

/-- Scoping finds the names of elements where they are, and nowhere else. The state is the raw text
that is open, with what of it has been passed: in raw text nothing is an element, and nothing but
the end tag of a part ends it. -/
def IsFaithful : Option (String × List Char) → List BodyPart → Prop
  | none, [] => True
  | none, .text _ _ :: parts => IsFaithful none parts
  | none, .markup m :: parts =>
    none ∉ markTemplate m.hidden ∧ IsFaithful (m.opens.map fun name => (name, [])) parts
  | some (name, passed), [] => ¬ HasEndTag name passed
  | some (name, passed), .text content _ :: parts =>
    IsFaithful (some (name, passed ++ content)) parts
  | some (name, passed), .markup m :: parts =>
    if m.token = .endTag name then ¬ HasEndTag name passed ∧ IsFaithful none parts
    else none ∉ markTemplate m.written ∧ IsFaithful (some (name, passed ++ m.written)) parts

namespace SpacedTag

variable (t : SpacedTag) (a : PlainAttribute)

theorem shown_withAttribute : (t.withAttribute a).shown = t.shown := by
  unfold withAttribute
  split
  · rfl
  · rfl

theorem read_withAttribute : (t.withAttribute a).attrs.map SpacedAttribute.read =
    if unscopedElements.contains t.shown then t.attrs.map SpacedAttribute.read
    else a.read :: t.attrs.map SpacedAttribute.read := by
  unfold withAttribute
  split
  · rfl
  · rfl

theorem values_withAttribute (h : a.value = none) : (t.withAttribute a).values = t.values := by
  unfold withAttribute
  split
  · rfl
  · simp [values, valueTexts, PlainAttribute.spaced, h]

theorem shown_eq : t.shown = String.ofList (t.name.map asciiLower) := by
  rw [shown, t.isEndName.lower]

/-- Scoping a tag marks its name and what is behind the name. -/
theorem markTemplate_text {close : List Char} (h : EndsTag close) :
    markTemplate ('<' :: (t.text ++ close)) = MarkedText.plain ('<' :: t.name) ++
      (nameMark t.name ++ markTemplate (t.more ++ close)) := by
  obtain ⟨c, rest, hname, hc, hrest⟩ := t.isEndName
  obtain ⟨d, later, hlater, hd⟩ := (isBehindName_attributes t.trail_blank h t.attrs).stops
  have hmore : t.more ++ close = d :: later := by rw [more, List.append_assoc, hlater]
  have hchars : ∀ e ∈ rest, isElementNameChar e = true := fun e he =>
    isElementNameChar_of_isEndNameChar (hrest e he)
  have hhead : ∀ e ∈ (d :: later).head?, isElementNameChar e = false := by
    rintro e ⟨⟩
    exact hd.isElementNameChar
  rw [text, List.append_assoc, hmore, hname, List.cons_append, markTemplate_name hc,
    takeWhile_append_stop hchars hhead, dropWhile_append_stop hchars hhead]

theorem text_withAttribute (h : a.value = none) : (t.withAttribute a).text =
    t.name ++ (MarkedText.fill (' ' :: a.name) (nameMark t.name) ++ t.more) := by
  unfold withAttribute nameMark
  rw [← shown_eq]
  split
  · rfl
  · simp [text, more, PlainAttribute.text_spaced, PlainAttribute.text, h, MarkedText.fill]

/-- Scoping gives a tag the attribute, when nothing behind its name looks like a tag. -/
theorem scopeTemplate_text {close : List Char} (h : EndsTag close) (ha : a.value = none)
    (hmore : none ∉ markTemplate (t.more ++ close)) :
    scopeTemplate ('<' :: (t.text ++ close)) a.name =
      '<' :: ((t.withAttribute a).text ++ close) := by
  rw [scopeTemplate, t.markTemplate_text h, MarkedText.fill_append, MarkedText.fill_append,
    MarkedText.fill_plain, ← scopeTemplate, scopeTemplate_of_no_mark hmore,
    t.text_withAttribute a ha]
  simp

end SpacedTag

namespace Markup

variable (m : Markup) {a : PlainAttribute}

theorem readMarkup_tail (rest : List Char) : readMarkup none (m.tail ++ rest) =
    match firstLongReference? m.values with
    | some count => .error (.longReference count)
    | none => .ok (some (m.token, rest)) := by
  cases m with
  | comment content no_end =>
    have htail : (comment content no_end).tail ++ rest =
        '!' :: '-' :: '-' :: (content ++ '-' :: '-' :: '>' :: rest) := by simp [tail]
    rw [htail]
    exact readMarkup_comment no_end rest
  | startTag tag =>
    rw [tail, List.append_assoc]
    exact tag.readMarkup_startTag none rest
  | selfClosing tag =>
    rw [tail, List.append_assoc]
    exact tag.readMarkup_selfClosing none rest
  | endTag name inside spells =>
    have htail : (endTag name inside spells).tail ++ rest = '/' :: (inside ++ '>' :: rest) := by
      simp [tail]
    rw [htail]
    exact readMarkup_endTag spells rest

theorem rawTextAfter_token : rawTextAfter none m.token = .ok (m.opens.map .ofChain) := by
  cases m with
  | comment content no_end => rfl
  | startTag tag =>
    have hclosable : IsClosable tag.shown := tag.isEndName.spellsName.isClosable
    rw [token, rawTextAfter_startTag hclosable, opens]
    split
    · rfl
    · rfl
  | selfClosing tag => rfl
  | endTag name inside spells => rfl

theorem token_withAttribute : (m.withAttribute a).token = m.token.withAttribute a.read := by
  cases m with
  | comment content no_end => rfl
  | startTag tag =>
    simp only [withAttribute, token, Token.withAttribute, tag.shown_withAttribute,
      tag.read_withAttribute]
  | selfClosing tag =>
    simp only [withAttribute, token, Token.withAttribute, tag.shown_withAttribute,
      tag.read_withAttribute]
  | endTag name inside spells => rfl

theorem values_withAttribute (h : a.value = none) : (m.withAttribute a).values = m.values := by
  cases m with
  | comment content no_end => rfl
  | startTag tag => exact tag.values_withAttribute a h
  | selfClosing tag => exact tag.values_withAttribute a h
  | endTag name inside spells => rfl

theorem opens_withAttribute : (m.withAttribute a).opens = m.opens := by
  cases m with
  | comment content no_end => rfl
  | startTag tag => simp only [withAttribute, opens, tag.shown_withAttribute]
  | selfClosing tag => rfl
  | endTag name inside spells => rfl

theorem exists_front : ∃ front, m.written = front ++ ['>'] := by
  cases m with
  | comment content no_end =>
    exact ⟨'<' :: '!' :: '-' :: '-' :: (content ++ ['-', '-']), by simp [written, tail]⟩
  | startTag tag => exact ⟨'<' :: tag.text, by simp [written, tail]⟩
  | selfClosing tag => exact ⟨'<' :: (tag.text ++ ['/']), by simp [written, tail]⟩
  | endTag name inside spells => exact ⟨'<' :: '/' :: inside, by simp [written, tail]⟩

/-- Markup is scoped on its own: behind it no name goes on. -/
theorem scopeTemplate_append (rest attr : List Char) : scopeTemplate (m.written ++ rest) attr =
    scopeTemplate m.written attr ++ scopeTemplate rest attr := by
  obtain ⟨front, hfront⟩ := m.exists_front
  have hstop : isElementNameChar '>' = false := StopsNames.isElementNameChar (.inr (.inl rfl))
  have hne : '>' ≠ '<' := by decide
  unfold scopeTemplate
  rw [hfront, List.append_assoc, List.singleton_append, markTemplate_append hstop,
    markTemplate_append hstop, markTemplate_char hne, markTemplate_char hne]
  simp [markTemplate, MarkedText.fill]

/-- Scoping gives markup the attribute, when nothing is hidden in it. -/
theorem scopeTemplate_written (ha : a.value = none) (h : none ∉ markTemplate m.hidden) :
    scopeTemplate m.written a.name = (m.withAttribute a).written := by
  cases m with
  | comment content no_end => exact scopeTemplate_of_no_mark h a.name
  | startTag tag => exact tag.scopeTemplate_text a (.sign []) ha h
  | selfClosing tag => exact tag.scopeTemplate_text a (.slash []) ha h
  | endTag name inside spells =>
    have hno : '<' ∉ '/' :: (inside ++ ['>']) := by simp [spells.start_not_mem]
    have hmark := markTemplate_text hno []
    rw [List.append_nil] at hmark
    have hletter : ∀ d ∈ ('/' :: (inside ++ ['>'])).head?, d.isAlpha = false := by
      rintro d ⟨⟩
      rfl
    refine scopeTemplate_of_no_mark ?_ a.name
    rw [written, tail, markTemplate_sign hletter, hmark]
    simp [MarkedText.plain, markTemplate]

end Markup

/-- A source has the tokens of another, with the attribute on its elements. -/
def Gains (a : Attribute) (raw : Option RawText) (source result : List Char) : Prop :=
  ∀ look later, tokensFrom raw later result =
    (tokensFrom raw look source).map (List.map (Token.withAttribute a))

theorem map_withAttribute_behindText (a : Attribute) (before : List Char) (ts : List Token) :
    (behindText before ts).map (Token.withAttribute a) =
      behindText before (ts.map (Token.withAttribute a)) := by
  unfold behindText
  split
  · rfl
  · rfl

theorem AllText.map_withAttribute {ts : List Token} (h : AllText ts) (a : Attribute) :
    ts.map (Token.withAttribute a) = ts := by
  have hsame : ∀ t ∈ ts, t.withAttribute a = t := by
    intro t ht
    obtain ⟨content, rfl⟩ := h t ht
    rfl
  exact (List.map_congr_left hsame).trans (List.map_id ts)

namespace Gains

variable {a : PlainAttribute} {name : String} {before passed source result : List Char}

theorem done (hb : '<' ∉ before) : Gains a.read none before before := by
  intro look later
  rw [tokensFrom_end hb, tokensFrom_end hb]
  cases longReference? before with
  | some count => rfl
  | none => simp [Except.map, map_withAttribute_behindText]

theorem markup (m : Markup) (ha : a.value = none) (hb : '<' ∉ before)
    (h : Gains a.read (m.opens.map .ofChain) source result) :
    Gains a.read none (before ++ (m.written ++ source))
      (before ++ ((m.withAttribute a).written ++ result)) := by
  intro look later
  have hread : tokensFrom none look (before ++ '<' :: (m.tail ++ source)) = _ :=
    tokensFrom_markup m.values hb (m.readMarkup_tail source) m.rawTextAfter_token
  let n := m.withAttribute a
  have hscoped : tokensFrom none later (before ++ '<' :: (n.tail ++ result)) = _ :=
    tokensFrom_markup n.values hb (n.readMarkup_tail result) n.rawTextAfter_token
  rw [m.values_withAttribute ha, m.opens_withAttribute, m.token_withAttribute] at hscoped
  rw [Markup.written, Markup.written, List.cons_append, List.cons_append, hread, hscoped]
  cases firstLongReference? (before :: m.values) with
  | some count => rfl
  | none =>
    rw [h look later]
    cases tokensFrom (m.opens.map .ofChain) look source with
    | error fault => rfl
    | ok others => simp [Except.map, map_withAttribute_behindText]

theorem closed {inside : List Char} (hspells : SpellsName name inside)
    (hno : ¬ HasEndTag name passed) (h : Gains a.read none source result) :
    Gains a.read (some (.ofChain name)) (passed ++ '<' :: '/' :: (inside ++ '>' :: source))
      (passed ++ '<' :: '/' :: (inside ++ '>' :: result)) := by
  obtain ⟨texts, htexts⟩ := exists_readAsTexts hno
  intro look later
  rw [htexts.tokensFrom_closed hspells, htexts.tokensFrom_closed hspells, h look later]
  cases tokensFrom none look source with
  | error fault => rfl
  | ok others => simp [Except.map, htexts.allText.map_withAttribute, Token.withAttribute]

theorem unclosed (hno : ¬ HasEndTag name passed) :
    Gains a.read (some (.ofChain name)) passed passed := by
  obtain ⟨texts, htexts⟩ := exists_readAsTexts hno
  intro look later
  rw [htexts.tokensFrom_unclosed, htexts.tokensFrom_unclosed]
  simp [Except.map, htexts.allText.map_withAttribute]

end Gains

section Body

variable {a : PlainAttribute} {parts : List BodyPart} {name : String} {passed : List Char}

/-- Behind what has been read of a body the rest of it gains the attribute. -/
def GainsBehind (a : PlainAttribute) (parts : List BodyPart) :
    Option (String × List Char) → Prop
  | none => ∀ before, '<' ∉ before →
    Gains a.read none (before ++ bodyText parts) (before ++ scopeTemplate (bodyText parts) a.name)
  | some (name, passed) => Gains a.read (some (.ofChain name)) (passed ++ bodyText parts)
      (passed ++ scopeTemplate (bodyText parts) a.name)

theorem bodyText_cons (part : BodyPart) (parts : List BodyPart) :
    bodyText (part :: parts) = part.written ++ bodyText parts := rfl

namespace GainsBehind

theorem nil {state : Option (String × List Char)} (h : IsFaithful state []) :
    GainsBehind a [] state := by
  have hnil : scopeTemplate (bodyText []) a.name = [] := by
    simp [bodyText, scopeTemplate, markTemplate, MarkedText.fill]
  cases state with
  | none =>
    intro before hb
    rw [hnil, bodyText, List.flatMap_nil, List.append_nil]
    exact Gains.done hb
  | some raw =>
    rw [GainsBehind, hnil, bodyText, List.flatMap_nil, List.append_nil]
    exact Gains.unclosed h

theorem text {content : List Char} (no_sign : '<' ∉ content) (h : GainsBehind a parts none) :
    GainsBehind a (.text content no_sign :: parts) none := by
  intro before hb
  have hboth : '<' ∉ before ++ content := by simp [hb, no_sign]
  have hbehind := h (before ++ content) hboth
  rwa [List.append_assoc, List.append_assoc, ← scopeTemplate_text no_sign] at hbehind

theorem textInRaw {content : List Char} (no_sign : '<' ∉ content)
    (h : GainsBehind a parts (some (name, passed ++ content))) :
    GainsBehind a (.text content no_sign :: parts) (some (name, passed)) := by
  rwa [GainsBehind, List.append_assoc, List.append_assoc, ← scopeTemplate_text no_sign] at h

theorem markup (m : Markup) (ha : a.value = none) (hhidden : none ∉ markTemplate m.hidden)
    (h : GainsBehind a parts (m.opens.map fun name => (name, []))) :
    GainsBehind a (.markup m :: parts) none := by
  have hbehind : Gains a.read (m.opens.map .ofChain) (bodyText parts)
      (scopeTemplate (bodyText parts) a.name) := by
    cases hopens : m.opens with
    | none =>
      rw [hopens] at h
      exact h [] List.not_mem_nil
    | some name =>
      rw [hopens] at h
      exact h
  intro before hb
  rw [bodyText_cons, BodyPart.written, m.scopeTemplate_append, m.scopeTemplate_written ha hhidden]
  exact hbehind.markup m ha hb

theorem markupInRaw (m : Markup) (hmark : none ∉ markTemplate m.written)
    (h : GainsBehind a parts (some (name, passed ++ m.written))) :
    GainsBehind a (.markup m :: parts) (some (name, passed)) := by
  rw [GainsBehind, List.append_assoc, List.append_assoc] at h
  rwa [GainsBehind, bodyText_cons, BodyPart.written, m.scopeTemplate_append,
    scopeTemplate_of_no_mark hmark]

theorem closed (m : Markup) (ha : a.value = none) (hclose : m.token = .endTag name)
    (hno : ¬ HasEndTag name passed) (h : GainsBehind a parts none) :
    GainsBehind a (.markup m :: parts) (some (name, passed)) := by
  cases m with
  | endTag other inside spells =>
    cases hclose
    have hhidden : none ∉ markTemplate (Markup.endTag name inside spells).hidden := by
      simp [Markup.hidden, markTemplate]
    have hbehind := (h [] List.not_mem_nil).closed spells hno
    rw [GainsBehind, bodyText_cons, BodyPart.written, Markup.scopeTemplate_append,
      Markup.scopeTemplate_written _ ha hhidden]
    simpa [Markup.withAttribute, Markup.written, Markup.tail] using hbehind
  | comment content no_end => cases hclose
  | startTag tag => cases hclose
  | selfClosing tag => cases hclose

end GainsBehind

theorem IsFaithful.gainsBehind (ha : a.value = none) {state : Option (String × List Char)}
    (h : IsFaithful state parts) : GainsBehind a parts state := by
  induction parts generalizing state with
  | nil => exact GainsBehind.nil h
  | cons part parts ih =>
    cases part with
    | text content no_sign =>
      cases state with
      | none => exact GainsBehind.text no_sign (ih h)
      | some raw => exact GainsBehind.textInRaw no_sign (ih h)
    | markup m =>
      cases state with
      | none => exact GainsBehind.markup m ha h.1 (ih h.2)
      | some raw =>
        rw [IsFaithful] at h
        split at h
        next hclose => exact GainsBehind.closed m ha hclose h.1 (ih h.2)
        next => exact GainsBehind.markupInRaw m h.1 (ih h.2)

end Body

/-- The attribute without a value that a small name is. -/
def bareAttribute (name : List Char) (h : IsSmallName name) : PlainAttribute where
  name := name
  value := none
  name_ne_nil := by
    obtain ⟨c, rest, rfl, -⟩ := h
    exact List.cons_ne_nil c rest
  name_chars := fun c hc => (h.isNameRest c hc).1
  value_chars := by simp

theorem read_bareAttribute {name : List Char} (h : IsSmallName name) :
    (bareAttribute name h).read = ⟨String.ofList name, none⟩ := by
  have hlower : lower name = name := by
    rw [lower_ascii fun c hc => (h.isNameRest c hc).2.1]
    exact (List.map_congr_left fun c hc => (h.isNameRest c hc).2.2).trans (List.map_id name)
  simp [PlainAttribute.read, PlainAttribute.written, bareAttribute, WrittenAttribute.read, hlower]

/-- Scoping a body preserves its tokens: texts, comments and tags are the same, in the same order
and with the same attributes, except that the attribute comes first in the tags of elements that
take it. This holds when no comment, no attribute and no raw text hides what looks like one of
these elements, and the raw text of an element does not end within a comment or an attribute. -/
theorem tokens_scopeTemplate {parts : List BodyPart} {attr : List Char}
    (h : IsFaithful none parts) (ha : IsSmallName attr) :
    tokens (scopeTemplate (bodyText parts) attr) =
      (tokens (bodyText parts)).map
        (List.map (Token.withAttribute ⟨String.ofList attr, none⟩)) := by
  have hbehind : GainsBehind (bareAttribute attr ha) parts none := h.gainsBehind rfl
  have hgains := hbehind [] List.not_mem_nil
  rw [read_bareAttribute] at hgains
  exact hgains _ _

theorem not_hasCommentEnd_of_not_mem {content : List Char} (h : '-' ∉ content) :
    ¬ HasCommentEnd content := by
  rintro ⟨before, gap, after, rfl, -⟩
  exact h (by simp)

theorem not_hasEndTag_of_not_mem {name : String} {text : List Char} (h : '<' ∉ text) :
    ¬ HasEndTag name text := by
  rintro ⟨before, tail, rfl, inside, rest, rfl, -⟩
  exact h (by simp)

/-- A start tag, a text, and the end tag that closes the start tag. -/
def elementParts (name : List Char) (attrs : List SpacedAttribute) (h : IsEndName name)
    (content : List Char) (no_sign : '<' ∉ content) : List BodyPart :=
  [.markup (.startTag ⟨name, attrs, [], h, List.forall_mem_nil _⟩), .text content no_sign,
    .markup (.endTag _ name h.spellsName)]

theorem isEndName_p : IsEndName ['p'] := ⟨'p', [], rfl, rfl, by simp⟩

theorem isSmallName_k : IsSmallName ['k'] := ⟨'k', [], rfl, rfl, by simp⟩

def idAttribute : SpacedAttribute where
  gap := ['\n']
  plain := ⟨"id".toList, some "a > b".toList, by decide, List.all_eq_true.mp rfl, by decide⟩
  gap_ne_nil := by decide
  gap_blank := List.forall_mem_singleton.mpr (.inr (.inr (.inl rfl)))

def slotComment : Markup := .comment "<slot>".toList (not_hasCommentEnd_of_not_mem (by decide))

/-- A body with a comment that hides nothing but an element without the attribute, and with raw
text. -/
def commentedBody : List BodyPart :=
  elementParts ['p'] [idAttribute] isEndName_p "n".toList (by decide) ++ .markup slotComment ::
    elementParts "script".toList [] (isEndName_of_isRaw (.inl rfl)) "s > t".toList (by decide)

theorem isFaithful_commentedBody : IsFaithful none commentedBody := by
  have hp : String.ofList (lower ['p']) ≠ "script" ∧ String.ofList (lower ['p']) ≠ "style" := by
    decide +kernel
  have hscript : String.ofList (lower "script".toList) = "script" := by decide +kernel
  simp only [commentedBody, elementParts, slotComment, List.cons_append, List.nil_append,
    IsFaithful, Markup.opens, SpacedTag.shown, hp, hscript, or_self, ↓reduceIte, Option.map_none]
  exact ⟨by decide +kernel, by decide +kernel, by decide +kernel, by decide +kernel,
    not_hasEndTag_of_not_mem (by decide), trivial⟩

theorem tokens_scopeTemplate_commented :
    bodyText commentedBody =
      "<p\nid=\"a > b\">n</p><!--<slot>--><script>s > t</script>".toList ∧
    IsFaithful none commentedBody ∧ IsSmallName ['k'] ∧
    tokens (scopeTemplate (bodyText commentedBody) ['k']) =
      (tokens (bodyText commentedBody)).map (List.map (Token.withAttribute ⟨"k", none⟩)) :=
  ⟨by decide, isFaithful_commentedBody, isSmallName_k,
    tokens_scopeTemplate isFaithful_commentedBody isSmallName_k⟩

def tagComment : Markup := .comment "<p>".toList (not_hasCommentEnd_of_not_mem (by decide))

/-- A tag in a comment gets the attribute too, and the comment is no longer the same. -/
theorem tagComment_changed :
    bodyText [.markup tagComment] = "<!--<p>-->".toList ∧ IsSmallName ['k'] ∧
    scopeTemplate (bodyText [.markup tagComment]) ['k'] = "<!--<p k>-->".toList ∧
    tokens (scopeTemplate (bodyText [.markup tagComment]) ['k']) ≠
      (tokens (bodyText [.markup tagComment])).map
        (List.map (Token.withAttribute ⟨"k", none⟩)) :=
  ⟨by decide, isSmallName_k, by decide +kernel, by decide +kernel⟩

end ComponentSplit
