import ComponentSplit.Markup.Lexeme
import ComponentSplit.Proofs.Markup.EndTag

namespace ComponentSplit

/-- The name of a tag as it may be spelled. -/
def IsTagName (spelled : List Char) : Prop :=
  ∃ c rest, spelled = c :: rest ∧ c.isAlpha = true ∧ ∀ d ∈ rest, isTagNameChar d = true

/-- What stands between the sign and slash of an end tag and its greater-than sign when it ends an
element: the name of the element in letters of any case, white space before it, and behind it what
cannot belong to the name. -/
def EndsElement (name : String) (inside : List Char) : Prop :=
  ∃ lead spelled tail, inside = lead ++ spelled ++ tail ∧ (∀ c ∈ lead, isBlank c = true) ∧
    IsTagName spelled ∧ lower spelled = name.toList ∧
    ∀ c ∈ tail.head?, isBlank c = true ∨ c = '/' ∨ c = '\x00'

theorem isTagNameChar_of_isEndNameChar {c : Char} (h : isEndNameChar c = true) :
    isTagNameChar c = true := by
  have hc := toNat_of_isEndNameChar h
  have hne {d : Char} (hd : d.toNat ∈ [9, 10, 13, 12, 32, 47, 62, 0]) : c ≠ d := by
    rintro rfl
    simp only [List.mem_cons, List.not_mem_nil, or_false] at hd
    omega
  simp [isTagNameChar, hne]

theorem isTagNameChar_of_isAlpha {c : Char} (h : c.isAlpha = true) : isTagNameChar c = true :=
  isTagNameChar_of_isEndNameChar (isEndNameChar_of_isAlpha h)

theorem IsEndName.isTagName {spelled : List Char} (h : IsEndName spelled) : IsTagName spelled := by
  obtain ⟨c, rest, rfl, hc, hr⟩ := h
  exact ⟨c, rest, rfl, hc, fun d hd => isTagNameChar_of_isEndNameChar (hr d hd)⟩

theorem SpellsName.endsElement {name : String} {inside : List Char} (h : SpellsName name inside) :
    EndsElement name inside := by
  obtain ⟨lead, spelled, trail, rfl, hl, hs, hlow, ht⟩ := h
  exact ⟨lead, spelled, trail, rfl, hl, hs.isTagName, hlow,
    fun c hc => .inl (ht c (List.mem_of_mem_head? hc))⟩

theorem stop_of_not_isTagNameChar {c : Char} (h : isTagNameChar c = false) :
    isBlank c = true ∨ c = '/' ∨ c = '>' ∨ c = '\x00' := by
  simp only [isTagNameChar, Bool.and_eq_false_iff, bne_eq_false_iff_eq] at h
  rcases h with ((((((rfl | rfl) | rfl) | rfl) | rfl) | rfl) | rfl) | rfl
  all_goals simp
  all_goals decide

theorem tagName_append {text : List Char} (h : text.head?.any Char.isAlpha = true) :
    text = text.takeWhile isTagNameChar ++ text.dropWhile isTagNameChar ∧
      IsTagName (text.takeWhile isTagNameChar) := by
  refine ⟨List.takeWhile_append_dropWhile.symm, ?_⟩
  cases text with
  | nil => simp at h
  | cons c rest =>
    have hc : c.isAlpha = true := by simpa using h
    rw [List.takeWhile_cons_of_pos (isTagNameChar_of_isAlpha hc)]
    exact ⟨c, _, rfl, hc, fun d hd => List.mem_takeWhile_imp hd⟩

theorem readEndTag_endTag {raw : Option RawText} {text rest : List Char} {name : String}
    (h : readEndTag raw text = some (.endTag name, rest)) :
    ∃ inside, text = inside ++ '>' :: rest ∧ '>' ∉ inside ∧ EndsElement name inside ∧
      (raw.isSome → SpellsName name inside) := by
  unfold readEndTag at h
  split at h
  · simp at h
  next inside after hc =>
    obtain ⟨heq, hin⟩ := cutAt_eq hc
    simp only at h
    split at h
    next spelled hn =>
      cases h
      have hs := endTagName?_eq_some.mp hn
      exact ⟨inside, heq, hin, hs.endsElement, fun _ => hs⟩
    next spelled opened hn =>
      split at h
      · cases h
        have hs := endTagName?_eq_some.mp hn
        exact ⟨inside, heq, hin, hs.endsElement, fun _ => hs⟩
      · cases h
    · cases h
    next hn =>
      split at h
      · cases h
      · split at h
        next hletter =>
          cases h
          obtain ⟨hinside, hname⟩ := tagName_append hletter
          refine ⟨inside, heq, hin, ?_, by simp⟩
          refine ⟨[], inside.takeWhile isTagNameChar, inside.dropWhile isTagNameChar, hinside,
            by simp, hname, by simp, ?_⟩
          intro c hc
          have hmem : c ∈ inside :=
            (List.dropWhile_suffix _).subset (List.mem_of_mem_head? hc)
          rcases stop_of_not_isTagNameChar (head?_dropWhile hc) with hb | rfl | rfl | rfl
          · exact .inl hb
          · exact .inr (.inl rfl)
          · exact absurd hmem hin
          · exact .inr (.inr rfl)
        · cases h

/-- A start tag, behind its less-than sign and before its greater-than sign. -/
def StartsElement (name : String) (inside : List Char) : Prop :=
  ∃ spelled more, inside = spelled ++ more ∧ IsTagName spelled ∧ lower spelled = name.toList

theorem readStartTag_tag {text rest : List Char} {token : Token}
    (hletter : text.head?.any Char.isAlpha = true)
    (h : readStartTag text = .ok (some (token, rest))) :
    (∃ content, token = .text content) ∨
    (∃ name attrs inside, token = .startTag name attrs ∧ text = inside ++ '>' :: rest ∧
      StartsElement name inside) ∨
    ∃ name attrs inside, token = .selfClosing name attrs ∧ text = inside ++ '/' :: '>' :: rest ∧
      StartsElement name inside := by
  obtain ⟨htext, hname⟩ := tagName_append hletter
  obtain ⟨more, hmore⟩ : (tagAttributes (text.takeWhile isTagNameChar)
      (text.dropWhile isTagNameChar)).2 <:+ text.dropWhile isTagNameChar :=
    tagAttributes_suffix _ _
  have hinside : text = text.takeWhile isTagNameChar ++ more ++ (tagAttributes
      (text.takeWhile isTagNameChar) (text.dropWhile isTagNameChar)).2 := by
    rw [List.append_assoc, hmore]
    exact htext
  have hstarts : StartsElement (String.ofList (lower (text.takeWhile isTagNameChar)))
      (text.takeWhile isTagNameChar ++ more) := ⟨_, more, rfl, hname, by simp⟩
  unfold readStartTag at h
  simp only at h
  split at h
  · simp at h
  · have h := Except.ok.inj h
    split at h
    · simp at h
    next hc =>
      cases h
      rw [hc] at hinside
      exact .inr (.inl ⟨_, _, _, rfl, hinside, hstarts⟩)
    next hc =>
      cases h
      rw [hc] at hinside
      exact .inr (.inr ⟨_, _, _, rfl, hinside, hstarts⟩)
    next hc =>
      split at h
      · simp at h
      · cases h
        exact .inl ⟨_, rfl⟩

def Token.isTag : Token → Bool
  | startTag _ _ | selfClosing _ _ | endTag _ => true
  | _ => false

/-- What makes one kind of token of whatever it finds gives no tag, unless that kind is one. -/
theorem isTag_of_map {make : List Char → Token} (hmake : ∀ content, (make content).isTag = false)
    {found : Option (List Char × List Char)} {token : Token} {rest : List Char}
    (h : (found.map fun (content, after) => (make content, after)) = some (token, rest)) :
    token.isTag = false := by
  obtain ⟨⟨content, after⟩, -, heq⟩ := Option.map_eq_some_iff.mp h
  cases heq
  exact hmake content

theorem readBracketed_isTag {text rest : List Char} {token : Token}
    (h : readBracketed text = .ok (some (token, rest))) : token.isTag = false := by
  unfold readBracketed at h
  simp only at h
  split at h
  · simp at h
  · split at h
    · split at h
      · simp at h
      · split at h
        · exact isTag_of_map (fun _ => rfl) (Except.ok.inj h)
        · split at h
          · exact isTag_of_map (fun _ => rfl) (Except.ok.inj h)
          · simp at h
    · simp at h

theorem readDeclaration_isTag {text rest : List Char} {token : Token}
    (h : readDeclaration text = .ok (some (token, rest))) : token.isTag = false := by
  unfold readDeclaration at h
  split at h
  · exact isTag_of_map (fun _ => rfl) (Except.ok.inj h)
  · exact readBracketed_isTag h
  · split at h
    · have hmake : ∀ content, (Token.declaration (text.take 7 ++ content)).isTag = false :=
        fun _ => rfl
      exact isTag_of_map hmake (Except.ok.inj h)
    · exact isTag_of_map (fun _ => rfl) (Except.ok.inj h)

/-- A tag behind a less-than sign is read as a start tag or as an end tag. -/
theorem readMarkup_tag {raw : Option RawText} {tail rest : List Char} {token : Token}
    (h : readMarkup raw tail = .ok (some (token, rest))) (ht : token.isTag = true) :
    (tail.head?.any Char.isAlpha = true ∧ readStartTag tail = .ok (some (token, rest))) ∨
      ∃ text, tail = '/' :: text ∧ readEndTag raw text = some (token, rest) := by
  unfold readMarkup at h
  split at h
  · cases h
    simp [Token.isTag] at ht
  next c after =>
    split at h
    next hc => exact .inl ⟨by simpa using hc, h⟩
    next hc =>
      split at h
      next hslash => exact .inr ⟨after, by rw [hslash], Except.ok.inj h⟩
      · split at h
        · simp [readDeclaration_isTag h] at ht
        · split at h
          · have hother : token.isTag = false := isTag_of_map (fun _ => rfl) (Except.ok.inj h)
            simp [hother] at ht
          · cases h
            simp [Token.isTag] at ht

theorem readEndTag_isTag {raw : Option RawText} {text rest : List Char} {token : Token}
    (h : readEndTag raw text = some (token, rest)) (ht : token.isTag = true) :
    ∃ name, token = .endTag name := by
  unfold readEndTag at h
  split at h
  · simp at h
  · simp only at h
    split at h
    · cases h
      exact ⟨_, rfl⟩
    · split at h
      · cases h
        exact ⟨_, rfl⟩
      · cases h
        simp [Token.isTag] at ht
    · cases h
      simp [Token.isTag] at ht
    · split at h
      · cases h
        simp [Token.isTag] at ht
      · split at h
        · cases h
          exact ⟨_, rfl⟩
        · cases h
          simp [Token.isTag] at ht

namespace Lexeme.Within

variable {l : Lexeme} {raw : Option RawText} {source : List Char}

theorem readMarkup (h : l.Within raw source) (ht : l.token.isTag = true) :
    ∃ tail, l.here = '<' :: tail ∧
      ComponentSplit.readMarkup raw tail = .ok (some (l.token, l.rest)) := by
  obtain ⟨-, tail, hhere, -, hread | ⟨content, hcontent⟩⟩ := h
  · exact ⟨tail, hhere, hread⟩
  · simp [hcontent, Token.isTag] at ht

/-- The text of an end tag; inside raw text it is nothing but the name. -/
theorem endTag (h : l.Within raw source) {name : String} (ht : l.token = .endTag name) :
    ∃ inside, l.here = '<' :: '/' :: (inside ++ '>' :: l.rest) ∧ '>' ∉ inside ∧
      EndsElement name inside ∧ (raw.isSome → SpellsName name inside) := by
  have htag : l.token.isTag = true := by simp [ht, Token.isTag]
  obtain ⟨tail, hhere, hread⟩ := h.readMarkup htag
  rcases readMarkup_tag hread htag with ⟨hletter, hstart⟩ | ⟨text, rfl, hend⟩
  · rcases readStartTag_tag hletter hstart with ⟨_, hn⟩ | ⟨_, _, _, hn, -⟩ | ⟨_, _, _, hn, -⟩
    all_goals simp [ht] at hn
  · rw [ht] at hend
    obtain ⟨inside, rfl, hin⟩ := readEndTag_endTag hend
    exact ⟨inside, hhere, hin⟩

theorem startTag (h : l.Within raw source) {name : String} {attrs : List Attribute}
    (ht : l.token = .startTag name attrs) :
    ∃ inside, l.here = '<' :: (inside ++ '>' :: l.rest) ∧ StartsElement name inside := by
  have htag : l.token.isTag = true := by simp [ht, Token.isTag]
  obtain ⟨tail, hhere, hread⟩ := h.readMarkup htag
  rcases readMarkup_tag hread htag with ⟨hletter, hstart⟩ | ⟨text, rfl, hend⟩
  · rcases readStartTag_tag hletter hstart with ⟨_, hn⟩ | ⟨_, _, inside, hn, rfl, hs⟩ |
      ⟨_, _, _, hn, -⟩
    · simp [ht] at hn
    · cases ht.symm.trans hn
      exact ⟨inside, hhere, hs⟩
    · simp [ht] at hn
  · obtain ⟨_, hn⟩ := readEndTag_isTag hend htag
    simp [ht] at hn

theorem selfClosing (h : l.Within raw source) {name : String} {attrs : List Attribute}
    (ht : l.token = .selfClosing name attrs) :
    ∃ inside, l.here = '<' :: (inside ++ '/' :: '>' :: l.rest) ∧ StartsElement name inside := by
  have htag : l.token.isTag = true := by simp [ht, Token.isTag]
  obtain ⟨tail, hhere, hread⟩ := h.readMarkup htag
  rcases readMarkup_tag hread htag with ⟨hletter, hstart⟩ | ⟨text, rfl, hend⟩
  · rcases readStartTag_tag hletter hstart with ⟨_, hn⟩ | ⟨_, _, _, hn, -⟩ |
      ⟨_, _, inside, hn, rfl, hs⟩
    · simp [ht] at hn
    · simp [ht] at hn
    · cases ht.symm.trans hn
      exact ⟨inside, hhere, hs⟩
  · obtain ⟨_, hn⟩ := readEndTag_isTag hend htag
    simp [ht] at hn

end Lexeme.Within

end ComponentSplit
