import ComponentSplit.Proofs.Markup.Fault
import ComponentSplit.Proofs.Markup.Tag

namespace ComponentSplit

/-- A decimal reference of so many digits, which are more than can be read, stands in a text. -/
def HasLongNumber (text : List Char) (count : Nat) : Prop :=
  ∃ digits, '&' :: '#' :: digits <:+: text ∧ (∀ c ∈ digits, c.isDigit = true) ∧
    digits.length = count ∧ maxDigits < count

/-- A tag starts in a text whose name holds a character that the name in an end tag does not. -/
def HasOddName (text : List Char) : Prop :=
  ∃ name, IsTagName name ∧ '<' :: name <:+: text ∧ ∃ c ∈ name, isEndNameChar c = false

/-- What in a text makes its reading break off with a fault. -/
def HasTrap (text : List Char) : MarkupFault → Prop
  | .namelessSection _ | .unknownSection _ => "<![".toList <:+: text
  | .longReference count => HasLongNumber text count
  | .badCloser _ | .strayCloser => HasOddName text

section Infixes

variable {text larger : List Char}

theorem HasLongNumber.mono {count : Nat} (h : HasLongNumber text count) (hs : text <:+: larger) :
    HasLongNumber larger count := by
  obtain ⟨digits, hin, hdigits⟩ := h
  exact ⟨digits, hin.trans hs, hdigits⟩

theorem HasOddName.mono (h : HasOddName text) (hs : text <:+: larger) : HasOddName larger := by
  obtain ⟨name, hname, hin, hodd⟩ := h
  exact ⟨name, hname, hin.trans hs, hodd⟩

theorem HasTrap.mono {fault : MarkupFault} (h : HasTrap text fault) (hs : text <:+: larger) :
    HasTrap larger fault := by
  cases fault with
  | namelessSection | unknownSection => exact List.IsInfix.trans h hs
  | longReference count => exact HasLongNumber.mono h hs
  | badCloser | strayCloser => exact HasOddName.mono h hs

theorem hasLongNumber_of_longReference? {count : Nat} (h : longReference? text = some count) :
    HasLongNumber text count := by
  induction text with
  | nil => cases h
  | cons c rest ih =>
    have honward (h : longReference? rest = some count) : HasLongNumber (c :: rest) count :=
      (ih h).mono (List.suffix_cons c rest).isInfix
    unfold longReference? at h
    simp only at h
    split at h
    next more =>
      split at h
      next hlong =>
        cases h
        obtain ⟨rfl, hcount⟩ := hlong
        refine ⟨more.takeWhile Char.isDigit, ?_, fun d hd => List.mem_takeWhile_imp hd, rfl, hcount⟩
        exact List.IsPrefix.isInfix ⟨more.dropWhile Char.isDigit, by simp⟩
      · exact honward h
    · rw [if_neg (by omega)] at h
      exact honward h

end Infixes

section Values

theorem cons_dropWhile_suffix (c : Char) (text : List Char) :
    c :: text.dropWhile (· == c) <:+ c :: text := by
  induction text with
  | nil => exact List.suffix_refl _
  | cons d rest ih =>
    rw [List.dropWhile_cons]
    split
    next hd =>
      rw [eq_of_beq hd]
      exact ih.trans (List.suffix_cons _ _)
    · exact List.suffix_refl _

theorem attributeValue?_within {text value after : List Char}
    (h : attributeValue? text = some (value, after)) : value <:+: text := by
  unfold attributeValue? at h
  split at h
  next signs hs =>
    have hsigns : '=' :: signs <:+ text := hs ▸ trimStart_suffix text
    have hbehind := cons_dropWhile_suffix '=' signs
    have hstart : trimStart (signs.dropWhile (· == '=')) <:+ text :=
      ((trimStart_suffix _).trans (List.suffix_cons '=' _)).trans (hbehind.trans hsigns)
    have hbare : (trimStart (signs.dropWhile (· == '='))).takeWhile isBareChar <:+: text :=
      (List.takeWhile_prefix _).isInfix.trans hstart.isInfix
    simp only at h
    split at h
    · cases h
      exact hbare
    next quote body hbody =>
      split at h
      · split at h
        next found hfound =>
          cases h
          have hcut := (cutAt_eq hfound).1
          refine List.IsInfix.trans ⟨[quote], quote :: after, ?_⟩ hstart.isInfix
          rw [hbody, hcut]
          simp
        next =>
          split at h
          · cases h
            exact List.nil_infix
          next hall =>
            split at h
            next hsome =>
              cases h
              -- No blank stands behind the signs, so that the last of them is in front of the value.
              have hsame : trimStart (signs.dropWhile (· == '=')) = signs.dropWhile (· == '=') :=
                (trimStart_suffix _).eq_of_length_le (Nat.not_lt.mp hall)
              rw [hsame]
              exact (List.IsPrefix.isInfix ⟨_, by rw [List.cons_append,
                List.takeWhile_append_dropWhile]⟩).trans (hbehind.trans hsigns).isInfix
            · cases h
      · cases h
        exact hbare
  next => cases h

theorem attribute?_within {edge next : Bool} {text rest value : List Char} {a : WrittenAttribute}
    (h : attribute? edge text = some (a, next, rest)) (hvalue : a.value = some value) :
    value <:+: text := by
  cases text with
  | nil => cases h
  | cons c text =>
    unfold attribute? at h
    simp only at h
    split at h
    · split at h
      next found after hfound =>
        obtain ⟨ha, -⟩ := Prod.mk.inj (Option.some.inj h)
        rw [← ha] at hvalue
        cases hvalue
        have hname : text.dropWhile isNameRest <:+ c :: text :=
          (List.dropWhile_suffix _).trans (List.suffix_cons c text)
        exact (attributeValue?_within hfound).trans hname.isInfix
      next =>
        obtain ⟨ha, -⟩ := Prod.mk.inj (Option.some.inj h)
        rw [← ha] at hvalue
        cases hvalue
    · cases h

theorem attributes_within {edge : Bool} {text value : List Char} {a : WrittenAttribute}
    (ha : a ∈ (attributes edge text).1) (hvalue : a.value = some value) : value <:+: text := by
  fun_induction attributes edge text with
  | case1 => cases ha
  | case2 edge text first next rest h _ others after hr ih =>
    rw [hr] at ih
    rcases List.mem_cons.mp ha with rfl | hothers
    · exact attribute?_within h hvalue
    · have hrest : rest <:+ text := by
        cases text with
        | nil => cases h
        | cons c text => exact (attribute?_suffix h).trans (List.suffix_cons c text)
      exact (ih hothers).trans hrest.isInfix

theorem tagParts_within {text value : List Char} {a : WrittenAttribute}
    (ha : a ∈ (tagParts text).1) (hvalue : a.value = some value) : value <:+: text := by
  have hgap : (dropGap (endsWithEdge (text.takeWhile isTagNameChar))
      (text.dropWhile isTagNameChar)).2 <:+ text :=
    (dropGap_suffix _ _).trans (List.dropWhile_suffix _)
  exact (attributes_within ha hvalue).trans hgap.isInfix

end Values

theorem BadMarkup.hasTrap {tail : List Char} {fault : MarkupFault} (h : BadMarkup tail fault) :
    HasTrap ('<' :: tail) fault := by
  cases h with
  | value starts stops long =>
    obtain ⟨a, ha, hvalue⟩ := List.exists_of_findSome?_eq_some long
    obtain ⟨value, hsome, hlong⟩ := Option.bind_eq_some_iff.mp hvalue
    have hin : value <:+: '<' :: tail :=
      (tagParts_within ha hsome).trans (List.suffix_cons '<' tail).isInfix
    exact (hasLongNumber_of_longReference? hlong).mono hin
  | nameless | unknown => exact List.IsPrefix.isInfix ⟨_, rfl⟩

theorem passedOver_within (tail : List Char) : passedOver tail <:+: '<' :: tail :=
  List.IsPrefix.isInfix ⟨tail.drop (tail.length - (recover tail).length), by
    rw [passedOver, List.cons_append, List.take_append_drop]⟩

/-- Behind references a closer of plain characters is found where an end tag starts. -/
theorem RawText.Finds.head_eq {name : String} {look : Look} {text found : List Char}
    (h : (RawText.ofChain name).Finds look text found) : found.head? = some '<' := by
  induction h with
  | here match_eq =>
    obtain ⟨lead, word, trail, rest, rfl, -⟩ := startFits_closer (RawText.find_some match_eq).2
    rfl
  | behind _ _ _ ih => exact ih

/-- The name of a start tag can stand in the pattern for its end, or holds a character that no end
tag spells. -/
theorem Lexeme.Within.closable_or_odd {l : Lexeme} {raw : Option RawText} {text : List Char}
    (h : l.Within raw text) {name : String} {attrs : List Attribute}
    (ht : l.token = .startTag name attrs) : IsClosable name ∨ HasOddName text := by
  obtain ⟨inside, hhere, spelled, more, rfl, hname, hlow⟩ := h.startTag ht
  have hin : '<' :: spelled <:+: text := by
    refine List.IsInfix.trans (List.IsPrefix.isInfix ⟨more ++ '>' :: l.rest, ?_⟩) h.1.isInfix
    rw [hhere]
    simp
  by_cases hodd : ∃ c ∈ spelled, isEndNameChar c = false
  · exact .inr ⟨spelled, hname, hin, hodd⟩
  · have hplain : ∀ c ∈ spelled, isEndNameChar c = true := by
      intro c hc
      by_contra hother
      exact hodd ⟨c, hc, Bool.not_eq_true _ ▸ hother⟩
    obtain ⟨c, rest, rfl, hc, -⟩ := hname
    exact .inl ⟨_, ⟨c, rest, rfl, hc, fun d hd => hplain d (List.mem_cons_of_mem c hd)⟩, hlow⟩

/-- The raw text that is open has a closer of plain characters, unless the text has a tag with an
odd name. -/
def ClosesPlainly (raw : Option RawText) (text : List Char) : Prop :=
  ∀ open', raw = some open' → (∃ name, open' = RawText.ofChain name) ∨ HasOddName text

theorem closesPlainly_none (text : List Char) : ClosesPlainly none text := by
  rintro _ ⟨⟩

theorem closesPlainly_ofChain (name : String) (text : List Char) :
    ClosesPlainly (some (RawText.ofChain name)) text := by
  rintro _ ⟨⟩
  exact .inl ⟨name, rfl⟩

/-- A look breaks off at a trap. Where the raw text has a closer with other characters than those of
an end tag, the trap is the name that they come from. -/
theorem BreaksOff.hasTrap {raw : Option RawText} {look : Look} {text whole : List Char}
    {fault : MarkupFault} (h : BreaksOff raw look text fault) (hs : text <:+ whole)
    (hraw : ClosesPlainly raw whole) : HasTrap whole fault := by
  have hplace {tail : List Char} (place : MarkupAt look text tail raw) : '<' :: tail <:+ whole := by
    cases place with
    | plain readable sign => exact (sign ▸ List.dropWhile_suffix _ : '<' :: tail <:+ text).trans hs
    | raw finds => exact finds.suffix.trans hs
  cases h with
  | text plain long =>
    exact (hasLongNumber_of_longReference? long).mono
      ((List.takeWhile_prefix _).isInfix.trans hs.isInfix)
  | markup place bad => exact bad.hasTrap.mono (hplace place).isInfix
  | passed plain second place unfinished long =>
    exact (hasLongNumber_of_longReference? long).mono
      ((passedOver_within _).trans (hplace place).isInfix)
  | stray raw_eq finds no_sign =>
    rcases hraw _ raw_eq with ⟨name, rfl⟩ | hodd
    · exact absurd (Option.some.inj finds.head_eq) no_sign
    · exact hodd

end ComponentSplit
