import ComponentSplit.Proofs.Markup.Tag

namespace ComponentSplit

/-- An attribute in its plain form: its value, if it has one, stands between double quotes. -/
structure PlainAttribute where
  name : List Char
  value : Option (List Char)
  name_ne_nil : name ≠ []
  name_chars : ∀ c ∈ name, isNameRest c = true
  value_chars : ∀ v ∈ value, '"' ∉ v

namespace PlainAttribute

def text (a : PlainAttribute) : List Char :=
  ' ' :: a.name ++
    match a.value with
    | none => []
    | some v => '=' :: '"' :: v ++ ['"']

/-- What reading makes of the attribute before it replaces references. -/
def written (a : PlainAttribute) : WrittenAttribute := ⟨String.ofList (lower a.name), a.value⟩

theorem exists_name (a : PlainAttribute) : ∃ c name, a.name = c :: name ∧ isBlank c = false ∧
    c ≠ '/' ∧ c ≠ '>' ∧ c ≠ '=' := by
  obtain ⟨c, name, hname⟩ := List.exists_cons_of_ne_nil a.name_ne_nil
  have hc := a.name_chars c (by simp [hname])
  simp only [isNameRest, isNameStart, Bool.and_eq_true, Bool.not_eq_true', bne_iff_ne] at hc
  exact ⟨c, name, hname, by simp [hc]⟩

end PlainAttribute

def attributesText (attrs : List PlainAttribute) : List Char := attrs.flatMap PlainAttribute.text

inductive EndsTag : List Char → Prop
  | sign (rest : List Char) : EndsTag ('>' :: rest)
  | slash (rest : List Char) : EndsTag ('/' :: '>' :: rest)

theorem EndsTag.dropGap {close : List Char} (h : EndsTag close) (edge : Bool) :
    dropGap edge close = (edge, close) := by
  cases h with
  | sign rest => simp [ComponentSplit.dropGap, isBlank]
  | slash rest => simp [ComponentSplit.dropGap, isBlank]

theorem attributes_of_none {edge : Bool} {text : List Char} (h : attribute? edge text = none) :
    attributes edge text = ([], text) := by
  rw [attributes]
  split
  · rfl
  next hs => simp [h] at hs

theorem attributes_of_some {edge next : Bool} {text rest : List Char} {a : WrittenAttribute}
    (h : attribute? edge text = some (a, next, rest)) :
    attributes edge text = (a :: (attributes next rest).1, (attributes next rest).2) := by
  rw [attributes]
  split
  next hn => simp [h] at hn
  next hs =>
    cases h.symm.trans hs
    rfl

theorem EndsTag.attributes {close : List Char} (h : EndsTag close) (edge : Bool) :
    attributes edge close = ([], close) := by
  apply attributes_of_none
  cases h with
  | sign rest => simp [attribute?, isNameStart]
  | slash rest => simp [attribute?, isNameStart]

theorem attributeValue?_quoted {v after : List Char} (h : '"' ∉ v) :
    attributeValue? ('=' :: '"' :: (v ++ '"' :: after)) = some (v, after) := by
  have hequals : isBlank '=' = false := rfl
  have hquote : isBlank '"' = false := rfl
  simp [attributeValue?, trimStart, hequals, hquote, isQuote, cutAt_append h]

section Attribute

variable {c : Char} {name after : List Char}

theorem isNameStart_of_isNameRest (h : isNameRest c = true) : isNameStart c = true := by
  simp only [isNameRest, Bool.and_eq_true] at h
  exact h.1

theorem attribute?_of_value {value later : List Char} (hn : ∀ d ∈ c :: name, isNameRest d = true)
    (ha : ∀ d ∈ after.head?, isNameRest d = false)
    (hv : attributeValue? after = some (value, later)) :
    attribute? true (c :: (name ++ after)) =
      some (⟨String.ofList (lower (c :: name)), some value⟩, dropGap true later) := by
  obtain ⟨hc, hrest⟩ := List.forall_mem_cons.mp hn
  simp only [attribute?, isNameStart_of_isNameRest hc, Bool.and_true, ↓reduceIte,
    takeWhile_append_stop hrest ha, dropWhile_append_stop hrest ha, hv]

theorem attribute?_of_no_value (hn : ∀ d ∈ c :: name, isNameRest d = true)
    (ha : ∀ d ∈ after.head?, isNameRest d = false) (hv : attributeValue? after = none) :
    attribute? true (c :: (name ++ after)) =
      some (⟨String.ofList (lower (c :: name)), none⟩,
        dropGap (endsWithEdge (c :: name)) after) := by
  obtain ⟨hc, hrest⟩ := List.forall_mem_cons.mp hn
  simp only [attribute?, isNameStart_of_isNameRest hc, Bool.and_true, ↓reduceIte,
    takeWhile_append_stop hrest ha, dropWhile_append_stop hrest ha, hv]

end Attribute

def PlainAttribute.read (a : PlainAttribute) : Attribute := a.written.read

def valueTexts (attrs : List PlainAttribute) : List (List Char) := attrs.filterMap (·.value)

/-- The number of digits in the first decimal reference of texts that has too many of them. -/
def firstLongReference? (texts : List (List Char)) : Option Nat := texts.findSome? longReference?

/-- A decimal reference with one digit too many. -/
def overlongNumber : List Char := '&' :: '#' :: (List.replicate (maxDigits + 1) '1' ++ [';'])

theorem sign_not_mem_overlongNumber : '<' ∉ overlongNumber := by
  simp [overlongNumber]

theorem longReference?_overlongNumber : longReference? overlongNumber = some (maxDigits + 1) := by
  have hdigits : (List.replicate (maxDigits + 1) '1' ++ [';']).takeWhile Char.isDigit =
      List.replicate (maxDigits + 1) '1' := by
    apply takeWhile_append_stop
    · intro c hc
      rw [List.eq_of_mem_replicate hc]
      rfl
    · rintro c ⟨⟩
      rfl
  simp [overlongNumber, longReference?, hdigits]

theorem findSome?_written (attrs : List PlainAttribute) :
    (attrs.map PlainAttribute.written).findSome? (fun a => a.value.bind longReference?) =
      firstLongReference? (valueTexts attrs) := by
  unfold firstLongReference? valueTexts
  induction attrs with
  | nil => rfl
  | cons a attrs ih =>
    cases hv : a.value with
    | none => simpa [PlainAttribute.written, hv] using ih
    | some v =>
      rw [List.filterMap_cons_some hv, List.map_cons, List.findSome?_cons, List.findSome?_cons, ih]
      simp [PlainAttribute.written, hv]

theorem readMarkup_name {raw : Option RawText} {name : List Char} (hname : IsEndName name)
    (more : List Char) : readMarkup raw (name ++ more) = readStartTag (name ++ more) := by
  obtain ⟨c, rest, rfl, hc, -⟩ := hname
  simp [readMarkup, hc]

theorem readMarkup_endTag {name : String} {inside : List Char} (h : SpellsName name inside)
    (rest : List Char) :
    readMarkup none ('/' :: (inside ++ '>' :: rest)) = .ok (some (.endTag name, rest)) := by
  have hin := h.end_not_mem
  have hread : readEndTag none (inside ++ '>' :: rest) = some (.endTag name, rest) := by
    unfold readEndTag
    rw [cutAt_append hin]
    simp [endTagName?_eq_some.mpr h]
  simp [readMarkup, hread]

theorem IsEndName.spellsName {name : List Char} (h : IsEndName name) :
    SpellsName (String.ofList (ComponentSplit.lower name)) name :=
  ⟨[], name, [], by simp, by simp, h, by simp, by simp⟩

/-- A text holds the end of a comment: two dashes, any white space and a greater-than sign. -/
def HasCommentEnd (text : List Char) : Prop :=
  ∃ before gap after, text = before ++ '-' :: '-' :: (gap ++ '>' :: after) ∧
    ∀ c ∈ gap, isBlank c = true

theorem commentEnd?_some {text rest : List Char} (h : commentEnd? text = some rest) :
    ∃ gap, text = '-' :: '-' :: (gap ++ '>' :: rest) ∧ ∀ c ∈ gap, isBlank c = true := by
  unfold commentEnd? at h
  split at h
  next text =>
    split at h
    next after ht =>
      cases h
      refine ⟨leadingBlanks text, ?_, fun c hc => List.mem_takeWhile_imp hc⟩
      rw [← ht, leadingBlanks_append_trimStart]
    · simp at h
  · simp at h

/-- The end of a comment does not begin in the text of the comment. -/
theorem commentEnd?_none {s content : List Char} (hc : ¬ HasCommentEnd content)
    (hs : s <:+ content) (hne : s ≠ []) (rest : List Char) :
    commentEnd? (s ++ '-' :: '-' :: '>' :: rest) = none := by
  cases hend : commentEnd? (s ++ '-' :: '-' :: '>' :: rest) with
  | none => rfl
  | some after =>
    exfalso
    obtain ⟨gap, heq, hgap⟩ := commentEnd?_some hend
    obtain ⟨c, s, rfl⟩ := List.exists_cons_of_ne_nil hne
    obtain ⟨rfl, hsecond⟩ := List.cons.inj heq
    cases s with
    | nil =>
      -- The dash before the end would leave another one where white space has to be.
      have hthird := (List.cons.inj hsecond).2
      cases gap with
      | nil => simp at hthird
      | cons d gap =>
        have hdash := hgap d (by simp)
        rw [← (List.cons.inj hthird).1] at hdash
        revert hdash
        decide
    | cons d s =>
      obtain ⟨rfl, hgo⟩ := List.cons.inj hsecond
      rcases List.append_eq_append_iff.mp hgo with ⟨m, hm, hrest⟩ | ⟨m, hm, hrest⟩
      · cases m with
        | nil => simp at hrest
        | cons e m =>
          have hdash := hgap e (by simp [hm])
          rw [← (List.cons.inj hrest).1] at hdash
          revert hdash
          decide
      · cases m with
        | nil => simp at hrest
        | cons e m =>
          obtain ⟨before, hbefore⟩ := hs
          rw [← (List.cons.inj hrest).1] at hm
          exact hc ⟨before, gap, m, by rw [← hbefore, hm], hgap⟩

theorem readMarkup_comment {content : List Char} (h : ¬ HasCommentEnd content) (rest : List Char) :
    readMarkup none ('!' :: '-' :: '-' :: (content ++ '-' :: '-' :: '>' :: rest)) =
      .ok (some (.comment content, rest)) := by
  have hend : commentEnd? ('-' :: '-' :: '>' :: rest) = some rest := by
    have hblank : isBlank '>' = false := rfl
    simp [commentEnd?, trimStart, hblank]
  have hcut := cutWhere_append (fun s hs hne => commentEnd?_none h hs hne rest) hend
  simp [readMarkup, readDeclaration, hcut]

end ComponentSplit
