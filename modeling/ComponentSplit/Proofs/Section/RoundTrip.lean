import ComponentSplit.Proofs.Markup.SpacedTag
import ComponentSplit.Proofs.Section.Reading

namespace ComponentSplit

/-- The name of an attribute: a small letter, then small letters, digits and hyphens. -/
def IsSmallName (name : List Char) : Prop :=
  ∃ c rest, name = c :: rest ∧ c.isLower = true ∧
    ∀ d ∈ rest, d.isLower = true ∨ d.isDigit = true ∨ d = '-'

/-- An attribute that is read as it is written: its value holds no quote and no reference. -/
structure LiteralAttribute where
  name : List Char
  value : Option (List Char)
  isSmallName : IsSmallName name
  no_quote : ∀ v ∈ value, '"' ∉ v
  no_reference : ∀ v ∈ value, '&' ∉ v

theorem IsSmallName.isNameRest {name : List Char} (h : IsSmallName name) :
    ∀ c ∈ name, isNameRest c = true ∧ c.toNat < 128 ∧ asciiLower c = c := by
  have hsmall {c : Char} (hc : (97 ≤ c.toNat ∧ c.toNat ≤ 122) ∨ (48 ≤ c.toNat ∧ c.toNat ≤ 57) ∨
      c.toNat = 45) : ComponentSplit.isNameRest c = true ∧ c.toNat < 128 ∧ asciiLower c = c := by
    have hb : isBlank c = false := by
      simp only [isBlank, Bool.or_eq_false_iff, Bool.and_eq_false_iff, decide_eq_false_iff_not,
        beq_eq_false_iff_ne]
      omega
    have hne {d : Char} (hd : d.toNat ∈ [47, 62, 61]) : c ≠ d := by
      rintro rfl
      simp only [List.mem_cons, List.not_mem_nil, or_false] at hd
      omega
    refine ⟨?_, by omega, ?_⟩
    · simp [ComponentSplit.isNameRest, isNameStart, hb, hne]
    · apply Char.ext
      apply UInt32.toNat_inj.mp
      have hl := asciiLower_toNat (c := c)
      rw [if_neg (by omega)] at hl
      exact hl
  obtain ⟨c, rest, rfl, hc, hr⟩ := h
  rw [List.forall_mem_cons]
  refine ⟨hsmall (.inl (toNat_of_isLower hc)), fun d hd => ?_⟩
  rcases hr d hd with h | h | rfl
  · exact hsmall (.inl (toNat_of_isLower h))
  · exact hsmall (.inr (.inl (toNat_of_isDigit h)))
  · exact hsmall (.inr (.inr rfl))

namespace LiteralAttribute

def plain (a : LiteralAttribute) : PlainAttribute where
  name := a.name
  value := a.value
  name_ne_nil := by
    obtain ⟨c, rest, h, -⟩ := a.isSmallName
    simp [h]
  name_chars := fun c hc => (a.isSmallName.isNameRest c hc).1
  value_chars := a.no_quote

def literal (a : LiteralAttribute) : Attribute := ⟨String.ofList a.name, a.value.map String.ofList⟩

theorem plain_read (a : LiteralAttribute) : a.plain.read = a.literal := by
  have hname : lower a.name = a.name := by
    rw [lower_ascii fun c hc => (a.isSmallName.isNameRest c hc).2.1]
    have hmap : a.name.map asciiLower = a.name.map id :=
      List.map_congr_left fun c hc => (a.isSmallName.isNameRest c hc).2.2
    rw [hmap, List.map_id]
  have hvalue : a.value.map (fun v => String.ofList (unescape v)) = a.value.map String.ofList := by
    cases hv : a.value with
    | none => rfl
    | some v => simp [unescape_eq_self (a.no_reference v hv)]
  simp [PlainAttribute.read, PlainAttribute.written, WrittenAttribute.read, plain, literal, hname,
    hvalue]

end LiteralAttribute

theorem longReference?_eq_none {text : List Char} (h : '&' ∉ text) :
    longReference? text = none := by
  induction text with
  | nil => rfl
  | cons c rest ih =>
    rw [List.mem_cons, not_or] at h
    simp [longReference?, Ne.symm h.1, ih h.2]

theorem firstLongReference?_literal (attrs : List LiteralAttribute) :
    firstLongReference? (valueTexts (attrs.map LiteralAttribute.plain)) = none := by
  apply List.findSome?_eq_none_iff.mpr
  intro v hv
  obtain ⟨p, hp, hv⟩ := List.mem_filterMap.mp hv
  obtain ⟨a, -, rfl⟩ := List.mem_map.mp hp
  exact longReference?_eq_none (a.no_reference v hv)

/-- A section as it is written into a document: neither a template nor an element that never has a
closing tag. Its body is any text without an end tag of the section. -/
structure WrittenSection where
  tag : List Char
  attrs : List LiteralAttribute
  body : List Char
  isEndName : IsEndName tag
  not_template : String.ofList (lower tag) ≠ "template"
  not_void : voidElements.contains (String.ofList (lower tag)) = false
  no_endTag : ¬ HasEndTag (String.ofList (lower tag)) body

namespace WrittenSection

def endTag (s : WrittenSection) : List Char := '<' :: '/' :: (s.tag ++ ['>'])

def text (s : WrittenSection) : List Char :=
  '<' :: (s.tag ++ (attributesText (s.attrs.map LiteralAttribute.plain) ++
    '>' :: (s.body ++ s.endTag)))

def name (s : WrittenSection) : String := String.ofList (lower s.tag)

def said (s : WrittenSection) : String × List Attribute × String :=
  (s.name, s.attrs.map LiteralAttribute.literal, String.ofList s.body)

end WrittenSection

/-- A part of a document: a section, or a text without markup or a comment around sections. -/
inductive DocumentPart
  | text (content : List Char) (no_sign : '<' ∉ content)
  | comment (content : List Char) (no_end : ¬ HasCommentEnd content)
  | element (s : WrittenSection)

namespace DocumentPart

def written : DocumentPart → List Char
  | text content _ => content
  | comment content _ => '<' :: '!' :: '-' :: '-' :: (content ++ "-->".toList)
  | element s => s.text

def element? : DocumentPart → Option WrittenSection
  | element s => some s
  | _ => none

end DocumentPart

/-- The texts of a document between its sections and comments, each as long as it goes; `pending` is
what stands in front of the parts. -/
def textRuns (pending : List Char) : List DocumentPart → List (List Char)
  | [] => [pending]
  | .text content _ :: parts => textRuns (pending ++ content) parts
  | .comment _ _ :: parts => pending :: textRuns [] parts
  | .element _ :: parts => pending :: textRuns [] parts

namespace Scan

variable {source : Source} {look : Look} {left : Remainder}

/-- A section that stands behind a text is read as it was written. -/
theorem run_element (s : WrittenSection) {before rest : List Char} (hleft : left.Of source)
    (htext : left.text = before ++ (s.text ++ rest)) (hb : '<' ∉ before) :
    ∃ found : Section, found.said = s.said ∧ Scan.run source {} look left =
      afterTexts [before]
        ((Scan.run source {} look (left.moveTo rest)).map ((some found).toList ++ ·)) := by
  have hclosable : IsClosable s.name := ⟨s.tag, s.isEndName, by simp [WrittenSection.name]⟩
  have hclose : s.endTag ++ rest = '<' :: '/' :: (s.tag ++ '>' :: rest) := by
    simp [WrittenSection.endTag]
  have htag : left.text = before ++ '<' :: (s.tag ++ (attributesText
      (s.attrs.map LiteralAttribute.plain) ++ '>' :: (s.body ++ (s.endTag ++ rest)))) := by
    simpa [WrittenSection.text] using htext
  have hbody : s.body ++ (s.endTag ++ rest) <:+ s.tag ++ (attributesText
      (s.attrs.map LiteralAttribute.plain) ++ '>' :: (s.body ++ (s.endTag ++ rest))) := by
    refine ⟨s.tag ++ (attributesText (s.attrs.map LiteralAttribute.plain) ++ ['>']), ?_⟩
    simp
  have hinner : s.body ++ (s.endTag ++ rest) <:+ left.text := by
    rw [htag]
    exact (hbody.trans (List.suffix_cons _ _)).trans (List.suffix_append _ _)
  have hmarkup : readMarkup none (s.tag ++ (attributesText (s.attrs.map LiteralAttribute.plain) ++
      '>' :: (s.body ++ (s.endTag ++ rest)))) = .ok (some (.startTag s.name
        (s.attrs.map LiteralAttribute.literal), s.body ++ (s.endTag ++ rest))) := by
    rw [readMarkup_startTag none s.isEndName, firstLongReference?_literal]
    simp [Function.comp_def, LiteralAttribute.plain_read, WrittenSection.name]
  have hopen (position : Position) (l : Lexeme)
      (hl : l.token = .startTag s.name (s.attrs.map LiteralAttribute.literal)) :
      Scan.step source {} position l = .ok (⟨some (.ofTag source position l s.name
        (s.attrs.map LiteralAttribute.literal)), some (.ofChain s.name)⟩, none) :=
    step_element hl hclosable s.not_void s.not_template
  refine run_section [] [] hleft htag hb hmarkup hbody (List.suffix_append _ _) hopen ?_
  intro o _ _
  rw [run_rawBody rfl s.isEndName.spellsName hclose rfl s.no_endTag,
    Remainder.moveTo_moveTo hinner (List.suffix_append _ _)]
  rfl

/-- The parts of a document that are left give the sections among them. -/
theorem run_parts (parts : List DocumentPart) {before : List Char} (hleft : left.Of source)
    (htext : left.text = before ++ parts.flatMap DocumentPart.written) (hb : '<' ∉ before) :
    sayings (Scan.run source {} look left) =
      afterTexts (textRuns before parts)
        (.ok ((parts.filterMap DocumentPart.element?).map WrittenSection.said)) := by
  induction parts generalizing before left with
  | nil =>
    have hsame : left.text = before := by simpa using htext
    rw [run_end rfl (hsame ▸ hb), hsame, sayings_afterTexts]
    rfl
  | cons part parts ih =>
    have hrest : (left.moveTo (parts.flatMap DocumentPart.written)).Of source :=
      hleft.moveTo ⟨before ++ part.written, by simp [htext]⟩
    have hothers := ih hrest (List.nil_append _).symm List.not_mem_nil
    rw [List.flatMap_cons] at htext
    cases part with
    | text content no_sign =>
      have hboth : '<' ∉ before ++ content := by simp [hb, no_sign]
      rw [DocumentPart.written, ← List.append_assoc] at htext
      exact ih hleft htext hboth
    | comment content no_end =>
      rw [run_comment rfl (by simpa [DocumentPart.written] using htext) hb no_end,
        sayings_afterTexts, hothers, textRuns, afterTexts_cons before (textRuns [] parts)]
      rfl
    | element s =>
      obtain ⟨found, hfound, hrun⟩ : ∃ found : Section, found.said = s.said ∧
          Scan.run source {} look left = _ := run_element s hleft htext hb
      rw [hrun, sayings_afterTexts, sayings_map_cons, hothers, hfound, map_afterTexts, textRuns,
        afterTexts_cons before (textRuns [] parts)]
      rfl

end Scan

/-- Dividing a document into sections gives back, in their order and character by character, the
sections that it was written from; a text around them that holds a decimal reference with too many
digits makes it fail, and nothing else does. -/
theorem parseSections_written (parts : List DocumentPart) :
    sayings (parseSections (parts.flatMap DocumentPart.written)) =
      match firstLongReference? (textRuns [] parts) with
      | some count => .error (.markup (.longReference count))
      | none => .ok ((parts.filterMap DocumentPart.element?).map WrittenSection.said) :=
  Scan.run_parts parts (.first _) rfl (by simp)

theorem isEndName_docs : IsEndName "docs".toList :=
  ⟨'d', "ocs".toList, rfl, rfl, List.all_eq_true.mp rfl⟩

theorem lower_docs : lower "docs".toList = "docs".toList := by
  decide +kernel

theorem docs_ne_template : String.ofList (lower "docs".toList) ≠ "template" := by
  rw [lower_docs]
  decide

theorem docs_not_void : voidElements.contains (String.ofList (lower "docs".toList)) = false := by
  rw [lower_docs]
  rfl

theorem not_hasEndTag_of_short {text : List Char} (h : text.length < 3) (name : String) :
    ¬ HasEndTag name text := by
  rintro ⟨before, tail, rfl, inside, rest, rfl, -⟩
  simp only [List.length_append, List.length_cons] at h
  omega

def numberedDocument : List DocumentPart :=
  [.element ⟨"docs".toList, [], "x".toList, isEndName_docs, docs_ne_template, docs_not_void,
      not_hasEndTag_of_short (Nat.le_of_ble_eq_true rfl) _⟩,
    .text overlongNumber sign_not_mem_overlongNumber]

theorem numberedDocument_not_divided :
    sayings (parseSections (numberedDocument.flatMap DocumentPart.written)) ≠
      .ok ((numberedDocument.filterMap DocumentPart.element?).map WrittenSection.said) := by
  have hread (parts : List DocumentPart) :
      sayings (parseSections (parts.flatMap DocumentPart.written)) =
        afterTexts (textRuns [] parts)
          (.ok ((parts.filterMap DocumentPart.element?).map WrittenSection.said)) :=
    Scan.run_parts parts (.first _) rfl (by simp)
  have hlong := longReference?_overlongNumber
  have hcount : firstLongReference? (textRuns [] numberedDocument) = some (maxDigits + 1) := by
    simp [numberedDocument, textRuns, firstLongReference?_cons, longReference?, hlong]
  rw [hread, afterTexts, hcount]
  simp

end ComponentSplit
