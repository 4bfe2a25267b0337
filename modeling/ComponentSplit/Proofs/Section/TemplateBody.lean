import ComponentSplit.Proofs.Markup.SpacedTag
import ComponentSplit.Proofs.Section.Reading

namespace ComponentSplit

def templateEnd : List Char := "</template>".toList

/-- The body of a template, with nested templates to any depth. Start tags and end tags of other
elements need not match; scripts and styles hold any text without an end tag of theirs. -/
inductive TemplateBody
  | done
  | text (content : List Char) (no_sign : '<' ∉ content) (rest : TemplateBody)
  | comment (content : List Char) (no_end : ¬ HasCommentEnd content) (rest : TemplateBody)
  | startTag (name : List Char) (attrs : List PlainAttribute) (isEndName : IsEndName name)
      (isOther : String.ofList (lower name) ∉ ["template", "script", "style"])
      (rest : TemplateBody)
  | selfClosing (name : List Char) (attrs : List PlainAttribute) (isEndName : IsEndName name)
      (rest : TemplateBody)
  | endTag (name : List Char) (isEndName : IsEndName name)
      (not_template : String.ofList (lower name) ≠ "template") (rest : TemplateBody)
  | template (attrs : List PlainAttribute) (inner rest : TemplateBody)
  | rawText (name : String) (isRaw : name = "script" ∨ name = "style")
      (attrs : List PlainAttribute) (content : List Char) (no_endTag : ¬ HasEndTag name content)
      (rest : TemplateBody)

namespace TemplateBody

def written : TemplateBody → List Char
  | done => []
  | text content _ rest => content ++ rest.written
  | comment content _ rest =>
    '<' :: '!' :: '-' :: '-' :: (content ++ '-' :: '-' :: '>' :: rest.written)
  | startTag name attrs _ _ rest => '<' :: (name ++ (attributesText attrs ++ '>' :: rest.written))
  | selfClosing name attrs _ rest =>
    '<' :: (name ++ (attributesText attrs ++ '/' :: '>' :: rest.written))
  | endTag name _ _ rest => '<' :: '/' :: (name ++ '>' :: rest.written)
  | template attrs inner rest =>
    '<' :: ("template".toList ++ (attributesText attrs ++
      '>' :: (inner.written ++ (templateEnd ++ rest.written))))
  | rawText name _ attrs content _ rest =>
    '<' :: (name.toList ++ (attributesText attrs ++
      '>' :: (content ++ '<' :: '/' :: (name.toList ++ '>' :: rest.written))))

/-- The texts of a body whose references are looked at, in their order: values of attributes, and
the texts between markup, each as long as it goes; `pending` is what stands before the body. -/
def checkedTexts (pending : List Char) : TemplateBody → List (List Char)
  | done => [pending]
  | text content _ rest => rest.checkedTexts (pending ++ content)
  | comment _ _ rest => pending :: rest.checkedTexts []
  | startTag _ attrs _ _ rest => (pending :: valueTexts attrs) ++ rest.checkedTexts []
  | selfClosing _ attrs _ rest => (pending :: valueTexts attrs) ++ rest.checkedTexts []
  | endTag _ _ _ rest => pending :: rest.checkedTexts []
  | template attrs inner rest =>
    (pending :: valueTexts attrs) ++ (inner.checkedTexts [] ++ rest.checkedTexts [])
  | rawText _ _ attrs _ _ rest => (pending :: valueTexts attrs) ++ rest.checkedTexts []

section Equations

variable {name content pending : List Char} {attrs : List PlainAttribute}
  {inner rest : TemplateBody}

@[simp] theorem written_text {h : '<' ∉ content} :
    (text content h rest).written = content ++ rest.written := rfl

@[simp] theorem written_comment {h : ¬ HasCommentEnd content} :
    (comment content h rest).written =
      '<' :: '!' :: '-' :: '-' :: (content ++ '-' :: '-' :: '>' :: rest.written) := rfl

@[simp] theorem written_startTag {h : IsEndName name}
    {ho : String.ofList (lower name) ∉ ["template", "script", "style"]} :
    (startTag name attrs h ho rest).written =
      '<' :: (name ++ (attributesText attrs ++ '>' :: rest.written)) := rfl

@[simp] theorem written_selfClosing {h : IsEndName name} :
    (selfClosing name attrs h rest).written =
      '<' :: (name ++ (attributesText attrs ++ '/' :: '>' :: rest.written)) := rfl

@[simp] theorem written_endTag {h : IsEndName name}
    {hn : String.ofList (lower name) ≠ "template"} :
    (endTag name h hn rest).written = '<' :: '/' :: (name ++ '>' :: rest.written) := rfl

@[simp] theorem written_template :
    (template attrs inner rest).written =
      '<' :: ("template".toList ++ (attributesText attrs ++
        '>' :: (inner.written ++ (templateEnd ++ rest.written)))) := rfl

@[simp] theorem written_rawText {raw : String} {hr : raw = "script" ∨ raw = "style"}
    {he : ¬ HasEndTag raw content} :
    (rawText raw hr attrs content he rest).written =
      '<' :: (raw.toList ++ (attributesText attrs ++
        '>' :: (content ++ '<' :: '/' :: (raw.toList ++ '>' :: rest.written)))) := rfl

theorem checkedTexts_template :
    (template attrs inner rest).checkedTexts pending =
      (pending :: valueTexts attrs) ++ (inner.checkedTexts [] ++ rest.checkedTexts []) := rfl

theorem checkedTexts_rawText {raw : String} {hr : raw = "script" ∨ raw = "style"}
    {he : ¬ HasEndTag raw content} :
    (rawText raw hr attrs content he rest).checkedTexts pending =
      (pending :: valueTexts attrs) ++ rest.checkedTexts [] := rfl

end Equations

end TemplateBody

theorem isEndName_template : IsEndName "template".toList :=
  ⟨'t', "emplate".toList, rfl, rfl, List.all_eq_true.mp rfl⟩

theorem isEndName_of_isRaw {name : String} (h : name = "script" ∨ name = "style") :
    IsEndName name.toList := by
  rcases h with rfl | rfl
  · exact ⟨'s', "cript".toList, rfl, rfl, List.all_eq_true.mp rfl⟩
  · exact ⟨'s', "tyle".toList, rfl, rfl, List.all_eq_true.mp rfl⟩

theorem lower_of_isRaw {name : String} (h : name = "script" ∨ name = "style") :
    lower name.toList = name.toList := by
  rcases h with rfl | rfl
  · decide +kernel
  · decide +kernel

theorem lower_template : lower "template".toList = "template".toList := by
  decide +kernel

namespace Scan

variable {source : Source} {scan : Scan} {look : Look} {left : Remainder} {o : OpenSection}

/-- Inside an open section a start tag only counts when it opens a nested template. -/
theorem step_inside {position : Position} {l : Lexeme} {name : String} {attrs : List Attribute}
    (ho : scan.opened = some o) (hl : l.token = .startTag name attrs) (hc : IsClosable name) :
    scan.step source position l =
      .ok (⟨some { o with depth := if name = "template" then o.depth + 1 else o.depth },
        if name = "script" ∨ name = "style" then some (.ofChain name) else scan.raw⟩, none) := by
  unfold Scan.step
  simp only [hl, ho, rawTextAfter_startTag hc]

theorem step_selfClosing {position : Position} {l : Lexeme} {name : String}
    {attrs : List Attribute} (ho : scan.opened = some o) (hl : l.token = .selfClosing name attrs) :
    scan.step source position l = .ok (scan, none) := by
  unfold Scan.step
  simp only [hl, ho, rawTextAfter]
  rw [← ho]

/-- Inside a template the end tag of another element closes nothing but raw text. -/
theorem step_otherEnd {position : Position} {l : Lexeme} {name : String}
    (ho : scan.opened = some o) (htag : o.tag = "template") (hl : l.token = .endTag name)
    (hn : name ≠ "template") : scan.step source position l = .ok (⟨some o, none⟩, none) := by
  unfold Scan.step
  simp [hl, ho, rawTextAfter, htag, hn]

/-- The end tag of a nested template closes that one. -/
theorem step_innerEnd {position : Position} {l : Lexeme} (ho : scan.opened = some o)
    (htag : o.tag = "template") (hl : l.token = .endTag "template") (hd : 1 < o.depth) :
    scan.step source position l =
      .ok (⟨some { o with depth := o.depth - 1 }, none⟩, none) := by
  unfold Scan.step
  have hdeep : ¬ o.depth ≤ 1 := by omega
  simp [hl, ho, rawTextAfter, htag, hdeep]

end Scan

theorem spellsName_template : SpellsName "template" "template".toList :=
  ⟨[], "template".toList, [], rfl, by simp, isEndName_template, lower_template, by simp⟩

theorem spellsName_of_isRaw {name : String} (h : name = "script" ∨ name = "style") :
    SpellsName name name.toList :=
  ⟨[], name.toList, [], by simp, by simp, isEndName_of_isRaw h, lower_of_isRaw h, by simp⟩

section Body

variable {source : Source} {look : Look} {left : Remainder} {o : OpenSection}

/-- Behind the body of an open template reading has come to the end tag that follows it. -/
def TemplateBody.IsRead (body : TemplateBody) (source : Source) (look : Look) : Prop :=
  ∀ {left : Remainder} {o : OpenSection} {before after : List Char}, o.tag = "template" →
    1 ≤ o.depth → left.text = before ++ (body.written ++ (templateEnd ++ after)) → '<' ∉ before →
    Scan.run source ⟨some o, none⟩ look left = afterTexts (body.checkedTexts before)
      (Scan.runFrom source ⟨some o, none⟩ look (left.moveTo (templateEnd ++ after))
        ⟨.endTag "template", templateEnd ++ after, after⟩)

theorem TemplateBody.IsRead.behind {body : TemplateBody} (h : body.IsRead source look)
    (htag : o.tag = "template") (hd : 1 ≤ o.depth) {after : List Char}
    (hleft : body.written ++ (templateEnd ++ after) <:+ left.text) :
    Scan.run source ⟨some o, none⟩ look (left.moveTo (body.written ++ (templateEnd ++ after))) =
      afterTexts (body.checkedTexts [])
        (Scan.runFrom source ⟨some o, none⟩ look (left.moveTo (templateEnd ++ after))
          ⟨.endTag "template", templateEnd ++ after, after⟩) := by
  rw [h htag hd (List.nil_append _).symm List.not_mem_nil,
    Remainder.moveTo_moveTo hleft (List.suffix_append _ _)]

namespace TemplateBody.IsRead

variable {name : List Char} {attrs : List PlainAttribute} {content : List Char}
  {inner rest : TemplateBody}

/-- Behind markup that leaves the open template as it is the rest of a body is read. -/
theorem behindMarkup (h : rest.IsRead source look) {before tail after : List Char} {token : Token}
    (values : List (List Char)) (htag : o.tag = "template") (hd : 1 ≤ o.depth)
    (htext : left.text = before ++ '<' :: tail) (hb : '<' ∉ before)
    (hrest : rest.written ++ (templateEnd ++ after) <:+ tail)
    (hmarkup : readMarkup none tail =
      match firstLongReference? values with
      | some count => .error (.longReference count)
      | none => .ok (some (token, rest.written ++ (templateEnd ++ after))))
    (hstep : ∀ position (l : Lexeme), l.token = token →
      Scan.step source ⟨some o, none⟩ position l = .ok (⟨some o, none⟩, none)) :
    Scan.run source ⟨some o, none⟩ look left =
      afterTexts ((before :: values) ++ rest.checkedTexts [])
        (Scan.runFrom source ⟨some o, none⟩ look (left.moveTo (templateEnd ++ after))
          ⟨.endTag "template", templateEnd ++ after, after⟩) := by
  have hleft : rest.written ++ (templateEnd ++ after) <:+ left.text := by
    rw [htext]
    exact (hrest.trans (List.suffix_cons _ _)).trans (List.suffix_append _ _)
  rw [Scan.run_quiet values rfl htext hb hmarkup hstep, h.behind htag hd hleft, afterTexts_append]

theorem done : TemplateBody.done.IsRead source look := by
  intro left o before after htag hd htext hb
  have hend : templateEnd ++ after = '<' :: '/' :: ("template".toList ++ '>' :: after) := rfl
  exact Scan.run_markup [] rfl hend htext hb (readMarkup_endTag spellsName_template after)

theorem text (h : rest.IsRead source look) (no_sign : '<' ∉ content) :
    (TemplateBody.text content no_sign rest).IsRead source look := by
  intro left o before after htag hd htext hb
  have hboth : '<' ∉ before ++ content := by simp [hb, no_sign]
  refine h htag hd ?_ hboth
  simpa using htext

theorem comment (h : rest.IsRead source look) (no_end : ¬ HasCommentEnd content) :
    (TemplateBody.comment content no_end rest).IsRead source look := by
  intro left o before after htag hd htext hb
  refine h.behindMarkup [] htag hd ?_ hb ?_ (readMarkup_comment no_end _) ?_
  · simpa using htext
  · exact ⟨'!' :: '-' :: '-' :: (content ++ ['-', '-', '>']), by simp⟩
  · intro position l hl
    exact Scan.step_of_not_tag (by simp [hl, Token.isTag])

theorem startTag (h : rest.IsRead source look) (isEndName : IsEndName name)
    (isOther : String.ofList (lower name) ∉ ["template", "script", "style"]) :
    (TemplateBody.startTag name attrs isEndName isOther rest).IsRead source look := by
  intro left o before after htag hd htext hb
  have hclosable : IsClosable (String.ofList (lower name)) := ⟨name, isEndName, by simp⟩
  refine h.behindMarkup (valueTexts attrs) htag hd ?_ hb ?_
    (readMarkup_startTag none isEndName attrs _) ?_
  · simpa using htext
  · exact ⟨name ++ (attributesText attrs ++ ['>']), by simp⟩
  · intro position l hl
    simp only [List.mem_cons, List.not_mem_nil, or_false, not_or] at isOther
    rw [Scan.step_inside rfl hl hclosable]
    simp [isOther]

theorem selfClosing (h : rest.IsRead source look) (isEndName : IsEndName name) :
    (TemplateBody.selfClosing name attrs isEndName rest).IsRead source look := by
  intro left o before after htag hd htext hb
  refine h.behindMarkup (valueTexts attrs) htag hd ?_ hb ?_
    (readMarkup_selfClosing none isEndName attrs _) ?_
  · simpa using htext
  · exact ⟨name ++ (attributesText attrs ++ ['/', '>']), by simp⟩
  · intro position l hl
    exact Scan.step_selfClosing rfl hl

theorem endTag (h : rest.IsRead source look) (isEndName : IsEndName name)
    (not_template : String.ofList (lower name) ≠ "template") :
    (TemplateBody.endTag name isEndName not_template rest).IsRead source look := by
  intro left o before after htag hd htext hb
  refine h.behindMarkup [] htag hd ?_ hb ?_ (readMarkup_endTag isEndName.spellsName _) ?_
  · simpa using htext
  · exact ⟨'/' :: (name ++ ['>']), by simp⟩
  · intro position l hl
    exact Scan.step_otherEnd rfl htag hl not_template

/-- A nested template is one deeper; its end tag gives back the depth from before. -/
theorem template (hi : inner.IsRead source look) (hr : rest.IsRead source look) :
    (TemplateBody.template attrs inner rest).IsRead source look := by
  intro left o before after htag hd htext hb
  have hstart : left.text = before ++ '<' :: ("template".toList ++ (attributesText attrs ++ '>' ::
      (inner.written ++ (templateEnd ++ (rest.written ++ (templateEnd ++ after)))))) := by
    simpa using htext
  have hinner : inner.written ++ (templateEnd ++ (rest.written ++ (templateEnd ++ after))) <:+
      left.text := by
    refine ⟨before ++ '<' :: ("template".toList ++ (attributesText attrs ++ ['>'])), ?_⟩
    simp [hstart]
  have hend : templateEnd ++ (rest.written ++ (templateEnd ++ after)) <:+ left.text :=
    (List.suffix_append _ _).trans hinner
  have hrest : rest.written ++ (templateEnd ++ after) <:+
      templateEnd ++ (rest.written ++ (templateEnd ++ after)) := List.suffix_append _ _
  have hopen (position : Position) (l : Lexeme) (hl : l.token = .startTag
      (String.ofList (lower "template".toList)) (attrs.map PlainAttribute.read)) :
      Scan.step source ⟨some o, none⟩ position l =
        .ok (⟨some { o with depth := o.depth + 1 }, none⟩, none) := by
    rw [lower_template, String.ofList_toList] at hl
    rw [Scan.step_inside rfl hl spellsName_template.isClosable]
    simp
  have hshut (position : Position) (l : Lexeme) (hl : l.token = .endTag "template") :
      Scan.step source ⟨some { o with depth := o.depth + 1 }, none⟩ position l =
        .ok (⟨some o, none⟩, none) :=
    Scan.step_innerEnd (o := { o with depth := o.depth + 1 }) rfl htag hl (Nat.lt_succ_of_le hd)
  have hinside := hi.behind (o := { o with depth := o.depth + 1 }) htag (Nat.le_succ_of_le hd)
    hinner
  rw [Scan.run_quiet (valueTexts attrs) rfl hstart hb
      (readMarkup_startTag none isEndName_template attrs _) hopen, hinside,
    Scan.runFrom_of_quiet (hshut _ _ rfl), Remainder.moveTo_moveTo hend hrest,
    hr.behind htag hd (hrest.trans hend), checkedTexts_template, afterTexts_append,
    afterTexts_append]

theorem rawText (h : rest.IsRead source look) {raw : String}
    (isRaw : raw = "script" ∨ raw = "style") (no_endTag : ¬ HasEndTag raw content) :
    (TemplateBody.rawText raw isRaw attrs content no_endTag rest).IsRead source look := by
  intro left o before after htag hd htext hb
  have hspells := spellsName_of_isRaw isRaw
  have hstart : left.text = before ++ '<' :: (raw.toList ++ (attributesText attrs ++ '>' ::
      (content ++ '<' :: '/' :: (raw.toList ++
        '>' :: (rest.written ++ (templateEnd ++ after)))))) := by
    simpa using htext
  have hcontent : content ++ '<' :: '/' :: (raw.toList ++
      '>' :: (rest.written ++ (templateEnd ++ after))) <:+ left.text := by
    refine ⟨before ++ '<' :: (raw.toList ++ (attributesText attrs ++ ['>'])), ?_⟩
    simp [hstart]
  have hend : '<' :: '/' :: (raw.toList ++ '>' :: (rest.written ++ (templateEnd ++ after))) <:+
      left.text := (List.suffix_append _ _).trans hcontent
  have hrest : rest.written ++ (templateEnd ++ after) <:+
      '<' :: '/' :: (raw.toList ++ '>' :: (rest.written ++ (templateEnd ++ after))) :=
    ⟨'<' :: '/' :: (raw.toList ++ ['>']), by simp⟩
  have hne : raw ≠ "template" := by
    rcases isRaw with rfl | rfl
    · decide
    · decide
  have hopen (position : Position) (l : Lexeme) (hl : l.token = .startTag
      (String.ofList (lower raw.toList)) (attrs.map PlainAttribute.read)) :
      Scan.step source ⟨some o, none⟩ position l = .ok (⟨some o, some (.ofChain raw)⟩, none) := by
    rw [lower_of_isRaw isRaw, String.ofList_toList] at hl
    rw [Scan.step_inside rfl hl hspells.isClosable, if_neg hne, if_pos isRaw]
  have hshut (position : Position) (l : Lexeme) (hl : l.token = .endTag raw) :
      Scan.step source ⟨some o, some (.ofChain raw)⟩ position l = .ok (⟨some o, none⟩, none) :=
    Scan.step_otherEnd rfl htag hl hne
  rw [Scan.run_quiet (valueTexts attrs) rfl hstart hb
      (readMarkup_startTag none (isEndName_of_isRaw isRaw) attrs _) hopen,
    Scan.run_rawBody rfl hspells rfl rfl no_endTag,
    Remainder.moveTo_moveTo hcontent (List.suffix_append _ _),
    Scan.runFrom_of_quiet (hshut _ _ rfl), Remainder.moveTo_moveTo hend hrest,
    h.behind htag hd (hrest.trans hend), checkedTexts_rawText, afterTexts_append]

end TemplateBody.IsRead

theorem TemplateBody.isRead (body : TemplateBody) : body.IsRead source look := by
  induction body with
  | done => exact IsRead.done
  | text _ no_sign _ ih => exact ih.text no_sign
  | comment _ no_end _ ih => exact ih.comment no_end
  | startTag _ _ isEndName isOther _ ih => exact ih.startTag isEndName isOther
  | selfClosing _ _ isEndName _ ih => exact ih.selfClosing isEndName
  | endTag _ isEndName not_template _ ih => exact ih.endTag isEndName not_template
  | template _ _ _ ihInner ihRest => exact ihInner.template ihRest
  | rawText _ isRaw _ _ no_endTag _ ih => exact ih.rawText isRaw no_endTag

def templateText (attrs : List PlainAttribute) (body : TemplateBody) : List Char :=
  '<' :: ("template".toList ++ (attributesText attrs ++ '>' :: (body.written ++ templateEnd)))

def templateSaid (attrs : List PlainAttribute) (body : TemplateBody) :
    String × List Attribute × String :=
  ("template", attrs.map PlainAttribute.read, String.ofList body.written)

/-- A template that stands behind a text is read up to the end tag behind its body. -/
theorem Scan.run_template (attrs : List PlainAttribute) (body : TemplateBody)
    {before after : List Char} (hleft : left.Of source)
    (htext : left.text = before ++ (templateText attrs body ++ after)) (hb : '<' ∉ before) :
    ∃ found : Section, found.said = templateSaid attrs body ∧ Scan.run source {} look left =
      afterTexts ((before :: valueTexts attrs) ++ body.checkedTexts [])
        ((Scan.run source {} look (left.moveTo after)).map ((some found).toList ++ ·)) := by
  have htag : left.text = before ++ '<' :: ("template".toList ++ (attributesText attrs ++
      '>' :: (body.written ++ (templateEnd ++ after)))) := by
    simpa [templateText] using htext
  have hbody : body.written ++ (templateEnd ++ after) <:+ "template".toList ++
      (attributesText attrs ++ '>' :: (body.written ++ (templateEnd ++ after))) :=
    ⟨"template".toList ++ (attributesText attrs ++ ['>']), by simp⟩
  have hinner : body.written ++ (templateEnd ++ after) <:+ left.text := by
    rw [htag]
    exact (hbody.trans (List.suffix_cons _ _)).trans (List.suffix_append _ _)
  have hmarkup := readMarkup_startTag none isEndName_template attrs
    (body.written ++ (templateEnd ++ after))
  rw [lower_template, String.ofList_toList] at hmarkup
  have hopen (position : Position) (l : Lexeme)
      (hl : l.token = .startTag "template" (attrs.map PlainAttribute.read)) :
      Scan.step source {} position l = .ok (⟨some (.ofTag source position l "template"
        (attrs.map PlainAttribute.read)), none⟩, none) :=
    Scan.step_template hl
  refine Scan.run_section (valueTexts attrs) (body.checkedTexts []) hleft htag hb hmarkup hbody
    (List.suffix_append _ _) hopen ?_
  intro o ho hd
  have hread : body.IsRead source look := body.isRead
  exact hread.behind ho (Nat.le_of_eq hd.symm) hinner

/-- A template with nothing around it is the one section of what is left to read. -/
theorem Scan.run_templateText {attrs : List PlainAttribute} {body : TemplateBody}
    (hleft : left.Of source) (htext : left.text = templateText attrs body) :
    sayings (Scan.run source {} look left) =
      afterTexts (valueTexts attrs ++ body.checkedTexts []) (.ok [templateSaid attrs body]) := by
  have htemplate : left.text = [] ++ (templateText attrs body ++ []) := by simp [htext]
  obtain ⟨found, hfound, hrun⟩ : ∃ found : Section, found.said = templateSaid attrs body ∧
      Scan.run source {} look left = _ :=
    Scan.run_template attrs body hleft htemplate List.not_mem_nil
  rw [hrun, Scan.run_end rfl List.not_mem_nil, sayings_afterTexts, List.cons_append,
    afterTexts_cons, ← hfound]
  rfl

end Body

/-- Dividing a template with any body gives that one template, with its body character by character;
a decimal reference with too many digits in a value or in a text of the body makes it fail, and
nothing else does. -/
theorem parseSections_template (attrs : List PlainAttribute) (body : TemplateBody) :
    sayings (parseSections (templateText attrs body)) =
      match firstLongReference? (valueTexts attrs ++ body.checkedTexts []) with
      | some count => .error (.markup (.longReference count))
      | none => .ok [("template", attrs.map PlainAttribute.read, String.ofList body.written)] :=
  Scan.run_templateText (.first _) rfl

def numberedTemplate : TemplateBody :=
  .text overlongNumber sign_not_mem_overlongNumber .done

theorem numberedTemplate_not_divided :
    sayings (parseSections (templateText [] numberedTemplate)) ≠
      .ok [("template", [], String.ofList numberedTemplate.written)] := by
  have hlong := longReference?_overlongNumber
  have hcount : firstLongReference? (valueTexts [] ++ numberedTemplate.checkedTexts []) =
      some (maxDigits + 1) := by
    simp [numberedTemplate, TemplateBody.checkedTexts, valueTexts, firstLongReference?_cons, hlong]
  have hread (body : TemplateBody) : sayings (parseSections (templateText [] body)) =
      afterTexts (valueTexts [] ++ body.checkedTexts []) (.ok [templateSaid [] body]) :=
    Scan.run_templateText (.first _) rfl
  rw [hread, afterTexts, hcount]
  simp

end ComponentSplit
