import ComponentSplit.Proofs.Markup.RawText
import ComponentSplit.Proofs.Markup.WrittenTag
import ComponentSplit.Proofs.Section.Step

namespace ComponentSplit

/-- The sections that end from a token on. -/
def Scan.runFrom (source : Source) (scan : Scan) (look : Look) (here : Remainder) (l : Lexeme) :
    Except SectionFault (List Section) :=
  match scan.step source here.position l with
  | .error fault => .error fault
  | .ok (next, found) => (Scan.run source next look (here.moveTo l.rest)).map (found.toList ++ ·)

section Run

variable {source : Source} {scan : Scan} {look : Look} {left : Remainder}

theorem Scan.run_of_next {found : Look} {l : Lexeme}
    (h : Lexeme.next scan.raw look left.text = .ok (some (l, found))) :
    Scan.run source scan look left = Scan.runFrom source scan found (left.moveTo l.here) l := by
  rw [Scan.run]
  split
  next hn => simp [h] at hn
  next hn => simp [h] at hn
  next hn =>
    cases h.symm.trans hn
    unfold Scan.runFrom
    cases hs : scan.step source (left.moveTo l.here).position l with
    | error fault => simp only [hs]
    | ok result =>
      obtain ⟨next, completed⟩ := result
      simp only [hs]
      cases Scan.run source next found ((left.moveTo l.here).moveTo l.rest) with
      | error fault => rfl
      | ok others => rfl

theorem Scan.run_of_error {fault : MarkupFault}
    (h : Lexeme.next scan.raw look left.text = .error fault) :
    Scan.run source scan look left = .error (.markup fault) := by
  rw [Scan.run]
  split
  next hn =>
    cases h.symm.trans hn
    rfl
  next hn => simp [h] at hn
  next hn => simp [h] at hn

theorem Scan.run_of_none (h : Lexeme.next scan.raw look left.text = .ok none) :
    Scan.run source scan look left = scan.finish := by
  rw [Scan.run]
  split
  next hn => simp [h] at hn
  next => rfl
  next hn => simp [h] at hn

end Run

/-- What reading comes to behind texts: a decimal reference with too many digits in one of them ends
it. -/
def afterTexts {α : Type} (texts : List (List Char)) (result : Except SectionFault α) :
    Except SectionFault α :=
  match firstLongReference? texts with
  | some count => .error (.markup (.longReference count))
  | none => result

theorem afterTexts_append {α : Type} (texts others : List (List Char))
    (result : Except SectionFault α) :
    afterTexts (texts ++ others) result = afterTexts texts (afterTexts others result) := by
  unfold afterTexts firstLongReference?
  rw [List.findSome?_append]
  cases texts.findSome? longReference? with
  | none => rfl
  | some count => rfl

theorem afterTexts_cons {α : Type} (text : List Char) (texts : List (List Char))
    (result : Except SectionFault α) :
    afterTexts (text :: texts) result = afterTexts [text] (afterTexts texts result) :=
  afterTexts_append [text] texts result

theorem map_afterTexts {α β : Type} (f : α → β) (texts : List (List Char))
    (result : Except SectionFault α) :
    (afterTexts texts result).map f = afterTexts texts (result.map f) := by
  unfold afterTexts
  cases firstLongReference? texts with
  | none => rfl
  | some count => rfl

theorem firstLongReference?_cons (text : List Char) (texts : List (List Char)) :
    firstLongReference? (text :: texts) =
      match longReference? text with
      | some count => some count
      | none => firstLongReference? texts := by
  rw [firstLongReference?, List.findSome?_cons]
  cases longReference? text with
  | none => rfl
  | some count => rfl

theorem ne_sign_of_not_mem {text : List Char} (h : '<' ∉ text) :
    ∀ c ∈ text, (c != '<') = true := by
  intro c hc
  simp only [bne_iff_ne]
  rintro rfl
  exact h hc

theorem sightPlain_markup {look : Look} {text tail : List Char} (ht : '<' ∉ text) :
    sightPlain look (text ++ '<' :: tail) =
      match longReference? text with
      | some count => .error (.longReference count)
      | none => sightMarkup none look tail := by
  have htext := ne_sign_of_not_mem ht
  have hhead : ∀ c ∈ ('<' :: tail).head?, (c != '<') = false := by
    rintro c ⟨⟩
    rfl
  unfold sightPlain
  rw [takeWhile_append_stop htext hhead, dropWhile_append_stop htext hhead, checkText]
  cases longReference? text with
  | none => rfl
  | some count => rfl

theorem sightPlain_end {look : Look} {text : List Char} (ht : '<' ∉ text) :
    sightPlain look text =
      match longReference? text with
      | some count => .error (.longReference count)
      | none => .ok (.stopped []) := by
  have htext := ne_sign_of_not_mem ht
  unfold sightPlain
  rw [List.takeWhile_eq_self_iff.mpr htext, List.dropWhile_eq_nil_iff.mpr htext, checkText]
  cases longReference? text with
  | none => rfl
  | some count => rfl

/-- Behind a text markup is the next token, when neither the text nor the values in the markup hold
a long reference. -/
theorem Lexeme.next_markup (look : Look) {before tail rest : List Char} {token : Token}
    (values : List (List Char)) (hb : '<' ∉ before)
    (hmarkup : readMarkup none tail =
      match firstLongReference? values with
      | some count => .error (.longReference count)
      | none => .ok (some (token, rest))) :
    Lexeme.next none look (before ++ '<' :: tail) =
      match firstLongReference? (before :: values) with
      | some count => .error (.longReference count)
      | none => .ok (some (⟨token, '<' :: tail, rest⟩, look)) := by
  unfold Lexeme.next sight
  rw [firstLongReference?_cons, sightPlain_markup hb]
  cases longReference? before with
  | some count => rfl
  | none =>
    unfold sightMarkup
    rw [hmarkup]
    cases firstLongReference? values with
    | some count => rfl
    | none => rfl

theorem Lexeme.next_end (look : Look) {text : List Char} (ht : '<' ∉ text) :
    Lexeme.next none look text =
      match longReference? text with
      | some count => .error (.longReference count)
      | none => .ok none := by
  have hnil : longReference? [] = none := rfl
  have hend (look : Look) : sightPlain look [] = .ok (.stopped []) := by
    simp [sightPlain_end, hnil]
  unfold Lexeme.next sight
  rw [sightPlain_end ht]
  cases longReference? text with
  | some count => rfl
  | none => simp [hend]

namespace Scan

variable {source : Source} {scan : Scan} {look : Look} {left : Remainder}

/-- Markup behind a text is where reading goes on, when neither the text nor the values in the
markup hold a long reference. -/
theorem run_markup {before here tail rest : List Char} {token : Token}
    (values : List (List Char)) (hraw : scan.raw = none) (hhere : here = '<' :: tail)
    (htext : left.text = before ++ here) (hb : '<' ∉ before)
    (hmarkup : readMarkup none tail =
      match firstLongReference? values with
      | some count => .error (.longReference count)
      | none => .ok (some (token, rest))) :
    Scan.run source scan look left =
      afterTexts (before :: values)
        (Scan.runFrom source scan look (left.moveTo here) ⟨token, here, rest⟩) := by
  subst hhere
  have hnext := Lexeme.next_markup look values hb hmarkup
  rw [← htext, ← hraw] at hnext
  unfold afterTexts
  cases hlong : firstLongReference? (before :: values) with
  | some count =>
    rw [hlong] at hnext
    exact Scan.run_of_error hnext
  | none =>
    rw [hlong] at hnext
    exact Scan.run_of_next hnext

/-- Behind the last markup only a text is left. -/
theorem run_end (hraw : scan.raw = none) (ht : '<' ∉ left.text) :
    Scan.run source scan look left = afterTexts [left.text] scan.finish := by
  have hnext := Lexeme.next_end look ht
  rw [← hraw] at hnext
  have hnone : firstLongReference? [] = none := rfl
  unfold afterTexts
  rw [firstLongReference?_cons, hnone]
  cases hlong : longReference? left.text with
  | some count =>
    rw [hlong] at hnext
    exact Scan.run_of_error hnext
  | none =>
    rw [hlong] at hnext
    exact Scan.run_of_none hnext

theorem runFrom_of_step {next : Scan} {found : Option Section} {here : Remainder} {l : Lexeme}
    (h : scan.step source here.position l = .ok (next, found)) :
    Scan.runFrom source scan look here l =
      (Scan.run source next look (here.moveTo l.rest)).map (found.toList ++ ·) := by
  simp [Scan.runFrom, h]

/-- A token that completes nothing hands the reading on. -/
theorem runFrom_of_quiet {next : Scan} {here : Remainder} {l : Lexeme}
    (h : scan.step source here.position l = .ok (next, none)) :
    Scan.runFrom source scan look here l = Scan.run source next look (here.moveTo l.rest) := by
  rw [runFrom_of_step h]
  cases Scan.run source next look (here.moveTo l.rest) with
  | error fault => rfl
  | ok others => rfl

theorem step_of_not_tag {position : Position} {l : Lexeme} (h : l.token.isTag = false) :
    scan.step source position l = .ok (scan, none) := by
  unfold Scan.step
  cases ht : l.token with
  | startTag name attrs => simp [ht, Token.isTag] at h
  | selfClosing name attrs => simp [ht, Token.isTag] at h
  | endTag name => simp [ht, Token.isTag] at h
  | _ => rfl

/-- Inside raw text reading passes over everything in front of the first end tag of the name. -/
theorem run_rawText {name : String} {inside rest : List Char}
    (hraw : scan.raw = some (.ofChain name)) (hspells : SpellsName name inside)
    (hsuffix : '<' :: '/' :: (inside ++ '>' :: rest) <:+ left.text)
    (hno : NoEndTagBefore name left.text ('<' :: '/' :: (inside ++ '>' :: rest))) :
    Scan.run source scan look left =
      Scan.runFrom source scan look (left.moveTo ('<' :: '/' :: (inside ++ '>' :: rest)))
        ⟨.endTag name, '<' :: '/' :: (inside ++ '>' :: rest), rest⟩ := by
  induction hn : left.text.length using Nat.strongRecOn generalizing left with
  | ind n ih =>
    have hstarts : StartsEndTag name ('<' :: '/' :: (inside ++ '>' :: rest)) :=
      ⟨inside, rest, rfl, hspells⟩
    have hin := hspells.end_not_mem
    rcases Lexeme.next_raw name look left.text with ⟨-, hnone⟩ |
      ⟨l, other, hnext, hhere, htext, hbefore, hl⟩
    · exact absurd hstarts (hnone _ hsuffix)
    · have hreach : '<' :: '/' :: (inside ++ '>' :: rest) <:+ l.here := by
        refine List.suffix_of_suffix_length_le hsuffix hhere ?_
        exact Nat.le_of_not_lt fun hlt => hbefore _ hsuffix hlt hstarts
      rw [← hraw] at hnext
      rw [run_of_next hnext]
      rcases hl with ⟨htoken, hother⟩ | ⟨⟨content, htoken⟩, hpast⟩
      · have hsame : l.here = '<' :: '/' :: (inside ++ '>' :: rest) := by
          refine (hreach.eq_of_length_le ?_).symm
          exact Nat.le_of_not_lt fun hlt => hno _ hhere hlt ⟨other, l.rest, htext, hother⟩
        have hrest : l.rest = rest := by
          have heq := htext.symm.trans hsame
          exact (eq_of_first hother.end_not_mem hin (List.cons.inj (List.cons.inj heq).2).2).2
        obtain ⟨token, here, after⟩ := l
        simp only at htoken hsame hrest
        rw [htoken, hsame, hrest]
      · have hquiet : l.token.isTag = false := by simp [htoken, Token.isTag]
        have hrest : l.rest <:+ l.here := ⟨'<' :: '/' :: (other ++ ['>']), by simp [htext]⟩
        have hreach' : '<' :: '/' :: (inside ++ '>' :: rest) <:+ l.rest := by
          refine List.suffix_of_suffix_length_le hreach hrest ?_
          exact Nat.le_of_not_lt fun hlt => hpast _ hreach hlt hstarts
        have hshorter : l.rest.length < n := by
          have hle := hhere.length_le
          rw [htext] at hle
          simp only [List.length_cons, List.length_append] at hle
          omega
        have hgo : Scan.run source scan look (left.moveTo l.rest) = _ :=
          ih _ hshorter hreach' (fun s hs hlt => hno s (hs.trans (hrest.trans hhere)) hlt) rfl
        rw [runFrom_of_quiet (step_of_not_tag hquiet), Remainder.moveTo_moveTo hhere hrest, hgo,
          Remainder.moveTo_moveTo (hrest.trans hhere) hreach']

/-- Behind markup that completes nothing reading goes on. -/
theorem run_quiet {before tail rest : List Char} {token : Token} {next : Scan}
    (values : List (List Char)) (hraw : scan.raw = none)
    (htext : left.text = before ++ '<' :: tail) (hb : '<' ∉ before)
    (hmarkup : readMarkup none tail =
      match firstLongReference? values with
      | some count => .error (.longReference count)
      | none => .ok (some (token, rest)))
    (hstep : ∀ position (l : Lexeme), l.token = token →
      scan.step source position l = .ok (next, none)) :
    Scan.run source scan look left =
      afterTexts (before :: values) (Scan.run source next look (left.moveTo rest)) := by
  rw [run_markup values hraw rfl htext hb hmarkup, runFrom_of_quiet (hstep _ _ rfl),
    afterTexts_cons, afterTexts_cons before values]
  cases hvalues : firstLongReference? values with
  | some count => simp [afterTexts, hvalues]
  | none =>
    rw [hvalues] at hmarkup
    have hrest := (readMarkup_suffix hmarkup).trans (List.suffix_cons '<' tail)
    rw [Remainder.moveTo_moveTo ⟨before, htext.symm⟩ hrest]

/-- A comment behind a text is passed over. -/
theorem run_comment {before content rest : List Char} (hraw : scan.raw = none)
    (htext : left.text =
      before ++ '<' :: '!' :: '-' :: '-' :: (content ++ '-' :: '-' :: '>' :: rest))
    (hb : '<' ∉ before) (hc : ¬ HasCommentEnd content) :
    Scan.run source scan look left =
      afterTexts [before] (Scan.run source scan look (left.moveTo rest)) :=
  run_quiet [] hraw htext hb (readMarkup_comment hc rest) fun _ _ hl =>
    step_of_not_tag (by simp [hl, Token.isTag])

/-- A text in raw text that holds no end tag of the name is passed over. -/
theorem run_rawBody {name : String} {inside rest body close : List Char}
    (hraw : scan.raw = some (.ofChain name)) (hspells : SpellsName name inside)
    (hclose : close = '<' :: '/' :: (inside ++ '>' :: rest)) (htext : left.text = body ++ close)
    (hbody : ¬ HasEndTag name body) :
    Scan.run source scan look left =
      Scan.runFrom source scan look (left.moveTo close) ⟨.endTag name, close, rest⟩ := by
  subst hclose
  refine run_rawText hraw hspells ⟨body, htext.symm⟩ ?_
  rw [htext]
  exact noEndTagBefore_append hbody rfl

end Scan

theorem rawTextAfter_startTag {name : String} (h : IsClosable name) (raw : Option RawText)
    (attrs : List Attribute) :
    rawTextAfter raw (.startTag name attrs) =
      .ok (if name = "script" ∨ name = "style" then some (.ofChain name) else raw) := by
  simp only [rawTextAfter, RawText.ofName_eq h]
  split
  · rfl
  · rfl

/-- The section that a start tag opens when reading comes to it outside all sections. -/
def OpenSection.ofTag (source : Source) (position : Position) (l : Lexeme) (tag : String)
    (attrs : List Attribute) : OpenSection :=
  ⟨tag, attrs, source.offset position, source.offset position + l.length, position, 1⟩

theorem OpenSection.ofTag_bodyStart {source : Source} {left : Remainder} {l : Lexeme}
    (hh : (left.moveTo l.here).Of source) (hr : (left.moveTo l.rest).Of source)
    (hs : l.rest <:+ l.here) (tag : String) (attrs : List Attribute) :
    (OpenSection.ofTag source (left.moveTo l.here).position l tag attrs).bodyStart =
      source.offset (left.moveTo l.rest).position := by
  obtain ⟨part, hpart⟩ := hs
  have hlength : l.length = part.length := by
    rw [Lexeme.length, ← hpart]
    simp
  rw [OpenSection.ofTag, hlength]
  exact hh.offset_add hr hpart.symm

theorem Scan.step_element {source : Source} {position : Position} {l : Lexeme} {name : String}
    {attrs : List Attribute} (hl : l.token = .startTag name attrs) (hc : IsClosable name)
    (hv : voidElements.contains name = false) (ht : name ≠ "template") :
    Scan.step source {} position l =
      .ok (⟨some (.ofTag source position l name attrs), some (.ofChain name)⟩, none) := by
  unfold Scan.step
  simp only [hl, rawTextAfter_startTag hc, hv, Bool.false_eq_true, ↓reduceIte, ht,
    RawText.ofName_eq hc]
  rfl

theorem Scan.step_template {source : Source} {position : Position} {l : Lexeme}
    {attrs : List Attribute} (hl : l.token = .startTag "template" attrs) :
    Scan.step source {} position l =
      .ok (⟨some (.ofTag source position l "template" attrs), none⟩, none) := by
  unfold Scan.step
  simp only [hl]
  rfl

theorem Scan.step_close {source : Source} {scan : Scan} {o : OpenSection} {position : Position}
    {l : Lexeme} (ho : scan.opened = some o) (hl : l.token = .endTag o.tag) (hd : o.depth ≤ 1) :
    Scan.step source scan position l =
      .ok ({}, some (o.close source (source.offset position))) := by
  unfold Scan.step
  simp only [hl, ho, rawTextAfter, hd, ↓reduceIte]
  split
  next ht => simp [ht]
  · rfl

/-- The content of a section is the part of the source between its tags. -/
theorem OpenSection.close_content {source : Source} {o : OpenSection} {inner close : Remainder}
    {body : List Char} (hi : inner.Of source) (hc : close.Of source)
    (ho : o.bodyStart = source.offset inner.position) (hb : inner.text = body ++ close.text) :
    (o.close source (source.offset close.position)).content = String.ofList body := by
  have hlength := hi.offset_add hc hb
  have hslice : source.slice (source.offset inner.position) (source.offset close.position) =
      body := by
    rw [Source.slice, hi.drop_offset, ← hlength, hb, Nat.add_sub_cancel_left]
    simp
  rw [OpenSection.close, ho, hslice]

/-- What a section says, wherever it stands: its tag, its attributes and its content. -/
def Section.said (s : Section) : String × List Attribute × String := (s.tag, s.attrs, s.content)

/-- A start tag behind a text opens a section. When the body behind it is read up to the end tag of
the section, the section is found with that body as its content. -/
theorem Scan.run_section {source : Source} {look : Look} {left : Remainder} {raw : Option RawText}
    {tag : String} {attrs : List Attribute} {before tail body close rest : List Char}
    (values texts : List (List Char)) (hleft : left.Of source)
    (htext : left.text = before ++ '<' :: tail) (hb : '<' ∉ before)
    (hmarkup : readMarkup none tail =
      match firstLongReference? values with
      | some count => .error (.longReference count)
      | none => .ok (some (.startTag tag attrs, body ++ close)))
    (hbody : body ++ close <:+ tail) (hrest : rest <:+ close)
    (hopen : ∀ position (l : Lexeme), l.token = .startTag tag attrs →
      Scan.step source {} position l = .ok (⟨some (.ofTag source position l tag attrs), raw⟩, none))
    (hread : ∀ o : OpenSection, o.tag = tag → o.depth = 1 →
      Scan.run source ⟨some o, raw⟩ look (left.moveTo (body ++ close)) =
        afterTexts texts (Scan.runFrom source ⟨some o, raw⟩ look (left.moveTo close)
          ⟨.endTag tag, close, rest⟩)) :
    ∃ found : Section, found.said = (tag, attrs, String.ofList body) ∧
      Scan.run source {} look left = afterTexts ((before :: values) ++ texts)
        ((Scan.run source {} look (left.moveTo rest)).map ((some found).toList ++ ·)) := by
  have hstart : '<' :: tail <:+ left.text := ⟨before, htext.symm⟩
  have hinner : body ++ close <:+ '<' :: tail := hbody.trans (List.suffix_cons '<' tail)
  have hclose : close <:+ left.text := (List.suffix_append _ _).trans (hinner.trans hstart)
  have hinner_of := hleft.moveTo (hinner.trans hstart)
  let l : Lexeme := ⟨.startTag tag attrs, '<' :: tail, body ++ close⟩
  let o := OpenSection.ofTag source (left.moveTo l.here).position l tag attrs
  let stop := source.offset (left.moveTo close).position
  have hstep := hopen (left.moveTo l.here).position l rfl
  have hshut : Scan.step source ⟨some o, raw⟩ (left.moveTo close).position
      ⟨.endTag tag, close, rest⟩ = .ok ({}, some (o.close source stop)) :=
    Scan.step_close rfl rfl (Nat.le_refl 1)
  refine ⟨o.close source stop, ?_, ?_⟩
  · have hcontent := OpenSection.close_content (o := o) hinner_of (hleft.moveTo hclose)
      (OpenSection.ofTag_bodyStart (hleft.moveTo hstart) hinner_of hinner tag attrs) rfl
    rw [Section.said, hcontent]
    rfl
  · rw [Scan.run_markup values rfl rfl htext hb hmarkup, Scan.runFrom_of_quiet hstep,
      Remainder.moveTo_moveTo hstart hinner, hread o rfl rfl, Scan.runFrom_of_step hshut,
      Remainder.moveTo_moveTo hclose hrest, afterTexts_append]

/-- Sections by what they say. -/
def sayings (result : Except SectionFault (List Section)) :
    Except SectionFault (List (String × List Attribute × String)) :=
  result.map (·.map Section.said)

theorem sayings_afterTexts (texts : List (List Char))
    (result : Except SectionFault (List Section)) :
    sayings (afterTexts texts result) = afterTexts texts (sayings result) :=
  map_afterTexts _ texts result

theorem sayings_map_cons (s : Section) (result : Except SectionFault (List Section)) :
    sayings (result.map ((some s).toList ++ ·)) = (sayings result).map (s.said :: ·) := by
  cases result with
  | error fault => rfl
  | ok sections => rfl

end ComponentSplit
