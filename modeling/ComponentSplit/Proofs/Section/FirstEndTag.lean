import ComponentSplit.Proofs.Markup.RawText
import ComponentSplit.Proofs.Section.Geometry

namespace ComponentSplit

/-- A section without a body: an element that never has one, or a start tag that is its own end. -/
structure Section.IsBodiless (s : Section) (source : List Char) : Prop where
  content_eq : s.content = ""
  bodyStart_eq : s.bodyStart = s.stop
  bodyStop_eq : s.bodyStop = s.stop
  startTag : ∃ inside, source.extract s.start s.stop = '<' :: (inside ++ ['>']) ∧
    StartsElement s.tag inside ∧ (voidElements.contains s.tag = true ∨ inside.getLast? = some '/')

/-- A section that ends with an end tag of its name; unless it is a template, with the first one. -/
structure Section.IsClosed (s : Section) (source : List Char) : Prop where
  endTag : ∃ inside, source.extract s.bodyStop s.stop = '<' :: '/' :: (inside ++ ['>']) ∧
    '>' ∉ inside ∧ EndsElement s.tag inside ∧ (s.tag ≠ "template" → SpellsName s.tag inside)
  first : s.tag ≠ "template" → ¬ HasEndTag s.tag s.content.toList

/-- An open section keeps reading inside raw text. When an end tag can spell its name, the raw text
is its own, and none of its end tags has been passed over. -/
structure OpenSection.Sealed (o : OpenSection) (raw : Option RawText) (source : Source)
    (left : Remainder) : Prop where
  isSome : raw.isSome
  raw_eq : IsClosable o.tag → raw = some (.ofChain o.tag)
  noEndTag : IsClosable o.tag → NoEndTagBefore o.tag (source.text.drop o.bodyStart) left.text

/-- The open section of a reading is sealed unless it is a template. -/
def Scan.Sealed (scan : Scan) (source : Source) (left : Remainder) : Prop :=
  ∀ o, scan.opened = some o → o.tag ≠ "template" → o.Sealed scan.raw source left

theorem rawTextAfter_isSome {raw next : Option RawText} {name : String} {attrs : List Attribute}
    (h : rawTextAfter raw (.startTag name attrs) = .ok next) (hr : raw.isSome) : next.isSome := by
  simp only [rawTextAfter] at h
  split at h
  · split at h
    · cases h
      rfl
    · simp at h
  · cases h
    exact hr

theorem Source.slice_append_drop {source : Source} {start stop : Nat} (h : start ≤ stop) :
    source.slice start stop ++ source.text.drop stop = source.text.drop start := by
  have hdrop : source.text.drop stop = (source.text.drop start).drop (stop - start) := by
    rw [List.drop_drop]
    congr 1
    omega
  rw [Source.slice, hdrop, List.take_append_drop]

theorem Lexeme.Stands.extract {l : Lexeme} {source : Source} {left : Remainder}
    (h : l.Stands source left) {taken : List Char} (hl : l.here = taken ++ l.rest) :
    source.text.extract (source.offset (left.moveTo l.here).position)
      (source.offset ((left.moveTo l.here).moveTo l.rest).position) = taken := by
  have hlength : l.length = taken.length := by
    rw [Lexeme.length, hl]
    simp
  have hdrop : source.text.drop (source.offset (left.moveTo l.here).position) = l.here :=
    h.here_of.drop_offset
  rw [List.extract_eq_take_drop, hdrop, ← h.add_length, Nat.add_sub_cancel_left, hlength, hl]
  simp

/-- While a sealed section is open, only its end tags and texts in front of them are met. -/
theorem OpenSection.Sealed.next {o : OpenSection} {raw : Option RawText} {source : Source}
    {left : Remainder} (h : o.Sealed raw source left)
    (hp : o.Placed source (source.offset left.position)) (hleft : left.Of source)
    (hc : IsClosable o.tag) {look found : Look} {l : Lexeme}
    (hn : Lexeme.next raw look left.text = .ok (some (l, found))) :
    NoEndTagBefore o.tag (source.text.drop o.bodyStart) l.here ∧
      (l.token = .endTag o.tag ∨ (∃ content, l.token = .text content) ∧
        NoEndTagBefore o.tag (source.text.drop o.bodyStart) l.rest) := by
  have hsuffix : left.text <:+ source.text.drop o.bodyStart := by
    rw [← hleft.drop_offset, ← source.slice_append_drop hp.body_le]
    exact List.suffix_append _ _
  have hbefore := h.noEndTag hc
  rw [h.raw_eq hc] at hn
  rcases Lexeme.next_raw o.tag look left.text with ⟨hnone, -⟩ |
    ⟨l', inside, hsome, hhere, -, hno, hl⟩
  · simp [hnone] at hn
  · cases hn.symm.trans hsome
    have hhere_no := hbefore.trans hsuffix hno
    refine ⟨hhere_no, ?_⟩
    rcases hl with ⟨htoken, -⟩ | ⟨htext, hrest⟩
    · exact .inl htoken
    · exact .inr ⟨htext, hhere_no.trans (hhere.trans hsuffix) hrest⟩

theorem Section.ofTag_isBodiless {l : Lexeme} {source : Source} {left : Remainder}
    (h : l.Stands source left) {tag : String} (attrs : List Attribute) {inside : List Char}
    (hl : l.here = '<' :: (inside ++ '>' :: l.rest)) (hs : StartsElement tag inside)
    (hv : voidElements.contains tag = true ∨ inside.getLast? = some '/') :
    (Section.ofTag tag attrs (source.offset (left.moveTo l.here).position)
      (source.offset (left.moveTo l.here).position + l.length)
      (left.moveTo l.here).position).IsBodiless source.text := by
  refine ⟨rfl, rfl, rfl, inside, ?_, hs, hv⟩
  simp only [Section.ofTag, h.add_length]
  exact h.extract (by simpa using hl)

/-- The section that an open one becomes ends with the end tag that closes it; a sealed one has no
other in its content. -/
theorem OpenSection.close_isClosed {o : OpenSection} {raw : Option RawText} {look found : Look}
    {l : Lexeme} {source : Source} {left : Remainder} (hleft : left.Of source)
    (hp : o.Placed source (source.offset left.position))
    (hs : o.tag ≠ "template" → o.Sealed raw source left)
    (hn : Lexeme.next raw look left.text = .ok (some (l, found)))
    (ht : l.token = .endTag o.tag) :
    (o.close source (source.offset (left.moveTo l.here).position)).IsClosed source.text := by
  have hl := Lexeme.next_within hn
  have hstands := hleft.stands hl
  obtain ⟨inside, hinside, hin, hends, hspells⟩ := hl.endTag ht
  constructor
  · refine ⟨inside, ?_, hin, hends, fun htag => hspells (hs htag).isSome⟩
    simp only [OpenSection.close, hstands.behindTag hinside hin]
    exact hstands.extract (by simpa using hinside)
  · intro htag
    have hclosable := (hspells (hs htag).isSome).isClosable
    have hno := ((hs htag).next hp hleft hclosable hn).1
    have hbody := hp.body_le.trans hstands.left_le
    have hdrop : source.text.drop (source.offset (left.moveTo l.here).position) = l.here :=
      hstands.here_of.drop_offset
    rw [← Source.slice_append_drop hbody, hdrop] at hno
    simpa [OpenSection.close] using hno.not_hasEndTag

/-- A section that has just been opened is sealed. -/
theorem OpenSection.sealed_of_ofName {o : OpenSection} {raw : RawText} {source : Source}
    {left : Remainder} (hraw : RawText.ofName o.tag = .ok raw)
    (hleft : source.text.drop o.bodyStart = left.text) : o.Sealed (some raw) source left := by
  refine ⟨rfl, fun hc => ?_, fun _ => ?_⟩
  · rw [RawText.ofName_eq hc] at hraw
    rw [Except.ok.inj hraw]
  · rw [hleft]
    exact .refl _ _

/-- A token keeps the open section sealed, and the section that it completes ends with its first end
tag. -/
theorem Scan.Sealed.step {source : Source} {scan next : Scan} {look found : Look} {left : Remainder}
    {l : Lexeme} {completed : Option Section} (h : scan.Sealed source left)
    (hp : scan.Placed source left)
    (hn : Lexeme.next scan.raw look left.text = .ok (some (l, found)))
    (hm : Scan.Moves source scan (left.moveTo l.here).position l next completed) :
    next.Sealed source ((left.moveTo l.here).moveTo l.rest) ∧
      ∀ s ∈ completed, s.IsBodiless source.text ∨ s.IsClosed source.text := by
  have hl := Lexeme.next_within hn
  have hs := hp.left_of.stands hl
  cases hm with
  | @inside o name attrs raw opened token raw_eq =>
    refine ⟨?_, by simp⟩
    rintro o' ⟨⟩ htag
    have hsealed := h o opened htag
    rw [token] at raw_eq
    -- A start tag is met in raw text only when no end tag can spell the name of the section.
    have hno : ¬ IsClosable o.tag := by
      intro hc
      rcases (hsealed.next (hp.opened o opened) hp.left_of hc hn).2 with ht | ⟨⟨_, ht⟩, -⟩
      · simp [token] at ht
      · simp [token] at ht
    exact ⟨rawTextAfter_isSome raw_eq hsealed.isSome, fun hc => absurd hc hno,
      fun hc => absurd hc hno⟩
  | void opened token isVoid raw_eq =>
    obtain ⟨inside, hinside, hstarts⟩ := hl.startTag token
    refine ⟨fun o ho => by simp at ho, ?_⟩
    rintro s ⟨⟩
    exact .inl (Section.ofTag_isBodiless hs _ hinside hstarts (.inl isVoid))
  | template opened token raw_eq =>
    refine ⟨?_, by simp⟩
    rintro o ⟨⟩ htag
    exact absurd rfl htag
  | element opened token name_ne raw_eq =>
    refine ⟨?_, by simp⟩
    rintro o ⟨⟩ -
    refine OpenSection.sealed_of_ofName raw_eq ?_
    simp only [hs.add_length]
    exact hs.rest_of.drop_offset
  | selfClosing opened token =>
    obtain ⟨inside, hinside, spelled, more, rfl, hname⟩ := hl.selfClosing token
    refine ⟨fun o ho => by simp at ho, ?_⟩
    rintro s ⟨⟩
    have hcloses : l.here = '<' :: ((spelled ++ (more ++ ['/'])) ++ '>' :: l.rest) := by
      simpa using hinside
    exact .inl (Section.ofTag_isBodiless hs _ hcloses ⟨spelled, more ++ ['/'], rfl, hname⟩
      (.inr (by simp)))
  | otherEnd opened token tag_eq name_ne =>
    refine ⟨?_, by simp⟩
    rintro o ⟨⟩ htag
    exact absurd tag_eq htag
  | innerEnd opened token tag_eq deep =>
    refine ⟨?_, by simp⟩
    rintro o ⟨⟩ htag
    exact absurd tag_eq htag
  | close opened token flat =>
    refine ⟨fun o ho => by simp at ho, ?_⟩
    rintro s ⟨⟩
    exact .inr (OpenSection.close_isClosed hp.left_of (hp.opened _ opened) (h _ opened) hn token)
  | pass not_start not_end =>
    refine ⟨?_, by simp⟩
    intro o ho htag
    have hsealed := h o ho htag
    refine ⟨hsealed.isSome, hsealed.raw_eq, fun hc => ?_⟩
    rcases (hsealed.next (hp.opened o ho) hp.left_of hc hn).2 with ht | ⟨-, hrest⟩
    · exact absurd ht (not_end o.tag)
    · exact hrest

theorem Scan.run_isBodiless_or_isClosed {source : Source} {scan : Scan} {look : Look}
    {left : Remainder} {sections : List Section} (h : Scan.run source scan look left = .ok sections)
    (hp : scan.Placed source left) (hs : scan.Sealed source left) :
    ∀ s ∈ sections, s.IsBodiless source.text ∨ s.IsClosed source.text := by
  revert hp hs
  refine Scan.run_induct (P := fun scan left sections => scan.Placed source left →
    scan.Sealed source left → ∀ s ∈ sections, s.IsBodiless source.text ∨ s.IsClosed source.text)
    ?_ ?_ h
  · intro scan left _ _ _
    simp
  · intro scan left look found l next completed others hn hm ih hp hs
    have hplaced := (hp.step (Lexeme.next_within hn) hm).1
    obtain ⟨hsealed, hcompleted⟩ := hs.step hp hn hm
    intro s hmem
    rcases List.mem_append.mp hmem with hmem | hmem
    · exact hcompleted s (Option.mem_toList.mp hmem)
    · exact ih hplaced hsealed s hmem

/-- A section either has no body, as an element that never has one or as a start tag that is its own
end, or it ends with an end tag of its name, and then with the first one unless it is a template. -/
theorem parseSections_isBodiless_or_isClosed {text : List Char} {sections : List Section}
    (h : parseSections text = .ok sections) :
    ∀ s ∈ sections, s.IsBodiless text ∨ s.IsClosed text :=
  Scan.run_isBodiless_or_isClosed h (Scan.Placed.first text) fun o ho => by simp at ho

theorem parseSections_isBodiless_or_isClosed_dotted :
    ∃ sections, parseSections "<br><a.b>x</ab></acb></ A.B >".toList = .ok sections ∧
      sections.map (fun s => (s.tag, s.content)) = [("br", ""), ("a.b", "x</ab></acb>")] ∧
      ∀ s ∈ sections, s.IsBodiless "<br><a.b>x</ab></acb></ A.B >".toList ∨
        s.IsClosed "<br><a.b>x</ab></acb></ A.B >".toList := by
  have h : parseSections "<br><a.b>x</ab></acb></ A.B >".toList =
      .ok [⟨"br", [], "", 0, 4, 4, 4, ⟨1, 0⟩⟩,
        ⟨"a.b", [], "x</ab></acb>", 4, 29, 9, 21, ⟨1, 4⟩⟩] := by
    decide +kernel
  exact ⟨_, h, rfl, parseSections_isBodiless_or_isClosed h⟩

end ComponentSplit
