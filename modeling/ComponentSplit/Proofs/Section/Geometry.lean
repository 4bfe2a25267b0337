import ComponentSplit.Proofs.Section.Step

/-!
Where sections stand in their source. The offsets of a section come from lines and columns, and the
offset behind its end tag from a search of its own; both agree with how far reading has come.
-/

namespace ComponentSplit

/-- A section stands in its source where its offsets and its place say. -/
structure Section.WellPlaced (s : Section) (source : List Char) : Prop where
  start_lt : s.start < s.bodyStart
  body_le : s.bodyStart ≤ s.bodyStop
  bodyStop_le : s.bodyStop ≤ s.stop
  stop_le : s.stop ≤ source.length
  opens : source[s.start]? = some '<'
  closes : source[s.stop - 1]? = some '>'
  content_eq : s.content.toList = source.extract s.bodyStart s.bodyStop
  bodyIn_eq : s.bodyIn source = s.content.toList
  isBehind : s.position.IsBehind (source.take s.start)

/-- An open section stands in its source before an offset to which reading has come. -/
structure OpenSection.Placed (o : OpenSection) (source : Source) (offset : Nat) : Prop where
  start_lt : o.start < o.bodyStart
  body_le : o.bodyStart ≤ offset
  opens : source.text[o.start]? = some '<'
  isBehind : o.position.IsBehind (source.text.take o.start)

/-- The open section of a reading stands in its source before what is left to read. -/
structure Scan.Placed (scan : Scan) (source : Source) (left : Remainder) : Prop where
  left_of : left.Of source
  opened : ∀ o, scan.opened = some o → o.Placed source (source.offset left.position)

theorem OpenSection.Placed.mono {o : OpenSection} {source : Source} {offset later : Nat}
    (h : o.Placed source offset) (hl : offset ≤ later) : o.Placed source later :=
  { h with body_le := h.body_le.trans hl }

theorem Scan.Placed.first (text : List Char) :
    Scan.Placed {} (Source.ofText text) ⟨.first, text⟩ :=
  ⟨.first text, fun o ho => by simp at ho⟩

/-- A token stands in a source from one offset to another, between two remainders. -/
structure Lexeme.Stands (l : Lexeme) (source : Source) (left : Remainder) : Prop where
  here_of : (left.moveTo l.here).Of source
  rest_of : ((left.moveTo l.here).moveTo l.rest).Of source
  left_le : source.offset left.position ≤ source.offset (left.moveTo l.here).position
  here_lt : source.offset (left.moveTo l.here).position <
    source.offset ((left.moveTo l.here).moveTo l.rest).position
  add_length : source.offset (left.moveTo l.here).position + l.length =
    source.offset ((left.moveTo l.here).moveTo l.rest).position
  opens : source.text[source.offset (left.moveTo l.here).position]? = some '<'

theorem Remainder.Of.stands {source : Source} {left : Remainder} (h : left.Of source) {l : Lexeme}
    {raw : Option RawText} (hl : l.Within raw left.text) : l.Stands source left := by
  obtain ⟨hhere, tail, htail, hrest, -⟩ := hl
  have here_of := h.moveTo hhere
  have hrest' : l.rest <:+ (left.moveTo l.here).text := by
    rw [Remainder.moveTo, htail]
    exact hrest.trans (List.suffix_cons _ _)
  have rest_of := here_of.moveTo hrest'
  have hleft := h.offset_add_length
  have hh := here_of.offset_add_length
  have hr := rest_of.offset_add_length
  have hle := hhere.length_le
  have hlt : l.rest.length < l.here.length := by
    rw [htail]
    exact Nat.lt_succ_of_le hrest.length_le
  simp only [Remainder.moveTo] at hh hr
  refine ⟨here_of, rest_of, ?_, ?_, ?_, ?_⟩
  · simp only [Remainder.moveTo]
    omega
  · simp only [Remainder.moveTo]
    omega
  · simp only [Remainder.moveTo, Lexeme.length]
    omega
  · have hdrop := here_of.drop_offset
    have hget := congrArg (·[0]?) hdrop
    simpa [Remainder.moveTo, htail] using hget

namespace Lexeme.Stands

variable {l : Lexeme} {source : Source} {left : Remainder}

/-- The last character of a token, when the token ends with a greater-than sign. -/
theorem closes (h : l.Stands source left) {inside : List Char}
    (hl : l.here = '<' :: (inside ++ '>' :: l.rest)) :
    source.text[source.offset ((left.moveTo l.here).moveTo l.rest).position - 1]? = some '>' := by
  have hdrop := h.here_of.drop_offset
  have hget := congrArg (·[inside.length + 1]?) hdrop
  simp only [List.getElem?_drop] at hget
  have hlength : l.length = inside.length + 2 := by
    rw [Lexeme.length, hl]
    simp
    omega
  have hindex : source.offset (left.moveTo l.here).position + (inside.length + 1) =
      source.offset ((left.moveTo l.here).moveTo l.rest).position - 1 := by
    rw [← h.add_length]
    omega
  rw [hindex] at hget
  rw [hget]
  simp [Remainder.moveTo, hl]

/-- Behind the first greater-than sign of an end tag reading goes on. -/
theorem behindTag (h : l.Stands source left) {inside : List Char}
    (hl : l.here = '<' :: '/' :: (inside ++ '>' :: l.rest)) (hin : '>' ∉ inside) :
    source.behindTag (source.offset (left.moveTo l.here).position) =
      source.offset ((left.moveTo l.here).moveTo l.rest).position := by
  have hdrop : source.text.drop (source.offset (left.moveTo l.here).position) =
      ('<' :: '/' :: inside) ++ '>' :: l.rest := by
    rw [h.here_of.drop_offset]
    exact hl
  have hcut : cutAt '>' (source.text.drop (source.offset (left.moveTo l.here).position)) =
      some ('<' :: '/' :: inside, l.rest) := by
    rw [hdrop]
    exact cutAt_append (by simp [hin])
  have hlength : l.length = inside.length + 3 := by
    rw [Lexeme.length, hl]
    simp
    omega
  rw [Source.behindTag, hcut, ← h.add_length, hlength]
  simp
  omega

end Lexeme.Stands

theorem Section.ofTag_wellPlaced {l : Lexeme} {source : Source} {left : Remainder}
    (h : l.Stands source left) (tag : String) (attrs : List Attribute) {inside : List Char}
    (hl : l.here = '<' :: (inside ++ '>' :: l.rest)) :
    (Section.ofTag tag attrs (source.offset (left.moveTo l.here).position)
      (source.offset (left.moveTo l.here).position + l.length)
      (left.moveTo l.here).position).WellPlaced source.text := by
  have hlength := h.rest_of.offset_add_length
  refine ⟨?_, Nat.le_refl _, Nat.le_refl _, ?_, h.opens, ?_, ?_, ?_, h.here_of.isBehind⟩
  · have := h.here_lt
    rw [← h.add_length] at this
    exact this
  · simp only [Section.ofTag, h.add_length]
    omega
  · simp only [Section.ofTag, h.add_length]
    exact h.closes hl
  · simp [Section.ofTag]
  · simp [Section.ofTag, Section.bodyIn]

theorem OpenSection.close_wellPlaced {o : OpenSection} {l : Lexeme} {source : Source}
    {left : Remainder} (ho : o.Placed source (source.offset left.position))
    (h : l.Stands source left) {inside : List Char}
    (hl : l.here = '<' :: '/' :: (inside ++ '>' :: l.rest)) (hin : '>' ∉ inside) :
    (o.close source (source.offset (left.moveTo l.here).position)).WellPlaced source.text := by
  have hstop := h.behindTag hl hin
  have hlength := h.rest_of.offset_add_length
  have hbody := ho.body_le.trans h.left_le
  have hcloses : source.text[source.offset ((left.moveTo l.here).moveTo l.rest).position - 1]? =
      some '>' := h.closes (by rw [hl, List.cons_append])
  refine ⟨ho.start_lt, hbody, ?_, ?_, ho.opens, ?_, ?_, ?_, ho.isBehind⟩
  · simp only [OpenSection.close, hstop]
    exact Nat.le_of_lt h.here_lt
  · simp only [OpenSection.close, hstop]
    omega
  · simpa only [OpenSection.close, hstop] using hcloses
  · simp [OpenSection.close, Source.slice, List.extract_eq_take_drop]
  · simp [OpenSection.close, Section.bodyIn, Source.slice]

/-- The offset before which no section that is still to come starts. -/
def Scan.floor (scan : Scan) (source : Source) (left : Remainder) : Nat :=
  match scan.opened with
  | some o => o.start
  | none => source.offset left.position

theorem OpenSection.Placed.withDepth {o : OpenSection} {source : Source} {offset : Nat}
    (h : o.Placed source offset) (depth : Nat) : { o with depth }.Placed source offset :=
  ⟨h.start_lt, h.body_le, h.opens, h.isBehind⟩

/-- The section that a start tag opens stands in the source. -/
theorem OpenSection.Placed.ofStands {l : Lexeme} {source : Source} {left : Remainder}
    (h : l.Stands source left) (tag : String) (attrs : List Attribute) :
    OpenSection.Placed ⟨tag, attrs, source.offset (left.moveTo l.here).position,
      source.offset (left.moveTo l.here).position + l.length, (left.moveTo l.here).position, 1⟩
      source (source.offset ((left.moveTo l.here).moveTo l.rest).position) := by
  refine ⟨?_, ?_, h.opens, h.here_of.isBehind⟩
  · simp only [h.add_length]
    exact h.here_lt
  · exact Nat.le_of_eq h.add_length

theorem Scan.Placed.some {o : OpenSection} {raw : Option RawText} {source : Source}
    {left : Remainder} (h : left.Of source) (ho : o.Placed source (source.offset left.position)) :
    Scan.Placed ⟨Option.some o, raw⟩ source left :=
  ⟨h, fun _ ho' => Option.some.inj ho' ▸ ho⟩

theorem Scan.Placed.none {raw : Option RawText} {source : Source} {left : Remainder}
    (h : left.Of source) : Scan.Placed ⟨Option.none, raw⟩ source left :=
  ⟨h, fun _ ho => by simp at ho⟩

/-- A token keeps the open section in its place and raises the floor to the end of the section that
it completes. -/
theorem Scan.Placed.step {source : Source} {scan next : Scan} {left : Remainder} {l : Lexeme}
    {completed : Option Section} (h : scan.Placed source left) (hl : l.Within scan.raw left.text)
    (hm : Scan.Moves source scan (left.moveTo l.here).position l next completed) :
    next.Placed source ((left.moveTo l.here).moveTo l.rest) ∧
      scan.floor source left ≤ next.floor source ((left.moveTo l.here).moveTo l.rest) ∧
      ∀ s ∈ completed, s.WellPlaced source.text ∧ scan.floor source left ≤ s.start ∧
        s.stop ≤ next.floor source ((left.moveTo l.here).moveTo l.rest) := by
  have hs := h.left_of.stands hl
  have hpast := hs.left_le.trans (Nat.le_of_lt hs.here_lt)
  cases hm with
  | inside opened token raw_eq =>
    have ho := (h.opened _ opened).mono hpast
    exact ⟨.some hs.rest_of (ho.withDepth _), by simp [Scan.floor, opened], by simp⟩
  | void opened token isVoid raw_eq =>
    obtain ⟨inside, hinside, -⟩ := hl.startTag token
    refine ⟨.none hs.rest_of, ?_, ?_⟩
    · simpa [Scan.floor, opened] using hpast
    · rintro s ⟨⟩
      refine ⟨Section.ofTag_wellPlaced hs _ _ hinside, ?_, ?_⟩
      · simpa [Scan.floor, opened, Section.ofTag] using hs.left_le
      · simp [Scan.floor, Section.ofTag, hs.add_length]
  | template opened token raw_eq =>
    refine ⟨.some hs.rest_of (.ofStands hs _ _), ?_, by simp⟩
    simpa [Scan.floor, opened] using hs.left_le
  | element opened token name_ne raw_eq =>
    refine ⟨.some hs.rest_of (.ofStands hs _ _), ?_, by simp⟩
    simpa [Scan.floor, opened] using hs.left_le
  | selfClosing opened token =>
    obtain ⟨inside, hinside, -⟩ := hl.selfClosing token
    refine ⟨.none hs.rest_of, ?_, ?_⟩
    · simpa [Scan.floor, opened] using hpast
    · rintro s ⟨⟩
      have hcloses : l.here = '<' :: ((inside ++ ['/']) ++ '>' :: l.rest) := by simpa using hinside
      refine ⟨Section.ofTag_wellPlaced hs _ _ hcloses, ?_, ?_⟩
      · simpa [Scan.floor, opened, Section.ofTag] using hs.left_le
      · simp [Scan.floor, Section.ofTag, hs.add_length]
  | otherEnd opened token tag_eq name_ne =>
    have ho := (h.opened _ opened).mono hpast
    exact ⟨.some hs.rest_of ho, by simp [Scan.floor, opened], by simp⟩
  | innerEnd opened token tag_eq deep =>
    have ho := (h.opened _ opened).mono hpast
    exact ⟨.some hs.rest_of (ho.withDepth _), by simp [Scan.floor, opened], by simp⟩
  | close opened token flat =>
    have ho := h.opened _ opened
    obtain ⟨inside, hinside, hin, -⟩ := hl.endTag token
    refine ⟨.none hs.rest_of, ?_, ?_⟩
    · have hstart := ho.start_lt
      have hbody := ho.body_le
      simp only [Scan.floor, opened]
      omega
    · rintro s ⟨⟩
      refine ⟨OpenSection.close_wellPlaced ho hs hinside hin, ?_, ?_⟩
      · simp [Scan.floor, opened, OpenSection.close]
      · simp [Scan.floor, OpenSection.close, hs.behindTag hinside hin]
  | pass not_start not_end =>
    refine ⟨⟨hs.rest_of, fun o ho => (h.opened o ho).mono hpast⟩, ?_, by simp⟩
    unfold Scan.floor
    split
    · exact Nat.le_refl _
    · exact hpast

/-- Sections stand in a source one behind another, from an offset on. -/
def AreWellPlaced (source : List Char) (floor : Nat) (sections : List Section) : Prop :=
  (∀ s ∈ sections, s.WellPlaced source ∧ floor ≤ s.start) ∧
    sections.Pairwise (fun s later => s.stop ≤ later.start)

theorem AreWellPlaced.mono {source : List Char} {floor lower : Nat} {sections : List Section}
    (h : AreWellPlaced source floor sections) (hl : lower ≤ floor) :
    AreWellPlaced source lower sections :=
  ⟨fun s hs => ⟨(h.1 s hs).1, hl.trans (h.1 s hs).2⟩, h.2⟩

theorem Scan.run_wellPlaced {source : Source} {scan : Scan} {look : Look} {left : Remainder}
    {sections : List Section} (h : Scan.run source scan look left = .ok sections)
    (hp : scan.Placed source left) :
    AreWellPlaced source.text (scan.floor source left) sections := by
  revert hp
  refine Scan.run_induct (P := fun scan left sections => scan.Placed source left →
    AreWellPlaced source.text (scan.floor source left) sections) ?_ ?_ h
  · intro scan left _ _
    exact ⟨by simp, .nil⟩
  · intro scan left look found l next completed others hn hm ih hp
    obtain ⟨hnext, hfloor, hcompleted⟩ := hp.step (Lexeme.next_within hn) hm
    have hothers := ih hnext
    cases completed with
    | none => exact hothers.mono hfloor
    | some s =>
      obtain ⟨hs, hstart, hstop⟩ := hcompleted s rfl
      constructor
      · rw [Option.toList_some, List.singleton_append, List.forall_mem_cons]
        exact ⟨⟨hs, hstart⟩, (hothers.mono hfloor).1⟩
      · rw [Option.toList_some, List.singleton_append, List.pairwise_cons]
        exact ⟨fun later hlater => hstop.trans (hothers.1 later hlater).2, hothers.2⟩

/-- Every section that a document is divided into stands in it where its offsets and its place say,
and no section starts before the one in front of it has ended. -/
theorem parseSections_wellPlaced {text : List Char} {sections : List Section}
    (h : parseSections text = .ok sections) :
    (∀ s ∈ sections, s.WellPlaced text) ∧
      sections.Pairwise (fun s later => s.stop ≤ later.start) := by
  have hplaced := Scan.run_wellPlaced h (Scan.Placed.first text)
  exact ⟨fun s hs => (hplaced.1 s hs).1, hplaced.2⟩

theorem parseSections_wellPlaced_two :
    ∃ sections, parseSections "a\n<br/><p>b</p\n>".toList = .ok sections ∧
      sections.map (fun s => (s.start, s.bodyStart, s.bodyStop, s.stop)) =
        [(2, 7, 7, 7), (7, 10, 11, 16)] ∧
      (∀ s ∈ sections, s.WellPlaced "a\n<br/><p>b</p\n>".toList) ∧
      sections.Pairwise (fun s later => s.stop ≤ later.start) := by
  have h : parseSections "a\n<br/><p>b</p\n>".toList =
      .ok [⟨"br", [], "", 2, 7, 7, 7, ⟨2, 0⟩⟩, ⟨"p", [], "b", 7, 16, 10, 11, ⟨2, 5⟩⟩] := by
    decide +kernel
  exact ⟨_, h, rfl, parseSections_wellPlaced h⟩

end ComponentSplit
