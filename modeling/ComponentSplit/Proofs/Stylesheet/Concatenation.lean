import ComponentSplit.Merge
import ComponentSplit.Proofs.Stylesheet.Part
import ComponentSplit.Proofs.Stylesheet.SelectorList

namespace ComponentSplit

/-- A stylesheet whose reading ends outside comments, strings and blocks, with nothing but white
space behind the last brace, semicolon or comment that ended a run. -/
structure IsClosedSheet (css : List Char) : Prop where
  finished : ∀ p ∈ pieces true css, p.IsFinished
  blocks : (SheetState.after {} (pieces true css)).blocks = []
  blank : (SheetState.after {} (pieces true css)).blank = true

theorem firstWord_blank_append {blanks : List Char} (h : ∀ c ∈ blanks, isBlank c = true)
    (text : List Char) : firstWord (blanks ++ text) = firstWord text := by
  rw [firstWord, firstWord, trimStart_append h]

namespace SheetState

/-- A run that is said to be blank holds white space alone. -/
def IsBlankRun (s : SheetState) : Prop := s.blank = true → ∀ c ∈ s.run, isBlank c = true

theorem IsBlankRun.next {s : SheetState} (h : s.IsBlankRun) (p : Piece) : (s.next p).IsBlankRun := by
  cases p with
  | comment text => cases hb : s.blank <;> simp [SheetState.next, IsBlankRun, hb]
  | string text => simp [SheetState.next, IsBlankRun]
  | char c =>
    by_cases hreset : c = '\x7b' ∨ c = '\x7d' ∨ c = ';'
    · rcases hreset with rfl | rfl | rfl <;> simp [SheetState.next, IsBlankRun]
    · obtain ⟨hopen, hclose, hsemi⟩ : c ≠ '\x7b' ∧ c ≠ '\x7d' ∧ c ≠ ';' := by
        simpa [not_or] using hreset
      simp only [SheetState.next, IsBlankRun, if_neg hopen, if_neg hclose, if_neg hsemi,
        Bool.and_eq_true, List.forall_mem_append, List.forall_mem_singleton]
      exact fun hb => ⟨h hb.1, hb.2⟩

theorem IsBlankRun.after {s : SheetState} (h : s.IsBlankRun) (ps : List Piece) :
    (s.after ps).IsBlankRun := by
  induction ps generalizing s with
  | nil => exact h
  | cons p ps ih => exact ih (h.next p)

/-- White space in front of a run stays where it is and changes nothing else. -/
theorem marked_blank_append {blanks : List Char} (h : ∀ c ∈ blanks, isBlank c = true)
    (s : SheetState) (ps : List Piece) :
    marked ⟨s.blocks, s.blank, blanks ++ s.run⟩ ps = MarkedText.plain blanks ++ s.marked ps := by
  induction ps generalizing s with
  | nil => simp
  | cons p ps ih =>
    have hword := firstWord_blank_append h s.run
    have hlist : isSelectorList s.allowed (blanks ++ s.run) = isSelectorList s.allowed s.run := by
      rw [isSelectorList, hword, isSelectorList]
    have hopens : opensRules s.allowed (blanks ++ s.run) = opensRules s.allowed s.run := by
      rw [opensRules, hword, opensRules]
    have hallowed : allowed ⟨s.blocks, s.blank, blanks ++ s.run⟩ = s.allowed := rfl
    have hkept (blank : Bool) (text : List Char) :
        marked ⟨s.blocks, blank, blanks ++ (s.run ++ text)⟩ ps =
          MarkedText.plain blanks ++ marked ⟨s.blocks, blank, s.run ++ text⟩ ps :=
      ih ⟨s.blocks, blank, s.run ++ text⟩
    rw [marked_cons, marked_cons]
    cases p with
    | comment text =>
      cases hb : s.blank with
      | true => simp [ended, SheetState.next, hb, SheetPart.marked]
      | false => simp [ended, SheetState.next, hb, hkept]
    | string text => simp [ended, SheetState.next, hkept]
    | char c =>
      by_cases hopen : c = '\x7b'
      · cases hs : isSelectorList s.allowed s.run with
        | true =>
          simp [ended, SheetState.next, hallowed, hopen, hlist, hs, hopens, SheetPart.marked,
            markSelectors_blank_append h]
        | false =>
          simp [ended, SheetState.next, hallowed, hopen, hlist, hs, hopens, SheetPart.marked]
      · by_cases hstop : c = '\x7d' ∨ c = ';'
        · rcases hstop with rfl | rfl <;> simp [ended, SheetState.next, SheetPart.marked]
        · rw [not_or] at hstop
          simp [ended, SheetState.next, hopen, hstop, hkept]

end SheetState

namespace IsClosedSheet

variable {front : List Char}

/-- Reading is back at the start behind a closed stylesheet, but for white space. -/
theorem after_eq (h : IsClosedSheet front) :
    ∃ blanks, (∀ c ∈ blanks, isBlank c = true) ∧
      SheetState.after {} (pieces true front) = ⟨[], true, blanks⟩ := by
  have hstart : SheetState.IsBlankRun {} := fun _ => by simp
  let s := SheetState.after {} (pieces true front)
  have hs : s = ⟨s.blocks, s.blank, s.run⟩ := rfl
  rw [h.blocks, h.blank] at hs
  exact ⟨s.run, hstart.after (pieces true front) h.blank, hs⟩

theorem getLast?_pieces_ne (h : IsClosedSheet front) :
    (pieces true front).getLast? ≠ some (.char '/') := by
  intro hlast
  obtain ⟨init, hinit⟩ := List.getLast?_eq_some_iff.mp hlast
  have hblank := h.blank
  rw [hinit, SheetState.after_append] at hblank
  simp [SheetState.next, isBlank] at hblank

/-- Behind a closed stylesheet marking starts anew. -/
theorem markStylesheet_append (h : IsClosedSheet front) (back : List Char) :
    markStylesheet (front ++ back) = markStylesheet front ++ markStylesheet back := by
  obtain ⟨blanks, hblanks, hafter⟩ := h.after_eq
  have hback := SheetState.marked_blank_append hblanks {} (pieces true back)
  rw [List.append_nil] at hback
  have hpieces := pieces_append h.finished fun _ : back.head? = some '*' => h.getLast?_pieces_ne
  simp only [markStylesheet_eq_marked, hpieces, SheetState.marked_append, hafter, hback]
  simp [SheetState.marked, hafter]

theorem scopeStylesheet_append (h : IsClosedSheet front) (back attr : List Char) :
    scopeStylesheet (front ++ back) attr =
      scopeStylesheet front attr ++ scopeStylesheet back attr := by
  rw [scopeStylesheet, h.markStylesheet_append, MarkedText.fill_append]
  rfl

theorem newline : IsClosedSheet ['\n'] := by
  have hpieces : pieces true ['\n'] = [.char '\n'] := by
    rw [pieces_plainChar true '\n' (by decide) (by decide), pieces_nil]
  refine ⟨?_, ?_, ?_⟩
  · simp [hpieces, Piece.IsFinished]
  · simp [hpieces, SheetState.next]
  · simp [hpieces, SheetState.next, isBlank]

end IsClosedSheet

theorem scopeStylesheet_nil (attr : List Char) : scopeStylesheet [] attr = [] := by
  rw [scopeStylesheet, markStylesheet_eq_marked, pieces_nil]
  rfl

theorem scopeStylesheet_newline (attr : List Char) : scopeStylesheet ['\n'] attr = ['\n'] := by
  have hpieces : pieces true ['\n'] = [.char '\n'] := by
    rw [pieces_plainChar true '\n' (by decide) (by decide), pieces_nil]
  rw [scopeStylesheet, markStylesheet_eq_marked, hpieces]
  rfl

theorem scopeStylesheet_intercalate {sheets : List (List Char)}
    (h : ∀ css ∈ sheets, IsClosedSheet css) (attr : List Char) :
    scopeStylesheet (['\n'].intercalate sheets) attr =
      ['\n'].intercalate (sheets.map (scopeStylesheet · attr)) := by
  induction sheets with
  | nil => simpa using scopeStylesheet_nil attr
  | cons css sheets ih =>
    rw [List.forall_mem_cons] at h
    cases sheets with
    | nil => simp
    | cons second sheets =>
      have hrest := ih h.2
      rw [List.intercalate_cons_cons, List.append_assoc, h.1.scopeStylesheet_append,
        IsClosedSheet.newline.scopeStylesheet_append, scopeStylesheet_newline, hrest]
      simp

/-- A part whose content is scoped. -/
def Part.scoped (attr : List Char) (p : Part) : Part :=
  { p with content := String.ofList (scopeStylesheet p.content.toList attr) }

def MergedSection.scoped (attr : List Char) (m : MergedSection) : MergedSection :=
  { m with content := String.ofList (scopeStylesheet m.content.toList attr) }

theorem sortParts_map {f : Part → Part} (h : ∀ p, (f p).index = p.index) (parts : List Part) :
    sortParts (parts.map f) = (sortParts parts).map f := by
  rw [sortParts, sortParts, List.map_mergeSort]
  intro a _ b _
  rw [h, h]

theorem intercalate_scoped (attr : List Char) {parts : List Part}
    (h : ∀ p ∈ parts, IsClosedSheet p.content.toList) :
    "\n".intercalate ((parts.map (Part.scoped attr)).map (·.content)) =
      String.ofList (scopeStylesheet ("\n".intercalate (parts.map (·.content))).toList attr) := by
  have hclosed : ∀ css ∈ parts.map (·.content.toList), IsClosedSheet css := by
    intro css hcss
    obtain ⟨p, hp, rfl⟩ := List.mem_map.mp hcss
    exact h p hp
  rw [← String.toList_inj, String.toList_ofList, String.toList_intercalate,
    String.toList_intercalate, List.map_map]
  exact Eq.symm (by simpa [Part.scoped, Function.comp_def] using
    scopeStylesheet_intercalate hclosed attr)

theorem mergeTag_scoped (tag : String) (attr : List Char) {parts : List Part}
    (h : ∀ p ∈ parts, IsClosedSheet p.content.toList) :
    mergeTag tag (parts.map (Part.scoped attr)) =
      (mergeTag tag parts).map (MergedSection.scoped attr) := by
  have hown : (parts.map (Part.scoped attr)).filter (·.tag == tag) =
      (parts.filter (·.tag == tag)).map (Part.scoped attr) := List.filter_map
  have hcontent := intercalate_scoped attr fun p hp =>
    h p (List.mem_of_mem_filter (p := (·.tag == tag)) hp)
  rw [mergeTag, mergeTag, hown, hcontent, List.getLast?_map, List.length_map, Option.map_map,
    Option.map_map]
  rfl

theorem mergeParts_scoped (attr : List Char) {parts : List Part}
    (h : ∀ p ∈ parts, IsClosedSheet p.content.toList) :
    mergeParts (parts.map (Part.scoped attr)) =
      (mergeParts parts).map (MergedSection.scoped attr) := by
  have hsort := sortParts_map (f := Part.scoped attr) (fun _ => rfl) parts
  have htags : ((sortParts parts).map (Part.scoped attr)).map (·.tag) =
      (sortParts parts).map (·.tag) := by
    rw [List.map_map]
    rfl
  have hclosed : ∀ p ∈ sortParts parts, IsClosedSheet p.content.toList :=
    fun p hp => h p (List.mem_mergeSort.mp hp)
  rw [mergeParts, hsort, htags, mergeParts, List.map_filterMap]
  refine List.filterMap_congr fun tag _ => ?_
  exact mergeTag_scoped tag attr hclosed

/-- A closed stylesheet is scoped apart from whatever follows it. So styles may be scoped one by one
before they are joined with newlines, as merging joins the parts of each tag. -/
theorem scopeStylesheet_closed (attr : List Char) :
    (∀ front, IsClosedSheet front → ∀ back, scopeStylesheet (front ++ back) attr =
      scopeStylesheet front attr ++ scopeStylesheet back attr) ∧
    (∀ sheets : List (List Char), (∀ css ∈ sheets, IsClosedSheet css) →
      scopeStylesheet (['\n'].intercalate sheets) attr =
        ['\n'].intercalate (sheets.map (scopeStylesheet · attr))) ∧
    ∀ parts : List Part, (∀ p ∈ parts, IsClosedSheet p.content.toList) →
      mergeParts (parts.map (Part.scoped attr)) =
        (mergeParts parts).map (MergedSection.scoped attr) :=
  ⟨fun _ h back => h.scopeStylesheet_append back attr,
    fun _ h => scopeStylesheet_intercalate h attr, fun _ h => mergeParts_scoped attr h⟩

theorem isClosedSheet_media : IsClosedSheet "@media x{a,b{c:d}}/* e */ ".toList := by
  have hpieces : pieces true "@media x{a,b{c:d}}/* e */ ".toList =
      "@media x{a,b{c:d}}".toList.map .char ++ [.comment "/* e */".toList, .char ' '] := by
    decide +kernel
  have htail : IsCommentTail " e */".toList := @isCommentTail_of_rest " e */ ".toList (by
    decide +kernel)
  refine ⟨?_, ?_, ?_⟩
  · rw [hpieces]
    intro p hp
    rcases List.mem_append.mp hp with hp | hp
    · obtain ⟨c, -, rfl⟩ := List.mem_map.mp hp
      trivial
    · simp only [List.mem_cons, List.not_mem_nil, or_false] at hp
      rcases hp with rfl | rfl
      · exact ⟨_, rfl, htail⟩
      · trivial
  · rw [hpieces]
    decide +kernel
  · rw [hpieces]
    decide +kernel

def mediaPart : Part := { tag := "style", content := "@media x{a,b{c:d}}/* e */ " }

theorem scopeStylesheet_closed_media :
    IsClosedSheet "@media x{a,b{c:d}}/* e */ ".toList ∧
      scopeStylesheet ("@media x{a,b{c:d}}/* e */ ".toList ++ ":f\x7bg\x7b'".toList) ['h'] =
        scopeStylesheet "@media x{a,b{c:d}}/* e */ ".toList ['h'] ++
          scopeStylesheet ":f\x7bg\x7b'".toList ['h'] ∧
      mergeParts ([mediaPart, mediaPart].map (Part.scoped ['h'])) =
        (mergeParts [mediaPart, mediaPart]).map (MergedSection.scoped ['h']) :=
  ⟨isClosedSheet_media, (scopeStylesheet_closed ['h']).1 _ isClosedSheet_media _,
    (scopeStylesheet_closed ['h']).2.2 _ (by
      simpa [mediaPart] using isClosedSheet_media)⟩

end ComponentSplit
