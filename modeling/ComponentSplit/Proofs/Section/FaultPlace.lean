import ComponentSplit.Failure
import ComponentSplit.Proofs.Section.Line
import ComponentSplit.Proofs.Section.Geometry

/-!
Faults in their places. The line and column that a document fails with lead to the tag at fault: to
the end tag that does not belong, whose place reading has kept, or to the start tag of the section
that does not end, whose place is looked up again from its offset.
-/

namespace ComponentSplit

/-- A text starts with a start tag of an element. -/
def OpensElement (name : String) (text : List Char) : Prop :=
  ∃ inside rest, text = '<' :: (inside ++ '>' :: rest) ∧ StartsElement name inside

/-- A text starts with an end tag of an element. -/
def ShutsElement (name : String) (text : List Char) : Prop :=
  ∃ inside rest, text = '<' :: '/' :: (inside ++ '>' :: rest) ∧ '>' ∉ inside ∧
    EndsElement name inside

namespace SectionFault

/-- What stands at the place of a fault: the tag that it names. -/
def Stands (here : List Char) : SectionFault → Prop
  | unexpectedEnd name _ | mismatchedEnd name _ _ => ShutsElement name here
  | unclosed name _ => OpensElement name here
  | markup _ => True

/-- The place of a fault lies in the source, and what stands there is what the fault says. -/
def HoldsOf (source : Source) (fault : SectionFault) : Prop :=
  ∀ position, fault.position? source = some position → ∃ left : Remainder,
    left.Of source ∧ left.position = position ∧ fault.Stands left.text

theorem holdsOf_markup (source : Source) (cause : MarkupFault) : (markup cause).HoldsOf source :=
  nofun

theorem holdsOf_unclosed {source : Source} {name : String} {offset : Nat}
    (h : OpensElement name (source.text.drop offset)) : (unclosed name offset).HoldsOf source := by
  have hlt : offset < source.text.length := by
    obtain ⟨inside, rest, hdrop, -⟩ := h
    have hlength := congrArg List.length hdrop
    rw [List.length_drop, List.length_cons] at hlength
    omega
  have hsplit : source.text = source.text.take offset ++ source.text.drop offset :=
    (List.take_append_drop offset source.text).symm
  have hposition := Source.position_behind hsplit
  rw [List.length_take, Nat.min_eq_left hlt.le] at hposition
  rintro position ⟨⟩
  exact ⟨⟨_, source.text.drop offset⟩, ⟨source.text.take offset, hsplit, hposition⟩, rfl, h⟩

end SectionFault

section Runs

variable {source : Source}

/-- The section that is open starts with its start tag. -/
def Scan.Opens (scan : Scan) (source : Source) : Prop :=
  ∀ o, scan.opened = some o → OpensElement o.tag (source.text.drop o.start)

/-- A token can only be at fault when it is an end tag; the fault names it and its place. -/
theorem Scan.step_eq_error {scan : Scan} {position : Position} {l : Lexeme} {fault : SectionFault}
    (h : scan.step source position l = .error fault) :
    (∃ cause, fault = .markup cause) ∨ ∃ name, l.token = .endTag name ∧
      (fault = .unexpectedEnd name position ∨
        ∃ opened, fault = .mismatchedEnd name opened position) := by
  unfold Scan.step at h
  simp only at h
  split at h
  · cases h
    exact .inl ⟨_, rfl⟩
  · split at h
    · cases h
    · split at h
      · cases h
      · split at h
        · cases h
        · split at h
          · cases h
          · cases h
            exact .inl ⟨_, rfl⟩
    · cases h
    next name htoken hopened =>
      cases h
      exact .inr ⟨name, htoken, .inl rfl⟩
    next name o htoken hopened =>
      split at h
      · split at h
        · cases h
        · split at h <;> cases h
      · split at h
        · cases h
        · cases h
          exact .inr ⟨name, htoken, .inr ⟨o.tag, rfl⟩⟩
    · cases h

/-- A property holds of every reading that fails when it holds where one fails and every token
passes it on to what was before. -/
theorem Scan.run_error_induct {P : Scan → Remainder → SectionFault → Prop}
    (markup : ∀ scan left cause, P scan left (.markup cause))
    (stop : ∀ scan left o, scan.opened = some o → P scan left (.unclosed o.tag o.start))
    (halt : ∀ scan left look found l fault,
      Lexeme.next scan.raw look left.text = .ok (some (l, found)) →
      scan.step source (left.moveTo l.here).position l = .error fault → P scan left fault)
    (step : ∀ scan left look found l next completed fault,
      Lexeme.next scan.raw look left.text = .ok (some (l, found)) →
      Scan.Moves source scan (left.moveTo l.here).position l next completed →
      P next ((left.moveTo l.here).moveTo l.rest) fault → P scan left fault)
    {scan : Scan} {look : Look} {left : Remainder} {fault : SectionFault}
    (h : Scan.run source scan look left = .error fault) : P scan left fault := by
  revert fault
  fun_induction Scan.run source scan look left with
  | case1 scan look left cause hn =>
    intro fault h
    cases h
    exact markup scan left cause
  | case2 scan look left hn =>
    intro fault h
    unfold Scan.finish at h
    split at h
    · cases h
    next o ho =>
      cases h
      exact stop scan left o ho
  | case3 scan look left l found hn _ here failed =>
    rename_i hs
    intro fault h
    cases h
    exact halt scan left look found l failed hn hs
  | case4 scan look left l found hn _ here next completed hs failed hrun =>
    rename_i ih
    intro fault h
    cases h
    exact step scan left look found l next completed failed hn (Scan.step_moves hs) (ih hrun)
  | case5 =>
    intro fault h
    cases h

/-- A token keeps the open section, or opens the one whose start tag it is. -/
theorem Scan.Opens.step {scan next : Scan} {left : Remainder} {l : Lexeme}
    {completed : Option Section} (h : scan.Opens source) (hleft : left.Of source)
    (hl : l.Within scan.raw left.text)
    (hm : Scan.Moves source scan (left.moveTo l.here).position l next completed) :
    next.Opens source := by
  have hdrop : source.text.drop (source.offset (left.moveTo l.here).position) = l.here :=
    (hleft.moveTo hl.1).drop_offset
  have hopens {name : String} {attrs : List Attribute} (token : l.token = .startTag name attrs) :
      OpensElement name (source.text.drop (source.offset (left.moveTo l.here).position)) := by
    obtain ⟨inside, hinside, hstarts⟩ := hl.startTag token
    exact ⟨inside, l.rest, hdrop.trans hinside, hstarts⟩
  rintro o ho
  cases hm with
  | inside opened | otherEnd opened | innerEnd opened =>
    cases ho
    have hkept := h _ opened
    exact hkept
  | template opened token | element opened token =>
    cases ho
    exact hopens token
  | void | selfClosing | close => cases ho
  | pass => exact h o ho

theorem Scan.run_holdsOf {scan : Scan} {look : Look} {left : Remainder} {fault : SectionFault}
    (h : Scan.run source scan look left = .error fault) (hleft : left.Of source)
    (hopens : scan.Opens source) : fault.HoldsOf source := by
  revert hleft hopens
  refine Scan.run_error_induct (P := fun scan left fault => left.Of source → scan.Opens source →
    fault.HoldsOf source) ?_ ?_ ?_ ?_ h
  · intro scan left cause _ _
    exact SectionFault.holdsOf_markup source cause
  · intro scan left o ho _ hopens
    exact SectionFault.holdsOf_unclosed (hopens o ho)
  · intro scan left look found l fault hn hstep hleft _
    have hl := Lexeme.next_within hn
    rcases Scan.step_eq_error hstep with ⟨cause, rfl⟩ | ⟨name, htoken, hfault⟩
    · exact SectionFault.holdsOf_markup source cause
    · obtain ⟨inside, hinside, hin, hends, -⟩ := hl.endTag htoken
      have hshuts : ShutsElement name (left.moveTo l.here).text :=
        ⟨inside, l.rest, hinside, hin, hends⟩
      rcases hfault with rfl | ⟨opened, rfl⟩ <;>
      · rintro position ⟨⟩
        exact ⟨left.moveTo l.here, hleft.moveTo hl.1, rfl, hshuts⟩
  · intro scan left look found l next completed fault hn hm ih hleft hopens
    have hl := Lexeme.next_within hn
    exact ih (hleft.stands hl).rest_of (hopens.step hleft hl hm)

end Runs

section Messages

theorem getElem?_toList_append (front : String) {back : String} {i : Nat} {c : Char}
    (h : front.toList[i]? = some c) : (front ++ back).toList[i]? = some c := by
  obtain ⟨hi, -⟩ := List.getElem?_eq_some_iff.mp h
  rw [String.toList_append, List.getElem?_append_left hi, h]

namespace SectionFault

/-- The third letter of a message tells the kind of the fault. -/
def letter : SectionFault → Option Char
  | unexpectedEnd .. => some 'e'
  | mismatchedEnd .. => some 'o'
  | unclosed .. => some 'c'
  | markup _ => none

theorem getElem?_message {fault : SectionFault} {c : Char} (h : fault.letter = some c) :
    fault.message.toList[2]? = some c := by
  cases fault with
  | unexpectedEnd name position =>
    cases h
    change ("Unexpected closing tag </" ++ name ++ "> at top level").toList[2]? = _
    exact getElem?_toList_append _ (getElem?_toList_append _ (by decide))
  | mismatchedEnd name opened position =>
    cases h
    change ("Closing tag </" ++ name ++ "> does not match open <" ++ opened ++ ">").toList[2]? = _
    exact getElem?_toList_append _ (getElem?_toList_append _
      (getElem?_toList_append _ (getElem?_toList_append _ (by decide))))
  | unclosed name offset =>
    cases h
    change ("Unclosed <" ++ name ++ "> section").toList[2]? = _
    exact getElem?_toList_append _ (getElem?_toList_append _ (by decide))
  | markup cause => cases h

theorem message_ne {fault other : SectionFault} {c d : Char} (hc : fault.letter = some c)
    (hd : other.letter = some d) (hne : c ≠ d) : fault.message ≠ other.message := by
  intro h
  have hthird := getElem?_message hc
  rw [h, getElem?_message hd] at hthird
  exact hne (Option.some.inj hthird).symm

theorem message_ne_unexpectedEnd {fault : SectionFault} {c : Char} (hc : fault.letter = some c)
    (hne : c ≠ 'e') (name : String) :
    fault.message ≠ s!"Unexpected closing tag </{name}> at top level" :=
  message_ne hc (rfl : (unexpectedEnd name .first).letter = some 'e') hne

theorem message_ne_unclosed {fault : SectionFault} {c : Char} (hc : fault.letter = some c)
    (hne : c ≠ 'c') (name : String) : fault.message ≠ s!"Unclosed <{name}> section" :=
  message_ne hc (rfl : (unclosed name 0).letter = some 'c') hne

theorem name_of_unexpectedEnd {name found : String} {p q : Position}
    (h : (unexpectedEnd found p).message = (unexpectedEnd name q).message) : found = name := by
  change "Unexpected closing tag </" ++ found ++ "> at top level" =
    "Unexpected closing tag </" ++ name ++ "> at top level" at h
  rwa [String.append_left_inj, String.append_right_inj] at h

theorem name_of_unclosed {name found : String} {m n : Nat}
    (h : (unclosed found m).message = (unclosed name n).message) : found = name := by
  change "Unclosed <" ++ found ++ "> section" = "Unclosed <" ++ name ++ "> section" at h
  rwa [String.append_left_inj, String.append_right_inj] at h

end SectionFault

end Messages

/-- What a message says stands at the start of a text. The message is one of those about an end tag
that does not belong and about a section that does not end. -/
structure TellsCause (message : String) (here : List Char) : Prop where
  unexpected : ∀ name : String, message = s!"Unexpected closing tag </{name}> at top level" →
    ShutsElement name here
  unclosed : ∀ name : String, message = s!"Unclosed <{name}> section" → OpensElement name here
  cause : (∃ name : String, message = s!"Unexpected closing tag </{name}> at top level") ∨
    (∃ name : String, message = s!"Unclosed <{name}> section") ∨
    ∃ name opened : String,
      message = s!"Closing tag </{name}> does not match open <{opened}>" ∧ ShutsElement name here

/-- A line and a column lie in a text and denote the place of which the message tells. The whole
text of the failure shows both behind the message. -/
def PointsAtCause (text : List Char) (message : String) (line column : Int) : Prop :=
  ∃ position : Position, ∃ offset, line = position.line ∧ column = position.column ∧
    position.Denotes text offset ∧ TellsCause message (text.drop offset) ∧
    (DocumentFault.malformed message (some line) (some column)).message =
      s!"{message} (line {position.line}, column {position.column})"

theorem SectionFault.Stands.tellsCause {fault : SectionFault} {here : List Char}
    (h : fault.Stands here) (hfault : ∀ cause, fault ≠ .markup cause) :
    TellsCause fault.message here := by
  cases fault with
  | unexpectedEnd name position =>
    refine ⟨fun other hother => ?_, fun other hother => ?_, .inl ⟨name, rfl⟩⟩
    · exact name_of_unexpectedEnd (q := .first) hother ▸ h
    · exact absurd hother (message_ne_unclosed rfl (by decide) other)
  | mismatchedEnd name opened position =>
    refine ⟨fun other hother => ?_, fun other hother => ?_, .inr (.inr ⟨name, opened, rfl, h⟩)⟩
    · exact absurd hother (message_ne_unexpectedEnd rfl (by decide) other)
    · exact absurd hother (message_ne_unclosed rfl (by decide) other)
  | unclosed name offset =>
    refine ⟨fun other hother => ?_, fun other hother => ?_, .inr (.inl ⟨name, rfl⟩)⟩
    · exact absurd hother (message_ne_unexpectedEnd rfl (by decide) other)
    · exact name_of_unclosed (n := 0) hother ▸ h
  | markup cause => exact absurd rfl (hfault cause)

theorem ofSectionFault_eq_malformed {text : List Char} {path found : Option String}
    {fault : SectionFault} {message : String} {line column : Int}
    (h : Failure.ofSectionFault text path fault =
      .document (.malformed message (some line) (some column)) found) :
    (∀ cause, fault ≠ .markup cause) ∧ fault.message = message ∧ ∃ position : Position,
      fault.position? (Source.ofText text) = some position ∧
      line = position.line ∧ column = position.column := by
  cases fault with
  | markup cause => cases h
  | _ =>
    cases h
    exact ⟨nofun, rfl, _, rfl, rfl, rfl⟩

/-- The line and column that a document fails with lie in its text, and the tag that the message
names stands there. -/
theorem parseSections_pointsAtCause {text : List Char} {path : Option String} {message : String}
    {line column : Int}
    (h : (parseSections text).mapError (Failure.ofSectionFault text path) =
      .error (.document (.malformed message (some line) (some column)) path)) :
    PointsAtCause text message line column := by
  cases hrun : parseSections text with
  | ok sections =>
    rw [hrun] at h
    cases h
  | error fault =>
    rw [hrun] at h
    obtain ⟨hfault, rfl, position, hposition, rfl, rfl⟩ :=
      ofSectionFault_eq_malformed (Except.error.inj h)
    have hopens : Scan.Opens {} (Source.ofText text) := nofun
    obtain ⟨left, ⟨passed, htext, hbehind⟩, rfl, hstands⟩ :=
      Scan.run_holdsOf hrun (.first text) hopens position hposition
    have hsplit : text = passed ++ left.text := htext
    refine ⟨left.position, passed.length, rfl, rfl, ?_, ?_, rfl⟩
    · rw [hbehind, hsplit]
      exact Position.denotes_behind passed left.text
    · rw [hsplit, List.drop_left]
      exact hstands.tellsCause hfault

/-- A template behind another section, with an end tag in it and one at the end that goes on. -/
def unclosedText : List Char := "a\n<b></b>\n <Template>\n</p></".toList

theorem parseSections_pointsAtCause_unclosed :
    (parseSections unclosedText).mapError (Failure.ofSectionFault unclosedText (some "a.vue")) =
      .error (.document (.malformed "Unclosed <template> section" (some 3) (some 1))
        (some "a.vue")) ∧
    PointsAtCause unclosedText "Unclosed <template> section" 3 1 := by
  have h : (parseSections unclosedText).mapError
      (Failure.ofSectionFault unclosedText (some "a.vue")) =
        .error (.document (.malformed "Unclosed <template> section" (some 3) (some 1))
          (some "a.vue")) := by
    decide +kernel
  exact ⟨h, parseSections_pointsAtCause h⟩

end ComponentSplit
