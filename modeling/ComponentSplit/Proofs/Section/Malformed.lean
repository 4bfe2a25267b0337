import ComponentSplit.Failure
import ComponentSplit.Proofs.Markup.Trap
import ComponentSplit.Proofs.Section.Breaking

namespace ComponentSplit

/-- A document is divided, or its failure is one of the document, with its path and the line and
column in it that are at fault. -/
def IsLocated (path : Option String) : Except Failure (List Section) → Prop
  | .ok _ => True
  | .error failure => ∃ message line column,
      failure = .document (.malformed message (some line) (some column)) path

theorem isLocated_iff {text : List Char} {path : Option String}
    {result : Except SectionFault (List Section)} :
    IsLocated path (result.mapError (Failure.ofSectionFault text path)) ↔
      ∀ fault, result ≠ .error (.markup fault) := by
  cases result with
  | ok sections => exact iff_of_true trivial fun _ => nofun
  | error fault =>
    cases fault with
    | markup fault =>
      refine iff_of_false ?_ fun h => h fault rfl
      rintro ⟨message, line, column, h⟩
      cases h
    | _ => exact iff_of_true ⟨_, _, _, rfl⟩ fun _ => nofun

theorem mapError_eq_markup {text : List Char} {path : Option String} {fault : MarkupFault}
    {result : Except SectionFault (List Section)} :
    result.mapError (Failure.ofSectionFault text path) = .error (.markup fault) ↔
      result = .error (.markup fault) := by
  cases result with
  | ok sections => simp [Except.mapError]
  | error found => cases found <;> simp [Except.mapError, Failure.ofSectionFault]

section Traps

/-- What is left at a place is the end of the text, and the raw text that is open there closes
plainly. -/
structure Standing.Sound (s : Standing) (text : List Char) : Prop where
  left : s.left.text <:+ text
  raw : ClosesPlainly s.scan.raw text

theorem rawTextAfter_sound {raw next : Option RawText} {token : Token} {text : List Char}
    (h : rawTextAfter raw token = .ok next) (hraw : ClosesPlainly raw text) :
    ClosesPlainly next text := by
  cases token with
  | startTag name attrs =>
    by_cases hname : name = "script" ∨ name = "style"
    · have hclosable : IsClosable name :=
        ⟨name.toList, isEndName_of_isRaw hname, lower_of_isRaw hname⟩
      rw [rawTextAfter, if_pos hname, RawText.ofName_eq hclosable] at h
      cases h
      exact closesPlainly_ofChain name text
    · rw [rawTextAfter, if_neg hname] at h
      cases h
      exact hraw
  | endTag name =>
    cases h
    exact closesPlainly_none text
  | _ =>
    cases h
    exact hraw

theorem Standing.Sound.next {source : Source} {s t : Standing} {text : List Char}
    (hs : s.Sound text) (h : s.Next source t) : t.Sound text := by
  cases h with
  | @onward l scan found seen step =>
    have hin : l.Within s.scan.raw s.left.text := sight_within seen
    obtain ⟨hhere, tail, htail, hrest, -⟩ := sight_within seen
    refine ⟨?_, ?_⟩
    · have hbehind : l.rest <:+ l.here := htail ▸ hrest.trans (List.suffix_cons '<' tail)
      exact (hbehind.trans hhere).trans hs.left
    · cases Scan.step_moves step with
      | inside opened token raw_eq => exact rawTextAfter_sound raw_eq hs.raw
      | void opened token isVoid raw_eq => exact rawTextAfter_sound raw_eq hs.raw
      | template opened token raw_eq => exact rawTextAfter_sound raw_eq hs.raw
      | element opened token name_ne raw_eq =>
        rcases hin.closable_or_odd token with hclosable | hodd
        · rw [RawText.ofName_eq hclosable] at raw_eq
          cases raw_eq
          exact closesPlainly_ofChain _ text
        · exact fun _ _ => .inr (hodd.mono hs.left.isInfix)
      | selfClosing | pass => exact hs.raw
      | otherEnd | innerEnd | close => exact closesPlainly_none text
  | again look_first stopped =>
    have hrest : _ <:+ s.left.text := sight_within stopped
    exact ⟨hrest.trans hs.left, hs.raw⟩

theorem Standing.Sound.hasTrap {s : Standing} {text : List Char} {fault : MarkupFault}
    (hs : s.Sound text) (h : s.Escapes fault) : HasTrap text fault := by
  cases h with
  | look breaks => exact breaks.hasTrap hs.left hs.raw
  | name seen top token not_void not_template unreadable =>
    have hin : Lexeme.Within _ s.scan.raw s.left.text := sight_within seen
    rcases hin.closable_or_odd token with hclosable | hodd
    · have hname := RawText.ofName_eq_error.mpr ⟨_, unreadable, rfl⟩
      rw [RawText.ofName_eq hclosable] at hname
      cases hname
    · exact hodd.mono hs.left.isInfix

theorem Standing.IsReached.sound {s : Standing} {text : List Char} (h : s.IsReached text) :
    s.Sound text := by
  induction h with
  | refl => exact ⟨List.suffix_refl _, closesPlainly_none text⟩
  | tail _ hnext ih => exact ih.next hnext

end Traps

/-- Reading breaks off with a fault at a place that it comes to, for a trap in the text. -/
def IsTrapped (text : List Char) (fault : MarkupFault) : Prop :=
  HasTrap text fault ∧ ∃ place : Standing, place.IsReached text ∧ place.Escapes fault

theorem parseSections_eq_markup_iff {text : List Char} {fault : MarkupFault} :
    parseSections text = .error (.markup fault) ↔ IsTrapped text fault := by
  rw [parseSections_eq_markup]
  constructor
  · rintro ⟨place, hreached, hescapes⟩
    exact ⟨hreached.sound.hasTrap hescapes, place, hreached, hescapes⟩
  · exact fun h => h.2

/-- A document is divided or fails with a path, a line and a column, unless reading breaks off at a
trap; then it fails with the fault of the trap. -/
theorem parseSections_isLocated_iff (text : List Char) (path : Option String) :
    (IsLocated path ((parseSections text).mapError (Failure.ofSectionFault text path)) ↔
      ∀ fault, ¬ IsTrapped text fault) ∧
    ∀ fault, (parseSections text).mapError (Failure.ofSectionFault text path) =
      .error (.markup fault) ↔ IsTrapped text fault := by
  refine ⟨?_, fun fault => mapError_eq_markup.trans parseSections_eq_markup_iff⟩
  rw [isLocated_iff]
  exact forall_congr' fun fault => not_congr parseSections_eq_markup_iff

theorem parenthesis_escapes : ¬ IsLocated none
    ((parseSections "<a(b>x".toList).mapError (Failure.ofSectionFault "<a(b>x".toList none)) := by
  have hparse : parseSections "<a(b>x".toList =
      .error (.markup (.badCloser ⟨.unclosedGroup, some 6⟩)) := by
    decide +kernel
  rw [isLocated_iff]
  exact fun h => h _ hparse

end ComponentSplit
