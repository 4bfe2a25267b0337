import Mathlib.Logic.Relation
import ComponentSplit.Proofs.Markup.Fault
import ComponentSplit.Proofs.Section.TemplateBody

namespace ComponentSplit

/-- A place that reading comes to, with what it knows there. -/
structure Standing where
  scan : Scan
  look : Look
  left : Remainder

namespace Standing

/-- Where the reading of a text starts. -/
def first (text : List Char) : Standing := ⟨{}, ⟨text, false⟩, ⟨.first, text⟩⟩

/-- What a look from a place comes to. -/
def sees (s : Standing) : Except MarkupFault Sight := sight s.scan.raw s.look s.left.text

/-- The next place: behind the token that is seen, or where the first look stopped. -/
inductive Next (source : Source) (s : Standing) : Standing → Prop
  | onward {l : Lexeme} {scan : Scan} {found : Option Section} (seen : s.sees = .ok (.token l))
      (step : s.scan.step source (s.left.moveTo l.here).position l = .ok (scan, found)) :
      Next source s ⟨scan, s.look, (s.left.moveTo l.here).moveTo l.rest⟩
  | again {rest : List Char} (look_first : s.look.second = false)
      (stopped : s.sees = .ok (.stopped rest)) :
      Next source s ⟨s.scan, ⟨rest, true⟩, s.left.moveTo rest⟩

/-- A place at which reading breaks off. -/
inductive Escapes (s : Standing) : MarkupFault → Prop
  | look {fault : MarkupFault} (breaks : BreaksOff s.scan.raw s.look s.left.text fault) :
      Escapes s fault
  /-- The name of a section that starts here cannot stand in the pattern for its end. -/
  | name {l : Lexeme} {name : String} {attrs : List Attribute} {error : PatternError}
      (seen : s.sees = .ok (.token l)) (top : s.scan.opened = none)
      (token : l.token = .startTag name attrs) (not_void : voidElements.contains name = false)
      (not_template : name ≠ "template")
      (unreadable : Pattern.read ("</\\s*".toList ++ name.toList ++ "\\s*>".toList) =
        .error error) : Escapes s (.badCloser error)

end Standing

section Looks

variable {raw : Option RawText} {look : Look} {text rest : List Char}

theorem Lexeme.next_of_error {fault : MarkupFault} (h : sight raw look text = .error fault) :
    Lexeme.next raw look text = .error fault := by
  rw [Lexeme.next, h]

theorem Lexeme.next_of_token {l : Lexeme} (h : sight raw look text = .ok (.token l)) :
    Lexeme.next raw look text = .ok (some (l, look)) := by
  rw [Lexeme.next, h]

theorem Lexeme.next_of_second (h : sight raw look text = .ok (.stopped rest))
    (hsecond : look.second = true) : Lexeme.next raw look text = .ok none := by
  rw [Lexeme.next, h]
  exact if_pos hsecond

/-- Where the first look stops, the second one goes on. -/
theorem Lexeme.next_of_first (h : sight raw look text = .ok (.stopped rest))
    (hfirst : look.second = false) :
    Lexeme.next raw look text = Lexeme.next raw ⟨rest, true⟩ rest := by
  unfold Lexeme.next
  simp only [h, hfirst]
  cases sight raw ⟨rest, true⟩ rest with
  | error fault => rfl
  | ok seen => cases seen <;> rfl

end Looks

section Steps

theorem RawText.ofName_eq_error {name : String} {fault : MarkupFault} :
    RawText.ofName name = .error fault ↔ ∃ error,
      Pattern.read ("</\\s*".toList ++ name.toList ++ "\\s*>".toList) = .error error ∧
        fault = .badCloser error := by
  rw [RawText.ofName]
  cases Pattern.read ("</\\s*".toList ++ name.toList ++ "\\s*>".toList) with
  | ok closer => simp
  | error error => simp [eq_comm]

/-- The names of the elements that hold raw text everywhere can stand in the pattern for their
ends. -/
theorem rawTextAfter_ok (raw : Option RawText) (token : Token) :
    ∃ next, rawTextAfter raw token = .ok next := by
  cases token with
  | startTag name attrs =>
    by_cases hraw : name = "script" ∨ name = "style"
    · have hclosable : IsClosable name :=
        ⟨name.toList, isEndName_of_isRaw hraw, lower_of_isRaw hraw⟩
      exact ⟨_, by rw [rawTextAfter, if_pos hraw, RawText.ofName_eq hclosable]⟩
    · exact ⟨raw, by rw [rawTextAfter, if_neg hraw]⟩
  | endTag name => exact ⟨none, rfl⟩
  | _ => exact ⟨raw, rfl⟩

theorem Scan.step_eq_markup {source : Source} {scan : Scan} {position : Position} {l : Lexeme}
    {fault : MarkupFault} : scan.step source position l = .error (.markup fault) ↔
      scan.opened = none ∧ ∃ name attrs, l.token = .startTag name attrs ∧
        voidElements.contains name = false ∧ name ≠ "template" ∧
        RawText.ofName name = .error fault := by
  obtain ⟨raw, hraw⟩ := rawTextAfter_ok scan.raw l.token
  unfold Scan.step
  simp only [hraw]
  constructor
  · intro h
    split at h
    · cases h
    next name attrs ht ho =>
      split at h
      · cases h
      next hvoid =>
        split at h
        · cases h
        next htemplate =>
          split at h
          · cases h
          next fault' hname =>
            cases h
            exact ⟨ho, name, attrs, ht, Bool.not_eq_true _ ▸ hvoid, htemplate, hname⟩
    · cases h
    · cases h
    · split at h
      · split at h
        · cases h
        · split at h <;> cases h
      · split at h <;> cases h
    · cases h
  · rintro ⟨ho, name, attrs, ht, hvoid, htemplate, hname⟩
    simp only [ht, ho, hvoid, if_neg htemplate, hname, Bool.false_eq_true, if_false]

end Steps

section Runs

variable {source : Source}

/-- What reading comes to from a place on. -/
def Standing.run (source : Source) (s : Standing) : Except SectionFault (List Section) :=
  Scan.run source s.scan s.look s.left

variable {s : Standing}

theorem Standing.run_of_error {fault : MarkupFault} (h : s.sees = .error fault) :
    s.run source = .error (.markup fault) :=
  Scan.run_of_error (Lexeme.next_of_error h)

theorem Standing.run_of_token {l : Lexeme} (h : s.sees = .ok (.token l)) :
    s.run source = Scan.runFrom source s.scan s.look (s.left.moveTo l.here) l :=
  Scan.run_of_next (Lexeme.next_of_token h)

theorem Standing.run_of_second {rest : List Char} (h : s.sees = .ok (.stopped rest))
    (hsecond : s.look.second = true) : s.run source = s.scan.finish :=
  Scan.run_of_none (Lexeme.next_of_second h hsecond)

theorem Standing.run_of_first {rest : List Char} (h : s.sees = .ok (.stopped rest))
    (hfirst : s.look.second = false) :
    s.run source = Standing.run source ⟨s.scan, ⟨rest, true⟩, s.left.moveTo rest⟩ := by
  have hnext : Lexeme.next s.scan.raw s.look s.left.text =
      Lexeme.next s.scan.raw ⟨rest, true⟩ rest := Lexeme.next_of_first h hfirst
  have hrest : rest <:+ s.left.text := sight_within h
  cases hlook : Lexeme.next s.scan.raw ⟨rest, true⟩ rest with
  | error fault => exact (Scan.run_of_error (hnext.trans hlook)).trans (Scan.run_of_error hlook).symm
  | ok seen =>
    cases seen with
    | none => exact (Scan.run_of_none (hnext.trans hlook)).trans (Scan.run_of_none hlook).symm
    | some seen =>
      obtain ⟨l, found⟩ := seen
      have hhere : l.here <:+ rest := (Lexeme.next_within hlook).1
      -- Moving on in two strides ends where one stride does.
      refine (Scan.run_of_next (hnext.trans hlook)).trans ?_
      refine Eq.trans ?_ (Scan.run_of_next hlook).symm
      rw [Remainder.moveTo_moveTo hrest hhere]

/-- Reading fails at a place where it breaks off, and the failure is passed back over all places
before. -/
theorem Standing.run_of_next {t : Standing} {fault : MarkupFault} (h : s.Next source t)
    (ht : t.run source = .error (.markup fault)) : s.run source = .error (.markup fault) := by
  cases h with
  | onward seen step =>
    rw [run_of_token seen, Scan.runFrom_of_step step]
    rw [run] at ht
    rw [ht]
    rfl
  | again look_first stopped => rw [run_of_first stopped look_first, ht]

theorem Standing.run_of_escapes {fault : MarkupFault} (h : s.Escapes fault) :
    s.run source = .error (.markup fault) := by
  cases h with
  | look breaks => exact run_of_error (sight_eq_error.mpr breaks)
  | name seen top token not_void not_template unreadable =>
    have hname := RawText.ofName_eq_error.mpr ⟨_, unreadable, rfl⟩
    rw [run_of_token seen, Scan.runFrom,
      Scan.step_eq_markup.mpr ⟨top, _, _, token, not_void, not_template, hname⟩]

theorem map_eq_error {ε α β : Type} {x : Except ε α} {f : α → β} {e : ε} :
    x.map f = .error e ↔ x = .error e := by
  cases x <;> simp [Except.map]

-- A token leaves less of the text, and a first look that stops leaves a second one to do.
theorem Standing.escapes_of_run (s : Standing) {fault : MarkupFault}
    (h : s.run source = .error (.markup fault)) :
    ∃ t, Relation.ReflTransGen (Standing.Next source) s t ∧ t.Escapes fault := by
  cases hsees : s.sees with
  | error found =>
    rw [run_of_error hsees] at h
    cases h
    exact ⟨s, .refl, .look (sight_eq_error.mp hsees)⟩
  | ok seen =>
    cases seen with
    | token l =>
      rw [run_of_token hsees, Scan.runFrom] at h
      cases hstep : s.scan.step source (s.left.moveTo l.here).position l with
      | error e =>
        simp only [hstep] at h
        cases h
        obtain ⟨hopened, name, attrs, htoken, hvoid, htemplate, hname⟩ := Scan.step_eq_markup.mp hstep
        obtain ⟨error, hread, rfl⟩ := RawText.ofName_eq_error.mp hname
        exact ⟨s, .refl, .name hsees hopened htoken hvoid htemplate hread⟩
      | ok result =>
        obtain ⟨scan, found⟩ := result
        simp only [hstep] at h
        have hnext : s.Next source ⟨scan, s.look, (s.left.moveTo l.here).moveTo l.rest⟩ :=
          .onward hsees hstep
        have hshort : l.rest.length < s.left.text.length := by
          obtain ⟨hhere, tail, htail, hrest, -⟩ := sight_within hsees
          have hle := hhere.length_le
          have hle' := hrest.length_le
          rw [htail, List.length_cons] at hle
          omega
        have hrun : Standing.run source ⟨scan, s.look, (s.left.moveTo l.here).moveTo l.rest⟩ =
            .error (.markup fault) := map_eq_error.mp h
        obtain ⟨t, hreach, hescapes⟩ := escapes_of_run _ hrun
        exact ⟨t, .head hnext hreach, hescapes⟩
    | stopped rest =>
      cases hsecond : s.look.second with
      | true =>
        rw [run_of_second hsees hsecond, Scan.finish] at h
        split at h <;> cases h
      | false =>
        have hnext : s.Next source ⟨s.scan, ⟨rest, true⟩, s.left.moveTo rest⟩ :=
          .again hsecond hsees
        have hle : rest.length ≤ s.left.text.length := (sight_within hsees).length_le
        rw [run_of_first hsees hsecond] at h
        obtain ⟨t, hreach, hescapes⟩ := escapes_of_run _ h
        exact ⟨t, .head hnext hreach, hescapes⟩
termination_by 2 * s.left.text.length + if s.look.second then 0 else 1
decreasing_by
  · simp only [Remainder.moveTo]
    omega
  · simp only [Remainder.moveTo, hsecond, if_true, Bool.false_eq_true, if_false]
    omega

/-- Reading fails with a fault of the markup exactly when it comes to a place where it breaks off
with that fault. -/
theorem Standing.run_eq_markup {fault : MarkupFault} :
    s.run source = .error (.markup fault) ↔
      ∃ t, Relation.ReflTransGen (Standing.Next source) s t ∧ t.Escapes fault := by
  refine ⟨escapes_of_run s, ?_⟩
  rintro ⟨t, hreach, hescapes⟩
  induction hreach using Relation.ReflTransGen.head_induction_on with
  | refl => exact run_of_escapes hescapes
  | head hnext _ ih => exact run_of_next hnext ih

end Runs

/-- Reading the text comes to this place. -/
def Standing.IsReached (s : Standing) (text : List Char) : Prop :=
  Relation.ReflTransGen (Standing.Next (Source.ofText text)) (.first text) s

theorem parseSections_eq_markup {text : List Char} {fault : MarkupFault} :
    parseSections text = .error (.markup fault) ↔
      ∃ place : Standing, place.IsReached text ∧ place.Escapes fault := by
  have hrun : Standing.run (Source.ofText text) (.first text) = .error (.markup fault) ↔
      ∃ place : Standing, place.IsReached text ∧ place.Escapes fault := Standing.run_eq_markup
  exact hrun

end ComponentSplit
