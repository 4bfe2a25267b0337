import ComponentSplit.Stylesheet.Scope

namespace ComponentSplit

/-- A part of a stylesheet: the selector list of a style rule, or text that stays as it is. -/
inductive SheetPart
  | selectors (list : List Char)
  | other (text : List Char)
deriving DecidableEq, Repr

namespace SheetPart

def text : SheetPart → List Char
  | selectors list => list
  | other text => text

def marked : SheetPart → MarkedText
  | selectors list => markSelectors list
  | other text => MarkedText.plain text

end SheetPart

/-- What is known behind some pieces of a stylesheet. -/
structure SheetState where
  /-- Of each open block, the innermost first, whether style rules may stand in it. -/
  blocks : List Bool := []
  /-- The run that is being read has held white space alone so far. -/
  blank : Bool := true
  /-- What has been read of that run. -/
  run : List Char := []
deriving DecidableEq, Repr

namespace SheetState

/-- Style rules may stand here. -/
def allowed (s : SheetState) : Bool := s.blocks.head?.getD true

def next (s : SheetState) : Piece → SheetState
  | .comment text =>
    if s.blank then ⟨s.blocks, true, []⟩ else ⟨s.blocks, false, s.run ++ text⟩
  | .string text => ⟨s.blocks, false, s.run ++ text⟩
  | .char c =>
    if c = '\x7b' then ⟨opensRules s.allowed s.run :: s.blocks, true, []⟩
    else if c = '\x7d' then ⟨s.blocks.tail, true, []⟩
    else if c = ';' then ⟨s.blocks, true, []⟩
    else ⟨s.blocks, s.blank && isBlank c, s.run ++ [c]⟩

/-- The parts that end with a piece. -/
def ended (s : SheetState) : Piece → List SheetPart
  | .comment text => if s.blank then [.other (s.run ++ text)] else []
  | .string _ => []
  | .char c =>
    if c = '\x7b' then
      [if isSelectorList s.allowed s.run then .selectors s.run else .other s.run, .other [c]]
    else if c = '\x7d' ∨ c = ';' then [.other (s.run ++ [c])]
    else []

def after (s : SheetState) (ps : List Piece) : SheetState := ps.foldl next s

/-- The parts that end within some pieces. -/
def parts (s : SheetState) : List Piece → List SheetPart
  | [] => []
  | p :: ps => s.ended p ++ (s.next p).parts ps

/-- What the run that is being read and the pieces behind it are marked as. -/
def marked (s : SheetState) (ps : List Piece) : MarkedText :=
  (s.parts ps).flatMap SheetPart.marked ++ MarkedText.plain (s.after ps).run

variable (s : SheetState) (p : Piece) (ps qs : List Piece)

@[simp]
theorem after_nil : s.after [] = s := rfl

@[simp]
theorem after_cons : s.after (p :: ps) = (s.next p).after ps := rfl

theorem after_append : s.after (ps ++ qs) = (s.after ps).after qs :=
  List.foldl_append

theorem parts_append : s.parts (ps ++ qs) = s.parts ps ++ (s.after ps).parts qs := by
  induction ps generalizing s with
  | nil => rfl
  | cons p ps ih => simp [parts, ih]

@[simp]
theorem marked_nil : s.marked [] = MarkedText.plain s.run := rfl

theorem marked_cons :
    s.marked (p :: ps) = (s.ended p).flatMap SheetPart.marked ++ (s.next p).marked ps := by
  simp [marked, parts]

theorem marked_append :
    s.marked (ps ++ qs) = (s.parts ps).flatMap SheetPart.marked ++ (s.after ps).marked qs := by
  simp [marked, parts_append, after_append]

end SheetState

theorem runs_ne_nil (blank : Bool) (ps : List Piece) : runs blank ps ≠ [] := by
  have hprepend (text : List Char) (rs : List Run) : Run.prepend text rs ≠ [] := by
    cases rs <;> simp [Run.prepend]
  fun_cases runs blank ps <;> simp [hprepend]

theorem Run.prepend_nil {rs : List Run} (h : rs ≠ []) : Run.prepend [] rs = rs := by
  cases rs with
  | nil => exact absurd rfl h
  | cons first others => rfl

theorem Run.prepend_prepend (front text : List Char) (rs : List Run) :
    Run.prepend front (Run.prepend text rs) = Run.prepend (front ++ text) rs := by
  cases rs <;> simp [Run.prepend]

/-- Marking runs is reading their pieces one by one. -/
theorem markRuns_prepend (s : SheetState) (ps : List Piece) :
    markRuns s.blocks (Run.prepend s.run (runs s.blank ps)) = s.marked ps := by
  induction ps generalizing s with
  | nil => simp [runs, Run.prepend, markRuns, RunEnd.text, MarkedText.plain]
  | cons p ps ih =>
    have hstart (blocks : List Bool) :
        markRuns blocks (runs true ps) = (SheetState.mk blocks true []).marked ps := by
      rw [← ih, Run.prepend_nil (runs_ne_nil _ _)]
    have hread (blank : Bool) (text : List Char) :
        markRuns s.blocks (Run.prepend s.run (Run.prepend text (runs blank ps))) =
          (SheetState.mk s.blocks blank (s.run ++ text)).marked ps := by
      rw [Run.prepend_prepend, ← ih]
    rw [SheetState.marked_cons]
    cases p with
    | comment text =>
      cases hb : s.blank with
      | true =>
        simp [runs, Run.prepend, markRuns, SheetState.next, SheetState.ended, SheetPart.marked,
          RunEnd.text, hb, hstart]
      | false => simp [runs, SheetState.next, SheetState.ended, hb, hread]
    | string text => simp [runs, SheetState.next, SheetState.ended, hread]
    | char c =>
      by_cases hopen : c = '\x7b'
      · subst hopen
        cases hlist : isSelectorList s.allowed s.run <;>
          simp_all [runs, Run.prepend, markRuns, SheetState.next, SheetState.ended,
            SheetPart.marked, RunEnd.text, SheetState.allowed]
      · by_cases hclose : c = '\x7d'
        · simp [runs, Run.prepend, markRuns, SheetState.next, SheetState.ended, SheetPart.marked,
            RunEnd.text, hclose, hstart]
        · by_cases hsemi : c = ';'
          · simp [runs, Run.prepend, markRuns, SheetState.next, SheetState.ended,
              SheetPart.marked, RunEnd.text, hsemi, hstart]
          · simp [runs, SheetState.next, SheetState.ended, hopen, hclose, hsemi, hread]

theorem markStylesheet_eq_marked (css : List Char) :
    markStylesheet css = SheetState.marked {} (pieces true css) := by
  rw [← markRuns_prepend, Run.prepend_nil (runs_ne_nil _ _)]
  rfl

end ComponentSplit
