import ComponentSplit.Pattern.Basic

/-!
Where patterns match. Matching tries the ways of a pattern in their order of preference, each with
all that has to match behind it, and takes the first that leads to the end.
-/

namespace ComponentSplit.Pattern

/-- A place in a text: its distance from the start, the characters before it, the nearest first,
those after it, and where groups were entered (even marks) and left (odd marks) last. -/
structure Spot where
  place : Nat
  before : List Char
  after : List Char
  marks : List (Nat × Nat × List Char) := []

namespace Spot

/-- The place one character on, when that character passes a test. -/
def step (test : Char → Bool) (spot : Spot) : Option Spot :=
  match spot.after with
  | c :: rest =>
    if test c then
      some { spot with place := spot.place + 1, before := c :: spot.before, after := rest }
    else none
  | [] => none

def back (count : Nat) (spot : Spot) : Spot :=
  { spot with
    place := spot.place - count
    before := spot.before.drop count
    after := (spot.before.take count).reverse ++ spot.after }

def mark (number : Nat) (spot : Spot) : Spot :=
  { spot with marks := (number, spot.place, spot.before) :: spot.marks }

/-- What a group took, when it was left behind the place where it was entered last. -/
def taken? (number : Nat) (spot : Spot) : Option (List Char) :=
  match spot.marks.lookup (2 * number), spot.marks.lookup (2 * number + 1) with
  | some (start, _), some (stop, before) =>
    if stop < start then none else some (before.take (stop - start)).reverse
  | _, _ => none

/-- The place behind a text that stands here, up to case where case is ignored. -/
def stepText (flags : Flags) (text : List Char) (spot : Spot) : Option Spot :=
  match text with
  | [] => some spot
  | c :: rest =>
    match spot.step fun d => flags.fold c == flags.fold d with
    | some next => stepText flags rest next
    | none => none

def atStart (flags : Flags) (spot : Spot) : Bool :=
  spot.before.isEmpty || (flags.multiline && spot.before.head? == some '\n')

def atStop (flags : Flags) (spot : Spot) : Bool :=
  spot.after.isEmpty || spot.after == ['\n'] ||
    (flags.multiline && spot.after.head? == some '\n')

/-- A word character on one side of the place and none on the other. -/
def atWordEdge (flags : Flags) (spot : Spot) : Bool :=
  let isWord := CharClass.word.holds flags.ascii
  (spot.before.head?.any isWord) != (spot.after.head?.any isWord)

end Spot

mutual

/-- The place at which a pattern and all that follows it, `next`, have matched from a place on. -/
def run (fuel : Nat) (pattern : Pattern) (spot : Spot) (next : Spot → Option Spot) :
    Option Spot :=
  match fuel with
  | 0 => none
  | fuel + 1 =>
    match pattern with
    | nothing => next spot
    | any flags => (spot.step fun c => flags.dotAll || c != '\n').bind next
    | set flags negated items => (spot.step fun c => flags.holds items c != negated).bind next
    | seq first second => run fuel first spot fun middle => run fuel second middle next
    | alt first second =>
      match run fuel first spot next with
      | some stop => some stop
      | none => run fuel second spot next
    | repeated least most greed body => runAgain fuel greed body least most none spot next
    | group none body => run fuel body spot next
    | group (some n) body =>
      run fuel body (spot.mark (2 * n)) fun stop => next (stop.mark (2 * n + 1))
    | textStart flags => if spot.atStart flags then next spot else none
    | textStop flags => if spot.atStop flags then next spot else none
    | wordEdge flags => if spot.atWordEdge flags then next spot else none
    | ahead negated body =>
      match run fuel body spot some with
      | some found => if negated then none else next { spot with marks := found.marks }
      | none => if negated then next spot else none
    | behind negated body =>
      let count := body.lengths.1
      match if spot.place < count then none else run fuel body (spot.back count) some with
      | some found => if negated then none else next { spot with marks := found.marks }
      | none => if negated then next spot else none
    | again flags number _ =>
      match spot.taken? number with
      | some text => (spot.stepText flags text).bind next
      | none => none
    | whether number yes no =>
      if (spot.taken? number).isSome then run fuel yes spot next else run fuel no spot next

/-- The same for a repetition that still has to take `least` and may take `most` of its body;
`last` is where the one before began, for nothing is gained by taking nothing twice. -/
def runAgain (fuel : Nat) (greed : Greed) (body : Pattern) (least : Nat) (most : Option Nat)
    (last : Option Nat) (spot : Spot) (next : Spot → Option Spot) : Option Spot :=
  match fuel with
  | 0 => none
  | fuel + 1 =>
    let more (last : Option Nat) (middle : Spot) : Option Spot :=
      runAgain fuel greed body (least - 1) (most.map (· - 1)) last middle next
    if 0 < least then
      if greed = .possessive then (run fuel body spot some).bind (more last)
      else run fuel body spot (more last)
    else if most = some 0 || last = some spot.place then next spot
    else
      match greed with
      | .greedy =>
        match run fuel body spot (more (some spot.place)) with
        | some stop => some stop
        | none => next spot
      | .lazy =>
        match next spot with
        | some stop => some stop
        | none => run fuel body spot (more (some spot.place))
      | .possessive =>
        match run fuel body spot some with
        | some middle => more (some spot.place) middle
        | none => next spot

end

/-- The rest of the text from the first match on, where `place` characters come before it. -/
def findFrom (pattern : Pattern) (fuel place : Nat) (before text : List Char) :
    Option (List Char) :=
  if (run fuel pattern ⟨place, before, text, []⟩ some).isSome then some text
  else
    match text with
    | [] => none
    | c :: rest => findFrom pattern fuel (place + 1) (c :: before) rest

/-- The rest of the text from the first match on; `before` is what precedes it, the nearest first. -/
def find (pattern : Pattern) (before text : List Char) : Option (List Char) :=
  findFrom pattern ((pattern.size + 2) * (before.length + text.length + 2)) before.length before
    text

end ComponentSplit.Pattern
