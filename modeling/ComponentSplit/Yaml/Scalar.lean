import ComponentSplit.Yaml.Fault

namespace ComponentSplit.Yaml

/-- The text of a scalar and the cursor behind it. -/
structure ScalarText where
  text : List Char
  cursor : Cursor

/-- What an end of line and the empty lines after it amount to between two runs of text. -/
def folded (first : Char) (more : List Char) : List Char :=
  if first ≠ '\n' then first :: more else if more.isEmpty then [' '] else more

/-- A character that ends a plain scalar in brackets or braces. -/
def isFlowIndicator (c : Char) : Bool := ",[]\x7b\x7d".toList.contains c

/-- How many characters of a plain scalar stand together. A colon ends it when nothing that could
belong to it follows. -/
def plainLength (inFlow : Bool) : List Char → Nat
  | [] => 0
  | c :: rest =>
    let next := rest.head?.getD endOfText
    if endsWord c || (c == ':' && (endsWord next || (inFlow && isFlowIndicator next))) ||
        (inFlow && (c == '?' || isFlowIndicator c)) then 0
    else plainLength inFlow rest + 1

/-- The ends of lines after the first one, with the spaces between them; nothing is left of them
when a document ends there. -/
def plainBreaks (fuel : Nat) (c : Cursor) : Option (List Char) × Cursor :=
  match fuel with
  | 0 => (some [], c)
  | fuel + 1 =>
    if c.here = ' ' then plainBreaks fuel (c.skip 1)
    else
      match c.lineBreak? with
      | none => (some [], c)
      | some (ch, c) =>
        if c.atSeparator then (none, c)
        else
          let (more, c) := plainBreaks fuel c
          (more.map (ch :: ·), c)

/-- What stands between two runs of a plain scalar: its text, the cursor behind it, and whether it
goes over the end of a line. -/
structure Gap where
  text : List Char
  cursor : Cursor
  goesOn : Bool := false

def plainGap (c : Cursor) : Gap :=
  let (spaces, c) := c.run (· == ' ')
  match c.lineBreak? with
  | none => ⟨spaces, c, false⟩
  | some (first, c) =>
    if c.atSeparator then ⟨[], c, true⟩
    else
      match plainBreaks c.rest.length c with
      | (some more, c) => ⟨folded first more, c, true⟩
      | (none, c) => ⟨[], c, true⟩

/-- A plain scalar from a run on, behind a gap; `indent` is the least column of its lines. It tells
whether the end of a line was passed last. -/
def plainFrom (fuel : Nat) (inFlow : Bool) (indent : Int) (gap : List Char) (passed : Bool)
    (c : Cursor) : ScalarText × Bool :=
  match fuel with
  | 0 => (⟨[], c⟩, passed)
  | fuel + 1 =>
    let length := if c.here = '#' then 0 else plainLength inFlow c.rest
    if length = 0 then (⟨[], c⟩, passed)
    else
      let run := gap ++ c.rest.take length
      let next := plainGap (c.skip length)
      if next.text.isEmpty || next.cursor.here == '#' ||
          (!inFlow && decide ((next.cursor.column : Int) < indent)) then
        (⟨run, next.cursor⟩, next.goesOn)
      else
        let (more, passed) := plainFrom fuel inFlow indent next.text next.goesOn next.cursor
        ({ more with text := run ++ more.text }, passed)

def plainScalar (inFlow : Bool) (indent : Int) (c : Cursor) : ScalarText × Bool :=
  plainFrom (c.rest.length + 1) inFlow indent [] false c

/-- The characters that escapes of one letter stand for. -/
def escapes : List (Char × Char) :=
  [('0', '\x00'), ('a', '\x07'), ('b', '\x08'), ('t', '\t'), ('\t', '\t'), ('n', '\n'),
    ('v', '\x0b'), ('f', '\x0c'), ('r', '\r'), ('e', '\x1b'), (' ', ' '), ('"', '"'), ('\\', '\\'),
    ('/', '/'), ('N', '\x85'), ('_', '\xa0'), ('L', '\u2028'), ('P', '\u2029')]

def escapeSizes : List (Char × Nat) := [('x', 2), ('u', 4), ('U', 8)]

/-- The empty lines inside quotes, with the white space at the start of each line. -/
def quotedBreaks (fuel : Nat) (start : Mark) (c : Cursor) : Except Fault (List Char × Cursor) :=
  match fuel with
  | 0 => .ok ([], c)
  | fuel + 1 =>
    if c.atSeparator then .error (scanFault "a quoted scalar" start .documentSeparator c.mark)
    else
      let c := c.skipWhile fun ch => ch == ' ' || ch == '\t'
      match c.lineBreak? with
      | none => .ok ([], c)
      | some (ch, c) => do
        let (more, c) ← quotedBreaks fuel start c
        pure (ch :: more, c)

/-- White space inside quotes, up to the next line that holds something. -/
def quotedGap (start : Mark) (c : Cursor) : Except Fault (List Char × Cursor) := do
  let (spaces, c) := c.run fun ch => ch == ' ' || ch == '\t'
  match c.lineBreak? with
  | some (first, c) =>
    let (more, c) ← quotedBreaks (c.rest.length + 1) start c
    pure (folded first more, c)
  | none =>
    if c.rest.isEmpty then .error (scanFault "a quoted scalar" start .endOfStream c.mark)
    else pure (spaces, c)

/-- The character of a code point; a half of a pair stands for nothing. -/
def charOf (n : Nat) : Except Fault Char :=
  if 0x110000 ≤ n then .error (.scalar .codePoint)
  else .ok (if n.isValidChar then Char.ofNat n else '\uFFFD')

/-- What an escape stands for, at the cursor behind its backslash. -/
def escaped (start : Mark) (c : Cursor) : Except Fault (List Char × Cursor) :=
  let fail (problem : Problem) (place : Cursor) : Except Fault (List Char × Cursor) :=
    .error (scanFault "a double-quoted scalar" start problem place.mark)
  match escapes.lookup c.here, escapeSizes.lookup c.here, c.lineBreak? with
  | some ch, _, _ => .ok ([ch], c.skip 1)
  | none, some size, _ =>
    let c := c.skip 1
    let digits := c.rest.take size |>.takeWhile isHexDigit
    if digits.length < size then
      fail (.badChar s!"escape sequence of {size} hexadecimal numbers" (c.peek digits.length)) c
    else (charOf (ofDigits 16 digits)).map fun ch => ([ch], c.skip size)
  | none, none, some (_, c) => quotedBreaks (c.rest.length + 1) start c
  | none, none, none => fail (.unknownEscape c.here) c

/-- The text inside quotes without white space from here on. -/
def quotedRun (fuel : Nat) (double : Bool) (start : Mark) (c : Cursor) :
    Except Fault (List Char × Cursor) :=
  match fuel with
  | 0 => .ok ([], c)
  | fuel + 1 => do
    let (plain, c) := c.run fun ch => !(endsWord ch || "'\"\\".toList.contains ch)
    let next ← match double, c.here with
      | false, '\'' => pure (if c.peek 1 = '\'' then some (['\''], c.skip 2) else none)
      | true, '\'' => pure (some (['\''], c.skip 1))
      | false, '"' => pure (some (['"'], c.skip 1))
      | false, '\\' => pure (some (['\\'], c.skip 1))
      | true, '\\' => (escaped start (c.skip 1)).map some
      | _, _ => pure none
    match next with
    | none => pure (plain, c)
    | some (found, c) =>
      let (more, c) ← quotedRun fuel double start c
      pure (plain ++ found ++ more, c)

/-- The text up to the closing quote, which is left to be read. -/
def quotedFrom (fuel : Nat) (double : Bool) (start : Mark) (c : Cursor) :
    Except Fault (List Char × Cursor) := do
  let (run, c) ← quotedRun (c.rest.length + 1) double start c
  match fuel with
  | 0 => pure (run, c)
  | fuel + 1 =>
    if c.here = (if double then '"' else '\'') then pure (run, c)
    else
      let (gap, c) ← quotedGap start c
      let (more, c) ← quotedFrom fuel double start c
      pure (run ++ gap ++ more, c)

def quotedScalar (double : Bool) (c : Cursor) : Except Fault ScalarText := do
  let (text, behind) ← quotedFrom (c.rest.length + 1) double c.mark (c.skip 1)
  pure ⟨text, behind.skip 1⟩

/-- What becomes of the ends of lines at the end of a block: one is kept unless it says so. -/
inductive Chomping
  | strip
  | clip
  | keep
deriving DecidableEq, Repr

/-- The header of a block: its chomping and its indentation, if they are given, in any order. -/
def blockHeader (start : Mark) (c : Cursor) : Except Fault (Chomping × Option Nat × Cursor) := do
  let sign (c : Cursor) : Chomping × Cursor :=
    if c.here = '+' then (.keep, c.skip 1) else if c.here = '-' then (.strip, c.skip 1)
    else (.clip, c)
  let fail (problem : Problem) (c : Cursor) : Fault :=
    scanFault "a block scalar" start problem c.mark
  let number (c : Cursor) : Except Fault (Option Nat × Cursor) :=
    if c.here = '0' then .error (fail .zeroIndent c)
    else if c.here.isDigit then .ok (some (digitValue c.here), c.skip 1)
    else .ok (none, c)
  let (first, c) := sign c
  let (increment, c) ← number c
  let (chomping, c) := if first = .clip && increment.isSome then sign c else (first, c)
  if endsName c.here then pure (chomping, increment, c)
  else throw (fail (.badChar "chomping or indentation indicators" c.here) c)

/-- The rest of a line that holds nothing but a comment. -/
def emptyLine (what : String) (start : Mark) (c : Cursor) : Except Fault Cursor :=
  let c := c.skipSpaces.skipComment
  if endsLine c.here then .ok c.skipBreak
  else .error (scanFault what start (.badChar "a comment or a line break" c.here) c.mark)

/-- The empty lines at the start of a block, with the greatest column that their spaces reach. -/
def blockIndentation (fuel : Nat) (deepest : Nat) (c : Cursor) : List Char × Nat × Cursor :=
  match fuel with
  | 0 => ([], deepest, c)
  | fuel + 1 =>
    if c.here = ' ' then
      let next := c.skip 1
      blockIndentation fuel (max deepest next.column) next
    else
      match c.lineBreak? with
      | none => ([], deepest, c)
      | some (ch, next) =>
        let (breaks, deepest, last) := blockIndentation fuel deepest next
        (ch :: breaks, deepest, last)

def skipIndent (indent : Nat) (c : Cursor) : Cursor :=
  c.skip ((c.rest.take (indent - c.column)).takeWhile (· == ' ')).length

/-- The empty lines of a block from here on, up to the indentation of the next line. -/
def blockBreaks (fuel : Nat) (indent : Nat) (c : Cursor) : List Char × Cursor :=
  let c := skipIndent indent c
  match fuel, c.lineBreak? with
  | fuel + 1, some (ch, next) =>
    let (breaks, last) := blockBreaks fuel indent next
    (ch :: breaks, last)
  | _, _ => ([], c)

/-- The lines of a block from one at its indentation on, behind some ends of lines. -/
def blockLines (fuel : Nat) (isFolded : Bool) (chomping : Chomping) (indent : Nat)
    (breaks : List Char) (c : Cursor) : ScalarText :=
  let (line, behind) := c.run fun ch => !endsLine ch
  let (last, next) := match behind.lineBreak? with
    | some (ch, next) => ([ch], next)
    | none => ([], behind)
  let (more, after) := blockBreaks next.rest.length indent next
  let isText (ch : Char) : Bool := ch != ' ' && ch != '\t'
  match fuel with
  | 0 => ⟨line, after⟩
  | fuel + 1 =>
    if after.column = indent ∧ !after.rest.isEmpty then
      let rest := blockLines fuel isFolded chomping indent more after
      let joint :=
        if isFolded && last == ['\n'] && isText c.here && isText after.here then
          if more.isEmpty then [' '] else []
        else last
      { rest with text := breaks ++ line ++ joint ++ rest.text }
    else
      let tail := match chomping with
        | .strip => []
        | .clip => last
        | .keep => last ++ more
      ⟨breaks ++ line ++ tail, after⟩

/-- A block of lines; `indent` is the indentation of what it belongs to. -/
def blockScalar (isFolded : Bool) (indent : Int) (c : Cursor) : Except Fault ScalarText := do
  let start := c.mark
  let (chomping, increment, c) ← blockHeader start (c.skip 1)
  let c ← emptyLine "a block scalar" start c
  let least := max (indent + 1) 1 |>.toNat
  let (breaks, indent, c) := match increment with
    | some n =>
      let (breaks, c) := blockBreaks c.rest.length (least + n - 1) c
      (breaks, least + n - 1, c)
    | none =>
      let (breaks, deepest, c) := blockIndentation c.rest.length 0 c
      (breaks, max least deepest, c)
  if c.column = indent ∧ !c.rest.isEmpty then
    pure (blockLines c.rest.length isFolded chomping indent breaks c)
  else pure ⟨if chomping = .keep then breaks else [], c⟩

end ComponentSplit.Yaml
