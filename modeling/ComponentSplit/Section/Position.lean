namespace ComponentSplit

/-- A place in a source, with lines counted from one and columns from zero. -/
structure Position where
  line : Nat
  column : Nat
deriving DecidableEq, Repr

/-- The place at which every source starts. -/
def Position.first : Position := ⟨1, 0⟩

/-- The place behind a text that starts here; only a newline starts a new line. -/
def Position.behind (p : Position) (passed : List Char) : Position :=
  let newlines := passed.count '\n'
  if newlines = 0 then { p with column := p.column + passed.length }
  else ⟨p.line + newlines, (passed.reverse.takeWhile (· != '\n')).length⟩

/-- The offsets of the characters behind newlines, in a text that starts at an offset. -/
def lineStartsFrom (offset : Nat) : List Char → List Nat
  | [] => []
  | c :: rest =>
    if c = '\n' then (offset + 1) :: lineStartsFrom (offset + 1) rest
    else lineStartsFrom (offset + 1) rest

/-- The text of a document with the offsets at which its lines start. -/
structure Source where
  text : List Char
  lineStarts : List Nat
  lineStarts_eq : lineStarts = 0 :: lineStartsFrom 0 text

namespace Source

def ofText (text : List Char) : Source := ⟨text, 0 :: lineStartsFrom 0 text, rfl⟩

def lineStart (source : Source) (line : Nat) : Nat := source.lineStarts.getD (line - 1) 0

def offset (source : Source) (p : Position) : Nat := source.lineStart p.line + p.column

/-- The place of an offset: its line is the last one that starts at or before it. -/
def position (source : Source) (offset : Nat) : Position :=
  let line := (source.lineStarts.takeWhile (· ≤ offset)).length
  ⟨line, offset - source.lineStart line⟩

end Source

/-- What is left to read of a source, and the place at which it starts. -/
structure Remainder where
  position : Position
  text : List Char

/-- The remainder that starts with `text`, an end of the text of this one. -/
def Remainder.moveTo (left : Remainder) (text : List Char) : Remainder :=
  ⟨left.position.behind (left.text.take (left.text.length - text.length)), text⟩

end ComponentSplit
