namespace ComponentSplit.Yaml

/-- A place in a text: how many characters, lines, and characters of its line are before it. -/
structure Mark where
  index : Nat := 0
  line : Nat := 0
  column : Nat := 0
deriving DecidableEq, Repr, Inhabited

/-- The character that stands for the end of a text, which does not occur in one. -/
def endOfText : Char := '\x00'

def isBreak (c : Char) : Bool :=
  c == '\n' || c == '\r' || c == '\x85' || c == '\u2028' || c == '\u2029'

/-- The end of a line, or of the text. -/
def endsLine (c : Char) : Bool := c == endOfText || isBreak c

/-- What may follow a name or a directive: a space or the end of the line. -/
def endsName (c : Char) : Bool := c == ' ' || endsLine c

/-- What may follow an indicator: white space or the end of the line. -/
def endsWord (c : Char) : Bool := c == '\t' || endsName c

/-- A character of a name: a letter or digit of ASCII, a minus or an underscore. -/
def isNameChar (c : Char) : Bool := c.isAlphanum || c == '-' || c == '_'

/-- The byte order mark, which takes no room in its line. -/
def byteOrderMark : Char := '\uFEFF'

/-- The place behind a character that stands at a place. A carriage return ends its line unless a
newline follows it. -/
def Mark.after (m : Mark) (c : Char) (next : Option Char) : Mark :=
  let ends := if c = '\r' then next ≠ some '\n' else isBreak c
  if ends then ⟨m.index + 1, m.line + 1, 0⟩
  else ⟨m.index + 1, m.line, if c = byteOrderMark then m.column else m.column + 1⟩

/-- A place in a text and what follows it. -/
structure Cursor where
  rest : List Char
  mark : Mark := {}
deriving Repr

namespace Cursor

def peek (c : Cursor) (ahead : Nat) : Char := (c.rest.drop ahead).head?.getD endOfText

def here (c : Cursor) : Char := c.rest.head?.getD endOfText

def column (c : Cursor) : Nat := c.mark.column

/-- The way past characters at a place, in front of a rest. -/
def markPast (m : Mark) (past rest : List Char) : Mark :=
  match past with
  | [] => m
  | ch :: more => markPast (m.after ch (more.head?.or rest.head?)) more rest

def skip (c : Cursor) (count : Nat) : Cursor :=
  let rest := c.rest.drop count
  ⟨rest, markPast c.mark (c.rest.take count) rest⟩

/-- The longest run of characters of a kind, and the cursor behind it. -/
def run (c : Cursor) (p : Char → Bool) : List Char × Cursor :=
  let found := c.rest.takeWhile p
  (found, c.skip found.length)

def skipWhile (c : Cursor) (p : Char → Bool) : Cursor := (c.run p).2

def skipSpaces (c : Cursor) : Cursor := c.skipWhile (· == ' ')

def skipComment (c : Cursor) : Cursor :=
  if c.here = '#' then c.skipWhile fun ch => !endsLine ch else c

/-- The end of a line as text, a newline for most, and the cursor behind it. -/
def lineBreak? (c : Cursor) : Option (Char × Cursor) :=
  match c.rest with
  | '\r' :: '\n' :: _ => some ('\n', c.skip 2)
  | ch :: _ =>
    if ch = '\u2028' ∨ ch = '\u2029' then some (ch, c.skip 1)
    else if isBreak ch then some ('\n', c.skip 1)
    else none
  | [] => none

/-- Past the end of the line, if it is here. -/
def skipBreak (c : Cursor) : Cursor := (c.lineBreak?.map Prod.snd).getD c

/-- Three characters of a kind stand here, and nothing that belongs to them behind. -/
def atTriple (c : Cursor) (ch : Char) : Bool :=
  c.rest.take 3 == [ch, ch, ch] && endsWord (c.peek 3)

/-- The mark that separates documents, or the one that ends them, stands at the start of this
line. -/
def atSeparator (c : Cursor) : Bool := c.atTriple '-' || c.atTriple '.'

end Cursor

end ComponentSplit.Yaml
