import ComponentSplit.Text.Lines

namespace ComponentSplit

def isIndent (c : Char) : Bool := c == ' ' || c == '\t'

/-- A line of spaces and tabs alone; a carriage return makes a line non-blank. -/
def isBlankLine (line : List Char) : Bool := line.all isIndent

def indentOf (line : List Char) : List Char := line.takeWhile isIndent

def commonStart : List Char → List Char → List Char
  | a :: as, b :: bs => if a = b then a :: commonStart as bs else []
  | _, _ => []

def sharedIndent (ls : List (List Char)) : List Char :=
  match (ls.filter fun line => !isBlankLine line).map indentOf with
  | [] => []
  | first :: others => others.foldl commonStart first

/-- Remove the indentation shared by every non-blank line; blank lines become empty. -/
def deindent (text : List Char) : List Char :=
  let ls := lines text
  let width := (sharedIndent ls).length
  joinLines (ls.map fun line => if isBlankLine line then [] else line.drop width)

end ComponentSplit
