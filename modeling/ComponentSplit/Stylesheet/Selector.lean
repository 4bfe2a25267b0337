import ComponentSplit.Stylesheet.Piece
import ComponentSplit.Text.Blank

namespace ComponentSplit

/-- Brackets open at a character, as a change of depth. -/
def bracketChange (c : Char) : Int :=
  if c = '(' ∨ c = '[' then 1 else if c = ')' ∨ c = ']' then -1 else 0

/-- A character that stands between the compounds of a selector. -/
def isCombinator (c : Char) : Bool :=
  c == ' ' || c == '\t' || c == '\n' || c == '\r' || c == '\x0c' || c == '>' || c == '+' || c == '~'

/-- A text put before the first of some texts. -/
def prepend (text : List Char) : List (List Char) → List (List Char)
  | [] => [text]
  | first :: others => (text ++ first) :: others

/-- The parts of a selector list between the commas outside brackets and strings. -/
def splitSelectors (depth : Int) : List Piece → List (List Char)
  | [] => [[]]
  | .char c :: rest =>
    if c = ',' ∧ depth = 0 then [] :: splitSelectors depth rest
    else prepend [c] (splitSelectors (depth + bracketChange c) rest)
  | piece :: rest => prepend piece.text (splitSelectors depth rest)

/-- The offset at which the last compound starts; `pos` characters came before, and the last
compound among them starts at `start`. -/
def compoundStart (depth : Int) (pos start : Nat) : List Piece → Nat
  | [] => start
  | .char c :: rest =>
    let start := if isCombinator c ∧ depth = 0 then pos + 1 else start
    compoundStart (depth + bracketChange c) (pos + 1) start rest
  | piece :: rest => compoundStart depth (pos + piece.text.length) start rest

/-- How many characters of a compound come before its first pseudo-class. -/
def pseudoOffset (depth : Int) : List Char → Nat
  | [] => 0
  | c :: rest => if c = ':' ∧ depth = 0 then 0 else pseudoOffset (depth + bracketChange c) rest + 1

/-- The offset in a selector at which an attribute narrows its last compound. -/
def scopeOffset (selector : List Char) : Nat :=
  let start := compoundStart 0 0 0 (pieces false selector)
  start + pseudoOffset 0 (selector.drop start)

/-- A selector with its mark. White space around it stays outside, and white space alone has no
mark. -/
def markSelector (selector : List Char) : MarkedText :=
  let core := trim selector
  if core.isEmpty then MarkedText.plain selector
  else
    let offset := scopeOffset core
    MarkedText.plain (leadingBlanks selector ++ core.take offset) ++
      none :: MarkedText.plain (core.drop offset ++ trailingBlanks selector)

def joinSelectors : List MarkedText → MarkedText
  | [] => []
  | [last] => last
  | first :: others => first ++ some ',' :: joinSelectors others

/-- A selector list with a mark in each of its selectors. -/
def markSelectors (list : List Char) : MarkedText :=
  joinSelectors ((splitSelectors 0 (pieces false list)).map markSelector)

end ComponentSplit
