import ComponentSplit.Text.Fields

namespace ComponentSplit

/-- The lines of a text, split at newline characters alone. -/
def lines (text : List Char) : List (List Char) := fields '\n' text

def joinLines (ls : List (List Char)) : List Char := joinFields '\n' ls

theorem joinLines_lines (text : List Char) : joinLines (lines text) = text :=
  joinFields_fields '\n' text

/-- Every line ending of a text file, carriage return with or without line feed, as a newline. -/
def unifyNewlines : List Char → List Char
  | [] => []
  | '\r' :: '\n' :: rest => '\n' :: unifyNewlines rest
  | c :: rest => (if c = '\r' then '\n' else c) :: unifyNewlines rest

/-- A character that ends a line of displayed text. -/
def isLineBreak (c : Char) : Bool :=
  let n := c.toNat
  (10 ≤ n && n ≤ 13) || (28 ≤ n && n ≤ 30) || n == 0x85 || n == 0x2028 || n == 0x2029

/-- The lines of displayed text after `line`, read so far and reversed: a break ends a line, so
nothing follows the last one. -/
def displayLinesAfter (line : List Char) : List Char → List (List Char)
  | [] => if line.isEmpty then [] else [line.reverse]
  | '\r' :: '\n' :: rest => line.reverse :: displayLinesAfter [] rest
  | c :: rest =>
    if isLineBreak c then line.reverse :: displayLinesAfter [] rest
    else displayLinesAfter (c :: line) rest

/-- The lines of displayed text, with any line break of Unicode. -/
def displayLines (text : List Char) : List (List Char) := displayLinesAfter [] text

end ComponentSplit
