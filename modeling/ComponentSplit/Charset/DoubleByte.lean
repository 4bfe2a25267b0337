import ComponentSplit.Charset.CodeTable

namespace ComponentSplit.Charset

/-- A table with the high bit set in both bytes of each code. -/
def CodeTable.raised (t : CodeTable) : CodeTable :=
  t.map fun s => { s with code := s.code + 0x8080 }

/-- Tables of codes. For a code the first table that knows it counts. A character has the code of the
first table that has one which stands for the character; of several codes in that table it has the
last. `folded` characters are written with the code of a similar one. -/
structure DoubleByte where
  tables : List CodeTable
  folded : List (Char × Nat) := []

namespace DoubleByte

def character? (d : DoubleByte) (code : Nat) : Option Char :=
  d.tables.findSome? (·.character? code)

/-- The code of a character within a table, where it stands for the character. -/
def codeWithin? (d : DoubleByte) (t : CodeTable) (c : Char) : Option Nat :=
  ((t.codes c).filter fun code => d.character? code = some c).getLast?

def code? (d : DoubleByte) (c : Char) : Option Nat :=
  (d.tables.findSome? (d.codeWithin? · c)).or (d.folded.lookup c)

end DoubleByte

end ComponentSplit.Charset
