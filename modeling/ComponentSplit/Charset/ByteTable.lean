import ComponentSplit.Charset.CodeTable

namespace ComponentSplit.Charset

/-- A character set in which the bytes below `first` are the characters of the same code, and a
table gives the characters of others. -/
structure ByteTable where
  first : Nat
  cells : CodeTable
deriving DecidableEq, Repr

namespace ByteTable

def character? (t : ByteTable) (b : UInt8) : Option Char :=
  if b.toNat < t.first then some (Char.ofNat b.toNat) else t.cells.character? b.toNat

/-- The byte of a character. Of several bytes for it the last counts. -/
def byte? (t : ByteTable) (c : Char) : Option UInt8 :=
  match (t.cells.codes c).getLast? with
  | some code => some (UInt8.ofNat code)
  | none => if c.toNat < t.first then some (UInt8.ofNat c.toNat) else none

end ByteTable

end ComponentSplit.Charset
