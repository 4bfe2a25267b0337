namespace ComponentSplit.Charset

/-- Stands for a code without a character. -/
def vacant : Char := '\ufffd'

/-- Characters of consecutive codes, from the first of them on. -/
structure Stretch where
  code : Nat
  characters : String
deriving DecidableEq, Repr

/-- The characters of a set by their codes. Each stretch stays within a row, that is among codes
whose last byte alone differs. -/
abbrev CodeTable := List Stretch

def Stretch.character? (s : Stretch) (code : Nat) : Option Char :=
  if code < s.code then none
  else (s.characters.toList[code - s.code]?).filter (· != vacant)

def Stretch.codes (s : Stretch) (c : Char) : List Nat :=
  if s.characters.contains c then
    s.characters.toList.zipIdx.filterMap fun (d, i) => if d = c then some (s.code + i) else none
  else []

namespace CodeTable

def character? (t : CodeTable) (code : Nat) : Option Char :=
  t.findSome? fun s => if s.code / 256 = code / 256 then s.character? code else none

def codes (t : CodeTable) (c : Char) : List Nat :=
  if c = vacant then [] else t.flatMap (·.codes c)

end CodeTable

end ComponentSplit.Charset
