import ComponentSplit.Charset.DoubleByte
import ComponentSplit.Charset.Gaps
import ComponentSplit.Charset.Scheme
import ComponentSplit.Charset.Table.Big5
import ComponentSplit.Charset.Table.Gb2312
import ComponentSplit.Charset.Table.Hkscs

namespace ComponentSplit.Charset

/-- The set of 1980 with the high bit set in both bytes. -/
def gb2312Pairs : DoubleByte := ⟨[gb2312.raised], []⟩

/-- The extended set apart from the ideographs that it adds. -/
def gbkPairs : DoubleByte := ⟨[gbkSymbols, gb2312.raised], []⟩

/-- The first code point of the ideographs, and the last that the extended set knows. -/
def firstIdeograph : Nat := 0x4E00
def lastIdeograph : Nat := 0x9FA5

def isIdeograph (n : Nat) : Bool := firstIdeograph ≤ n && n ≤ lastIdeograph

def otherIdeographs : Gaps :=
  .without firstIdeograph
    ((gb2312.flatMap fun s => s.characters.toList.map Char.toNat).filter isIdeograph)

def otherIdeographCount : Nat := otherIdeographs.rank (lastIdeograph + 1)

/-- Ideographs of the compatibility block, which follow the others in the extended set. -/
def gbkCompatibility : String :=
  "\uf92c\uf979\uf995\uf9e7\uf9f1\ufa0c\ufa0d\ufa0e\ufa0f\ufa11\ufa13\ufa14\ufa18\ufa1f\ufa20" ++
    "\ufa21\ufa23\ufa24\ufa27\ufa28\ufa29"

/-- The rank of a second byte among those that may follow in a row, which leaves out `0x7F`. -/
def trailRank (trail : Nat) : Nat := trail - 0x40 - (if 0x7F < trail then 1 else 0)

def trailOfRank (rank : Nat) : Nat := 0x40 + rank + (if 0x3F ≤ rank then 1 else 0)

/-- The place of a code among the codes of added ideographs: rows of 190 first, and then the left
parts of the rows of the set of 1980, 96 codes each. -/
def addedPlace? (code : Nat) : Option Nat :=
  let lead := code / 0x100
  let trail := code % 0x100
  if trail < 0x40 || trail = 0x7F || trail = 0xFF then none
  else if 0x81 ≤ lead && lead ≤ 0xA0 then some ((lead - 0x81) * 190 + trailRank trail)
  else if 0xAA ≤ lead && lead ≤ 0xFE && trail < 0xA1 then
    some (6080 + (lead - 0xAA) * 96 + trailRank trail)
  else none

/-- The code of a place among the codes of added ideographs. -/
def addedCode (place : Nat) : Nat :=
  if place < 6080 then (0x81 + place / 190) * 0x100 + trailOfRank (place % 190)
  else (0xAA + (place - 6080) / 96) * 0x100 + trailOfRank ((place - 6080) % 96)

def addedCharacter? (place : Nat) : Option Char :=
  if place < otherIdeographCount then some (Char.ofNat (otherIdeographs.nth place))
  else gbkCompatibility.toList[place - otherIdeographCount]?

def gbkCharacter? (code : Nat) : Option Char :=
  (gbkPairs.character? code).or ((addedPlace? code).bind addedCharacter?)

def gbkCode? (c : Char) : Option Nat :=
  match gbkPairs.code? c with
  | some code => some code
  | none =>
    if isIdeograph c.toNat then some (addedCode (otherIdeographs.rank c.toNat))
    else (gbkCompatibility.toList.idxOf? c).map fun i => addedCode (otherIdeographCount + i)

/-- Areas of codes for characters of the user's own: the leads, the first of the second bytes, how
many of them there are, and the first code point. -/
structure OwnArea where
  firstLead : Nat
  leads : Nat
  firstTrail : Nat
  trails : Nat
  base : Nat

def ownAreas : List OwnArea :=
  [⟨0xAA, 6, 0xA1, 94, 0xE000⟩, ⟨0xF8, 7, 0xA1, 94, 0xE234⟩, ⟨0xA1, 7, 0x40, 96, 0xE4C6⟩]

def OwnArea.size (a : OwnArea) : Nat := a.leads * a.trails

def OwnArea.character? (a : OwnArea) (code : Nat) : Option Char :=
  let lead := code / 0x100
  let trail := code % 0x100
  let rank := if a.firstTrail = 0x40 then trailRank trail else trail - a.firstTrail
  if a.firstLead ≤ lead && lead < a.firstLead + a.leads && a.firstTrail ≤ trail && rank < a.trails &&
      trail != 0x7F then
    some (Char.ofNat (a.base + (lead - a.firstLead) * a.trails + rank))
  else none

def OwnArea.code? (a : OwnArea) (c : Char) : Option Nat :=
  if a.base ≤ c.toNat && c.toNat < a.base + a.size then
    let place := c.toNat - a.base
    let rank := place % a.trails
    let trail := if a.firstTrail = 0x40 then trailOfRank rank else a.firstTrail + rank
    some ((a.firstLead + place / a.trails) * 0x100 + trail)
  else none

def gb18030Pairs : DoubleByte := ⟨[gb18030Symbols], []⟩

/-- Code points of two bytes in the set of 2000, apart from ideographs and the user's own, in order.
The middle dot of the set of 1980 has given its code away. -/
def pairedCodePoints : List Nat :=
  let characters := [gbkSymbols, gb2312, gb18030Symbols].flatMap fun t =>
    t.flatMap fun s => s.characters.toList
  let others := characters.filter fun c => c != vacant && c != '・' && !isIdeograph c.toNat
  ((others ++ gbkCompatibility.toList).map Char.toNat).mergeSort.eraseReps

/-- The code points below `0x10000` that take four bytes in the set of 2000. -/
def fourByteCodePoints : Gaps :=
  let runs := pairedCodePoints.map (·, 1) ++
    [(firstIdeograph, lastIdeograph + 1 - firstIdeograph), (0xD800, 0x800),
      (0xE000, ownAreas.foldl (fun size area => size + area.size) 0)]
  ⟨0x80, runs.mergeSort fun a b => a.1 ≤ b.1⟩

/-- How many code points below `0x10000` take four bytes. -/
def fourByteCount : Nat := fourByteCodePoints.rank 0x10000

/-- The place of the first code point above `0xFFFF` among codes of four bytes. -/
def fourByteHigh : Nat := 189000

/-- The place that four bytes stand for; the second and the last are digits. -/
def fourBytePlace (a b c d : Nat) : Nat :=
  (((a - 0x81) * 10 + (b - 0x30)) * 126 + (c - 0x81)) * 10 + (d - 0x30)

/-- The code of a place among codes of four bytes. -/
def fourByteCode (place : Nat) : Nat :=
  (0x81 + place / 12600) * 0x1000000 + (0x30 + place / 1260 % 10) * 0x10000 +
    (0x81 + place / 10 % 126) * 0x100 + (0x30 + place % 10)

def fourByteCharacter? (place : Nat) : Option Char :=
  if place < fourByteCount then some (Char.ofNat (fourByteCodePoints.nth place))
  else if fourByteHigh ≤ place && place - fourByteHigh + 0x10000 ≤ 0x10FFFF then
    some (Char.ofNat (place - fourByteHigh + 0x10000))
  else none

def gb18030Character? (code : Nat) : Option Char :=
  ((gbkCharacter? code).or (gb18030Pairs.character? code)).or
    (ownAreas.findSome? (·.character? code))

def gb18030Code (c : Char) : Nat :=
  match ((gbkCode? c).or (gb18030Pairs.code? c)).or (ownAreas.findSome? (·.code? c)) with
  | some code => code
  | none =>
    if c.toNat < 0x10000 then fourByteCode (fourByteCodePoints.rank c.toNat)
    else fourByteCode (fourByteHigh + (c.toNat - 0x10000))

/-- A byte that counts as a digit in a code of four bytes. -/
def isDigitByte (b : UInt8) : Bool := 0x30 ≤ b && b ≤ 0x39

/-- A byte that a code of two or four bytes can start with. -/
def isLeadByte (b : UInt8) : Bool := 0x81 ≤ b && b ≤ 0xFE

/-- A digit behind the first byte makes a code of four bytes. -/
def readGb18030 (first : Nat) (rest : List UInt8) : Found Unit :=
  match rest with
  | b :: more =>
    if isDigitByte b then
      match more with
      | c :: d :: _ =>
        if isLeadByte (UInt8.ofNat first) && isLeadByte c && isDigitByte d then
          match fourByteCharacter? (fourBytePlace first b.toNat c.toNat d.toNat) with
          | some c => .characters [c] 4 ()
          | none => .unassigned 1
        else .unassigned 1
      | _ => .incomplete
    else Found.pair (fun code => (gb18030Character? code).map ([·])) first rest
  | [] => .incomplete

def big5Pairs : DoubleByte := ⟨[big5], []⟩

def codePage950Pairs : DoubleByte :=
  ⟨[codePage950Changes, big5, codePage950Additions],
    [('\xa2', 0xA246), ('\xa3', 0xA247), ('\xa5', 0xA244), ('•', 0xA145), ('\u203e', 0xA1C2),
      ('∼', 0xA1E3), ('☉', 0xA1F3), ('♁', 0xA1F2), ('､', 0xA14E)]⟩

/-- The part of the traditional set that its supplement leaves alone. -/
def hkscsPairs : DoubleByte :=
  ⟨[hkscs, big5.filter fun s => !(0xC6A1 ≤ s.code && s.code < 0xC900)], []⟩

/-- Codes that stand for a letter and a mark behind it. -/
def hkscsMarked : List (Nat × List Char) :=
  [(0x8862, ['Ê', '\u0304']), (0x8864, ['Ê', '\u030c']), (0x88A3, ['ê', '\u0304']),
    (0x88A5, ['ê', '\u030c'])]

/-- The code of the characters at the head of a text, and how many it covers behind the first. -/
def markedCode? (marked : List (Nat × List Char)) (single : Char → Option Nat) (c : Char)
    (rest : List Char) : Option (Nat × Nat) :=
  match marked.find? fun (_, cs) => cs = c :: rest.take 1 with
  | some (code, _) => some (code, 1)
  | none => (single c).map (·, 0)

/-- Two bytes for each character that is not ASCII. -/
def pairScheme (codec : String) (character : Nat → Option Char) (code : Char → Option Nat) :
    Scheme Unit :=
  .stateless codec (Found.pair fun n => (character n).map ([·])) fun c _ => (code c).map (·, 0)

def gb2312Scheme : Scheme Unit := pairScheme "gb2312" gb2312Pairs.character? gb2312Pairs.code?

def gbkScheme : Scheme Unit := pairScheme "gbk" gbkCharacter? gbkCode?

def gb18030Scheme : Scheme Unit :=
  .stateless "gb18030" readGb18030 fun c _ => some (gb18030Code c, 0)

def big5Scheme : Scheme Unit := pairScheme "big5" big5Pairs.character? big5Pairs.code?

def codePage950Scheme : Scheme Unit :=
  pairScheme "cp950" codePage950Pairs.character? codePage950Pairs.code?

def hkscsScheme : Scheme Unit :=
  .stateless "big5hkscs"
    (Found.pair fun n => ((hkscsPairs.character? n).map ([·])).or (hkscsMarked.lookup n))
    (markedCode? hkscsMarked hkscsPairs.code?)

/-- The set of 1980 in seven bits: pairs of bytes stand between two marks, and a tilde is doubled.
The state says whether pairs are read or written. -/
def hzScheme : Scheme Bool where
  codec := "hz"
  start := false
  read pairs b rest :=
    if b = 0x7E then
      match rest with
      | [] => .incomplete
      | mark :: _ =>
        if pairs then if mark = 0x7D then .characters [] 2 false else .unassigned 1
        else if mark = 0x7E then .characters ['~'] 2 false
        else if mark = 0x7B then .characters [] 2 true
        else if mark = 0x0A then .characters [] 2 false
        else .unassigned 1
    else if 0x80 ≤ b then .unassigned 1
    else if pairs then
      match rest with
      | [] => .incomplete
      | second :: _ =>
        match gb2312.character? (b.toNat * 0x100 + second.toNat) with
        | some c => .characters [c] 2 true
        | none => .unassigned 1
    else .characters [Char.ofNat b.toNat] 1 false
  write pairs c _ :=
    if c.toNat < 0x80 then
      let bytes := if c = '~' then [0x7E, 0x7E] else [UInt8.ofNat c.toNat]
      some ((if pairs then [0x7E, 0x7D] else []) ++ bytes, 0, false)
    else
      (gb2312.codes c).getLast?.map fun code =>
        ((if pairs then [] else [0x7E, 0x7B]) ++ [UInt8.ofNat (code / 0x100), UInt8.ofNat code], 0,
          true)
  finish pairs := if pairs then [0x7E, 0x7D] else []

end ComponentSplit.Charset
