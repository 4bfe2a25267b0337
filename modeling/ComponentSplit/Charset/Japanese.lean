import ComponentSplit.Charset.DoubleByte
import ComponentSplit.Charset.Scheme
import ComponentSplit.Charset.Table.CodePage932
import ComponentSplit.Charset.Table.Jisx0208
import ComponentSplit.Charset.Table.Jisx0212
import ComponentSplit.Charset.Table.Jisx0213

namespace ComponentSplit.Charset

/-- An edition of the extended set. -/
inductive Edition
  | of2000
  | of2004
deriving DecidableEq, Repr

/-- Codes of the first plane that only the edition of 2004 uses. -/
def codesOf2004 : List Nat :=
  [0x2E21, 0x2F7E, 0x4F54, 0x4F7E, 0x7427, 0x7E7A, 0x7E7B, 0x7E7C, 0x7E7D, 0x7E7E]

/-- The ideograph of the second plane that the editions draw differently: its code, and the
characters of 2000 and of 2004. -/
def redrawnCode : Nat := 0x7D3B
def redrawnOf2000 : Char := '鬝'
namespace Edition

/-- Characters that the first plane adds to the set of 1990. -/
def first (e : Edition) : DoubleByte :=
  match e with
  | of2000 =>
    ⟨[jisx0213First.map fun s =>
      { s with
        characters := String.ofList (s.characters.toList.zipIdx.map fun (c, i) =>
          if codesOf2004.contains (s.code + i) then vacant else c) }], []⟩
  | of2004 => ⟨[jisx0213First], []⟩

def second (e : Edition) : DoubleByte :=
  match e with
  | of2000 => ⟨[[⟨redrawnCode, redrawnOf2000.toString⟩], jisx0213Second], []⟩
  | of2004 => ⟨[jisx0213Second], []⟩

end Edition

def jisx0208Pairs : DoubleByte := ⟨[jisx0208], []⟩
def jisx0212Pairs : DoubleByte := ⟨[jisx0212], []⟩

/-- The half-width letters take one byte from `0xA1` on. -/
def halfWidth? (b : Nat) : Option Char :=
  if 0xA1 ≤ b && b ≤ 0xDF then some (Char.ofNat (b + 0xFEC0)) else none

def halfWidthByte? (c : Char) : Option Nat :=
  if 0xFF61 ≤ c.toNat && c.toNat ≤ 0xFF9F then some (c.toNat - 0xFEC0) else none

/-- Signs that are written with the ASCII code in whose place they stand in the national set. -/
def romanFolded : List (Char × Nat) := [('\xa5', 0x5C), ('\u203e', 0x7E)]

/-- The pair of characters at the head of a text that has one code, or else a single one. -/
def jisx0213Pair? (c : Char) (rest : List Char) : Option Nat :=
  (jisx0213Pairs.find? fun (_, cs) => cs = c :: rest.take 1).map Prod.fst

/-- Characters with codes of two bytes, and with codes of three, the first of which is `0x8F`. -/
structure HighSets where
  codec : String
  two : Nat → Option (List Char)
  three : Nat → Option (List Char)
  /-- The code of the characters at the head of a text, how many of them it covers behind the first,
  and whether it takes three bytes. -/
  code : Char → List Char → Option (Nat × Nat × Bool)
  folded : List (Char × Nat) := []

def HighSets.read (h : HighSets) (first : Nat) (rest : List UInt8) : Found Unit :=
  if first = 0x8E then
    match rest with
    | [] => .incomplete
    | b :: _ =>
      match halfWidth? b.toNat with
      | some c => .characters [c] 2 ()
      | none => .unassigned 1
  else if first = 0x8F then
    match rest with
    | b :: c :: _ =>
      match h.three ((b.toNat ^^^ 0x80) * 0x100 + (c.toNat ^^^ 0x80)) with
      | some cs => .characters cs 3 ()
      | none => .unassigned 1
    | _ => .incomplete
  else Found.pair (fun code => h.two (code ^^^ 0x8080)) first rest

def HighSets.write (h : HighSets) (c : Char) (rest : List Char) : Option (Nat × Nat) :=
  match halfWidthByte? c, h.folded.lookup c with
  | some b, _ => some (0x8E00 + b, 0)
  | none, some b => some (b, 0)
  | none, none =>
    (h.code c rest).map fun (code, more, three) =>
      (code + (if three then 0x8F8080 else 0x8080), more)

def HighSets.scheme (h : HighSets) : Scheme Unit := .stateless h.codec h.read h.write

def eucJpSets : HighSets where
  codec := "euc_jp"
  two code := (jisx0208Pairs.character? code).map ([·])
  three code := (jisx0212Pairs.character? code).map ([·])
  code c _ :=
    ((jisx0208Pairs.code? c).map (·, 0, false)).or ((jisx0212Pairs.code? c).map (·, 0, true))
  folded := romanFolded

/-- Codes of three bytes hold the second plane of the extended set, and the supplementary set in the
rows that the plane leaves free. -/
def extendedEucSets (codec : String) (e : Edition) : HighSets where
  codec := codec
  two code :=
    ((jisx0208Pairs.character? code).or (e.first.character? code)).map ([·])
      |>.or (jisx0213Pairs.lookup code)
  three code := ((e.second.character? code).or (jisx0212Pairs.character? code)).map ([·])
  code c rest :=
    ((jisx0213Pair? c rest).map (·, 1, false)).or
      ((((jisx0208Pairs.code? c).or (e.first.code? c)).map (·, 0, false)).or
        (((e.second.code? c).or (jisx0212Pairs.code? c)).map (·, 0, true)))

/-- The ranks of the row and the cell that two bytes mean, counted from zero. -/
def shiftedPlace? (code : Nat) : Option (Nat × Nat) :=
  let lead := code / 0x100
  let trail := code % 0x100
  if trail < 0x40 || trail = 0x7F || 0xFC < trail then none
  else
    let half := if lead < 0xE0 then lead - 0x81 else lead - 0xC1
    let cell := if trail < 0x80 then trail - 0x40 else trail - 0x41
    if cell < 94 then some (2 * half, cell) else some (2 * half + 1, cell - 94)

def shiftedCode (row cell : Nat) : Nat :=
  let half := row / 2
  let trail := row % 2 * 94 + cell
  (if half < 0x1F then half + 0x81 else half + 0xC1) * 0x100 +
    (if trail < 0x3F then trail + 0x40 else trail + 0x41)

/-- A first byte of two, the greatest of which is `last`. -/
def isShiftedLead (last b : Nat) : Bool := (0x81 ≤ b && b ≤ 0x9F) || (0xE0 ≤ b && b ≤ last)

/-- The code of seven bits in each byte at a place of the first plane. -/
def planeCode (row cell : Nat) : Nat := (row + 0x21) * 0x100 + (cell + 0x21)

/-- The moved form of a code of seven bits in each byte. -/
def shiftedCodeOf (code : Nat) : Nat := shiftedCode (code / 0x100 - 0x21) (code % 0x100 - 0x21)

/-- A character of the set of 1990 in a moved row. -/
def shiftedJisx0208? (code : Nat) : Option Char :=
  (shiftedPlace? code).bind fun (row, cell) => jisx0208Pairs.character? (planeCode row cell)

/-- A half-width letter, or two bytes of which the first is a lead. -/
def readShifted (last : Nat) (two : Nat → Option (List Char)) (first : Nat) (rest : List UInt8) :
    Found Unit :=
  match halfWidth? first with
  | some c => .characters [c] 1 ()
  | none => if isShiftedLead last first then Found.pair two first rest else .unassigned 1

def shiftJisScheme : Scheme Unit :=
  .stateless "shift_jis" (readShifted 0xEA fun n => (shiftedJisx0208? n).map ([·])) fun c _ =>
    (((halfWidthByte? c).or (romanFolded.lookup c)).or
      ((jisx0208Pairs.code? c).map shiftedCodeOf)).map (·, 0)

/-- The set of 1990 by codes in moved rows. -/
def shiftedJisx0208 : CodeTable :=
  jisx0208.flatMap fun s =>
    s.characters.toList.zipIdx.map fun (c, i) => ⟨shiftedCodeOf (s.code + i), c.toString⟩

/-- Ideographs stand in the code page up to three times. They are written with the first code of the
later rows. -/
def codePage932Pairs : DoubleByte :=
  ⟨[codePage932Symbols, shiftedJisx0208] ++
      [0x8700, 0xED00, 0xFA00].map (fun start =>
        codePage932Additions.filter fun s =>
          start ≤ s.code && s.code < (if start = 0x8700 then 0x8800 else start + 0x300)),
    [('\xa2', 0x8191), ('\xa3', 0x8192), ('\xac', 0x81CA), ('‖', 0x8161), ('−', 0x817C),
      ('〜', 0x8160)]⟩

/-- Leads `0xF0` to `0xF9` hold characters of the user's own. -/
def codePage932Own? (code : Nat) : Option Char :=
  let lead := code / 0x100
  let trail := code % 0x100
  if 0xF0 ≤ lead && lead ≤ 0xF9 && 0x40 ≤ trail && trail ≤ 0xFC && trail != 0x7F then
    some (Char.ofNat
      (0xE000 + 188 * (lead - 0xF0) + (if trail < 0x80 then trail - 0x40 else trail - 0x41)))
  else none

def codePage932OwnCode? (c : Char) : Option Nat :=
  if 0xE000 ≤ c.toNat && c.toNat < 0xE758 then
    let place := c.toNat - 0xE000
    let trail := place % 188
    some ((0xF0 + place / 188) * 0x100 + (if trail < 0x3F then trail + 0x40 else trail + 0x41))
  else none

/-- Bytes that stand for a character of their own. -/
def codePage932Single? (b : Nat) : Option Char :=
  if b = 0x80 then some '\x80'
  else if b = 0xA0 then some '\uf8f0'
  else if 0xFD ≤ b then some (Char.ofNat (0xF8F1 + (b - 0xFD)))
  else halfWidth? b

def codePage932SingleByte? (c : Char) : Option Nat :=
  if c = '\x80' then some 0x80
  else if c = '\uf8f0' then some 0xA0
  else if 0xF8F1 ≤ c.toNat && c.toNat ≤ 0xF8F3 then some (0xFD + (c.toNat - 0xF8F1))
  else halfWidthByte? c

def codePage932Character? (code : Nat) : Option Char :=
  (codePage932Pairs.character? code).or (codePage932Own? code)

def codePage932Scheme : Scheme Unit :=
  .stateless "cp932"
    (fun first rest =>
      match codePage932Single? first with
      | some c => .characters [c] 1 ()
      | none => Found.pair (fun n => (codePage932Character? n).map ([·])) first rest)
    fun c _ =>
      (((codePage932SingleByte? c).or (codePage932Pairs.code? c)).or (codePage932OwnCode? c)).map
        (·, 0)

/-- Rows of the second plane in the order in which they follow the first, counted from zero. -/
def secondPlaneRows : List Nat := [0, 7, 2, 3, 4, 11, 12, 13, 14] ++ (List.range 17).map (· + 77)

/-- In moved rows the full-width backslash and tilde stand for the ASCII ones. -/
def shiftedRoman : List (Nat × Char) := [(0x2140, '\\'), (0x2232, '~')]

def extendedShifted? (e : Edition) (code : Nat) : Option (List Char) := do
  let (row, cell) ← shiftedPlace? code
  if row < 94 then
    let code := planeCode row cell
    (((shiftedRoman.lookup code).or (jisx0208Pairs.character? code)).or
      (e.first.character? code)).map ([·]) |>.or (jisx0213Pairs.lookup code)
  else
    let row ← secondPlaneRows[row - 94]?
    (e.second.character? (planeCode row cell)).map ([·])

def extendedShiftedCode? (e : Edition) (c : Char) (rest : List Char) : Option (Nat × Nat) :=
  match jisx0213Pair? c rest with
  | some code => some (shiftedCodeOf code, 1)
  | none =>
    let first := (((shiftedRoman.find? (·.2 = c)).map Prod.fst).or (jisx0208Pairs.code? c)).or
      (e.first.code? c)
    match first with
    | some code =>
      if (shiftedRoman.lookup code).all (· == c) then some (shiftedCodeOf code, 0) else none
    | none => do
      let code ← e.second.code? c
      let row ← secondPlaneRows.idxOf? (code / 0x100 - 0x21)
      pure (shiftedCode (94 + row) (code % 0x100 - 0x21), 0)

def extendedShiftedScheme (codec : String) (e : Edition) : Scheme Unit where
  codec := codec
  start := ()
  read _ b rest :=
    match romanFolded.find? (·.2 = b.toNat) with
    | some (c, _) => .characters [c] 1 ()
    | none =>
      if b < 0x80 then .characters [Char.ofNat b.toNat] 1 ()
      else readShifted 0xFC (extendedShifted? e) b.toNat rest
  write _ c rest :=
    let byte := (romanFolded.lookup c).or (halfWidthByte? c)
    let plain := if c.toNat < 0x80 && c != '\\' && c != '~' then some c.toNat else none
    match byte.or plain with
    | some b => some ([UInt8.ofNat b], 0, ())
    | none =>
      (extendedShiftedCode? e c rest).map fun (code, more) => (Scheme.codeBytes code, more, ())

end ComponentSplit.Charset
