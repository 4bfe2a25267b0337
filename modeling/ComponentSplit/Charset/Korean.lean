import ComponentSplit.Charset.DoubleByte
import ComponentSplit.Charset.Gaps
import ComponentSplit.Charset.Hangul
import ComponentSplit.Charset.Scheme
import ComponentSplit.Charset.Table.Ksx1001

namespace ComponentSplit.Charset

/-- The national set with the high bit set in both bytes. -/
def ksx1001Pairs : DoubleByte := ⟨[ksx1001.raised], []⟩

/-- The mark before the parts of a syllable, which also stands for a missing tail. -/
def fillerCode : Nat := 0xA4D4

/-- The letter of a code in the row of letters. -/
def letterOfBytes? (a b : UInt8) : Option Char :=
  if a = 0xA4 then ksx1001Pairs.character? (a.toNat * 0x100 + b.toNat) else none

def spelledSyllable? (bytes : List UInt8) : Option Char :=
  match bytes with
  | [_, _, a, lead, b, vowel, c, tail] => do
    let lead ← Syllable.leads.idxOf? (← letterOfBytes? a lead)
    let vowel ← Syllable.vowels.idxOf? (← letterOfBytes? b vowel)
    let tail ←
      if c = 0xA4 && tail = 0xD4 then some 0
      else (Syllable.tails.idxOf? (← letterOfBytes? c tail)).map (· + 1)
    pure (Syllable.toChar ⟨lead, vowel, tail⟩)
  | _ => none

def readEucKr (first : Nat) (rest : List UInt8) : Found Unit :=
  match rest with
  | second :: _ =>
    if first * 0x100 + second.toNat = fillerCode then
      if rest.length < 7 then .incomplete
      else
        match spelledSyllable? (UInt8.ofNat first :: rest.take 7) with
        | some c => .characters [c] 8 ()
        | none => .unassigned 1
    else Found.pair (fun code => (ksx1001Pairs.character? code).map ([·])) first rest
  | [] => .incomplete

/-- The codes that spell a character: its own, or those of the parts behind the mark. -/
def eucKrCodes? (c : Char) : Option (List Nat) :=
  match ksx1001Pairs.code? c with
  | some code => some [code]
  | none => do
    let s ← Syllable.ofChar? c
    let lead ← ksx1001Pairs.code? (← Syllable.leads[s.lead]?)
    let vowel ← ksx1001Pairs.code? (← Syllable.vowels[s.vowel]?)
    let tail ←
      if s.tail = 0 then some fillerCode
      else ksx1001Pairs.code? (← Syllable.tails[s.tail - 1]?)
    pure [fillerCode, lead, vowel, tail]

def eucKrScheme : Scheme Unit :=
  { Scheme.stateless "euc_kr" readEucKr fun _ _ => none with
    write := fun _ c _ =>
      if c.toNat < 0x80 then some ([UInt8.ofNat c.toNat], 0, ())
      else (eucKrCodes? c).map fun codes => (codes.flatMap Scheme.codeBytes, 0, ()) }

def otherSyllables : Gaps :=
  .without Syllable.base
    ((ksx1001.flatMap fun s => s.characters.toList.filter Syllable.isSyllable).map Char.toNat)

def otherSyllableCount : Nat := otherSyllables.rank (Syllable.base + Syllable.count)

/-- The rank of a second byte among those of added syllables: letters first, then high bytes. -/
def syllableTrailRank? (trail : Nat) : Option Nat :=
  if 0x41 ≤ trail && trail ≤ 0x5A then some (trail - 0x41)
  else if 0x61 ≤ trail && trail ≤ 0x7A then some (trail - 0x61 + 26)
  else if 0x81 ≤ trail && trail ≤ 0xFE then some (trail - 0x81 + 52)
  else none

def syllableTrail (rank : Nat) : Nat :=
  if rank < 26 then 0x41 + rank else if rank < 52 then 0x61 + (rank - 26) else 0x81 + (rank - 52)

/-- The place of a code among the codes of added syllables: rows of 178, and from lead `0xA1` on the
left parts of the rows of the national set, 84 codes each. -/
def syllablePlace? (code : Nat) : Option Nat :=
  let lead := code / 0x100
  (syllableTrailRank? (code % 0x100)).bind fun rank =>
    if 0x81 ≤ lead && lead ≤ 0xA0 then some ((lead - 0x81) * 178 + rank)
    else if 0xA1 ≤ lead && lead ≤ 0xC6 && rank < 84 then some (5696 + (lead - 0xA1) * 84 + rank)
    else none

def syllableCode (place : Nat) : Nat :=
  if place < 5696 then (0x81 + place / 178) * 0x100 + syllableTrail (place % 178)
  else (0xA1 + (place - 5696) / 84) * 0x100 + syllableTrail ((place - 5696) % 84)

def codePage949Character? (code : Nat) : Option Char :=
  (ksx1001Pairs.character? code).or
    (((syllablePlace? code).filter (· < otherSyllableCount)).map fun place =>
      Char.ofNat (otherSyllables.nth place))

def codePage949Code? (c : Char) : Option Nat :=
  (ksx1001Pairs.code? c).or
    (if Syllable.isSyllable c then some (syllableCode (otherSyllables.rank c.toNat)) else none)

def codePage949Scheme : Scheme Unit :=
  .stateless "cp949" (Found.pair fun n => (codePage949Character? n).map ([·])) fun c _ =>
    (codePage949Code? c).map (·, 0)

/-- A part of a syllable in five bits: it has a rank or is missing. -/
inductive PartBits
  | absent
  | rank (n : Nat)
deriving DecidableEq, Repr

def leadBits? (bits : Nat) : Option PartBits :=
  if bits = 1 then some .absent
  else if 2 ≤ bits && bits ≤ 20 then some (.rank (bits - 2))
  else none

def bitsOfLead (rank : Nat) : Nat := rank + 2

/-- The bits of the vowels in the order of their ranks. -/
def vowelBits : List Nat :=
  [3, 4, 5, 6, 7, 10, 11, 12, 13, 14, 15, 18, 19, 20, 21, 22, 23, 26, 27, 28, 29]

def vowelBits? (bits : Nat) : Option PartBits :=
  if bits = 2 then some .absent else (vowelBits.idxOf? bits).map .rank

def tailBits? (bits : Nat) : Option PartBits :=
  if bits = 1 then some .absent
  else if 2 ≤ bits && bits ≤ 17 then some (.rank (bits - 1))
  else if 19 ≤ bits && bits ≤ 29 then some (.rank (bits - 2))
  else none

def bitsOfTail (rank : Nat) : Nat := if rank ≤ 16 then rank + 1 else rank + 2

/-- A syllable, a letter that stands alone, or a blank when all parts are missing. -/
def johabSyllable? (code : Nat) : Option Char := do
  let lead ← leadBits? (code / 1024 % 32)
  let vowel ← vowelBits? (code / 32 % 32)
  let tail ← tailBits? (code % 32)
  match lead, vowel, tail with
  | .absent, .absent, .absent => some '\u3000'
  | .absent, .absent, .rank t => Syllable.tails[t - 1]?
  | .absent, .rank v, .absent => Syllable.vowels[v]?
  | .rank l, .absent, .absent => Syllable.leads[l]?
  | .rank l, .rank v, .absent => some (Syllable.toChar ⟨l, v, 0⟩)
  | .rank l, .rank v, .rank t => some (Syllable.toChar ⟨l, v, t⟩)
  | _, _, _ => none

/-- Two rows of the national set lie in a row of this one; those of letters and syllables are left
out. -/
def johabOther? (code : Nat) : Option Char :=
  let lead := code / 0x100
  let trail := code % 0x100
  if lead < 0xD9 || lead = 0xDF || 0xF9 < lead || trail < 0x31 || (0x80 ≤ trail && trail < 0x91) ||
      trail % 0x80 = 0x7F || (lead = 0xDA && 0xA1 ≤ trail && trail ≤ 0xD3) then none
  else
    let row := if lead < 0xE0 then 2 * (lead - 0xD9) else 2 * lead - 0x197
    let cell := if trail < 0x91 then trail - 0x31 else trail - 0x43
    ksx1001.character?
      ((row + (if cell < 0x5E then 0 else 1) + 0x21) * 0x100 +
        (if cell < 0x5E then cell else cell - 0x5E) + 0x21)

def johabCharacter? (code : Nat) : Option Char :=
  if code < 0xD800 then johabSyllable? code else johabOther? code

/-- The code of a letter that stands alone: as a lead, as a vowel, or else as a tail. -/
def johabLetter? (c : Char) : Option Nat :=
  let code (lead vowel tail : Nat) := 0x8000 + lead * 1024 + vowel * 32 + tail
  match Syllable.leads.idxOf? c with
  | some l => some (code (bitsOfLead l) 2 1)
  | none =>
    match Syllable.vowels.idxOf? c with
    | some v => (vowelBits[v]?).map (code 1 · 1)
    | none => (Syllable.tails.idxOf? c).map fun t => code 1 2 (bitsOfTail (t + 1))

def johabCode? (c : Char) : Option Nat :=
  match Syllable.ofChar? c with
  | some s =>
    (vowelBits[s.vowel]?).map fun vowel =>
      0x8000 + bitsOfLead s.lead * 1024 + vowel * 32 + bitsOfTail s.tail
  | none =>
    (johabLetter? c).or do
      let code ← (ksx1001.codes c).getLast?
      let row := code / 0x100
      let cell := code % 0x100
      if row ≤ 0x2C || 0x4A ≤ row then
        let place := if row < 0x4A then row - 0x21 + 0x1B2 else row - 0x21 + 0x197
        let trail := place % 2 * 0x5E + (cell - 0x21)
        some (place / 2 * 0x100 + (if trail < 0x4E then trail + 0x31 else trail + 0x43))
      else none

def johabScheme : Scheme Unit :=
  .stateless "johab" (Found.pair fun n => (johabCharacter? n).map ([·])) fun c _ =>
    (johabCode? c).map (·, 0)

end ComponentSplit.Charset
