import ComponentSplit.Charset.Chinese
import ComponentSplit.Charset.Japanese
import ComponentSplit.Charset.Korean
import ComponentSplit.Charset.Table.Iso8859
import ComponentSplit.Charset.ByteTable

namespace ComponentSplit.Charset

/-- A set that an escape sequence can designate. -/
inductive Alphabet
  | ascii
  | latin
  | greek
  | roman
  | kana
  | jis1978
  | jis1990
  | supplement
  | first (e : Edition)
  | second
  | korean
  | chinese
deriving DecidableEq, Repr

namespace Alphabet

def final : Alphabet → UInt8
  | ascii => 0x42
  | latin => 0x41
  | greek => 0x46
  | roman => 0x4A
  | kana => 0x49
  | jis1978 => 0x40
  | jis1990 => 0x42
  | supplement => 0x44
  | first .of2000 => 0x4F
  | first .of2004 => 0x51
  | second => 0x50
  | korean => 0x43
  | chinese => 0x41

def isWide : Alphabet → Bool
  | ascii | latin | greek | roman | kana => false
  | _ => true

/-- The edition whose second plane a designation of it means, next to that of the first plane. -/
def edition (known : List Alphabet) : Edition :=
  if known.contains (first .of2000) then .of2000 else .of2004

/-- The characters of a code, which has as many bytes as the set asks for. -/
def characters? (known : List Alphabet) (a : Alphabet) (code : Nat) : Option (List Char) :=
  match a with
  | ascii => some [Char.ofNat code]
  | latin | greek => none
  | roman =>
    some [((romanFolded.find? (·.2 = code)).map Prod.fst).getD (Char.ofNat code)]
  | kana => (halfWidth? (code + 0x80)).map ([·])
  | jis1978 | jis1990 => (jisx0208Pairs.character? code).map ([·])
  | supplement => (jisx0212Pairs.character? code).map ([·])
  | first e =>
    (((jisx0208Pairs.character? code).or (if code = 0x2232 then some '~' else none)).or
      (e.first.character? code)).map ([·]) |>.or (jisx0213Pairs.lookup code)
  | second => ((edition known).second.character? code).map ([·])
  | korean => (ksx1001.character? code).map ([·])
  | chinese => (gb2312.character? code).map ([·])

/-- The code of a character, which is not ASCII, and of the next one if both have a code together;
that is asked for first. -/
def code? (known : List Alphabet) (a : Alphabet) (c : Char) : Option Nat :=
  match a with
  | ascii | latin | greek | jis1978 => none
  | roman => romanFolded.lookup c
  | kana => (halfWidthByte? c).map (· - 0x80)
  | jis1990 => jisx0208Pairs.code? c
  | supplement => jisx0212Pairs.code? c
  | first e => e.first.code? c
  | second => (edition known).second.code? c
  | korean => (ksx1001.codes c).getLast?
  | chinese => (gb2312.codes c).getLast?

end Alphabet

/-- The sets of one way of writing, in the order in which they are asked for a character. -/
structure Designations where
  codec : String
  known : List Alphabet
  /-- Sets stand in the second place and are reached by a shift. -/
  shifts : Bool := false
  /-- A set in the third place lends single characters. -/
  third : Bool := false
  /-- The old escape sequence with the mark of a revision is known. -/
  revised : Bool := true

/-- What escape sequences and shifts have set up. `passing` holds within a sequence that designates
nothing and is kept as text. -/
structure Designated where
  places : Nat → Alphabet := fun _ => .ascii
  shifted : Bool := false
  passing : Bool := false

def Designated.set (d : Designated) (place : Nat) (a : Alphabet) : Designated :=
  { d with places := fun i => if i = place then a else d.places i }

def isEscapeEnd (b : UInt8) : Bool := (0x41 ≤ b && b ≤ 0x5A) || b = 0x40

/-- The length of the escape sequence at the head of bytes, which start with the escape character:
none if it is cut off, zero if it has no end within 16 bytes. -/
def escapeLength? (revised : Bool) (index : Nat) (bytes : List UInt8) : Option Nat :=
  if 16 ≤ index then some 0
  else
    match bytes with
    | [] => none
    | b :: rest =>
      if isEscapeEnd b then some (index + 1)
      else if revised && b = 0x26 && rest.head? = some 0x40 then
        escapeLength? revised (index + 3) (rest.drop 2)
      else escapeLength? revised (index + 1) rest
termination_by bytes.length
decreasing_by
  all_goals simp only [List.length_drop, List.length_cons]; omega

namespace Designations

/-- The set with a final byte, and the place that the rest of the sequence names for it. -/
def designation? (d : Designations) (sequence : List UInt8) : Option (Nat × Alphabet) :=
  let pick (place : Nat) (wide : Bool) (final : UInt8) : Option (Nat × Alphabet) :=
    if !wide && final = 0x42 then some (place, .ascii)
    else (d.known.find? fun a => a.isWide = wide && a.final = final).map (place, ·)
  match sequence with
  | [_, 0x24, final] => pick 0 true final
  | [_, 0x28, final] => pick 0 false final
  | [_, 0x29, final] => pick 1 false final
  | [_, 0x2E, final] => if d.third then pick 2 false final else none
  | [_, 0x24, 0x28, final] => pick 0 true final
  | [_, 0x24, 0x29, final] => pick 1 true final
  | [_, _, _, 0x1B, 0x24, 0x42] => if d.revised then pick 0 true 0x42 else none
  | _ => none

/-- A single character from the set in the third place; its byte lacks the high bit. -/
def borrowed? (a : Alphabet) (b : UInt8) : Option Char :=
  if 0x80 ≤ b then none
  else
    match a with
    | .latin => some (Char.ofNat (b.toNat + 0x80))
    | .greek =>
      if [0x24, 0x25, 0x2A].contains b then none else isoPart7.character? (b + 0x80)
    | _ => some (Char.ofNat b.toNat)

def read (d : Designations) (state : Designated) (b : UInt8) (rest : List UInt8) :
    Found Designated :=
  let plain (next : Designated) : Found Designated := .characters [Char.ofNat b.toNat] 1 next
  if state.passing then plain { state with passing := !isEscapeEnd b }
  else if b = 0x1B then
    match rest with
    | [] => .incomplete
    | kind :: more =>
      if [0x28, 0x29, 0x24, 0x2E, 0x26].contains kind then
        match escapeLength? d.revised 1 rest with
        | none => .incomplete
        | some 0 => .unassigned 1
        | some length =>
          match d.designation? (b :: rest.take (length - 1)) with
          | some (place, a) => .characters [] length (state.set place a)
          | none => .unassigned length
      else if d.third && kind = 0x4E then
        match more with
        | [] => .incomplete
        | letter :: _ =>
          match borrowed? (state.places 2) letter with
          | some c => .characters [c] 3 state
          | none => .unassigned 3
      else plain { state with passing := true }
  else if b = 0x0F && d.shifts then .characters [] 1 { state with shifted := false }
  else if b = 0x0E && d.shifts then .characters [] 1 { state with shifted := true }
  else if b = 0x0A then plain { state with shifted := false }
  else if b < 0x20 then plain state
  else if 0x80 ≤ b then .unassigned 1
  else
    let a := state.places (if state.shifted then 1 else 0)
    if a = .ascii then plain state
    else if a.isWide then
      match rest with
      | [] => .incomplete
      | second :: _ =>
        match a.characters? d.known (b.toNat * 0x100 + second.toNat) with
        | some cs => .characters cs 2 state
        | none => .unassigned 2
    else
      match a.characters? d.known b.toNat with
      | some cs => .characters cs 1 state
      | none => .unassigned 1

/-- The set and the code of the characters at the head of a text, and how many it covers behind the
first. -/
def code? (d : Designations) (c : Char) (rest : List Char) : Option (Alphabet × Nat × Nat) :=
  let single := d.known.findSome? fun a => (a.code? d.known c).map (a, ·, 0)
  match d.known.find? fun a => a matches .first _ with
  | some a =>
    match jisx0213Pair? c rest with
    | some code => some (a, code, 1)
    | none => single
  | none => single

def escape (d : Designations) (a : Alphabet) : List UInt8 :=
  let place : UInt8 := if d.shifts then 0x29 else 0x28
  if !a.isWide then [0x1B, place, a.final]
  else if a = .jis1990 then [0x1B, 0x24, a.final]
  else [0x1B, 0x24, place, a.final]

/-- The bytes that lead from a state to ASCII, and the state after them. -/
def toAscii (state : Designated) : List UInt8 × Designated :=
  ((if state.places 0 = .ascii then [] else [0x1B, 0x28, 0x42]) ++
    (if state.shifted then [0x0F] else []),
    { state.set 0 .ascii with shifted := false })

def write (d : Designations) (state : Designated) (c : Char) (rest : List Char) :
    Option (List UInt8 × Nat × Designated) :=
  if c.toNat < 0x80 then
    let (lead, next) := toAscii state
    some (lead ++ [UInt8.ofNat c.toNat], 0, next)
  else
    (d.code? c rest).map fun (a, code, more) =>
      let place := if d.shifts then 1 else 0
      let lead := if state.places place = a then [] else d.escape a
      let shift := if d.shifts && !state.shifted then [0x0E] else []
      let bytes := if a.isWide then [UInt8.ofNat (code / 0x100)] else []
      (lead ++ shift ++ bytes ++ [UInt8.ofNat code], more,
        { state.set place a with shifted := d.shifts })

def scheme (d : Designations) : Scheme Designated where
  codec := d.codec
  start := {}
  read := d.read
  write := d.write
  finish state :=
    (if state.shifted then [0x0F] else []) ++
      (if state.places 0 = .ascii then [] else [0x1B, 0x28, 0x42])

def korean : Designations := ⟨"iso2022_kr", [.korean], true, false, false⟩

def japanese : Designations := { codec := "iso2022_jp", known := [.jis1990, .roman, .jis1978] }

def japanese1 : Designations :=
  { codec := "iso2022_jp_1", known := [.jis1990, .supplement, .roman, .jis1978] }

def japanese2 : Designations :=
  { codec := "iso2022_jp_2", third := true
    known := [.jis1990, .supplement, .korean, .chinese, .roman, .jis1978, .latin, .greek] }

def japanese3 : Designations :=
  { codec := "iso2022_jp_3", known := [.jis1990, .first .of2000, .second] }

def japanese2004 : Designations :=
  { codec := "iso2022_jp_2004", known := [.jis1990, .first .of2004, .second] }

def japaneseExtended : Designations :=
  { codec := "iso2022_jp_ext", known := [.jis1990, .supplement, .roman, .kana, .jis1978] }

end Designations

end ComponentSplit.Charset
