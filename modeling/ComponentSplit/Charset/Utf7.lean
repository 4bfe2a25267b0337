import ComponentSplit.Charset.Wide

/-!
Unicode in seven bits: most ASCII characters stand for themselves, and sections between a plus sign
and a minus sign hold the units of two bytes of other characters in digits of six bits.
-/

namespace ComponentSplit.Charset.Utf7

def digit (n : Nat) : UInt8 :=
  if n < 26 then UInt8.ofNat (0x41 + n)
  else if n < 52 then UInt8.ofNat (0x61 + (n - 26))
  else if n < 62 then UInt8.ofNat (0x30 + (n - 52))
  else if n = 62 then 0x2B
  else 0x2F

def digitValue? (b : UInt8) : Option Nat :=
  if 0x41 ≤ b && b ≤ 0x5A then some (b.toNat - 0x41)
  else if 0x61 ≤ b && b ≤ 0x7A then some (b.toNat - 0x61 + 26)
  else if 0x30 ≤ b && b ≤ 0x39 then some (b.toNat - 0x30 + 52)
  else if b = 0x2B then some 62
  else if b = 0x2F then some 63
  else none

/-- A character that is written as itself: printable ASCII but the backslash, the tilde and the plus
sign, and blanks. -/
def isDirect (c : Char) : Bool :=
  (0x20 ≤ c.toNat && c.toNat < 0x7E && c != '\\' && c != '+') || c == '\t' || c == '\n' || c == '\r'

/-- A section being written: the number of bits that are waiting, and their value. -/
structure Section where
  bits : Nat
  value : Nat

/-- The digits that are complete, and what is left. -/
def Section.flush (s : Section) (count : Nat) : List UInt8 × Section :=
  match count with
  | 0 => ([], s)
  | k + 1 =>
    if 6 ≤ s.bits then
      let rest := s.bits - 6
      let (digits, after) := Section.flush ⟨rest, s.value % Nat.pow 2 rest⟩ k
      (digit (s.value / Nat.pow 2 rest) :: digits, after)
    else ([], s)

def Section.push (s : Section) (unit : Nat) : List UInt8 × Section :=
  Section.flush ⟨s.bits + 16, s.value * 0x10000 + unit⟩ 3

def Section.pushAll (s : Section) : List Nat → List UInt8 × Section
  | [] => ([], s)
  | unit :: rest =>
    let (digits, next) := s.push unit
    let (more, last) := next.pushAll rest
    (digits ++ more, last)

/-- The bits that are left, filled up to a digit. -/
def Section.close (s : Section) : List UInt8 :=
  if s.bits = 0 then [] else [digit (s.value * Nat.pow 2 (6 - s.bits))]

/-- A section ends before a direct character without a mark, unless that looks like a digit or the
mark. -/
def encodeFrom (open? : Option Section) : List Char → List UInt8
  | [] =>
    match open? with
    | some s => s.close ++ [0x2D]
    | none => []
  | c :: rest =>
    let byte := UInt8.ofNat c.toNat
    if isDirect c then
      match open? with
      | some s =>
        let mark := if (digitValue? byte).isSome || c = '-' then [0x2D] else []
        s.close ++ mark ++ byte :: encodeFrom none rest
      | none => byte :: encodeFrom none rest
    else
      match open? with
      | some s =>
        let (digits, next) := s.pushAll (utf16Units c)
        digits ++ encodeFrom (some next) rest
      | none =>
        if c = '+' then 0x2B :: 0x2D :: encodeFrom none rest
        else
          let (digits, next) := Section.pushAll ⟨0, 0⟩ (utf16Units c)
          0x2B :: digits ++ encodeFrom (some next) rest

def encode (cs : List Char) : List UInt8 := encodeFrom none cs

/-- A section being read: its first position, the bits that are waiting, and the first unit of a pair
whose second has not come yet. -/
structure Opened where
  start : Nat
  first : UInt8
  bits : Nat
  value : Nat
  high : Option Nat

/-- A unit that stands alone; half a pair is no character. -/
def loneUnit (n : Nat) : Char := if n.isValidChar then Char.ofNat n else '\ufffd'

/-- Take a unit into a section: the characters that it completes. -/
def Opened.take (o : Opened) (unit : Nat) : List Char × Opened :=
  match o.high with
  | some high =>
    if isLowUnit unit then ([ofUtf16Pair high unit], { o with high := none })
    else if isHighUnit unit then ([loneUnit high], { o with high := some unit })
    else ([loneUnit high, loneUnit unit], { o with high := none })
  | none =>
    if isHighUnit unit then ([], { o with high := some unit }) else ([loneUnit unit], o)

def Opened.push (o : Opened) (n : Nat) : List Char × Opened :=
  let bits := o.bits + 6
  let value := o.value * 64 + n
  if 16 ≤ bits then
    let rest := bits - 16
    { o with bits := rest, value := value % Nat.pow 2 rest }.take (value / Nat.pow 2 rest)
  else ([], { o with bits := bits, value := value })

def Opened.leftover? (o : Opened) : Option BadBytes :=
  if 6 ≤ o.bits then some .partialCharacter
  else if 0 < o.bits && o.value != 0 then some .paddingBits
  else none

def decodeFrom (open? : Option Opened) (pos : Nat) : List UInt8 → Except DecodeFault (List Char)
  | [] =>
    match open? with
    | some o =>
      if o.high.isSome || o.leftover?.isSome then
        .error ⟨"utf7", o.first, o.start, pos, .unterminatedShift⟩
      else .ok []
    | none => .ok []
  | b :: rest =>
    match open? with
    | some o =>
      match digitValue? b with
      | some n =>
        let (cs, next) := o.push n
        match decodeFrom (some next) (pos + 1) rest with
        | .ok more => .ok (cs ++ more)
        | .error e => .error e
      | none =>
        match o.leftover? with
        | some bad => .error ⟨"utf7", o.first, o.start, pos + 1, bad⟩
        | none =>
          let half := if b < 0x80 && b != 0x2B then (o.high.map loneUnit).toList else []
          if b = 0x2D then
            match decodeFrom none (pos + 1) rest with
            | .ok more => .ok (half ++ more)
            | .error e => .error e
          else if b < 0x80 then
            match decodeFrom none (pos + 1) rest with
            | .ok more => .ok (half ++ Char.ofNat b.toNat :: more)
            | .error e => .error e
          else .error ⟨"utf7", b, pos, pos + 1, .specialCharacter⟩
    | none =>
      if b = 0x2B then
        match rest with
        | [] => .ok []
        | next :: more =>
          if next = 0x2D then
            match decodeFrom none (pos + 2) more with
            | .ok more => .ok ('+' :: more)
            | .error e => .error e
          else if (digitValue? next).isNone then
            .error ⟨"utf7", b, pos, pos + 2, .illFormedShift⟩
          else decodeFrom (some ⟨pos, b, 0, 0, none⟩) (pos + 1) (next :: more)
      else if b < 0x80 then
        match decodeFrom none (pos + 1) rest with
        | .ok more => .ok (Char.ofNat b.toNat :: more)
        | .error e => .error e
      else .error ⟨"utf7", b, pos, pos + 1, .specialCharacter⟩

def decode (bytes : List UInt8) : Except DecodeFault (List Char) := decodeFrom none 0 bytes

end ComponentSplit.Charset.Utf7
