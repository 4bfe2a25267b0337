import ComponentSplit.Charset.Fault

namespace ComponentSplit.Charset

def asciiBytes (cs : List Char) : List UInt8 := cs.map fun c => UInt8.ofNat c.toNat

/-- The escaped form of a character: short escapes for the backslash and three blanks, and digits for
all that is not printable ASCII. -/
def escapedCharacter (c : Char) : List Char :=
  match c with
  | '\\' => ['\\', '\\']
  | '\t' => ['\\', 't']
  | '\n' => ['\\', 'n']
  | '\r' => ['\\', 'r']
  | c => if 0x20 ≤ c.toNat && c.toNat < 0x7F then [c] else codeEscape c.toNat

def encodeEscaped (cs : List Char) : List UInt8 := asciiBytes (cs.flatMap escapedCharacter)

/-- The first 256 characters take one byte each. -/
def encodeRawEscaped (cs : List Char) : List UInt8 :=
  cs.flatMap fun c =>
    if c.toNat < 0x100 then [UInt8.ofNat c.toNat] else asciiBytes (codeEscape c.toNat)

def hexDigitValue? (b : UInt8) : Option Nat :=
  if 0x30 ≤ b && b ≤ 0x39 then some (b.toNat - 0x30)
  else if 0x61 ≤ b && b ≤ 0x66 then some (b.toNat - 0x61 + 10)
  else if 0x41 ≤ b && b ≤ 0x46 then some (b.toNat - 0x41 + 10)
  else none

/-- The hexadecimal digits at the head of bytes, `count` at most. -/
def hexRun (count : Nat) (bytes : List UInt8) : List Nat :=
  ((bytes.take count).map hexDigitValue?).takeWhile Option.isSome |>.filterMap id

def ofDigitValues (base : Nat) (digits : List Nat) : Nat :=
  digits.foldl (fun n d => n * base + d) 0

/-- A character by its code; half a pair of units is none. -/
def codeCharacter (n : Nat) : Char := if n.isValidChar then Char.ofNat n else '\ufffd'

/-- What an escape stands for, and how many bytes it takes behind the backslash. -/
inductive Escape
  | characters (cs : List Char) (width : Nat)
  | bad (width : Nat) (why : BadBytes)

/-- An escape with a number of hexadecimal digits behind its letter. -/
def hexEscape (count : Nat) (form : String) (beyond : BadBytes) (rest : List UInt8) : Escape :=
  let digits := hexRun count rest
  if digits.length < count then .bad (1 + digits.length) (.shortEscape form)
  else
    let n := ofDigitValues 16 digits
    if n < 0x110000 then .characters [codeCharacter n] (1 + count) else .bad (1 + count) beyond

def letterEscape? (b : UInt8) : Option (List Char) :=
  match Char.ofNat b.toNat with
  | '\n' => some []
  | '\\' => some ['\\']
  | '\'' => some ['\'']
  | '"' => some ['"']
  | 'a' => some ['\x07']
  | 'b' => some ['\x08']
  | 'f' => some ['\x0c']
  | 'n' => some ['\n']
  | 'r' => some ['\r']
  | 't' => some ['\t']
  | 'v' => some ['\x0b']
  | _ => none

def isOctalDigit (b : UInt8) : Bool := 0x30 ≤ b && b ≤ 0x37

/-- An escape by the name of a character. No names are known here. -/
def namedEscape (rest : List UInt8) : Escape :=
  match rest with
  | 0x7B :: more =>
    let name := more.takeWhile (· != 0x7D)
    if name.length = more.length then .bad (2 + name.length) .malformedName
    else if name.isEmpty then .bad 2 .malformedName
    else .bad (3 + name.length) .unknownName
  | _ => .bad 1 .malformedName

/-- The escape whose letter is at the head of bytes. One that is unknown keeps its backslash. -/
def escapeAt (b : UInt8) (rest : List UInt8) : Escape :=
  match letterEscape? b with
  | some cs => .characters cs 1
  | none =>
    match Char.ofNat b.toNat with
    | 'x' => hexEscape 2 "\\xXX" .illegalCharacter rest
    | 'u' => hexEscape 4 "\\uXXXX" .illegalCharacter rest
    | 'U' => hexEscape 8 "\\UXXXXXXXX" .illegalCharacter rest
    | 'N' => namedEscape rest
    | c =>
      if isOctalDigit b then
        let digits := (b :: rest.take 2).takeWhile isOctalDigit
        .characters [codeCharacter (ofDigitValues 8 (digits.map fun d => d.toNat - 0x30))]
          digits.length
      else .characters ['\\', c] 1

/-- In raw texts two escapes alone count. -/
def rawEscapeAt (b : UInt8) (rest : List UInt8) : Escape :=
  match Char.ofNat b.toNat with
  | 'u' => hexEscape 4 "\\uXXXX" .escapeBeyondRange rest
  | 'U' => hexEscape 8 "\\UXXXXXXXX" .escapeBeyondRange rest
  | c => .characters ['\\', c] 1

/-- Characters from bytes with escapes, the first of which is at position `pos`. `atEnd` is what a
backslash stands for that nothing follows. -/
def decodeEscapedFrom (codec : String) (escape : UInt8 → List UInt8 → Escape)
    (atEnd : Except BadBytes (List Char)) (pos : Nat) (bytes : List UInt8) :
    Except DecodeFault (List Char) :=
  match bytes with
  | [] => .ok []
  | b :: rest =>
    if b = 0x5C then
      match rest with
      | [] => atEnd.mapError fun bad => ⟨codec, b, pos, pos + 1, bad⟩
      | letter :: more =>
        match escape letter more with
        | .characters cs width =>
          match decodeEscapedFrom codec escape atEnd (pos + 2 + (width - 1))
            (more.drop (width - 1)) with
          | .ok tail => .ok (cs ++ tail)
          | .error e => .error e
        | .bad width why => .error ⟨codec, b, pos, pos + 1 + width, why⟩
    else
      match decodeEscapedFrom codec escape atEnd (pos + 1) rest with
      | .ok tail => .ok (Char.ofNat b.toNat :: tail)
      | .error e => .error e
termination_by bytes.length
decreasing_by
  all_goals simp only [List.length_drop, List.length_cons]; omega

def decodeEscaped (bytes : List UInt8) : Except DecodeFault (List Char) :=
  decodeEscapedFrom "unicodeescape" escapeAt (.error .loneBackslash) 0 bytes

def decodeRawEscaped (bytes : List UInt8) : Except DecodeFault (List Char) :=
  decodeEscapedFrom "rawunicodeescape" rawEscapeAt (.ok ['\\']) 0 bytes

end ComponentSplit.Charset
