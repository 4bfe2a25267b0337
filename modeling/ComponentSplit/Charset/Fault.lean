import ComponentSplit.Text.Quoted

namespace ComponentSplit

/-- Why a character set has no bytes for characters. -/
inductive Unwritable
  | outOfRange (limit : Nat)
  | undefined
  | unassigned
deriving DecidableEq, Repr

def Unwritable.message : Unwritable → String
  | outOfRange limit => s!"ordinal not in range({limit})"
  | undefined => "character maps to <undefined>"
  | unassigned => "illegal multibyte sequence"

/-- Characters that a character set lacks: neighbours, the first of them at position `start`. -/
structure EncodeFault where
  codec : String
  missing : List Char
  start : Nat
  reason : Unwritable
deriving DecidableEq, Repr

def EncodeFault.message (f : EncodeFault) : String :=
  let place :=
    match f.missing with
    | [c] => s!"character '{String.ofList (codeEscape c.toNat)}' in position {f.start}"
    | cs => s!"characters in position {f.start}-{f.start + cs.length - 1}"
  s!"'{f.codec}' codec can't encode {place}: {f.reason.message}"

/-- What is wrong with the bytes at which reading stops. -/
inductive BadBytes
  | invalidStart
  | invalidContinuation
  | endOfData
  | truncated
  | loneSurrogate
  | invalidUnit
  | surrogateCode
  | codeBeyondRange
  | outOfRange (limit : Nat)
  | undefined
  | unassigned
  | incomplete
  /-- The marks of a section in which bits stand for characters are missing or misplaced. -/
  | illFormedShift
  | specialCharacter
  | partialCharacter
  | paddingBits
  | unterminatedShift
  /-- An escape is cut short; its form is given. -/
  | shortEscape (form : String)
  | loneBackslash
  | unknownName
  | malformedName
  | illegalCharacter
  | escapeBeyondRange
deriving DecidableEq, Repr

def BadBytes.message : BadBytes → String
  | invalidStart => "invalid start byte"
  | invalidContinuation => "invalid continuation byte"
  | endOfData => "unexpected end of data"
  | truncated => "truncated data"
  | loneSurrogate => "illegal UTF-16 surrogate"
  | invalidUnit => "illegal encoding"
  | surrogateCode => "code point in surrogate code point range(0xd800, 0xe000)"
  | codeBeyondRange => "code point not in range(0x110000)"
  | outOfRange limit => s!"ordinal not in range({limit})"
  | undefined => "character maps to <undefined>"
  | unassigned => "illegal multibyte sequence"
  | incomplete => "incomplete multibyte sequence"
  | illFormedShift => "ill-formed sequence"
  | specialCharacter => "unexpected special character"
  | partialCharacter => "partial character in shift sequence"
  | paddingBits => "non-zero padding bits in shift sequence"
  | unterminatedShift => "unterminated shift sequence"
  | shortEscape form => s!"truncated {form} escape"
  | loneBackslash => "\\ at end of string"
  | unknownName => "unknown Unicode character name"
  | malformedName => "malformed \\N character escape"
  | illegalCharacter => "illegal Unicode character"
  | escapeBeyondRange => "\\Uxxxxxxxx out of range"

/-- Bytes that a codec refuses: the first of them, and the positions where they start and stop. -/
structure DecodeFault where
  codec : String
  first : UInt8
  start : Nat
  stop : Nat
  bad : BadBytes
deriving DecidableEq, Repr

def DecodeFault.message (f : DecodeFault) : String :=
  let place :=
    if f.stop = f.start + 1 then
      s!"byte 0x{String.ofList (hexDigits 2 f.first.toNat)} in position {f.start}"
    else
      s!"bytes in position {f.start}-{f.stop - 1}"
  s!"'{f.codec}' codec can't decode {place}: {f.bad.message}"

/-- Something about a text or its bytes as a whole that a character set does not admit. -/
inductive TextFault
  /-- The set is one that holds no text at all. -/
  | undefined
  /-- Bytes do not start with a byte order mark; the family of the set is given. -/
  | noMark (family : String)
  | badLabelLength
  | longLabel
  | markedLabel
  | badCharacter (c : Char)
  | shortPunycode
  | badPunycodeDigit (c : Char)
  | codeBeyondRange (code : Nat)
  /-- A label of a host name is no text in the form that it claims. -/
  | badLabel (fault : TextFault)
  | unlikeLabel (label back : String)
deriving DecidableEq, Repr

def TextFault.message : TextFault → String
  | undefined => "undefined encoding"
  | noMark family => s!"{family} stream does not start with BOM"
  | badLabelLength => "label empty or too long"
  | longLabel => "label too long"
  | markedLabel => "Label starts with ACE prefix"
  | badCharacter c => s!"Invalid character {quoted c.toString}"
  | shortPunycode => "incomplete punicode string"
  | badPunycodeDigit c => s!"Invalid extended code point '{c}'"
  | codeBeyondRange code => s!"Invalid character U+{String.ofList (Nat.toDigits 16 code)}"
  | badLabel fault => s!"decoding with 'punycode' codec failed (UnicodeError: {fault.message})"
  | unlikeLabel label back =>
    s!"('IDNA does not round-trip', b{quoted label}, b{quoted back})"

/-- What stops the writing of a text. -/
inductive WriteFault
  | at (fault : EncodeFault)
  | whole (fault : TextFault)
deriving DecidableEq, Repr

/-- What stops the reading of bytes. -/
inductive ReadFault
  | at (fault : DecodeFault)
  | whole (fault : TextFault)
deriving DecidableEq, Repr

end ComponentSplit
